import CatLitterBox.Mqtt.Receive

open program text frames

namespace coremqtt.wire

/-- The packets of the stream, one behind the other: a packet is handed on where all before it have been
that fit the buffer, and more bytes are asked for where there is no whole packet left. -/
def InOrder (size : Nat) : Action → List Event → Prop
  | .handleIncomingPublish packet, h | .handleIncomingAck packet, h =>
    ∃ packets f rest, Cut packetSize (received h) (packets ++ [f]) rest ∧ f.length ≤ size ∧
      handled h = contents size packets ∧ packet.content = unpack f
  | .returned .MQTTNeedMoreBytes, h =>
    ∃ packets rest, Cut packetSize (received h) packets rest ∧ Partial packetSize rest ∧
      handled h = contents size packets
  | _, _ => True

abbrev stream_spec (size : Nat) : Spec Action Action.Answer (List Event) := Spec.history (InOrder size)

/-- All packets of the stream but what the buffer holds have been handed on, or thrown away for their size. -/
structure Dealt (size : Nat) (h : List Event) (buffered : Bytes) (packets : List Bytes) : Prop where
  cut : Cut packetSize (received h) packets buffered
  handled : handled h = contents size packets

/-- The actions that neither read, nor hand a packet on, nor return. -/
def Aside : Action → Prop
  | .send _ | .getTime | .lastPacketTxTime => True
  | _ => False

variable {size n : Nat} {h t : List Event} {buffered bytes f : Bytes}
  {packets : List Bytes} {context : MQTTContext}
  {packet : MQTTPacketInfo}

theorem packetSize_eq (hprocess : MQTT_ProcessIncomingPacketTypeAndLength bytes noPacket =
      (.MQTTSuccess, packet)) :
    packetSize bytes = some (packet.remainingLength + packet.headerLength) := by
  unfold packetSize
  rw [hprocess]

theorem process_of_packetSize (h : packetSize bytes = some n) :
    ∃ packet, MQTT_ProcessIncomingPacketTypeAndLength bytes noPacket = (.MQTTSuccess, packet) ∧
      n = packet.remainingLength + packet.headerLength := by
  unfold packetSize at h
  generalize MQTT_ProcessIncomingPacketTypeAndLength bytes noPacket = found at h
  obtain ⟨status, packet⟩ := found
  cases status with
  | MQTTSuccess => exact ⟨packet, rfl, (Option.some.inj h).symm⟩
  | _ => cases h

theorem process_append (hprocess : MQTT_ProcessIncomingPacketTypeAndLength bytes noPacket =
      (.MQTTSuccess, packet))
    (more : Bytes) :
    MQTT_ProcessIncomingPacketTypeAndLength (bytes ++ more) noPacket = (.MQTTSuccess, packet) := by
  obtain ⟨type, n, hheader, rfl⟩ := header_of_process hprocess
  exact process_header (hheader.append more) noPacket

theorem packetSize_stable : Stable packetSize := by
  intro bytes n h more
  obtain ⟨packet, hprocess, rfl⟩ := process_of_packetSize h
  exact packetSize_eq (process_append hprocess more)

theorem headerLength_pos (hprocess : MQTT_ProcessIncomingPacketTypeAndLength bytes noPacket =
      (.MQTTSuccess, packet)) :
    0 < packet.headerLength ∧ packet.headerLength ≤ bytes.length := by
  obtain ⟨type, n, hheader, rfl⟩ := header_of_process hprocess
  exact ⟨Nat.succ_pos _, hheader.length⟩

/-- Bytes that are as many as the header in front of them says are a packet, whether or not they have
all come when the header is read. -/
theorem frame_of_process {more : Bytes}
    (hprocess : MQTT_ProcessIncomingPacketTypeAndLength bytes noPacket = (.MQTTSuccess, packet))
    (hlength : (bytes ++ more).length = packet.remainingLength + packet.headerLength) :
    Frame packetSize (bytes ++ more) := by
  refine ⟨?_, ?_⟩
  · rw [packetSize_eq (process_append hprocess more), hlength]
  · rintro hnil
    have hpos := (headerLength_pos hprocess).1
    rw [hnil, List.length_nil] at hlength
    omega

theorem header_take (hprocess : MQTT_ProcessIncomingPacketTypeAndLength bytes noPacket = (.MQTTSuccess, packet))
    (hn : packet.headerLength ≤ n) :
    MQTT_ProcessIncomingPacketTypeAndLength (bytes.take n) noPacket = (.MQTTSuccess, packet) := by
  obtain ⟨type, m, hheader, rfl⟩ := header_of_process hprocess
  refine process_header ⟨hheader.valid, hheader.small, ?_⟩ noPacket
  rw [List.prefix_take_iff]
  exact ⟨hheader.bytes, hn⟩

/-- The packet that is handed on is the one in front of the buffer. -/
theorem content_eq (hprocess : MQTT_ProcessIncomingPacketTypeAndLength bytes noPacket =
      (.MQTTSuccess, packet)) :
    MQTTPacketInfo.content { packet with pRemainingData := bytes.drop packet.headerLength } =
      unpack (bytes.take (packet.remainingLength + packet.headerLength)) := by
  unfold unpack MQTTPacketInfo.content
  rw [header_take hprocess (Nat.le_add_left ..)]
  simp only
  rw [List.drop_take, Nat.add_sub_cancel]

theorem contents_append (size : Nat) (packets : List Bytes) (f : Bytes) :
    contents size (packets ++ [f]) = contents size packets ++ if f.length ≤ size then [unpack f] else [] := by
  unfold contents
  rw [List.filter_append, List.map_append]
  by_cases hf : f.length ≤ size
  · rw [if_pos hf, List.filter_singleton]
    simp [hf]
  · rw [if_neg hf, List.filter_singleton]
    simp [hf]

theorem aside_allowed {a : Action} (ha : Aside a) : InOrder size a h := by
  cases a with
  | send _ => trivial
  | getTime => trivial
  | lastPacketTxTime => trivial
  | _ => exact ha.elim

theorem dealt_aside {a : Action} {r : a.Answer} (ha : Aside a) (hdealt : Dealt size h buffered packets) :
    Dealt size (⟨a, r⟩ :: h) buffered packets := by
  cases a with
  | send _ => exact ⟨hdealt.cut, hdealt.handled⟩
  | getTime => exact ⟨hdealt.cut, hdealt.handled⟩
  | lastPacketTxTime => exact ⟨hdealt.cut, hdealt.handled⟩
  | _ => exact ha.elim

theorem received_recv (r : Option { data : Bytes // data.length ≤ n }) :
    received (⟨.recv n, r⟩ :: h) = received h ++ (r.map Subtype.val).getD [] := by
  cases r with
  | none => exact (List.append_nil _).symm
  | some data => rfl

private theorem wp_recvExact (h : List Event) (bytesToRecv : Nat) :
    (recvExact bytesToRecv).wp (stream_spec size)
      (fun r t => ∃ data, received t = received h ++ data ∧ handled t = handled h ∧
        (r = some bytesToRecv → data.length = bytesToRecv)) h := by
  refine Program.wp_history_bind trivial fun now => ?_
  refine Program.wp_repeated (fun w t => ∃ data, received t = received h ++ data ∧ handled t = handled h ∧
    data.length = w.totalBytesRecvd ∧ w.totalBytesRecvd + w.bytesRemaining = bytesToRecv) ?_ ?_
  · exact ⟨[], (List.append_nil _).symm, rfl, rfl, Nat.zero_add _⟩
  rintro w t ⟨data, hreceived, hhandled, hlength, hall⟩
  refine Program.wp_ite (fun hzero => ?_) fun _ => ?_
  · exact ⟨data, hreceived, hhandled, fun _ => by omega⟩
  · refine Program.wp_history_bind trivial fun r => ?_
    cases r with
    | none => exact ⟨data, hreceived, hhandled, fun h => nomatch h⟩
    | some more =>
      have hmore : received (⟨.recv w.bytesRemaining, some more⟩ :: t) = received h ++ (data ++ more.val) := by
        rw [received_recv, hreceived, List.append_assoc]
        rfl
      have hle := more.property
      refine Program.wp_ite (fun hpos => ?_) fun hnone => ?_
      · refine Program.wp_history_bind trivial fun now => ?_
        refine ⟨data ++ more.val, hmore, hhandled, ?_, ?_⟩
        · rw [List.length_append, hlength]
        · simp only
          omega
      · have hnil : more.val = [] := List.eq_nil_of_length_eq_zero (by omega)
        rw [hnil, List.append_nil] at hmore
        refine Program.wp_history_bind trivial fun now => ?_
        refine Program.wp_ite (fun _ => ?_) fun _ => ?_
        · refine ⟨data, hmore, hhandled, fun hr => ?_⟩
          rw [hlength]
          exact Option.some.inj hr
        · exact ⟨data, hmore, hhandled, hlength, hall⟩

/-- The loop that throws a packet away leaves with its number of bytes where it has received them. -/
theorem wp_drain (h : List Event) (remainingLength bytesToReceive : Nat) :
    (Program.repeated (discardTurn remainingLength) ⟨0, bytesToReceive⟩).wp (stream_spec size)
      (fun total t => ∃ data, received t = received h ++ data ∧ handled t = handled h ∧
        (total = remainingLength → data.length = remainingLength)) h := by
  refine Program.wp_repeated (fun (w : Discard) t => ∃ data, received t = received h ++ data ∧
    handled t = handled h ∧ data.length = w.totalBytesReceived) ⟨[], (List.append_nil _).symm, rfl, rfl⟩ ?_
  rintro w t ⟨data, hreceived, hhandled, hlength⟩
  refine Program.wp_ite (fun hmore => ?_) fun _ => ?_
  · refine Program.wp_seq (Program.wp_mono ?_ (wp_recvExact t _))
    rintro r u ⟨more, hmore', hhandled', hexact⟩
    have hall : received u = received h ++ (data ++ more) := by
      rw [hmore', hreceived, List.append_assoc]
    refine Program.wp_ite (fun hr => ?_) fun _ => ?_
    · refine ⟨data ++ more, hall, hhandled'.trans hhandled, ?_⟩
      rw [List.length_append, hexact hr, hlength]
    · exact ⟨data ++ more, hall, hhandled'.trans hhandled, fun htotal => absurd htotal hmore.ne⟩
  · exact ⟨data, hreceived, hhandled, fun htotal => hlength.trans htotal⟩

/-- A packet that is too big for the buffer is thrown away, unless the transport fails on it. -/
theorem wp_discard (hdealt : Dealt size h context.received packets)
    (hprocess : MQTT_ProcessIncomingPacketTypeAndLength context.received noPacket = (.MQTTSuccess, packet))
    (hroom : context.received.length ≤ size) (hbig : size < packet.remainingLength + packet.headerLength) :
    (discardStoredPacket context packet).wp (stream_spec size)
      (fun x t => x.2 = { context with received := [] } ∧ (x.1 = .MQTTRecvFailed ∨
        x.1 = .MQTTNoDataAvailable ∧ ∃ packets, Dealt size t [] packets)) h := by
  refine Program.wp_seq (Program.wp_mono ?_ (wp_drain h _ _))
  rintro total t ⟨data, hreceived, hhandled, hlength⟩
  refine ⟨rfl, ?_⟩
  by_cases htotal : total = packet.remainingLength + packet.headerLength - context.received.length
  · have hall : (context.received ++ data).length = packet.remainingLength + packet.headerLength := by
      rw [List.length_append, hlength htotal]
      omega
    have hcut := hdealt.cut.receive data
    rw [← hreceived, ← List.append_nil (context.received ++ data)] at hcut
    refine .inr ⟨if_pos htotal, packets ++ [context.received ++ data], ?_, ?_⟩
    · exact hcut.frame (frame_of_process hprocess hall)
    · rw [hhandled, hdealt.handled, contents_append, if_neg (by rw [hall]; omega), List.append_nil]
  · exact .inl (if_neg htotal)

/-- A packet that is whole is handed on. -/
theorem wp_handlePacket (manageKeepAlive : Bool) (hdealt : Dealt size h context.received packets)
    (hsize : context.size = size)
    (hprocess : MQTT_ProcessIncomingPacketTypeAndLength context.received noPacket = (.MQTTSuccess, packet))
    (hfits : packet.remainingLength + packet.headerLength ≤ size)
    (hwhole : packet.remainingLength + packet.headerLength ≤ context.received.length) :
    (handlePacket manageKeepAlive context packet).wp (stream_spec size)
      (fun x t => x.1 ≠ .MQTTNeedMoreBytes ∧ x.2.size = size ∧
        x.2.received = context.received.drop (packet.remainingLength + packet.headerLength) ∧
        ∃ packets, Dealt size t (context.received.drop (packet.remainingLength + packet.headerLength)) packets) h := by
  obtain ⟨bufferSize, bytes, _, _, _, _⟩ := context
  simp only at hdealt hsize hprocess hwhole ⊢
  subst hsize
  have hlength : (bytes.take (packet.remainingLength + packet.headerLength)).length =
      packet.remainingLength + packet.headerLength := List.length_take_of_le hwhole
  have hframe : Frame packetSize (bytes.take (packet.remainingLength + packet.headerLength)) := by
    refine ⟨?_, ?_⟩
    · rw [packetSize_eq (header_take hprocess (Nat.le_add_left ..)), hlength]
    · intro hnil
      have hpos := (headerLength_pos hprocess).1
      rw [hnil, List.length_nil] at hlength
      omega
  have hcut := hdealt.cut
  nth_rewrite 1 [← List.take_append_drop (packet.remainingLength + packet.headerLength) bytes] at hcut
  have hcut := hcut.frame hframe
  have hcontent := content_eq hprocess
  have hdone : contents bufferSize (packets ++ [bytes.take (packet.remainingLength + packet.headerLength)]) =
      contents bufferSize packets ++ [unpack (bytes.take (packet.remainingLength + packet.headerLength))] := by
    rw [contents_append, if_pos (by omega)]
  have hallowed : ∃ packets f rest, Cut packetSize (received h) (packets ++ [f]) rest ∧ f.length ≤ bufferSize ∧
      handled h = contents bufferSize packets ∧
      MQTTPacketInfo.content { packet with pRemainingData := bytes.drop packet.headerLength } = unpack f :=
    ⟨packets, _, _, hcut, by omega, hdealt.handled, hcontent⟩
  have hdealt' (a : Action) (r : a.Answer) (hreceived : received (⟨a, r⟩ :: h) = received h)
      (hhandled : handled (⟨a, r⟩ :: h) = handled h ++
        [MQTTPacketInfo.content { packet with pRemainingData := bytes.drop packet.headerLength }]) :
      Dealt bufferSize (⟨a, r⟩ :: h) (bytes.drop (packet.remainingLength + packet.headerLength))
        (packets ++ [bytes.take (packet.remainingLength + packet.headerLength)]) := by
    refine ⟨by rwa [hreceived], ?_⟩
    rw [hhandled, hdealt.handled, hdone, hcontent]
  refine Program.wp_seq (Program.wp_mono ?_ (?_ : (handleIncoming _).wp (stream_spec bufferSize)
    (fun _ t => Dealt bufferSize t (bytes.drop (packet.remainingLength + packet.headerLength))
      (packets ++ [bytes.take (packet.remainingLength + packet.headerLength)])) h))
  · intro status t hdealt
    refine Program.wp_ite (fun _ => ?_) fun _ => ?_
    · exact Program.wp_history_bind trivial fun now =>
        ⟨status.property.1, rfl, rfl, _, hdealt.cut, hdealt.handled⟩
    · exact ⟨status.property.1, rfl, rfl, _, hdealt⟩
  · refine Program.wp_ite (fun _ => ⟨hallowed, ?_⟩) fun _ => ⟨hallowed, ?_⟩
    · rintro r _ rfl
      exact hdealt' (.handleIncomingPublish _) r rfl rfl
    · rintro r _ rfl
      exact hdealt' (.handleIncomingAck _) r rfl rfl

/-- What a turn of the receiver starts with, and leaves unless the transport has failed. -/
structure Kept (size : Nat) (h : List Event) (context : MQTTContext) : Prop where
  size_eq : context.size = size
  room : context.received.length ≤ size
  dealt : ∃ packets, Dealt size h context.received packets

/-- The first packet of the buffer is known where its header has been read. -/
structure Processed (status : MQTTStatus) (context : MQTTContext) (packet : MQTTPacketInfo) : Prop where
  success : status = .MQTTSuccess →
    MQTT_ProcessIncomingPacketTypeAndLength context.received noPacket = (.MQTTSuccess, packet)
  more : status = .MQTTNeedMoreBytes → packetSize context.received = none

theorem processed_of_ne {status : MQTTStatus} (hsuccess : status ≠ .MQTTSuccess)
    (hmore : status ≠ .MQTTNeedMoreBytes) : Processed status context packet :=
  ⟨fun h => absurd h hsuccess, fun h => absurd h hmore⟩

/-- One read keeps what the turns of the receiver rely on, whatever has arrived, and what it reports
is what it did. -/
theorem Kept.read (hkept : Kept size h context)
    (r : Option { data : Bytes // data.length ≤ context.size - context.received.length }) :
    Kept size (⟨.recv (context.size - context.received.length), r⟩ :: h)
    (processReceived context (r.map Subtype.val)).2.1 ∧
      Processed (processReceived context (r.map Subtype.val)).1
      (processReceived context (r.map Subtype.val)).2.1
        (processReceived context (r.map Subtype.val)).2.2 := by
  obtain ⟨hsize, hroom, packets, hcut, hhandled⟩ := hkept
  have hreceived := received_recv (h := h) r
  cases r with
  | none =>
    exact ⟨⟨hsize, hroom, packets, hcut, hhandled⟩,
      processed_of_ne (MQTTStatus.noConfusion) MQTTStatus.noConfusion⟩
  | some data =>
    have hlength := data.property
    rw [Option.map_some, Option.getD_some] at hreceived
    simp only [Option.map_some, processReceived]
    by_cases hnone : data.val = [] ∧ context.received = []
    · rw [if_pos hnone]
      rw [hnone.1, List.append_nil] at hreceived
      refine ⟨⟨hsize, hroom, packets, ?_, hhandled⟩,
        processed_of_ne MQTTStatus.noConfusion MQTTStatus.noConfusion⟩
      rwa [hreceived]
    · rw [if_neg hnone]
      refine ⟨⟨hsize, ?_, packets, ?_, hhandled⟩, ⟨?_, ?_⟩⟩
      · simp only
        rw [List.length_append]
        omega
      · rw [hreceived]
        exact hcut.receive data.val
      · intro hsuccess
        exact Prod.ext hsuccess rfl
      · intro hmore
        refine Option.eq_none_iff_forall_ne_some.mpr fun n hn => ?_
        obtain ⟨packet, hprocess, -⟩ := process_of_packetSize hn
        rw [hprocess] at hmore
        cases hmore

private theorem sendBuffer_aside (bytes : Bytes) (last : UInt32) : (sendBuffer bytes last).Every Aside := by
  refine Program.every_perform_bind trivial fun startTime => Program.every_repeated fun w => ?_
  obtain ⟨bytesSentOrError, lastPacketTxTime⟩ := w
  have htimeout (w : SendBuffer) : (sendBufferTimeout startTime w).Every Aside :=
    Program.every_perform_bind trivial fun now => trivial
  cases bytesSentOrError with
  | none => trivial
  | some bytesSent =>
    refine Program.every_ite (Program.every_perform_bind trivial fun taken => ?_) trivial
    cases taken with
    | none => exact htimeout _
    | some taken => exact Program.every_ite (Program.every_perform_bind trivial fun now => htimeout _) (htimeout _)

/-- The keep alive is managed beside the packets. -/
theorem wp_handleKeepAlive (hdealt : Dealt size h context.received packets) :
    (handleKeepAlive context).wp (stream_spec size)
      (fun x t => x.1 ≠ .MQTTNeedMoreBytes ∧ x.2.size = context.size ∧ x.2.received = context.received ∧
        Dealt size t context.received packets) h := by
  refine Program.wp_history_bind trivial fun now => ?_
  have hread : Dealt size (⟨.getTime, now⟩ :: h) context.received packets := dealt_aside trivial hdealt
  refine Program.wp_ite (fun _ => ⟨?_, rfl, rfl, hread⟩) fun _ => ?_
  · split_ifs <;> exact MQTTStatus.noConfusion
  refine Program.wp_history_bind trivial fun last => ?_
  have hread' : Dealt size (⟨.lastPacketTxTime, last⟩ :: ⟨.getTime, now⟩ :: h) context.received packets :=
    dealt_aside trivial hread
  refine Program.wp_ite (fun _ => ?_) fun _ => ⟨MQTTStatus.noConfusion, rfl, rfl, hread'⟩
  refine Program.wp_seq (Program.wp_history_of_every (I := fun t => Dealt size t context.received packets)
    (sendBuffer_aside pingreqPacket last) (fun a s ha _ => aside_allowed ha)
      (fun a r s ha hs => dealt_aside ha hs) hread' fun w t ht => ?_)
  refine Program.wp_ret _ _ |>.mpr ?_
  split_ifs
  · exact ⟨MQTTStatus.noConfusion, rfl, rfl, ht⟩
  · exact ⟨MQTTStatus.noConfusion, rfl, rfl, ht⟩

private theorem wp_checkKeepAlive {status : MQTTStatus} (manageKeepAlive : Bool) (recvBytes : Option Bytes)
    (hkept : Kept size h context) (hprocessed : Processed status context packet) :
    (checkKeepAlive manageKeepAlive recvBytes status context).wp (stream_spec size)
      (fun x t => Kept size t x.2 ∧ Processed x.1 x.2 packet) h := by
  refine Program.wp_ite (fun _ => ?_) fun _ => ⟨hkept, hprocessed⟩
  obtain ⟨packets, hdealt⟩ := hkept.dealt
  refine Program.wp_seq (Program.wp_mono ?_ (wp_handleKeepAlive hdealt))
  rintro ⟨keepAlive, context'⟩ t ⟨hstatus, hsize, hreceived, hdealt⟩
  simp only at hstatus hsize hreceived
  refine ⟨⟨hsize.trans hkept.size_eq, hreceived ▸ hkept.room, packets, hreceived ▸ hdealt⟩, ?_⟩
  split_ifs with hsuccess
  · exact ⟨hreceived ▸ hprocessed.success, hreceived ▸ hprocessed.more⟩
  · exact processed_of_ne hsuccess hstatus

private theorem wp_processPacket {status : MQTTStatus} (manageKeepAlive : Bool) (hkept : Kept size h context)
    (hprocessed : Processed status context packet) :
    (processPacket manageKeepAlive status context packet).wp (stream_spec size)
      (fun x t => (x.1 ≠ .MQTTRecvFailed → Kept size t x.2) ∧
        (x.1 = .MQTTNeedMoreBytes → Partial packetSize x.2.received)) h := by
  obtain ⟨packets, hdealt⟩ := hkept.dealt
  refine Program.wp_ite (fun _ => ⟨fun _ => hkept, fun hmore => ?_⟩) fun hsuccess => ?_
  · refine partial_of_short packetSize_stable fun n hn => ?_
    rw [hprocessed.more hmore] at hn
    cases hn
  have hprocess := hprocessed.success (not_not.mp hsuccess)
  refine Program.wp_ite (fun hbig => ?_) fun hfits => Program.wp_ite (fun hshort => ?_) fun hwhole => ?_
  · refine Program.wp_mono ?_ (wp_discard hdealt hprocess hkept.room (hkept.size_eq ▸ hbig))
    rintro ⟨status, _⟩ t ⟨rfl, hfailed | ⟨hdiscarded, hdealt⟩⟩
    · exact ⟨fun hr => absurd hfailed hr, fun hr => absurd (hfailed.symm.trans hr) MQTTStatus.noConfusion⟩
    · refine ⟨fun _ => ⟨hkept.size_eq, Nat.zero_le size, hdealt⟩, fun hr => ?_⟩
      exact absurd (hdiscarded.symm.trans hr) MQTTStatus.noConfusion
  · refine ⟨fun _ => hkept, fun _ => partial_of_short packetSize_stable fun n hn => ?_⟩
    rw [packetSize_eq hprocess] at hn
    cases hn
    exact hshort
  · have hfits' : packet.remainingLength + packet.headerLength ≤ size := hkept.size_eq ▸ Nat.not_lt.mp hfits
    refine Program.wp_mono ?_ (wp_handlePacket manageKeepAlive hdealt hkept.size_eq hprocess hfits'
      (Nat.not_lt.mp hwhole))
    rintro ⟨status, rest⟩ t ⟨hstatus, hsize, hrest, hdealt⟩
    refine ⟨fun _ => ⟨hsize, ?_, hrest ▸ hdealt⟩, fun hr => absurd hr hstatus⟩
    have hroom := hkept.room
    rw [hrest, List.length_drop]
    omega

private theorem wp_receiveSingleIteration (manageKeepAlive : Bool) (hkept : Kept size h context) :
    (receiveSingleIteration manageKeepAlive context).wp (stream_spec size)
      (fun x t => (x.1 ≠ .MQTTRecvFailed → Kept size t x.2) ∧
        (x.1 = .MQTTNeedMoreBytes → Partial packetSize x.2.received)) h := by
  refine Program.wp_history_bind trivial fun r => ?_
  obtain ⟨hkept, hprocessed⟩ := hkept.read r
  refine Program.wp_seq (Program.wp_mono ?_ (wp_checkKeepAlive manageKeepAlive _ hkept hprocessed))
  rintro ⟨status, context⟩ t ⟨hkept, hprocessed⟩
  refine Program.wp_seq (Program.wp_mono ?_ (wp_processPacket manageKeepAlive hkept hprocessed))
  rintro ⟨status, context⟩ t ⟨hkept, hpartial⟩
  simp only at hkept hpartial ⊢
  by_cases hnone : status = .MQTTNoDataAvailable
  · subst hnone
    exact ⟨fun _ => hkept MQTTStatus.noConfusion, fun hr => nomatch hr⟩
  · rw [if_neg hnone]
    exact ⟨hkept, hpartial⟩

theorem wp_connection (manageKeepAlive : Bool) (size : Nat) (keepAliveSeconds : UInt16) :
    (connection manageKeepAlive (connected size keepAliveSeconds)).wp (stream_spec size)
    (fun _ _ => True) [] := by
  refine Program.wp_repeated (fun context t => Kept size t context)
    ⟨rfl, Nat.zero_le size, [], Cut.nil packetSize [], rfl⟩ ?_
  intro context t hkept
  refine Program.wp_seq (Program.wp_mono ?_ (wp_receiveSingleIteration manageKeepAlive hkept))
  rintro ⟨status, context⟩ u ⟨hkept, hpartial⟩
  refine Program.wp_history_bind ?_ fun _ => ?_
  · cases hstatus : status with
    | MQTTNeedMoreBytes =>
      obtain ⟨packets, hcut, hhandled⟩ := (hkept (hstatus ▸ MQTTStatus.noConfusion)).dealt
      exact ⟨packets, _, hcut, hpartial hstatus, hhandled⟩
    | _ => trivial
  · split_ifs with hfailed
    · trivial
    · obtain ⟨hsize, hroom, packets, hcut, hhandled⟩ := hkept hfailed
      exact ⟨hsize, hroom, packets, hcut, hhandled⟩

/-- What has been handed on is what fits of the first packets of the stream. -/
theorem dealt_of_respects (h : Program.Respects (InOrder size) t) :
    ∃ packets rest, Cut packetSize (received t) packets rest ∧ handled t = contents size packets := by
  induction t with
  | nil => exact ⟨[], [], Cut.nil packetSize [], rfl⟩
  | cons e t ih =>
    obtain ⟨hallowed, hbefore⟩ := h
    obtain ⟨packets, rest, hcut, hhandled⟩ := ih hbefore
    obtain ⟨a, r⟩ := e
    cases a with
    | recv n => exact ⟨packets, _, received_recv r ▸ hcut.receive _, hhandled⟩
    | handleIncomingPublish packet =>
      obtain ⟨packets, f, rest, hcut, hfits, hhandled, hcontent⟩ := hallowed
      refine ⟨packets ++ [f], rest, hcut, ?_⟩
      rw [contents_append, if_pos hfits, ← hcontent, ← hhandled]
      rfl
    | handleIncomingAck packet =>
      obtain ⟨packets, f, rest, hcut, hfits, hhandled, hcontent⟩ := hallowed
      refine ⟨packets ++ [f], rest, hcut, ?_⟩
      rw [contents_append, if_pos hfits, ← hcontent, ← hhandled]
      rfl
    | _ => exact ⟨packets, rest, hcut, hhandled⟩

/-- Whatever pieces the stream comes in, the packets that are handed on are the ones of the stream that fit
the buffer, each once and in its order, and where more bytes are asked for none is left. -/
theorem packets_are_the_stream (manageKeepAlive : Bool) (size : Nat) (keepAliveSeconds : UInt16)
    (oracle : (a : Action) → List Event → a.Answer) (n : Nat) :
    let run := (connection manageKeepAlive (connected size keepAliveSeconds)).recorded oracle n
    (∃ packets rest, Cut packetSize (received run.2) packets rest ∧ handled run.2 = contents size packets) ∧
    (run.1.next = some (.returned .MQTTNeedMoreBytes) →
      ∀ packets rest, Cut packetSize (received run.2) packets rest →
        contents size packets <+: handled run.2) := by
  intro run
  have hwp := wp_connection manageKeepAlive size keepAliveSeconds
  refine ⟨dealt_of_respects (Program.respects_recorded hwp n), ?_⟩
  intro hnext packets rest hcut
  obtain ⟨all, rest', hall, hpartial, hhandled⟩ := Program.wp_next (Program.wp_recorded hwp n) hnext
  rw [hhandled]
  exact ((hall.longest packetSize_stable hpartial hcut).filter _).map _

/-- A transport that gives these pieces, one at each read as far as there is room. -/
def inPieces (pieces : List Bytes) : (a : Action) → List Event → a.Answer
  | .recv n, h =>
    some ⟨((pieces[h.countP fun e => e.1 matches .recv _]?).getD []).take n, List.length_take_le ..⟩
  | a, h => silent (.ofNat ·.length) a h

/-- A PUBLISH and a PUBACK. -/
def twoPackets : Bytes := [0x32, 7, 0, 1, 0x61, 0, 5, 0x7B, 0x7D, 0x40, 2, 1, 2]

theorem two_packets_in_one_piece :
    contents 64 [[0x32, 7, 0, 1, 0x61, 0, 5, 0x7B, 0x7D]] <+:
      handled ((connection true (connected 64 60)).recorded (inPieces [twoPackets.take 11]) 9).2 :=
  (packets_are_the_stream true 64 60 (inPieces [twoPackets.take 11]) 9).2 (by decide +kernel) _ [0x40, 2] ⟨by
    intro f hf
    rw [List.mem_singleton.mp hf]
    exact ⟨by decide +kernel, List.cons_ne_nil _ _⟩, by decide +kernel⟩

/-- Two connections on which one stream comes in, in pieces of any kind, hand on the same packets as far as
both have come. -/
theorem pieces_do_not_matter (keepAlive keepAlive' : Bool) (size : Nat) (keepAliveSeconds : UInt16)
    (oracle oracle' : (a : Action) → List Event → a.Answer) (n n' : Nat) (stream : Bytes) :
    let run := (connection keepAlive (connected size keepAliveSeconds)).recorded oracle n
    let run' := (connection keepAlive' (connected size keepAliveSeconds)).recorded oracle' n'
    received run.2 <+: stream → received run'.2 <+: stream →
      handled run.2 <+: handled run'.2 ∨ handled run'.2 <+: handled run.2 := by
  intro run run' h h'
  obtain ⟨packets, rest, hcut, hhandled⟩ :=
    dealt_of_respects (t := run.2) (Program.respects_recorded (wp_connection keepAlive size keepAliveSeconds) n)
  obtain ⟨packets', rest', hcut', hhandled'⟩ := dealt_of_respects (t := run'.2)
    (Program.respects_recorded (wp_connection keepAlive' size keepAliveSeconds) n')
  rw [hhandled, hhandled']
  rcases hcut.prefix_or packetSize_stable hcut' h h' with hle | hge
  · exact .inl ((hle.filter _).map _)
  · exact .inr ((hge.filter _).map _)

theorem two_packets_byte_by_byte :
    handled ((connection true (connected 64 60)).recorded (inPieces [twoPackets]) 14).2 <+:
        handled ((connection true (connected 64 60)).recorded (inPieces (twoPackets.map ([·]))) 60).2 ∨
      handled ((connection true (connected 64 60)).recorded (inPieces (twoPackets.map ([·]))) 60).2 <+:
        handled ((connection true (connected 64 60)).recorded (inPieces [twoPackets]) 14).2 :=
  pieces_do_not_matter true true 64 60 (inPieces [twoPackets])
    (inPieces (twoPackets.map ([·]))) 14 60 twoPackets
    (by decide +kernel) (by decide +kernel)

end coremqtt.wire
