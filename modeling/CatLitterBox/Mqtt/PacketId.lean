import CatLitterBox.Mqtt.Operations
import CatLitterBox.Temporal.Run

open text blocks coremqtt temporal

namespace catbox.session

open catbox.mqtt

/-- The topic and the payload that a slot designates, by which its publish is told from the
others. -/
def PublishPackets.buffers (packet : PublishPackets) : Option Nat × Option Nat :=
  (packet.pubInfo.pTopicName, packet.pubInfo.pPayload)

/-- The latest publish sent under a number: the one that a PUBACK with it acknowledges. -/
def acknowledged (packetId : Nat) : List Packet → Option (Option Nat × Option Nat)
  | [] => none
  | .SUBSCRIBE _ _ :: past => acknowledged packetId past
  | .PUBLISH id info _ _ :: past =>
    if id = packetId then some (info.pTopicName, info.pPayload) else acknowledged packetId past

/-- The number of a packet, unless the packet is sent again. -/
def Packet.newId : Packet → Option Nat
  | .SUBSCRIBE packetId _ => some packetId
  | .PUBLISH packetId info _ _ => if info.dup then none else some packetId

/-- A publish with a number awaits its PUBACK. -/
def Client.Awaits (s : Client) (packetId : Nat) : Prop :=
  packetId ≠ MQTT_PACKET_ID_INVALID ∧ ∃ packet ∈ s.outgoingPublishPackets, packet.packetId = packetId

/-- No two slots have one number, except that of the free slots. -/
def Distinct (packets : List PublishPackets) : Prop :=
  ∀ (i j : Nat) (p q : PublishPackets), packets[i]? = some p → packets[j]? = some q →
    p.packetId ≠ MQTT_PACKET_ID_INVALID → p.packetId = q.packetId → i = j

/-- The packets that a step sends. -/
def sent (s : Client) (m : Move) : List Packet :=
  (s.step m).wire.take ((s.step m).wire.length - s.wire.length)

/-- After the step the publishes that await their PUBACK have distinct numbers; a packet that
it sends for the first time has the number of none of them; and if it is a PUBACK, it removes
exactly the publish that it acknowledges. -/
structure Unique (s : Client) (m : Move) : Prop where
  distinct : Distinct (s.step m).outgoingPublishPackets
  fresh : ∀ packet ∈ sent s m, ∀ packetId, packet.newId = some packetId → ¬ s.Awaits packetId
  puback : ∀ packetId, m = .PUBACK packetId → s.mqttContext.stateful = true →
    ∀ (i : Nat) (packet : PublishPackets), s.outgoingPublishPackets[i]? = some packet →
      packet.packetId ≠ MQTT_PACKET_ID_INVALID →
      if packet.packetId = packetId then
        acknowledged packetId s.wire = some packet.buffers ∧
          (s.step m).outgoingPublishPackets[i]? = some .free
      else (s.step m).outgoingPublishPackets[i]? = some packet

/-- A SUBSCRIBE that is sent finds the counter at a number that no publish awaits its PUBACK
with. -/
def FindsUnused (s : Client) : Move → Prop
  | .SubscribeToTopic _ _ true => s.mqttContext.stateful = true → ¬ s.Awaits s.mqttContext.nextPacketId
  | _ => True

instance (s : Client) (packetId : Nat) : Decidable (s.Awaits packetId) :=
  inferInstanceAs (Decidable (packetId ≠ MQTT_PACKET_ID_INVALID ∧
    ∃ packet ∈ s.outgoingPublishPackets, packet.packetId = packetId))

instance (s : Client) (m : Move) : Decidable (FindsUnused s m) :=
  match m with
  | .SubscribeToTopic _ _ true =>
    inferInstanceAs (Decidable (s.mqttContext.stateful = true → ¬ s.Awaits s.mqttContext.nextPacketId))
  | .SubscribeToTopic _ _ false | .Send_cJSON_Messege .. | .Send_cJSON_Messege_for_tracker .. | .PUBACK _
  | .EstablishMqttSession .. | .DisconnectMqttSession | .reuse .. => .isTrue trivial

/-- What holds between the slots, the records of the library and the packets sent. -/
structure Client.Sound (s : Client) : Prop where
  tidy : s.Tidy
  pending : ∀ packet ∈ s.outgoingPublishPackets, packet.packetId ≠ MQTT_PACKET_ID_INVALID →
    lookup s.pOutgoingPublishRecords packet.packetId = some .MQTTPubAckPending
  distinct : Distinct s.outgoingPublishPackets
  latest : ∀ packet ∈ s.outgoingPublishPackets, packet.packetId ≠ MQTT_PACKET_ID_INVALID →
    acknowledged packet.packetId s.wire = some packet.buffers

/-- At boot the slots, the records and the wire fit together, since they are empty. -/
theorem boot_sound : Client.boot.Sound := by
  have hfree : ∀ packet ∈ Client.boot.outgoingPublishPackets, packet = .free :=
    fun _ hpacket => List.eq_of_mem_replicate hpacket
  have hnone : ∀ packet ∈ Client.boot.outgoingPublishPackets, ¬ packet.packetId ≠ MQTT_PACKET_ID_INVALID := by
    intro packet hpacket
    rw [hfree packet hpacket]
    exact not_not.mpr rfl
  refine ⟨fun packet hpacket _ => hfree packet hpacket, ?_, ?_, ?_⟩
  · intro packet hpacket hid
    exact absurd hid (hnone packet hpacket)
  · intro i j p q hp _ hid
    exact absurd hid (hnone p (List.mem_of_getElem? hp))
  · intro packet hpacket hid
    exact absurd hid (hnone packet hpacket)

/-- A number that the library can take is not awaited. -/
theorem not_awaits_of_unused {s : Client} (h : s.Sound) {packetId : Nat}
    (hunused : ∀ r ∈ s.pOutgoingPublishRecords, r.packetId ≠ packetId) : ¬ s.Awaits packetId := by
  rintro ⟨hid, packet, hpacket, rfl⟩
  have hpending := h.pending packet hpacket hid
  rw [lookup_eq_none_iff.mpr hunused] at hpending
  cases hpending

theorem distinct_set {packets : List PublishPackets} {index : Nat} {new : PublishPackets}
    (hdistinct : Distinct packets)
    (hnew : ∀ packet ∈ packets, new.packetId ≠ MQTT_PACKET_ID_INVALID → packet.packetId ≠ new.packetId) :
    Distinct (packets.set index new) := by
  intro i j p q hp hq hid heq
  rw [List.getElem?_set] at hp hq
  by_cases hi : index = i
  · by_cases hj : index = j
    · exact hi.symm.trans hj
    · rw [if_pos hi] at hp
      rw [if_neg hj] at hq
      split_ifs at hp
      obtain rfl : new = p := Option.some.inj hp
      exact absurd heq.symm (hnew q (List.mem_of_getElem? hq) hid)
  · rw [if_neg hi] at hp
    by_cases hj : index = j
    · rw [if_pos hj] at hq
      split_ifs at hq
      obtain rfl : new = q := Option.some.inj hq
      have hnewid : new.packetId ≠ MQTT_PACKET_ID_INVALID := by
        rw [← heq]
        exact hid
      exact absurd heq (hnew p (List.mem_of_getElem? hp) hnewid)
    · rw [if_neg hj] at hq
      exact hdistinct i j p q hp hq hid heq

private theorem publishing_sound {s after : Client} {info : PublishInfo} {transport : Bool} (h : s.Sound)
    (hpublishing : Publishing s info transport after) : after.Sound := by
  cases hpublishing with
  | dropped mqttContext records hnot keeps =>
    refine ⟨h.tidy, ?_, h.distinct, h.latest⟩
    intro packet hpacket hid
    exact keeps _ _ hid (h.pending packet hpacket hid)
  | kept mqttContext records index haccepts hfree pending others =>
    have hunused : ¬ s.Awaits s.mqttContext.nextPacketId := not_awaits_of_unused h haccepts.takes.unused
    have hnew : s.mqttContext.nextPacketId ≠ MQTT_PACKET_ID_INVALID :=
      validatePublishParams_id haccepts.takes.valid
    have hother (packet : PublishPackets) (hpacket : packet ∈ s.outgoingPublishPackets) :
        packet.packetId ≠ s.mqttContext.nextPacketId := fun heq => hunused ⟨hnew, packet, hpacket, heq⟩
    constructor
    · intro packet hpacket hid
      obtain hold | rfl := List.mem_or_eq_of_mem_set hpacket
      · exact h.tidy packet hold hid
      · exact absurd hid hnew
    · intro packet hpacket hid
      obtain hold | rfl := List.mem_or_eq_of_mem_set hpacket
      · change lookup records packet.packetId = _
        rw [others packet.packetId hid (hother packet hold)]
        exact h.pending packet hold hid
      · exact pending
    · exact distinct_set h.distinct fun packet hpacket _ => hother packet hpacket
    · intro packet hpacket hid
      obtain hold | rfl := List.mem_or_eq_of_mem_set hpacket
      · change acknowledged packet.packetId
          (publish_packet s.memory s.mqttContext.nextPacketId info :: s.wire) = _
        unfold publish_packet acknowledged
        rw [if_neg (Ne.symm (hother packet hold))]
        exact h.latest packet hold hid
      · exact if_pos rfl

/-- What the senders leave: a sound state, and a packet on the wire only under a number that is
not awaited. -/
theorem publish_text_sound {s : Client} (h : s.Sound) (topic : Option Bytes)
    (text : Bytes) (transport : Bool) :
    (s.publish_text topic text transport).Sound ∧
    ∃ new, (s.publish_text topic text transport).wire = new ++ s.wire ∧
      ∀ packet ∈ new, ∀ packetId, packet.newId = some packetId → ¬ s.Awaits packetId := by
  cases topic with
  | none => exact ⟨⟨h.tidy, h.pending, h.distinct, h.latest⟩, [], rfl, nofun⟩
  | some topic =>
    obtain ⟨after, hpublishing, hresult⟩ := publish_text_publishing h.tidy topic text transport
    have hbuffers : (s.with_buffers (text ++ [0]) (snprintf 100 topic)).Sound :=
      ⟨h.tidy, h.pending, h.distinct, h.latest⟩
    have hafter := publishing_sound hbuffers hpublishing
    rw [hresult]
    refine ⟨⟨hafter.tidy, hafter.pending, hafter.distinct, hafter.latest⟩, ?_⟩
    cases hpublishing with
    | dropped mqttContext records hnot keeps => exact ⟨[], rfl, nofun⟩
    | kept mqttContext records index haccepts hfree pending others =>
      refine ⟨[publish_packet _ s.mqttContext.nextPacketId _], rfl, ?_⟩
      intro packet hpacket packetId hid
      obtain rfl := List.mem_singleton.mp hpacket
      obtain rfl : s.mqttContext.nextPacketId = packetId := Option.some.inj hid
      exact not_awaits_of_unused h haccepts.takes.unused

theorem mem_cleanup {packets : List PublishPackets} {packetId : Nat} (hdistinct : Distinct packets)
    {packet : PublishPackets}
    (hpacket : packet ∈ cleanupOutgoingPublishWithPacketID packets packetId)
    (hid : packet.packetId ≠ MQTT_PACKET_ID_INVALID) :
    packet ∈ packets ∧ packet.packetId ≠ packetId := by
  unfold cleanupOutgoingPublishWithPacketID at hpacket
  cases hindex : packets.findIdx? (·.packetId = packetId) with
  | none =>
    rw [hindex] at hpacket
    have hnone := List.findIdx?_eq_none_iff.mp hindex packet hpacket
    exact ⟨hpacket, by simpa using hnone⟩
  | some index =>
    rw [hindex] at hpacket
    obtain ⟨j, hj⟩ := List.mem_iff_getElem?.mp hpacket
    obtain ⟨found, hget, hfound⟩ := slots.getElem_of_find hindex
    unfold cleanupOutgoingPublishAt at hj
    rw [List.getElem?_set] at hj
    split_ifs at hj with heq hlt
    · obtain rfl : PublishPackets.free = packet := Option.some.inj hj
      exact absurd rfl hid
    · refine ⟨List.mem_of_getElem? hj, ?_⟩
      intro hsame
      have hfoundid : found.packetId = packetId := by simpa using hfound
      exact heq (hdistinct j index packet found hj hget hid (hsame.trans hfoundid.symm)).symm

theorem getElem_cleanup {packets : List PublishPackets} {packetId : Nat}
    (hdistinct : Distinct packets) {i : Nat}
    {packet : PublishPackets} (hget : packets[i]? = some packet)
    (hid : packet.packetId ≠ MQTT_PACKET_ID_INVALID) :
    (cleanupOutgoingPublishWithPacketID packets packetId)[i]? =
      if packet.packetId = packetId then some .free else some packet := by
  unfold cleanupOutgoingPublishWithPacketID
  cases hindex : packets.findIdx? (·.packetId = packetId) with
  | none =>
    have hnone := List.findIdx?_eq_none_iff.mp hindex packet (List.mem_of_getElem? hget)
    have hne : packet.packetId ≠ packetId := by simpa using hnone
    rw [if_neg hne]
    exact hget
  | some index =>
    obtain ⟨found, hat, hfound⟩ := slots.getElem_of_find hindex
    have hfoundid : found.packetId = packetId := by simpa using hfound
    have hlt : index < packets.length := (List.getElem?_eq_some_iff.mp hat).1
    change (packets.set index .free)[i]? = _
    rw [List.getElem?_set]
    by_cases heq : index = i
    · subst heq
      obtain rfl : packet = found := Option.some.inj (hget.symm.trans hat)
      rw [if_pos rfl, if_pos hlt, if_pos hfoundid]
    · have hne : packet.packetId ≠ packetId := by
        intro hsame
        exact heq (hdistinct i index packet found hget hat hid (hsame.trans hfoundid.symm)).symm
      rw [if_neg heq, if_neg hne]
      exact hget

/-- A PUBACK that the library does not accept is for none of the publishes that await one. -/
theorem not_awaits_of_rejected {s : Client} (h : s.Sound) {packetId : Nat}
    (hstatus : (MQTT_UpdateStateAck s.pOutgoingPublishRecords packetId).1 ≠ .MQTTSuccess) :
    ¬ s.Awaits packetId := by
  rintro ⟨hid, packet, hpacket, rfl⟩
  exact hstatus (updateStateAck_pending hid (h.pending packet hpacket hid))

theorem puback_sound {s : Client} (h : s.Sound) (packetId : Nat) : (s.handlePublishAcks packetId).Sound := by
  unfold Client.handlePublishAcks
  simp only
  split_ifs with hstateful hstatus
  · exact h
  · refine ⟨?_, ?_, ?_, ?_⟩
    · intro packet hpacket hid
      unfold cleanupOutgoingPublishWithPacketID at hpacket
      split at hpacket
      · obtain hold | hfree := List.mem_or_eq_of_mem_set hpacket
        · exact h.tidy packet hold hid
        · exact hfree
      · exact h.tidy packet hpacket hid
    · intro packet hpacket hid
      obtain ⟨hold, hne⟩ := mem_cleanup h.distinct hpacket hid
      change lookup (MQTT_UpdateStateAck s.pOutgoingPublishRecords packetId).2 packet.packetId = _
      rw [updateStateAck_others hid hne]
      exact h.pending packet hold hid
    · change Distinct (cleanupOutgoingPublishWithPacketID s.outgoingPublishPackets packetId)
      unfold cleanupOutgoingPublishWithPacketID
      split
      · exact distinct_set h.distinct fun _ _ hfree => absurd rfl hfree
      · exact h.distinct
    · intro packet hpacket hid
      exact h.latest packet (mem_cleanup h.distinct hpacket hid).1 hid
  · refine ⟨h.tidy, ?_, h.distinct, h.latest⟩
    intro packet hpacket hid
    have hne : packet.packetId ≠ packetId := by
      intro heq
      exact not_awaits_of_rejected h hstatus ⟨heq ▸ hid, packet, hpacket, heq⟩
    change lookup (MQTT_UpdateStateAck s.pOutgoingPublishRecords packetId).2 packet.packetId = _
    rw [updateStateAck_others hid hne]
    exact h.pending packet hpacket hid

/-- A PUBACK removes the publish that it acknowledges, and no other. -/
theorem puback_removes {s : Client} (h : s.Sound) {packetId : Nat}
    (hstateful : s.mqttContext.stateful = true) {i : Nat}
    {packet : PublishPackets} (hget : s.outgoingPublishPackets[i]? = some packet)
    (hid : packet.packetId ≠ MQTT_PACKET_ID_INVALID) :
    if packet.packetId = packetId then
      acknowledged packetId s.wire = some packet.buffers ∧
      (s.handlePublishAcks packetId).outgoingPublishPackets[i]? = some .free
    else (s.handlePublishAcks packetId).outgoingPublishPackets[i]? = some packet := by
  have hmem : packet ∈ s.outgoingPublishPackets := List.mem_of_getElem? hget
  have hafter : (s.handlePublishAcks packetId).outgoingPublishPackets[i]? =
      if packet.packetId = packetId then some .free else some packet := by
    unfold Client.handlePublishAcks
    rw [if_neg (by simp [hstateful])]
    simp only
    split_ifs with hstatus heq heq
    · exact (getElem_cleanup h.distinct hget hid).trans (if_pos heq)
    · exact (getElem_cleanup h.distinct hget hid).trans (if_neg heq)
    · exact absurd ⟨heq ▸ hid, packet, hmem, heq⟩ (not_awaits_of_rejected h hstatus)
    · exact hget
  split_ifs with heq
  · rw [hafter, if_pos heq, ← heq]
    exact ⟨h.latest packet hmem hid, rfl⟩
  · rw [hafter, if_neg heq]

/-- The slot of a publish that has been sent again. -/
def PublishPackets.again (packet : PublishPackets) : PublishPackets :=
  { packet with pubInfo := { packet.pubInfo with dup := true } }

/-- What the loop of `handlePublishResend` keeps of the slots and the records, and what it
sends. -/
structure Resent (packets packets' : List PublishPackets) (records records' : List PubAckInfo)
    (wire wire' : List Packet) :
    Prop where
  slots : ∀ (i : Nat) (packet' : PublishPackets), packets'[i]? = some packet' →
    ∃ packet, packets[i]? = some packet ∧
    (packet' = packet ∨ packet.packetId ≠ MQTT_PACKET_ID_INVALID ∧ packet' = packet.again)
  pending : ∀ q, q ≠ MQTT_PACKET_ID_INVALID → lookup records q = some .MQTTPubAckPending →
    lookup records' q = some .MQTTPubAckPending
  wire : ∃ new, wire' = new ++ wire ∧ ∀ sent ∈ new, ∃ packet ∈ packets, ∃ topic payload,
    packet.packetId ≠ MQTT_PACKET_ID_INVALID ∧
      sent = .PUBLISH packet.packetId packet.again.pubInfo topic payload

/-- One more slot in front, from which at most one packet has been sent. -/
theorem Resent.cons {packet packet' : PublishPackets} {packets packets' : List PublishPackets}
    {records between records' : List PubAckInfo} {wire wire' : List Packet} {first : List Packet}
    (hslot : packet' = packet ∨ packet.packetId ≠ MQTT_PACKET_ID_INVALID ∧ packet' = packet.again)
    (hpending : ∀ q, q ≠ MQTT_PACKET_ID_INVALID → lookup records q = some .MQTTPubAckPending →
      lookup between q = some .MQTTPubAckPending)
    (hfirst : ∀ sent ∈ first, ∃ topic payload, packet.packetId ≠ MQTT_PACKET_ID_INVALID ∧
      sent = .PUBLISH packet.packetId packet.again.pubInfo topic payload)
    (hrest : Resent packets packets' between records' (first ++ wire) wire') :
    Resent (packet :: packets) (packet' :: packets') records records' wire wire' where
  slots := by
    intro i p' hp'
    cases i with
    | zero =>
      obtain rfl : packet' = p' := Option.some.inj hp'
      exact ⟨packet, rfl, hslot⟩
    | succ i => exact hrest.slots i p' hp'
  pending := by
    intro q hq hlookup
    exact hrest.pending q hq (hpending q hq hlookup)
  wire := by
    obtain ⟨new, rfl, hnew⟩ := hrest.wire
    refine ⟨new ++ first, (List.append_assoc _ _ _).symm, ?_⟩
    intro sent hsent
    obtain hlater | hnow := List.mem_append.mp hsent
    · obtain ⟨p, hp, hsame⟩ := hnew sent hlater
      exact ⟨p, List.mem_cons_of_mem _ hp, hsame⟩
    · obtain ⟨topic, payload, hid, heq⟩ := hfirst sent hnow
      exact ⟨packet, List.mem_cons_self, topic, payload, hid, heq⟩

/-- Nothing has been sent again yet. -/
theorem Resent.refl {packets : List PublishPackets} {records : List PubAckInfo} {wire : List Packet} :
    Resent packets packets records records wire wire where
  slots := fun _ packet h => ⟨packet, h, .inl rfl⟩
  pending := fun _ _ h => h
  wire := ⟨[], rfl, nofun⟩

/-- The packet sent again from a slot, if it gets out. -/
def resent_packet (memory : Store UInt8) (packet : PublishPackets) (published : Published) : List Packet :=
  if published.sent then [publish_packet memory packet.packetId packet.again.pubInfo] else []

private theorem resend_cons {memory : Store UInt8} {context : Context} {packet : PublishPackets}
    {packets : List PublishPackets}
    {transport : List Bool} {records : List PubAckInfo} {wire : List Packet} {published : Published}
    (hid : packet.packetId ≠ MQTT_PACKET_ID_INVALID)
    (hpublished :
      MQTT_Publish (transport.headD false) context records packet.again.pubInfo packet.packetId = published) :
    resend memory context (packet :: packets) transport records wire =
      if published.status ≠ .MQTTSuccess then
        (false, packet.again :: packets, published.records, resent_packet memory packet published ++ wire)
      else
        let rest := resend memory context packets transport.tail published.records
          (resent_packet memory packet published ++ wire)
        (rest.1, packet.again :: rest.2.1, rest.2.2.1, rest.2.2.2) := by
  have hwire :
      (if published.sent then publish_packet memory packet.packetId packet.again.pubInfo :: wire else wire) =
      resent_packet memory packet published ++ wire := by
    unfold resent_packet
    split_ifs <;> rfl
  subst hpublished
  rw [resend, if_pos hid, ← hwire]
  rfl

theorem resend_resent (memory : Store UInt8) (context : Context)
    (packets : List PublishPackets) (transport : List Bool)
    (records : List PubAckInfo) (wire : List Packet) :
    Resent packets (resend memory context packets transport records wire).2.1 records
      (resend memory context packets transport records wire).2.2.1 wire
      (resend memory context packets transport records wire).2.2.2 := by
  induction packets generalizing transport records wire with
  | nil => exact .refl
  | cons packet packets ih =>
    by_cases hid : packet.packetId = MQTT_PACKET_ID_INVALID
    · rw [resend, if_neg (not_not.mpr hid)]
      have hnone : ∀ sent ∈ ([] : List Packet), ∃ topic payload, packet.packetId ≠ MQTT_PACKET_ID_INVALID ∧
          sent = .PUBLISH packet.packetId packet.again.pubInfo topic payload := nofun
      exact .cons (.inl rfl) (fun _ _ h => h) hnone (ih transport records wire)
    · have hkeeps (q : Nat) (hq : q ≠ MQTT_PACKET_ID_INVALID)
          (hlookup : lookup records q = some .MQTTPubAckPending) :
          lookup (MQTT_Publish (transport.headD false) context records packet.again.pubInfo
            packet.packetId).records q =
            some .MQTTPubAckPending := publish_keeps_pending hq hlookup
      generalize hpublished : MQTT_Publish (transport.headD false) context records
        packet.again.pubInfo packet.packetId =
        published at hkeeps
      have hfirst : ∀ sent ∈ resent_packet memory packet published, ∃ topic payload,
          packet.packetId ≠ MQTT_PACKET_ID_INVALID ∧
            sent = .PUBLISH packet.packetId packet.again.pubInfo topic payload := by
        intro sent hsent
        unfold resent_packet at hsent
        split_ifs at hsent
        · obtain rfl := List.mem_singleton.mp hsent
          exact ⟨_, _, hid, rfl⟩
        · cases hsent
      rw [resend_cons hid hpublished]
      split_ifs
      · exact .cons (.inr ⟨hid, rfl⟩) hkeeps hfirst .refl
      · exact .cons (.inr ⟨hid, rfl⟩) hkeeps hfirst (ih transport.tail published.records _)

theorem acknowledged_append {packetId : Nat} {new wire : List Packet} {buffers : Option Nat × Option Nat}
    (hwire : acknowledged packetId wire = some buffers)
    (hnew : ∀ info topic payload, .PUBLISH packetId info topic payload ∈ new →
      (info.pTopicName, info.pPayload) = buffers) :
    acknowledged packetId (new ++ wire) = some buffers := by
  induction new with
  | nil => exact hwire
  | cons packet new ih =>
    have hrest := ih fun info topic payload hmem => hnew info topic payload (List.mem_cons_of_mem _ hmem)
    cases packet with
    | SUBSCRIBE id topic => exact hrest
    | PUBLISH id info topic payload =>
      rw [List.cons_append, acknowledged]
      split_ifs with heq
      · subst heq
        exact congrArg some (hnew info topic payload List.mem_cons_self)
      · exact hrest

/-- A slot after a resumption is one from before, up to the mark of a duplicate. -/
theorem Resent.slot {packets packets' : List PublishPackets} {records records' : List PubAckInfo}
    {wire wire' : List Packet}
    (h : Resent packets packets' records records' wire wire') {packet' : PublishPackets}
    (hmem : packet' ∈ packets') :
    ∃ packet ∈ packets, packet'.packetId = packet.packetId ∧ packet'.buffers = packet.buffers ∧
      (packet.packetId = MQTT_PACKET_ID_INVALID → packet' = packet) := by
  obtain ⟨i, hi⟩ := List.mem_iff_getElem?.mp hmem
  obtain ⟨packet, hget, rfl | ⟨hid, rfl⟩⟩ := h.slots i packet' hi
  · exact ⟨packet', List.mem_of_getElem? hget, rfl, rfl, fun _ => rfl⟩
  · exact ⟨packet, List.mem_of_getElem? hget, rfl, rfl, fun hfree => absurd hfree hid⟩

/-- What is sent again keeps its number, so the numbers stay distinct. -/
theorem Resent.distinct {packets packets' : List PublishPackets} {records records' : List PubAckInfo}
    {wire wire' : List Packet} (h : Resent packets packets' records records' wire wire')
    (hdistinct : Distinct packets) :
    Distinct packets' := by
  intro i j p' q' hp' hq' hid heq
  obtain ⟨p, hp, hpsame⟩ := h.slots i p' hp'
  obtain ⟨q, hq, hqsame⟩ := h.slots j q' hq'
  have hpid : p'.packetId = p.packetId := by
    obtain rfl | ⟨-, rfl⟩ := hpsame <;> rfl
  have hqid : q'.packetId = q.packetId := by
    obtain rfl | ⟨-, rfl⟩ := hqsame <;> rfl
  rw [hpid] at hid heq
  rw [hqid] at heq
  exact hdistinct i j p q hp hq hid heq

/-- A publish that is sent again is acknowledged as before. -/
theorem Resent.acknowledged {packets packets' : List PublishPackets} {records records' : List PubAckInfo}
    {wire wire' : List Packet} (h : Resent packets packets' records records' wire wire')
    (hdistinct : Distinct packets)
    {packet : PublishPackets} (hpacket : packet ∈ packets) (hid : packet.packetId ≠ MQTT_PACKET_ID_INVALID)
    (hwire : session.acknowledged packet.packetId wire = some packet.buffers) :
    session.acknowledged packet.packetId wire' = some packet.buffers := by
  obtain ⟨new, rfl, hnew⟩ := h.wire
  apply acknowledged_append hwire
  intro info topic payload hsent
  obtain ⟨other, hother, _, _, -, hpublish⟩ := hnew _ hsent
  obtain ⟨hotherid, rfl, -, -⟩ := Packet.PUBLISH.inj hpublish
  obtain ⟨i, hi⟩ := List.mem_iff_getElem?.mp hpacket
  obtain ⟨j, hj⟩ := List.mem_iff_getElem?.mp hother
  obtain rfl : i = j := hdistinct i j packet other hi hj hid hotherid
  obtain rfl : packet = other := Option.some.inj (hi.symm.trans hj)
  rfl

private theorem resent_sound {s : Client} (h : s.Sound) {packets : List PublishPackets} {records : List PubAckInfo}
    {wire : List Packet}
    (hresent : Resent s.outgoingPublishPackets packets s.pOutgoingPublishRecords records s.wire wire)
    (context : Context) :
    ({ s with
      mqttContext := context, outgoingPublishPackets := packets, pOutgoingPublishRecords := records, wire } :
      Client).Sound := by
  constructor
  · intro packet' hmem hid
    obtain ⟨packet, hpacket, heq, -, hsame⟩ := hresent.slot hmem
    have hfree : packet.packetId = MQTT_PACKET_ID_INVALID := heq ▸ hid
    rw [hsame hfree]
    exact h.tidy packet hpacket hfree
  · intro packet' hmem hid
    obtain ⟨packet, hpacket, heq, -, -⟩ := hresent.slot hmem
    change lookup records packet'.packetId = _
    rw [heq] at hid ⊢
    exact hresent.pending _ hid (h.pending packet hpacket hid)
  · exact hresent.distinct h.distinct
  · intro packet' hmem hid
    obtain ⟨packet, hpacket, heq, hbuffers, -⟩ := hresent.slot hmem
    change acknowledged packet'.packetId wire = _
    rw [heq] at hid ⊢
    rw [hbuffers]
    exact hresent.acknowledged h.distinct hpacket hid (h.latest packet hpacket hid)

/-- An attempt to connect leaves a sound state, and sends nothing for the first time. -/
theorem establish_sound {s : Client} (h : s.Sound) (connack : Connack) (transport : List Bool) :
    (s.EstablishMqttSession connack transport).2.Sound ∧
      ∃ new, (s.EstablishMqttSession connack transport).2.wire = new ++ s.wire ∧
      ∀ packet ∈ new, packet.newId = none := by
  cases connack with
  | unreachable => exact ⟨⟨h.tidy, h.pending, h.distinct, h.latest⟩, [], rfl, nofun⟩
  | refused => exact ⟨⟨h.tidy, h.pending, h.distinct, h.latest⟩, [], rfl, nofun⟩
  | accepted sessionPresent =>
    cases sessionPresent with
    | true =>
      have hresent := resend_resent s.memory MQTT_Init s.outgoingPublishPackets transport
        s.pOutgoingPublishRecords s.wire
      refine ⟨resent_sound h hresent MQTT_Init, ?_⟩
      obtain ⟨new, hwire, hnew⟩ := hresent.wire
      refine ⟨new, hwire, ?_⟩
      intro sent hsent
      obtain ⟨packet, -, topic, payload, -, rfl⟩ := hnew sent hsent
      rfl
    | false =>
      have hfree (packet : PublishPackets)
          (hpacket : packet ∈ cleanupOutgoingPublishes s.outgoingPublishPackets) :
          packet = .free := by
        obtain ⟨_, -, rfl⟩ := List.mem_map.mp hpacket
        rfl
      have hnone (packet : PublishPackets)
          (hpacket : packet ∈ cleanupOutgoingPublishes s.outgoingPublishPackets) :
          ¬ packet.packetId ≠ MQTT_PACKET_ID_INVALID := by
        rw [hfree packet hpacket]
        exact not_not.mpr rfl
      refine ⟨⟨fun packet hpacket _ => hfree packet hpacket, ?_, ?_, ?_⟩, [], rfl, nofun⟩
      · intro packet hpacket hid
        exact absurd hid (hnone packet hpacket)
      · intro i j p q hp _ hid
        exact absurd hid (hnone p (List.mem_of_getElem? hp))
      · intro packet hpacket hid
        exact absurd hid (hnone packet hpacket)

/-- The packet of a subscription, if it gets out. -/
def subscribe_packet (s : Client) (topic : Bytes) (transport : Bool) : List Packet :=
  if MQTT_Subscribe transport (MQTT_GetPacketId s.mqttContext).2 s.mqttContext.nextPacketId then
    [.SUBSCRIBE s.mqttContext.nextPacketId topic]
  else []

theorem subscribe_wire (s : Client) (topic : Bytes) (transport : Bool) :
    (s.SubscribeToTopic topic transport).wire = subscribe_packet s topic transport ++ s.wire := by
  unfold Client.SubscribeToTopic subscribe_packet
  simp only
  rw [show (MQTT_GetPacketId s.mqttContext).1 = s.mqttContext.nextPacketId from rfl]
  split_ifs <;> rfl

private theorem subscribe_sound {s : Client} (h : s.Sound) (topic : Bytes) (transport : Bool) :
    (s.SubscribeToTopic topic transport).Sound := by
  refine ⟨h.tidy, h.pending, h.distinct, ?_⟩
  intro packet hpacket hid
  rw [subscribe_wire]
  apply acknowledged_append (h.latest packet hpacket hid)
  intro info topic' payload hmem
  unfold subscribe_packet at hmem
  split_ifs at hmem
  · cases List.mem_singleton.mp hmem
  · cases hmem

/-- Every move keeps the state sound. -/
theorem step_sound {s : Client} (h : s.Sound) (m : Move) : (s.step m).Sound := by
  cases m with
  | Send_cJSON_Messege cmd mac text transport =>
    cases text with
    | none => exact h
    | some text => exact (publish_text_sound h (some (SERVER_TX_TOPIC cmd mac)) text transport).1
  | Send_cJSON_Messege_for_tracker p text transport =>
    cases text with
    | none => exact h
    | some text => exact (publish_text_sound h (tracker_topic p) text transport).1
  | SubscribeToTopic cmd mac transport => exact subscribe_sound h _ transport
  | PUBACK packetId => exact puback_sound h packetId
  | EstablishMqttSession connack transport => exact (establish_sound h connack transport).1
  | DisconnectMqttSession => exact h
  | reuse block content => exact ⟨h.tidy, h.pending, h.distinct, h.latest⟩

/-- A subscription is sent under a number that is not awaited, unless its number is. -/
theorem subscribe_fresh_iff (s : Client) (cmd : Cmd) (mac : Bytes) (transport : Bool) :
    (∀ packet ∈ subscribe_packet s (SERVER_RX_TOPIC cmd mac) transport, ∀ packetId,
      packet.newId = some packetId → ¬ s.Awaits packetId) ↔
      FindsUnused s (.SubscribeToTopic cmd mac transport) := by
  unfold subscribe_packet
  cases transport with
  | false =>
    rw [if_neg (by simp [MQTT_Subscribe])]
    exact iff_of_true nofun trivial
  | true =>
    by_cases hsent : MQTT_Subscribe true (MQTT_GetPacketId s.mqttContext).2 s.mqttContext.nextPacketId = true
    · rw [if_pos hsent]
      have hparams : s.mqttContext.nextPacketId ≠ 0 ∧ s.mqttContext.stateful = true ∧ true = true :=
        of_decide_eq_true hsent
      constructor
      · intro hfresh _
        exact hfresh _ List.mem_cons_self _ rfl
      · intro hunused packet hpacket packetId hid
        obtain rfl := List.mem_singleton.mp hpacket
        obtain rfl : s.mqttContext.nextPacketId = packetId := Option.some.inj hid
        exact hunused hparams.2.1
    · rw [if_neg hsent]
      apply iff_of_true nofun
      intro hstateful hawaits
      exact hsent (decide_eq_true ⟨hawaits.1, hstateful, rfl⟩)

/-- What a step sends, and when a packet that it sends for the first time has a number that is
not awaited. -/
theorem step_sends {s : Client} (h : s.Sound) (m : Move) : ∃ new, (s.step m).wire = new ++ s.wire ∧
    ((∀ packet ∈ new, ∀ packetId, packet.newId = some packetId → ¬ s.Awaits packetId) ↔ FindsUnused s m) := by
  cases m with
  | Send_cJSON_Messege cmd mac text transport =>
    cases text with
    | none => exact ⟨[], rfl, iff_of_true nofun trivial⟩
    | some text =>
      obtain ⟨new, hwire, hnew⟩ := (publish_text_sound h (some (SERVER_TX_TOPIC cmd mac)) text transport).2
      exact ⟨new, hwire, iff_of_true hnew trivial⟩
  | Send_cJSON_Messege_for_tracker p text transport =>
    cases text with
    | none => exact ⟨[], rfl, iff_of_true nofun trivial⟩
    | some text =>
      obtain ⟨new, hwire, hnew⟩ := (publish_text_sound h (tracker_topic p) text transport).2
      exact ⟨new, hwire, iff_of_true hnew trivial⟩
  | SubscribeToTopic cmd mac transport =>
    exact ⟨_, subscribe_wire s (SERVER_RX_TOPIC cmd mac) transport, subscribe_fresh_iff s cmd mac transport⟩
  | PUBACK packetId =>
    refine ⟨[], ?_, iff_of_true nofun trivial⟩
    change (s.handlePublishAcks packetId).wire = s.wire
    unfold Client.handlePublishAcks
    simp only
    split_ifs <;> rfl
  | EstablishMqttSession connack transport =>
    obtain ⟨new, hwire, hnew⟩ := (establish_sound h connack transport).2
    refine ⟨new, hwire, iff_of_true ?_ trivial⟩
    intro packet hpacket packetId hid
    rw [hnew packet hpacket] at hid
    cases hid
  | DisconnectMqttSession => exact ⟨[], rfl, iff_of_true nofun trivial⟩
  | reuse block content => exact ⟨[], rfl, iff_of_true nofun trivial⟩

private theorem unique_iff (s : Client) (m : Move) (h : s.Sound) : Unique s m ↔ FindsUnused s m := by
  obtain ⟨new, hwire, hfresh⟩ := step_sends h m
  have hsent : sent s m = new := by
    unfold sent
    rw [hwire, List.length_append, Nat.add_sub_cancel, List.take_left]
  constructor
  · intro hunique
    have hnew := hunique.fresh
    rw [hsent] at hnew
    exact hfresh.mp hnew
  · intro hunused
    refine ⟨(step_sound h m).distinct, ?_, ?_⟩
    · rw [hsent]
      exact hfresh.mpr hunused
    · rintro packetId rfl hstateful i packet hget hid
      exact puback_removes h hstateful hget hid

theorem along_unique_iff {s : Client} (h : s.Sound) {moves : List Move} :
    Along Client.step Unique s moves ↔ Along Client.step FindsUnused s moves :=
  along_congr (I := Client.Sound) (fun _ m h _ => step_sound h m) unique_iff h

/-- In a run the numbers of the publishes that await their PUBACK stay distinct, no packet is
sent for the first time under one of them, and every PUBACK removes what it acknowledges,
exactly if no SUBSCRIBE is sent while the counter stands at one of them. -/
theorem packet_ids_unique_iff (moves : List Move) :
    Along Client.step Unique Client.boot moves ↔ Along Client.step FindsUnused Client.boot moves :=
  along_unique_iff boot_sound

/-- The subscriptions of `mqtt_subscribe_init`. -/
def subscriptions : List Move :=
  [.MESSEGE_REGISTRATION, .MESSEGE_BOOT, .MESSEGE_ACCESS, .MESSEGE_USAGE,
    .MESSEGE_CLEAN_RESULT, .MESSEGE_DIAGNOSTICS,
    .MESSEGE_HEALTH].map fun cmd => .SubscribeToTopic cmd (zeros 6) true

/-- A session in which the last topic could not be copied, so that the first publish has the
number 7, and the resumption of it before its PUBACK. -/
def skipped_subscription : List Move :=
  .EstablishMqttSession (.accepted false) [] :: subscriptions.take 6 ++
    .Send_cJSON_Messege .MESSEGE_BOOT (zeros 6) (some [123, 125]) true :: .DisconnectMqttSession ::
    .EstablishMqttSession (.accepted true) [true] :: subscriptions

theorem subscribe_reuses_packet_id : ¬ ∀ moves : List Move, Along Client.step Unique Client.boot moves := by
  intro hall
  have hunused := (along_unique_iff boot_sound).mp (hall skipped_subscription)
  exact absurd hunused (by decide +kernel)

end catbox.session
