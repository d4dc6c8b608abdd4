import CatLitterBox.Mqtt.RoundTrip
import CatLitterBox.Program.Oracle

open program text

namespace coremqtt.wire.sender

/-- What the sender asks of the transport and of the clock. -/
inductive Action where
  | send (bytes : Bytes)
  | getTime
deriving DecidableEq

/-- The transport takes no more bytes than it is given, or gives a number below zero. -/
def Action.Answer : Action → Type
  | .send bytes => Option { taken : Nat // taken ≤ bytes.length }
  | .getTime => UInt32

abbrev Sender := Program Action Action.Answer

abbrev Event := (a : Action) × a.Answer

def send (bytes : Bytes) : Sender (Option { taken : Nat // taken ≤ bytes.length }) :=
  Program.perform (R := Action.Answer) (.send bytes)

def getTime : Sender UInt32 := Program.perform (R := Action.Answer) .getTime

/-- The vectors that are left when some bytes have been sent. -/
def advanceVectors : Nat → List Bytes → List Bytes
  | _, [] => []
  | sendResult, v :: vectors =>
    if v.length ≤ sendResult then advanceVectors (sendResult - v.length) vectors
    else v.drop sendResult :: vectors

/-- The variables of the loop of `sendMessageVector`: the number of bytes that have been sent, or none for an
error, and the vectors from the iterator on. -/
structure SendMessage where
  bytesSentOrError : Option Nat
  vectors : List Bytes

/-- A turn of the loop, without `writev`. -/
def sendTurn (startTime : UInt32) (bytesToSend : Nat) (w : SendMessage) : Sender (SendMessage ⊕ Option Nat) :=
  match w.bytesSentOrError, w.vectors with
  | some bytesSent, v :: vectors =>
    if bytesSent < bytesToSend then do
      let sendResult ← send v
      let bytesSentOrError := sendResult.map fun taken => bytesSent + taken.val
      if sendResult.any (0 < ·.val) then do
        let _ ← getTime
        finishTurn startTime bytesSentOrError ((sendResult.map Subtype.val).getD 0) (v :: vectors)
      else finishTurn startTime bytesSentOrError ((sendResult.map Subtype.val).getD 0) (v :: vectors)
    else pure (.inr (some bytesSent))
  | bytesSentOrError, _ => pure (.inr bytesSentOrError)
where
  /-- The timeout, and the update of the send pointer. -/
  finishTurn (startTime : UInt32) (bytesSentOrError : Option Nat) (sendResult : Nat) (vectors : List Bytes) :
      Sender (SendMessage ⊕ Option Nat) := do
    let now ← getTime
    if MQTT_SEND_TIMEOUT_MS < now - startTime then pure (.inr bytesSentOrError)
    else pure (.inl ⟨bytesSentOrError, advanceVectors sendResult vectors⟩)

def sendMessageVector (vectors : List Bytes) : Sender (Option Nat) := do
  let startTime ← getTime
  Program.repeated (sendTurn startTime vectors.flatten.length) ⟨some 0, vectors⟩

def MQTT_SerializePublishHeaderWithoutTopic (info : MQTTPublishInfo) (remainingLength : Nat) : Bytes :=
  publishFlags info.qos info.retain info.dup :: encodeRemainingLength remainingLength ++
    [UINT16_HIGH_BYTE info.topicNameLength, UINT16_LOW_BYTE info.topicNameLength]

/-- The vectors of a PUBLISH. -/
def publishVectors (info : MQTTPublishInfo) (mqttHeader : Bytes) (packetId : UInt16) : List Bytes :=
  [mqttHeader, info.pTopicName.getD []] ++
    (if info.qos ≠ .MQTTQoS0 then [[UINT16_HIGH_BYTE packetId, UINT16_LOW_BYTE packetId]] else []) ++
    if 0 < info.payloadLength then [info.pPayload.getD []] else []

def sendPublishWithoutCopy (info : MQTTPublishInfo) (mqttHeader : Bytes) (packetId : UInt16) :
    Sender MQTTStatus := do
  let vectors := publishVectors info mqttHeader packetId
  let sent ← sendMessageVector vectors
  pure (if sent = some vectors.flatten.length then .MQTTSuccess else .MQTTSendFailed)

/-- The part of `MQTT_Publish` that sends the packet, once its parameters and its state have been found good. -/
def MQTT_Publish_send (info : MQTTPublishInfo) (packetId : UInt16) : Sender MQTTStatus :=
  match MQTT_GetPublishPacketSize info with
  | .error status => pure status
  | .ok (remainingLength, _) =>
    sendPublishWithoutCopy info (MQTT_SerializePublishHeaderWithoutTopic info remainingLength) packetId

/-- The bytes that the transport has taken. -/
def sent : List Event → Bytes
  | [] => []
  | ⟨.send bytes, some taken⟩ :: h => sent h ++ bytes.take taken.val
  | _ :: h => sent h

/-- The transport is given what comes next of the packet. -/
def Continues (packet : Bytes) : Action → List Event → Prop
  | .send bytes, h => sent h ++ bytes <+: packet
  | .getTime, _ => True

abbrev packet_spec (packet : Bytes) : Spec Action Action.Answer (List Event) := Spec.history (Continues packet)

variable {packet bytes : Bytes} {vectors : List Bytes} {h t : List Event}
  {info : MQTTPublishInfo} {packetId : UInt16}
  {remainingLength packetSize size : Nat}

theorem flatten_advanceVectors (sendResult : Nat) (vectors : List Bytes) :
    (advanceVectors sendResult vectors).flatten = vectors.flatten.drop sendResult := by
  induction vectors generalizing sendResult with
  | nil => rw [advanceVectors, List.flatten_nil, List.drop_nil]
  | cons v vectors ih =>
    rw [advanceVectors]
    split_ifs with hall
    · rw [ih, List.flatten_cons, List.drop_append, List.drop_of_length_le hall, List.nil_append]
    · rw [List.flatten_cons, List.flatten_cons, List.drop_append_of_le_length (by omega)]

/-- What has been sent, and what is left of the packet. -/
structure Sending (packet : Bytes) (h : List Event) (w : SendMessage) : Prop where
  taken : sent h <+: packet
  rest : ∀ k, w.bytesSentOrError = some k → (sent h).length = k ∧ sent h ++ w.vectors.flatten = packet
  failed : w.bytesSentOrError = none → (sent h).length < packet.length

theorem wp_finishTurn {startTime : UInt32} {bytesSentOrError : Option Nat} {sendResult : Nat}
    (hsending : Sending packet h ⟨bytesSentOrError, advanceVectors sendResult vectors⟩) :
    (sendTurn.finishTurn startTime bytesSentOrError sendResult vectors).wp (packet_spec packet)
      (fun o t => o.elim (fun w => Sending packet t w) fun r => sent t <+: packet ∧
        (r = some packet.length ↔ sent t = packet)) h := by
  refine Program.wp_history_bind trivial fun now => Program.wp_ite (fun _ => ?_) fun _ => ?_
  · refine ⟨hsending.taken, ?_⟩
    cases bytesSentOrError with
    | none =>
      refine iff_of_false (fun hr => nomatch hr) fun hall => ?_
      exact (hsending.failed rfl).ne (congrArg List.length hall)
    | some k =>
      obtain ⟨hlength, -⟩ := hsending.rest k rfl
      constructor
      · intro hr
        exact hsending.taken.eq_of_length (hlength.trans (Option.some.inj hr))
      · intro hall
        rw [← hlength, show sent h = packet from hall]
  · exact ⟨hsending.taken, hsending.rest, hsending.failed⟩

/-- A turn keeps to the packet, whatever the transport takes of it. -/
theorem wp_sendTurn {startTime : UInt32} {w : SendMessage} (hsending : Sending packet h w) :
    (sendTurn startTime packet.length w).wp (packet_spec packet)
      (fun o t => o.elim (fun w => Sending packet t w) fun r => sent t <+: packet ∧
        (r = some packet.length ↔ sent t = packet)) h := by
  obtain ⟨bytesSentOrError, vectors⟩ := w
  have hdone (k : Nat) (hk : bytesSentOrError = some k) : some k = some packet.length ↔ sent h = packet := by
    obtain ⟨hlength, -⟩ := hsending.rest k hk
    refine ⟨fun hr => hsending.taken.eq_of_length (hlength.trans (Option.some.inj hr)), fun hall => ?_⟩
    rw [← hlength, hall]
  cases hsent : bytesSentOrError with
  | none =>
    refine ⟨hsending.taken, iff_of_false (fun hr => nomatch hr) fun hall => ?_⟩
    exact (hsending.failed hsent).ne (congrArg List.length hall)
  | some k =>
    obtain ⟨hlength, hrest⟩ := hsending.rest k hsent
    cases hvectors : vectors with
    | nil => exact ⟨hsending.taken, hdone k hsent⟩
    | cons v vectors =>
      subst hvectors
      simp only [List.flatten_cons] at hrest
      refine Program.wp_ite (fun hmore => ?_) fun _ => ⟨hsending.taken, hdone k hsent⟩
      have hallowed : sent h ++ v <+: packet := by
        rw [← hrest, ← List.append_assoc]
        exact List.prefix_append _ _
      refine Program.wp_history_bind hallowed fun r => ?_
      cases r with
      | none =>
        refine Program.wp_ite (fun hr => nomatch hr) fun _ => ?_
        exact wp_finishTurn ⟨hsending.taken, fun k hk => (nomatch hk), fun _ => hlength.trans_lt hmore⟩
      | some taken =>
        have hfits := taken.property
        have hnext : Sending packet (⟨.send v, some taken⟩ :: h)
            ⟨some (k + taken.val), advanceVectors taken.val (v :: vectors)⟩ := by
          have hall : sent h ++ v.take taken.val ++ (v :: vectors).flatten.drop taken.val = packet := by
            rw [List.flatten_cons, List.drop_append_of_le_length hfits, ← hrest]
            simp only [List.append_assoc]
            rw [← List.append_assoc (v.take taken.val), List.take_append_drop]
          refine ⟨?_, ?_, fun hr => nomatch hr⟩
          · rw [← hall]
            exact List.prefix_append _ _
          · rintro _ ⟨⟩
            refine ⟨?_, ?_⟩
            · rw [sent, List.length_append, List.length_take_of_le hfits, hlength]
            · rw [flatten_advanceVectors]
              exact hall
        refine Program.wp_ite (fun _ => ?_) fun _ => wp_finishTurn hnext
        exact Program.wp_history_bind trivial fun _ => wp_finishTurn ⟨hnext.taken, hnext.rest, hnext.failed⟩

theorem wp_sendMessageVector (vectors : List Bytes) :
    (sendMessageVector vectors).wp (packet_spec vectors.flatten)
      (fun r t => sent t <+: vectors.flatten ∧
        (r = some vectors.flatten.length ↔ sent t = vectors.flatten)) [] := by
  refine Program.wp_history_bind trivial fun startTime => ?_
  refine Program.wp_repeated (fun w t => Sending vectors.flatten t w) ?_ fun w t => wp_sendTurn
  refine ⟨List.nil_prefix, ?_, fun hr => nomatch hr⟩
  rintro _ ⟨⟩
  exact ⟨rfl, List.nil_append _⟩

private theorem sent_of_respects (h : Program.Respects (Continues packet) t) : sent t <+: packet := by
  induction t with
  | nil => exact List.nil_prefix
  | cons e t ih =>
    obtain ⟨hallowed, hbefore⟩ := h
    obtain ⟨a, r⟩ := e
    cases a with
    | getTime => exact ih hbefore
    | send bytes =>
      cases r with
      | none => exact ih hbefore
      | some taken => exact ((List.prefix_append_right_inj _).mpr (List.take_prefix _ _)).trans hallowed

/-- The vectors of a PUBLISH are the packet that the serializer writes. -/
theorem flatten_publishVectors (info : MQTTPublishInfo) (packetId : UInt16) (remainingLength : Nat) :
    (publishVectors info (MQTT_SerializePublishHeaderWithoutTopic info remainingLength) packetId).flatten =
      serializePublishCommon info remainingLength packetId true := by
  unfold publishVectors MQTT_SerializePublishHeaderWithoutTopic serializePublishCommon
    encodeString packetIdBytes
  split_ifs <;> simp_all

/-- While a PUBLISH is sent, whatever the transport takes at a time, it has taken the beginning of what the
serializer writes for it; and the sender has success where it has taken all of it. -/
theorem publish_on_the_wire
    (hsizes : MQTT_GetPublishPacketSize info = .ok (remainingLength, packetSize))
    (hserialize : MQTT_SerializePublish info packetId remainingLength size = .ok bytes)
    (oracle : (a : Action) → List Event → a.Answer) (n : Nat) :
    sent ((MQTT_Publish_send info packetId).recorded oracle n).2 <+: bytes ∧
      ∀ status ∈ ((MQTT_Publish_send info packetId).recorded oracle n).1.result,
        status = .MQTTSuccess ↔ sent ((MQTT_Publish_send info packetId).recorded oracle n).2 = bytes := by
  obtain ⟨-, -, -, rfl⟩ := serialized hserialize
  have hwp : (MQTT_Publish_send info packetId).wp
      (packet_spec (serializePublishCommon info remainingLength packetId true))
      (fun status t => status = .MQTTSuccess ↔
        sent t = serializePublishCommon info remainingLength packetId true)
      [] := by
    unfold MQTT_Publish_send
    rw [hsizes, ← flatten_publishVectors]
    refine Program.wp_seq (Program.wp_mono ?_ (wp_sendMessageVector _))
    rintro r t ⟨-, hr⟩
    refine Iff.trans ?_ hr
    split_ifs with hall
    · exact iff_of_true rfl hall
    · exact iff_of_false (fun h => nomatch h) hall
  refine ⟨sent_of_respects (Program.respects_recorded hwp n), fun status hresult => ?_⟩
  have hend := @Program.wp_recorded _ _ _ oracle _ _ _ hwp n
  generalize ((MQTT_Publish_send info packetId).recorded oracle n).1 = code at hend hresult
  cases code with
  | ret a =>
    cases Option.some.inj hresult
    exact hend
  | _ => cases hresult

/-- A transport that takes three bytes at a time. -/
def byThrees : (a : Action) → List Event → a.Answer
  | .send bytes, _ => some ⟨min 3 bytes.length, Nat.min_le_right ..⟩
  | .getTime, _ => (0 : UInt32)

theorem reading_on_the_wire :
    sent ((MQTT_Publish_send readingInfo 258).recorded byThrees 30).2 <+: reading ∧
      ∀ status ∈ ((MQTT_Publish_send readingInfo 258).recorded byThrees 30).1.result,
        status = .MQTTSuccess ↔ sent ((MQTT_Publish_send readingInfo 258).recorded byThrees 30).2 = reading :=
  publish_on_the_wire rfl reading_serialized byThrees 30

end coremqtt.wire.sender
