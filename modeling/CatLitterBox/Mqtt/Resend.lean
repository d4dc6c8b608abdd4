import CatLitterBox.Mqtt.Operations
import CatLitterBox.Temporal.Run

open text blocks coremqtt temporal

namespace catbox.session

open catbox.mqtt

/-- The topic and the payload of the latest publish under a number, other than a duplicate. -/
def original (packetId : Nat) : List Packet → Option (Bytes × Bytes)
  | [] => none
  | .SUBSCRIBE _ _ :: past => original packetId past
  | .PUBLISH id info topic payload :: past =>
    if id = packetId ∧ info.dup = false then some (topic, payload) else original packetId past

/-- The slot designates live blocks with the topic and the payload of its publish. -/
def Client.Kept (s : Client) (packet : PublishPackets) : Prop :=
  ∃ topic payload, original packet.packetId s.wire = some (topic, payload) ∧
    s.memory.Designates packet.pubInfo.pTopicName packet.pubInfo.topicNameLength topic ∧
    s.memory.Designates packet.pubInfo.pPayload packet.pubInfo.payloadLength payload

/-- Every duplicate carries the topic and the payload of the original. -/
def Faithful : List Packet → Prop
  | [] => True
  | .SUBSCRIBE _ _ :: past => Faithful past
  | .PUBLISH id info topic payload :: past =>
    (info.dup = true → original id past = some (topic, payload)) ∧ Faithful past

instance decidableFaithful : (wire : List Packet) → Decidable (Faithful wire)
  | [] => .isTrue trivial
  | .SUBSCRIBE _ _ :: past => decidableFaithful past
  | .PUBLISH _ _ _ _ :: past => @instDecidableAnd _ _ inferInstance (decidableFaithful past)

/-- Every publish without a PUBACK is kept as it was, and has been sent again as it was. -/
structure Client.Intact (s : Client) : Prop where
  kept : ∀ packet ∈ s.outgoingPublishPackets, packet.packetId ≠ MQTT_PACKET_ID_INVALID → s.Kept packet
  resent : Faithful s.wire

/-- A publish of a text is accepted: it has a topic, there is a slot, the library can take it
and so does the transport. -/
def Client.AcceptsText (s : Client) (topic : Option Bytes) (text : Bytes) (transport : Bool) : Prop :=
  ∃ topic', topic = some topic' ∧ s.Accepts (s.text_publish (text ++ [0]) (snprintf 100 topic')) transport

/-- The move sends a new publish that is accepted. -/
def Accepted (s : Client) : Move → Prop
  | .Send_cJSON_Messege cmd mac (some text) transport =>
    s.AcceptsText (some (SERVER_TX_TOPIC cmd mac)) text transport
  | .Send_cJSON_Messege_for_tracker p (some text) transport => s.AcceptsText (tracker_topic p) text transport
  | _ => False

/-- Nothing is kept, and what has been sent again was right. -/
structure Client.Idle (s : Client) : Prop where
  slots : ∀ packet ∈ s.outgoingPublishPackets, packet = .free
  resent : Faithful s.wire

theorem Client.Idle.intact {s : Client} (h : s.Idle) : s.Intact where
  kept := by
    intro packet hpacket hid
    exact absurd (h.slots packet hpacket ▸ rfl) hid
  resent := h.resent

/-- An idle client designates all its buffers. -/
theorem Client.Idle.tidy {s : Client} (h : s.Idle) : s.Tidy := fun packet hpacket _ => h.slots packet hpacket

/-- An accepted publish is kept, but its buffers are gone when the sender returns. -/
theorem publish_text_dangling {s : Client} (h : s.Idle) {topic : Option Bytes}
    {text : Bytes} {transport : Bool}
    (haccepts : s.AcceptsText topic text transport) : ¬ (s.publish_text topic text transport).Intact := by
  obtain ⟨topic', rfl, haccepts⟩ := haccepts
  obtain ⟨after, hpublishing, hresult⟩ := publish_text_publishing h.tidy topic' text transport
  intro hintact
  rw [hresult] at hintact
  cases hpublishing with
  | dropped _ records hnot keeps => exact hnot ⟨haccepts.slot, haccepts.takes⟩
  | kept _ records index _ hfree pending others =>
    have hlt : index < s.outgoingPublishPackets.length := (List.getElem?_eq_some_iff.mp hfree).1
    have hmem := List.mem_set hlt
      (⟨s.mqttContext.nextPacketId, s.text_publish (text ++ [0]) (snprintf 100 topic')⟩ : PublishPackets)
    obtain ⟨_, payload, -, -, hdesignates⟩ :=
      hintact.kept _ hmem (validatePublishParams_id haccepts.takes.valid)
    exact free_dead.free.not_designates hdesignates

theorem publish_text_idle {s : Client} (h : s.Idle) {topic : Option Bytes} {text : Bytes} {transport : Bool}
    (hnot : ¬ s.AcceptsText topic text transport) : (s.publish_text topic text transport).Idle := by
  cases topic with
  | none => exact ⟨h.slots, h.resent⟩
  | some topic =>
    obtain ⟨after, hpublishing, hresult⟩ := publish_text_publishing h.tidy topic text transport
    rw [hresult]
    cases hpublishing with
    | dropped _ records _ keeps => exact ⟨h.slots, h.resent⟩
    | kept _ records index haccepts hfree pending others =>
        exact absurd ⟨topic, rfl, ⟨haccepts.slot, haccepts.takes⟩⟩ hnot

/-- Where no slot is taken, nothing is sent again. -/
theorem resend_idle {memory : Store UInt8} {context : Context}
    {packets : List PublishPackets} {transport : List Bool}
    {records : List PubAckInfo} {wire : List Packet} (h : ∀ packet ∈ packets, packet = .free) :
    resend memory context packets transport records wire = (true, packets, records, wire) := by
  induction packets generalizing transport with
  | nil => rfl
  | cons packet packets ih =>
    obtain rfl : packet = .free := h packet List.mem_cons_self
    have hfree : ¬ PublishPackets.free.packetId ≠ MQTT_PACKET_ID_INVALID := not_not.mpr rfl
    unfold resend
    rw [if_neg hfree, ih fun p hp => h p (List.mem_cons_of_mem _ hp)]

theorem establish_idle {s : Client} (h : s.Idle) (connack : Connack) (transport : List Bool) :
    (s.EstablishMqttSession connack transport).2.Idle := by
  cases connack with
  | unreachable => exact ⟨h.slots, h.resent⟩
  | refused => exact ⟨h.slots, h.resent⟩
  | accepted sessionPresent =>
    cases sessionPresent with
    | true =>
      simp only [Client.EstablishMqttSession, Client.handlePublishResend, resend_idle h.slots]
      exact ⟨h.slots, h.resent⟩
    | false =>
      refine ⟨?_, h.resent⟩
      intro packet hpacket
      obtain ⟨_, -, rfl⟩ := List.mem_map.mp hpacket
      rfl

private theorem cleanup_free {packets : List PublishPackets} {packetId : Nat} {packet : PublishPackets}
    (h : packet ∈ cleanupOutgoingPublishWithPacketID packets packetId) :
    packet ∈ packets ∨ packet = .free := by
  unfold cleanupOutgoingPublishWithPacketID at h
  split at h
  · exact List.mem_or_eq_of_mem_set h
  · exact .inl h

private theorem puback_idle {s : Client} (h : s.Idle) (packetId : Nat) : (s.handlePublishAcks packetId).Idle := by
  unfold Client.handlePublishAcks
  simp only
  split_ifs
  · exact h
  · refine ⟨?_, h.resent⟩
    intro packet hpacket
    obtain hold | hfree := cleanup_free hpacket
    · exact h.slots packet hold
    · exact hfree
  · exact ⟨h.slots, h.resent⟩

private theorem subscribe_idle {s : Client} (h : s.Idle) (topic : Bytes) (transport : Bool) :
    (s.SubscribeToTopic topic transport).Idle := by
  refine ⟨h.slots, ?_⟩
  unfold Client.SubscribeToTopic
  simp only
  split_ifs
  · exact h.resent
  · exact h.resent

theorem step_idle {s : Client} (h : s.Idle) (m : Move) (hnot : ¬ Accepted s m) : (s.step m).Idle := by
  cases m with
  | Send_cJSON_Messege cmd mac text transport =>
    cases text with
    | none => exact h
    | some text => exact publish_text_idle h hnot
  | Send_cJSON_Messege_for_tracker p text transport =>
    cases text with
    | none => exact h
    | some text => exact publish_text_idle h hnot
  | SubscribeToTopic cmd mac transport => exact subscribe_idle h _ transport
  | PUBACK packetId => exact puback_idle h packetId
  | EstablishMqttSession connack transport => exact establish_idle h connack transport
  | DisconnectMqttSession => exact h
  | reuse block content => exact ⟨h.slots, h.resent⟩

private theorem step_dangling {s : Client} (h : s.Idle) (m : Move)
    (haccepted : Accepted s m) : ¬ (s.step m).Intact := by
  cases m with
  | Send_cJSON_Messege cmd mac text transport =>
    cases text with
    | none => exact haccepted.elim
    | some text => exact publish_text_dangling h haccepted
  | Send_cJSON_Messege_for_tracker p text transport =>
    cases text with
    | none => exact haccepted.elim
    | some text => exact publish_text_dangling h haccepted
  | _ => exact haccepted.elim

theorem step_intact_iff (s : Client) (m : Move) (h : s.Idle) : (s.step m).Intact ↔ ¬ Accepted s m := by
  constructor
  · intro hintact haccepted
    exact step_dangling h m haccepted hintact
  · intro hnot
    exact (step_idle h m hnot).intact

theorem boot_idle : Client.boot.Idle where
  slots := fun _ hpacket => List.eq_of_mem_replicate hpacket
  resent := trivial

/-- Every publish without a PUBACK is kept and sent again as it was, in every state of a run,
exactly if the run has no publish that is accepted. -/
theorem resend_integrity_iff (moves : List Move) :
    (∀ past, past <+: moves → (past.foldl Client.step Client.boot).Intact) ↔
      Along Client.step (fun s m => ¬ Accepted s m) Client.boot moves := by
  have hstep (s : Client) (m : Move) (_ : s.Intact) : (s.step m).Intact ↔ (s.step m).Intact := Iff.rfl
  have hstates : Along Client.step (fun s m => (s.step m).Intact) Client.boot moves ↔
      ∀ past, past <+: moves → (past.foldl Client.step Client.boot).Intact := along_iff hstep boot_idle.intact
  rw [← hstates]
  refine along_congr (I := Client.Idle) ?_ step_intact_iff boot_idle
  intro s m h hintact
  exact step_idle h m ((step_intact_iff s m h).mp hintact)

/-- A publish without a PUBACK, after which its text's memory is used for something else and
the session is resumed. -/
def resumed_moves : List Move :=
  [.EstablishMqttSession (.accepted false) [],
    .Send_cJSON_Messege .MESSEGE_BOOT (zeros 6) (some [123, 125]) true,
    .DisconnectMqttSession, .reuse 0 (ascii "other"), .EstablishMqttSession (.accepted true) [true]]

/-- The publish is sent again with what its text's memory holds then. -/
theorem resumed_session_resends_other_text :
    ¬ ∀ moves : List Move, ∀ past, past <+: moves → (past.foldl Client.step Client.boot).Intact := by
  intro hall
  have hresent : Faithful (resumed_moves.foldl Client.step Client.boot).wire :=
    (hall resumed_moves resumed_moves (List.prefix_refl _)).resent
  exact absurd hresent (by decide +kernel)

end catbox.session
