import CatLitterBox.Mqtt.Exchange

open coremqtt.wire

namespace coremqtt.state

/-- What may happen next. A PUBLISH that comes in is given to the application only where no exchange of its
packet is going on. A PUBACK or a PUBREC is sent only while there is one: it may be of the other quality of
service, as a PUBLISH that is repeated is acknowledged in its own. A PUBCOMP answers a PUBREL. -/
def Allowed : Event → List Event → Prop
  | .delivered p qos, h => qos ≠ .MQTTQoS0 → receiving h p = none
  | .acknowledged .MQTTPubrel p, h =>
    sending h p = some (.MQTTQoS2, .MQTTPubRelSend) ∨ sending h p = some (.MQTTQoS2, .MQTTPubCompPending)
  | .acknowledged .MQTTPubcomp p, h => receiving h p = some (.MQTTQoS2, .MQTTPubCompSend)
  | .acknowledged _ p, h => receiving h p ≠ none
  | .received .MQTTPubrel p, h =>
    receiving h p = some (.MQTTQoS2, .MQTTPubRelPending) ∨ receiving h p = some (.MQTTQoS2, .MQTTPubCompSend)
  | .received .MQTTPuback p, h => sending h p = some (.MQTTQoS1, .MQTTPubAckPending)
  | .received .MQTTPubrec p, h => sending h p = some (.MQTTQoS2, .MQTTPubRecPending)
  | .received .MQTTPubcomp p, h => sending h p = some (.MQTTQoS2, .MQTTPubCompPending)
  | .reserved p _, h => sending h p = none
  | .published p qos, h => qos ≠ .MQTTQoS0 → sending h p ≠ none
  | .cleared, _ => True

/-- All that has happened was allowed when it did. -/
def Orderly : List Event → Prop
  | [] => True
  | e :: h => Allowed e h ∧ Orderly h

/-- The records are as the history says, which is orderly. -/
structure Client.Sound (outgoing incoming : Nat) (s : Client) : Prop where
  outgoing : Tidy outgoing s.context.outgoingPublishRecords
  incoming : Tidy incoming s.context.incomingPublishRecords
  sending : view s.context.outgoingPublishRecords = sending s.history
  receiving : view s.context.incomingPublishRecords = receiving s.history
  orderly : Orderly s.history

variable {s : Client} {outgoing incoming p : Nat} {x : Exchange}
  {exchanges : Nat → Option Exchange} {h : List Event}
  {ackType : MQTTPubAckType} {qos : MQTTQoS} {publishState : MQTTPublishState} {sent : Bool}

/-- What comes in is acknowledged as the state engine has it. -/
theorem receiver_acknowledged (hreceiving : ∀ x ∈ exchanges p, Receiving x) (hack : ackType ≠ .MQTTPubrel) :
    receiver exchanges (.acknowledged ackType p) =
      advance (fun x => MQTT_CalculateStateAck ackType .MQTT_SEND x.1) exchanges p := by
  cases hx : exchanges p with
  | none =>
    rw [advance_none hx]
    cases ackType with
    | MQTTPubrel => rfl
    | _ => exact if_neg (by rw [hx]; exact nofun)
  | some x =>
    rw [advance_some hx]
    obtain rfl | rfl | rfl | rfl := hreceiving x hx
    all_goals
      cases ackType with
      | MQTTPubrel => exact absurd rfl hack
      | _ => simp [receiver, hx, MQTT_CalculateStateAck, validateTransitionAck]

theorem sender_acknowledged (hsending : ∀ x ∈ exchanges p, Sending x) :
    sender exchanges (.acknowledged .MQTTPubrel p) =
      advance (fun x => MQTT_CalculateStateAck .MQTTPubrel .MQTT_SEND x.1) exchanges p := by
  cases hx : exchanges p with
  | none =>
    rw [advance_none hx]
    exact if_neg (by rw [hx]; exact nofun)
  | some x =>
    rw [advance_some hx]
    obtain rfl | rfl | rfl | rfl | rfl | rfl := hsending x hx
    all_goals simp [sender, hx, MQTT_CalculateStateAck, validateTransitionAck]

/-- A PUBREL that the state engine accepts. -/
theorem receiver_received (hreceiving : ∀ x ∈ exchanges p, Receiving x) (hx : exchanges p = some x)
    (hvalid : validateTransitionAck x.2 (MQTT_CalculateStateAck .MQTTPubrel .MQTT_RECEIVE x.1) = true) :
    (x = (.MQTTQoS2, .MQTTPubRelPending) ∨ x = (.MQTTQoS2, .MQTTPubCompSend)) ∧
      receiver exchanges (.received .MQTTPubrel p) =
        advance (fun x => MQTT_CalculateStateAck .MQTTPubrel .MQTT_RECEIVE x.1) exchanges p := by
  rw [advance_some hx]
  obtain rfl | rfl | rfl | rfl := hreceiving x hx
  · cases hvalid
  · cases hvalid
  · exact ⟨.inl rfl, rfl⟩
  · exact ⟨.inr rfl, rfl⟩

/-- An acknowledgment of what has gone out that the state engine accepts. -/
theorem sender_received (hsending : ∀ x ∈ exchanges p, Sending x) (hx : exchanges p = some x)
    (hack : ackType ≠ .MQTTPubrel)
    (hvalid : validateTransitionAck x.2 (MQTT_CalculateStateAck ackType .MQTT_RECEIVE x.1) = true) :
    (ackType = .MQTTPuback ∧ x = (.MQTTQoS1, .MQTTPubAckPending) ∨
        ackType = .MQTTPubrec ∧ x = (.MQTTQoS2, .MQTTPubRecPending) ∨
        ackType = .MQTTPubcomp ∧ x = (.MQTTQoS2, .MQTTPubCompPending)) ∧
      sender exchanges (.received ackType p) =
        advance (fun x => MQTT_CalculateStateAck ackType .MQTT_RECEIVE x.1) exchanges p := by
  rw [advance_some hx]
  cases ackType with
  | MQTTPubrel => exact absurd rfl hack
  | MQTTPuback =>
    obtain rfl | rfl | rfl | rfl | rfl | rfl := hsending x hx
    all_goals first | exact ⟨.inl ⟨rfl, rfl⟩, rfl⟩ | cases hvalid
  | MQTTPubrec =>
    obtain rfl | rfl | rfl | rfl | rfl | rfl := hsending x hx
    all_goals first | exact ⟨.inr (.inl ⟨rfl, rfl⟩), rfl⟩ | cases hvalid
  | MQTTPubcomp =>
    obtain rfl | rfl | rfl | rfl | rfl | rfl := hsending x hx
    all_goals first | exact ⟨.inr (.inr ⟨rfl, rfl⟩), rfl⟩ | cases hvalid

/-- What is recorded of an outgoing publish is a state of the sender. -/
theorem Client.Sound.sending_sending (hs : s.Sound outgoing incoming) (p : Nat) :
    ∀ x ∈ view s.context.outgoingPublishRecords p, Sending x := by
  rw [hs.sending]
  exact state.sending_sending s.history p

/-- What is recorded of an incoming one is a state of the receiver. -/
theorem Client.Sound.receiving_receiving (hs : s.Sound outgoing incoming) (p : Nat) :
    ∀ x ∈ view s.context.incomingPublishRecords p, Receiving x := by
  rw [hs.receiving]
  exact state.receiving_receiving s.history p

/-- An acknowledgment that is sent where it is allowed. -/
theorem sendPublishAcks_sound (hs : s.Sound outgoing incoming) (p : Nat)
    (publishState : MQTTPublishState) (sent : Bool)
    (hallowed : ∀ ackType ∈ getAckTypeToSend publishState, Allowed (.acknowledged ackType p) s.history) :
    (sendPublishAcks s p publishState sent).2.Sound outgoing incoming ∧
      s.history <:+ (sendPublishAcks s p publishState sent).2.history := by
  unfold sendPublishAcks
  cases hack : getAckTypeToSend publishState with
  | none => exact ⟨hs, List.suffix_rfl⟩
  | some ackType =>
    have hallow := hallowed ackType hack
    by_cases hsent : p ≠ MQTT_PACKET_ID_INVALID ∧ sent = true
    · simp only [if_pos hsent]
      by_cases hrel : ackType = .MQTTPubrel
      · subst hrel
        obtain ⟨status, newState, records', heq, hadvanced⟩ :=
          updateStateAck_spec s.context .MQTTPubrel .MQTT_SEND hs.outgoing hsent.1
        rw [heq]
        refine ⟨⟨hadvanced.tidy, hs.incoming, ?_, hs.receiving, hallow, hs.orderly⟩, List.suffix_cons _ _⟩
        refine hadvanced.view.trans ((sender_acknowledged (hs.sending_sending p)).symm.trans ?_)
        rw [hs.sending]
        rfl
      · have hside : isPublishOutgoing ackType .MQTT_SEND = false := by
          cases ackType with
          | MQTTPubrel => exact absurd rfl hrel
          | _ => rfl
        obtain ⟨status, newState, records', heq, hadvanced⟩ :=
          updateStateAck_spec s.context ackType .MQTT_SEND
            (show Tidy incoming _ by rw [hside]; exact hs.incoming) hsent.1
        rw [hside] at heq hadvanced
        rw [heq]
        have hsame : sender (sending s.history) (.acknowledged ackType p) = sending s.history := by
          cases ackType with
          | MQTTPubrel => exact absurd rfl hrel
          | _ => rfl
        refine ⟨⟨hs.outgoing, hadvanced.tidy, hs.sending.trans hsame.symm, ?_, hallow, hs.orderly⟩,
          List.suffix_cons _ _⟩
        refine hadvanced.view.trans ((receiver_acknowledged (hs.receiving_receiving p) hrel).symm.trans ?_)
        rw [hs.receiving]
        rfl
    · simp only [if_neg hsent]
      exact ⟨hs, List.suffix_rfl⟩

theorem handlePublishAcks_sound (hs : s.Sound outgoing incoming) (ackType : MQTTPubAckType)
    (p : Nat) (sent : Bool) :
    (handlePublishAcks s ackType p sent).2.Sound outgoing incoming := by
  unfold handlePublishAcks
  by_cases hid : p = MQTT_PACKET_ID_INVALID
  · subst hid
    exact hs
  by_cases hrel : ackType = .MQTTPubrel
  · subst hrel
    obtain ⟨status, newState, records', heq, hadvanced⟩ :=
      updateStateAck_spec s.context .MQTTPubrel .MQTT_RECEIVE hs.incoming hid
    rw [heq]
    by_cases hstatus : status = .MQTTSuccess
    · obtain ⟨x, hx, hvalid, rfl⟩ := hadvanced.legal hstatus
      obtain ⟨hform, hreceiver⟩ := receiver_received (hs.receiving_receiving p) hx hvalid
      have hview : view records' = receiving (.received .MQTTPubrel p :: s.history) := by
        refine hadvanced.view.trans (hreceiver.symm.trans ?_)
        rw [hs.receiving]
        rfl
      have hphase : receiving s.history p = some x := by rwa [← hs.receiving]
      have hnext : Client.Sound outgoing incoming
        ⟨s.context.put false records', .received .MQTTPubrel p :: s.history⟩ := by
        refine ⟨hs.outgoing, hadvanced.tidy, hs.sending, hview, ?_, hs.orderly⟩
        obtain rfl | rfl := hform
        · exact .inl hphase
        · exact .inr hphase
      simp only [if_pos hstatus]
      refine (sendPublishAcks_sound hnext p _ sent fun ackType hack => ?_).1
      obtain rfl : MQTTPubAckType.MQTTPubcomp = ackType := by
        obtain rfl | rfl := hform
        · exact Option.some.inj hack
        · exact Option.some.inj hack
      change Function.update (receiving s.history) p (some (.MQTTQoS2, .MQTTPubCompSend)) p = _
      rw [Function.update_self]
    · obtain rfl := hadvanced.refused hstatus
      simp only [if_neg hstatus]
      exact hs
  · have hside : isPublishOutgoing ackType .MQTT_RECEIVE = true := by
      cases ackType with
      | MQTTPubrel => exact absurd rfl hrel
      | _ => rfl
    obtain ⟨status, newState, records', heq, hadvanced⟩ :=
      updateStateAck_spec s.context ackType .MQTT_RECEIVE
        (show Tidy outgoing _ by rw [hside]; exact hs.outgoing) hid
    rw [hside] at heq hadvanced
    rw [heq]
    by_cases hstatus : status = .MQTTSuccess
    · obtain ⟨x, hx, hvalid, rfl⟩ := hadvanced.legal hstatus
      obtain ⟨hform, hsender⟩ := sender_received (hs.sending_sending p) hx hrel hvalid
      have hview : view records' = sending (.received ackType p :: s.history) := by
        refine hadvanced.view.trans (hsender.symm.trans ?_)
        rw [hs.sending]
        rfl
      have hphase : sending s.history p = some x := by rwa [← hs.sending]
      have hsame : receiver (receiving s.history) (.received ackType p) = receiving s.history := by
        cases ackType with
        | MQTTPubrel => exact absurd rfl hrel
        | _ => rfl
      have hnext : Client.Sound outgoing incoming
        ⟨s.context.put true records', .received ackType p :: s.history⟩ := by
        refine ⟨hadvanced.tidy, hs.incoming, hview, hs.receiving.trans hsame.symm, ?_, hs.orderly⟩
        obtain ⟨rfl, rfl⟩ | ⟨rfl, rfl⟩ | ⟨rfl, rfl⟩ := hform
        · exact hphase
        · exact hphase
        · exact hphase
      simp only [if_pos hstatus]
      refine (sendPublishAcks_sound hnext p _ sent fun answer hack => ?_).1
      obtain ⟨rfl, rfl⟩ | ⟨rfl, rfl⟩ | ⟨rfl, rfl⟩ := hform
      · cases hack
      · obtain rfl : MQTTPubAckType.MQTTPubrel = answer := Option.some.inj hack
        left
        change Function.update _ p _ p = _
        rw [Function.update_self]
      · cases hack
    · obtain rfl := hadvanced.refused hstatus
      simp only [if_neg hstatus]
      exact hs

/-- The state that the record of a publish that comes in starts with. -/
theorem validate_received (hqos : qos ≠ .MQTTQoS0) :
    validateTransitionPublish .MQTTStateNull (MQTT_CalculateStatePublish .MQTT_RECEIVE qos) .MQTT_RECEIVE qos =
      true := by
  cases qos with
  | MQTTQoS0 => exact absurd rfl hqos
  | _ => rfl

theorem receiver_delivered (hqos : qos ≠ .MQTTQoS0) (exchanges : Nat → Option Exchange) (p : Nat) :
    receiver exchanges (.delivered p qos) =
      Function.update exchanges p (some (qos, MQTT_CalculateStatePublish .MQTT_RECEIVE qos)) := by
  cases qos with
  | MQTTQoS0 => exact absurd rfl hqos
  | _ => rfl

/-- The acknowledgment of a PUBLISH whose exchange is going on. -/
theorem ack_allowed (hopen : receiving h p ≠ none) :
    ∀ ackType ∈ getAckTypeToSend (MQTT_CalculateStatePublish .MQTT_RECEIVE qos),
      Allowed (.acknowledged ackType p) h := by
  intro ackType hack
  cases qos with
  | MQTTQoS0 => cases hack
  | MQTTQoS1 =>
    obtain rfl : MQTTPubAckType.MQTTPuback = ackType := Option.some.inj hack
    exact hopen
  | MQTTQoS2 =>
    obtain rfl : MQTTPubAckType.MQTTPubrec = ackType := Option.some.inj hack
    exact hopen

/-- What a PUBLISH that comes in leads to. -/
theorem handleIncomingPublish_sound (hs : s.Sound outgoing incoming) (p : Nat) (qos : MQTTQoS) (sent : Bool) :
    (handleIncomingPublish s p qos sent).2.Sound outgoing incoming ∧
      (p ≠ MQTT_PACKET_ID_INVALID → qos ≠ .MQTTQoS0 →
        .delivered p qos :: s.history <:+ (handleIncomingPublish s p qos sent).2.history ∨
        receiving s.history p ≠ none ∨
        incoming ≤ (table.entries MQTTPubAckInfo.key s.context.incomingPublishRecords).length) := by
  unfold handleIncomingPublish MQTT_UpdateStatePublish
  by_cases hqos : qos = .MQTTQoS0
  · subst hqos
    refine ⟨?_, fun _ hne => absurd rfl hne⟩
    have hnext : Client.Sound outgoing incoming ⟨s.context, .delivered p .MQTTQoS0 :: s.history⟩ :=
      ⟨hs.outgoing, hs.incoming, hs.sending, hs.receiving, fun hne => absurd rfl hne, hs.orderly⟩
    exact (sendPublishAcks_sound hnext p .MQTTPublishDone sent nofun).1
  by_cases hid : p = MQTT_PACKET_ID_INVALID
  · subst hid
    simp only [if_neg hqos]
    exact ⟨hs, fun hne => absurd rfl hne⟩
  simp only [if_neg hqos, if_neg hid, updateStatePublish, if_pos (validate_received hqos)]
  have hadds := addRecord_adds hs.incoming hid qos (MQTT_CalculateStatePublish .MQTT_RECEIVE qos)
  generalize addRecord s.context.incomingPublishRecords p qos
    (MQTT_CalculateStatePublish .MQTT_RECEIVE qos) = result
    at hadds ⊢
  cases hadds with
  | added records' htidy hnone _ hview =>
    rw [hs.receiving] at hnone hview
    have hnext : Client.Sound outgoing incoming
        ⟨{ s.context with incomingPublishRecords := records' }, .delivered p qos :: s.history⟩ :=
      ⟨hs.outgoing, htidy, hs.sending, hview.trans (receiver_delivered hqos _ _).symm,
        fun _ => hnone, hs.orderly⟩
    have hopen : receiving (.delivered p qos :: s.history) p ≠ none := by
      change receiver (receiving s.history) _ p ≠ none
      rw [receiver_delivered hqos, Function.update_self]
      exact nofun
    obtain ⟨hsound, hsuffix⟩ := sendPublishAcks_sound hnext p _ sent (ack_allowed hopen)
    exact ⟨hsound, fun _ _ => .inl hsuffix⟩
  | collision records' htidy hsome hview =>
    rw [hs.receiving] at hsome
    have hnext : Client.Sound outgoing incoming
        ⟨{ s.context with incomingPublishRecords := records' }, s.history⟩ :=
      ⟨hs.outgoing, htidy, hs.sending, hview.trans hs.receiving, hs.orderly⟩
    exact ⟨(sendPublishAcks_sound hnext p _ sent (ack_allowed hsome)).1, fun _ _ => .inr (.inl hsome)⟩
  | full records' htidy _ hfull hview =>
    refine ⟨⟨hs.outgoing, htidy, hs.sending, hview.trans hs.receiving, hs.orderly⟩, fun _ _ => .inr (.inr ?_)⟩
    rwa [hs.incoming.length] at hfull

theorem sender_reserved (hqos : qos ≠ .MQTTQoS0) (exchanges : Nat → Option Exchange) (p : Nat) :
    sender exchanges (.reserved p qos) = Function.update exchanges p (some (qos, .MQTTPublishSend)) := by
  cases qos with
  | MQTTQoS0 => exact absurd rfl hqos
  | _ => rfl

/-- A PUBLISH that has been sent, of another quality of service than its exchange. -/
theorem sender_published_other (hx : exchanges p = some x) (hqos : x.1 ≠ qos) :
    sender exchanges (.published p qos) = exchanges := by
  have hne (q : MQTTQoS) (hq : q = qos) : ¬ exchanges p = some (q, .MQTTPublishSend) := by
    rw [hx]
    rintro hsome
    exact hqos ((congrArg Prod.fst (Option.some.inj hsome)).trans hq)
  cases qos with
  | MQTTQoS0 => rfl
  | _ => exact if_neg (hne _ rfl)

private theorem sender_published (hsending : ∀ x ∈ exchanges p, Sending x)
    (hx : exchanges p = some (qos, publishState)) :
    sender exchanges (.published p qos) =
      if validateTransitionPublish publishState (MQTT_CalculateStatePublish .MQTT_SEND qos) .MQTT_SEND qos then
        Function.update exchanges p (some (qos, MQTT_CalculateStatePublish .MQTT_SEND qos))
      else exchanges := by
  have hform := hsending _ hx
  simp only [Sending, Prod.mk.injEq] at hform
  obtain ⟨rfl, rfl⟩ | ⟨rfl, rfl⟩ | ⟨rfl, rfl⟩ | ⟨rfl, rfl⟩ | ⟨rfl, rfl⟩ | ⟨rfl, rfl⟩ := hform
  · simp [sender, hx, validateTransitionPublish, MQTT_CalculateStatePublish]
  · simp [sender, hx, validateTransitionPublish, MQTT_CalculateStatePublish]
  · have hsame := Function.update_eq_self p exchanges
    rw [hx] at hsame
    exact (if_neg (by simp [hx])).trans hsame.symm
  · have hsame := Function.update_eq_self p exchanges
    rw [hx] at hsame
    exact (if_neg (by simp [hx])).trans hsame.symm
  · simp [sender, hx, validateTransitionPublish]
  · simp [sender, hx, validateTransitionPublish]

/-- After a PUBLISH has been sent. -/
theorem updateStatePublish_sound (hs : s.Sound outgoing incoming) (p : Nat) (qos : MQTTQoS)
    (hid : qos ≠ .MQTTQoS0 → p ≠ MQTT_PACKET_ID_INVALID)
    (hopen : qos ≠ .MQTTQoS0 → sending s.history p ≠ none) :
    Client.Sound outgoing incoming
      ⟨(MQTT_UpdateStatePublish s.context p .MQTT_SEND qos).2.2, .published p qos :: s.history⟩ := by
  unfold MQTT_UpdateStatePublish
  by_cases hqos : qos = .MQTTQoS0
  · subst hqos
    exact ⟨hs.outgoing, hs.incoming, hs.sending, hs.receiving, hopen, hs.orderly⟩
  have hsame (records' : List MQTTPubAckInfo) (htidy : Tidy outgoing records')
      (hview : view records' = sender (view s.context.outgoingPublishRecords) (.published p qos)) :
      Client.Sound outgoing incoming
        ⟨{ s.context with outgoingPublishRecords := records' }, .published p qos :: s.history⟩ := by
    refine ⟨htidy, hs.incoming, hview.trans ?_, hs.receiving, hopen, hs.orderly⟩
    rw [hs.sending]
    rfl
  simp only [if_neg hqos, if_neg (hid hqos)]
  cases hfind : findInRecord s.context.outgoingPublishRecords p with
  | none =>
    have hnone := findInRecord_none (hid hqos) hfind
    rw [hs.sending] at hnone
    exact absurd hnone (hopen hqos)
  | some found =>
    obtain ⟨index, record⟩ := found
    have hfound := findInRecord_found (hid hqos) hfind
    by_cases hother : record.qos ≠ qos
    · simp only [if_pos hother]
      exact hsame _ hs.outgoing (sender_published_other hfound.view hother).symm
    · obtain rfl := not_not.mp hother
      have hsender := sender_published (hs.sending_sending p) hfound.view
      simp only [if_neg hother, updateStatePublish]
      by_cases hvalid : validateTransitionPublish record.publishState
          (MQTT_CalculateStatePublish .MQTT_SEND record.qos) .MQTT_SEND record.qos = true
      · rw [if_pos hvalid] at hsender
        simp only [if_pos hvalid]
        by_cases hkeeps : record.publishState = MQTT_CalculateStatePublish .MQTT_SEND record.qos
        · rw [← hkeeps, ← hfound.view, Function.update_eq_self] at hsender
          simp only [ne_eq, hkeeps, not_true_eq_false, if_false]
          exact hsame _ hs.outgoing hsender.symm
        · obtain ⟨htidy, hview⟩ := updateRecord_state hfound hs.outgoing
            (MQTT_CalculateStatePublish .MQTT_SEND record.qos)
          simp only [ne_eq, hkeeps, not_false_eq_true, if_true]
          exact hsame _ htidy (hview.trans hsender.symm)
      · rw [if_neg hvalid] at hsender
        simp only [if_neg hvalid]
        exact hsame _ hs.outgoing hsender.symm

theorem sendPublish_sound (hs : s.Sound outgoing incoming) (p : Nat) (qos : MQTTQoS) (sent : Bool)
    (hid : qos ≠ .MQTTQoS0 → p ≠ MQTT_PACKET_ID_INVALID)
    (hopen : qos ≠ .MQTTQoS0 → sending s.history p ≠ none) :
    (sendPublish s p qos sent).2.Sound outgoing incoming := by
  cases sent with
  | false => exact hs
  | true => exact updateStatePublish_sound hs p qos hid hopen

theorem publish_sound (hs : s.Sound outgoing incoming) (p : Nat) (qos : MQTTQoS) (dup sent : Bool) :
    (MQTT_Publish s p qos dup sent).2.Sound outgoing incoming := by
  unfold MQTT_Publish MQTT_ReserveState
  by_cases hqos : qos = .MQTTQoS0
  · subst hqos
    exact sendPublish_sound hs p .MQTTQoS0 sent (fun hne => absurd rfl hne) fun hne => absurd rfl hne
  by_cases hid : p = MQTT_PACKET_ID_INVALID
  · subst hid
    simp only [if_neg hqos]
    exact hs
  simp only [if_neg hqos, if_neg hid]
  have hadds := addRecord_adds hs.outgoing hid qos .MQTTPublishSend
  generalize addRecord s.context.outgoingPublishRecords p qos .MQTTPublishSend = result at hadds ⊢
  cases hadds with
  | added records' htidy hnone _ hview =>
    rw [hs.sending] at hnone hview
    have hnext : Client.Sound outgoing incoming
        ⟨{ s.context with outgoingPublishRecords := records' }, .reserved p qos :: s.history⟩ :=
      ⟨htidy, hs.incoming, hview.trans (sender_reserved hqos _ _).symm, hs.receiving, hnone, hs.orderly⟩
    refine sendPublish_sound hnext p qos sent (fun _ => hid) fun _ => ?_
    change sender (sending s.history) _ p ≠ none
    rw [sender_reserved hqos, Function.update_self]
    exact nofun
  | collision records' htidy hsome hview =>
    have hnext : Client.Sound outgoing incoming
        ⟨{ s.context with outgoingPublishRecords := records' }, s.history⟩ :=
      ⟨htidy, hs.incoming, hview.trans hs.sending, hs.receiving, hs.orderly⟩
    rw [hs.sending] at hsome
    cases dup with
    | false => exact hnext
    | true => exact sendPublish_sound hnext p qos sent (fun _ => hid) fun _ => hsome
  | full records' htidy _ _ hview =>
    exact ⟨htidy, hs.incoming, hview.trans hs.sending, hs.receiving, hs.orderly⟩

/-- A record that is selected is in one of the states. -/
theorem stateSelect_found {searchStates : List MQTTPublishState} {records : List MQTTPubAckInfo} {cursor : Nat}
    (h : (stateSelect searchStates records cursor).1 ≠ MQTT_PACKET_ID_INVALID) :
    ∃ record ∈ records, record.packetId = (stateSelect searchStates records cursor).1 ∧
      record.publishState ∈ searchStates := by
  induction records generalizing cursor with
  | nil => exact absurd rfl h
  | cons record records ih =>
    unfold stateSelect at h ⊢
    split_ifs at h ⊢ with hstate
    · exact ⟨record, List.mem_cons_self, rfl, hstate⟩
    · obtain ⟨found, hmem, hfound⟩ := ih h
      exact ⟨found, List.mem_cons_of_mem _ hmem, hfound⟩

/-- What is in the records is what the history says. -/
theorem view_of_mem {count : Nat} {records : List MQTTPubAckInfo} (hd : Tidy count records)
    {record : MQTTPubAckInfo}
    (hmem : record ∈ records) (hid : record.packetId ≠ MQTT_PACKET_ID_INVALID) :
    view records record.packetId = some (record.qos, record.publishState) :=
  view_of_lookup (v := some record) (hd.distinct.lookup_of_mem hmem (key_of_ne hid))

private theorem resendPubrels_sound (sent : Nat → Bool) (turns : Nat) (cursor : Nat) (hs : s.Sound outgoing incoming) :
    (resendPubrels sent turns s cursor).2.Sound outgoing incoming := by
  induction turns generalizing s cursor with
  | zero => exact hs
  | succ turns ih =>
    unfold resendPubrels
    cases hselect : MQTT_PubrelToResend s.context cursor with
    | mk p cursor' =>
    by_cases hid : p ≠ MQTT_PACKET_ID_INVALID
    · have hfst : (MQTT_PubrelToResend s.context cursor).1 = p := by rw [hselect]
      unfold MQTT_PubrelToResend at hfst
      obtain ⟨record, hmem, hrecord, hstate⟩ := stateSelect_found (hfst ▸ hid)
      rw [hfst] at hrecord
      subst hrecord
      have hphase := view_of_mem hs.outgoing (List.mem_of_mem_drop hmem) hid
      have hform := hs.sending_sending record.packetId _ hphase
      rw [hs.sending] at hphase
      have hallowed : Allowed (.acknowledged .MQTTPubrel record.packetId) s.history := by
        simp only [List.mem_cons, List.not_mem_nil, or_false] at hstate
        simp only [Sending, Prod.mk.injEq] at hform
        obtain hstate | hstate := hstate
        · right
          rw [hphase, hstate]
          rw [hstate] at hform
          simp at hform
          rw [hform]
        · left
          rw [hphase, hstate]
          rw [hstate] at hform
          simp at hform
          rw [hform]
      have hnext := (sendPublishAcks_sound hs record.packetId .MQTTPubRelSend (sent record.packetId)
        fun ackType hack => Option.some.inj hack ▸ hallowed).1
      simp only [if_pos hid]
      split_ifs
      · exact ih _ hnext
      · exact hnext
    · simp only [if_neg hid]
      exact hs

theorem tidy_clear {count : Nat} {records : List MQTTPubAckInfo} (hd : Tidy count records) :
    Tidy count (records.map fun _ => MQTTPubAckInfo.free) ∧
      view (records.map fun _ => MQTTPubAckInfo.free) = fun _ => none := by
  have hkeys : ∀ record ∈ records.map fun _ => MQTTPubAckInfo.free, record.key = none := by
    intro record hmem
    obtain ⟨-, -, rfl⟩ := List.mem_map.mp hmem
    rfl
  have hnone : (records.map fun _ => MQTTPubAckInfo.free).filterMap MQTTPubAckInfo.key = [] :=
    List.filterMap_eq_nil_iff.mpr hkeys
  refine ⟨⟨List.length_map _ |>.trans hd.length, fun hnil => hd.nonempty (List.map_eq_nil_iff.mp hnil), ?_⟩, ?_⟩
  · unfold table.Distinct
    rw [hnone]
    exact List.nodup_nil
  · funext p
    refine view_of_lookup (v := none) (List.find?_eq_none.mpr fun record hmem => ?_)
    rw [hkeys record hmem]
    exact Bool.false_ne_true

private theorem handleSessionResumption_sound (hs : s.Sound outgoing incoming)
    (sessionPresent : Bool) (sent : Nat → Bool) :
    (handleSessionResumption s sessionPresent sent).2.Sound outgoing incoming := by
  unfold handleSessionResumption
  split_ifs
  · exact resendPubrels_sound sent _ 0 hs
  · obtain ⟨houtgoing, hsending⟩ := tidy_clear hs.outgoing
    obtain ⟨hincoming, hreceiving⟩ := tidy_clear hs.incoming
    exact ⟨houtgoing, hincoming, hsending, hreceiving, trivial, hs.orderly⟩

private theorem init_sound (houtgoing : outgoing ≠ 0) (hincoming : incoming ≠ 0) :
    (Client.init outgoing incoming).Sound outgoing incoming := by
  have hclear (count : Nat) (hcount : count ≠ 0) : Tidy count (List.replicate count MQTTPubAckInfo.free) ∧
      view (List.replicate count MQTTPubAckInfo.free) = fun _ => none := by
    have hkeys : (List.replicate count MQTTPubAckInfo.free).filterMap MQTTPubAckInfo.key = [] :=
      List.filterMap_eq_nil_iff.mpr fun record hmem => List.eq_of_mem_replicate hmem ▸ rfl
    refine ⟨⟨List.length_replicate, fun hnil => hcount ((List.replicate_eq_nil_iff _).mp hnil), ?_⟩, ?_⟩
    · unfold table.Distinct
      rw [hkeys]
      exact List.nodup_nil
    · funext p
      refine view_of_lookup (v := none) (List.find?_eq_none.mpr fun record hmem => ?_)
      rw [List.eq_of_mem_replicate hmem]
      exact Bool.false_ne_true
  obtain ⟨ho, hsending⟩ := hclear outgoing houtgoing
  obtain ⟨hi, hreceiving⟩ := hclear incoming hincoming
  exact ⟨ho, hi, hsending, hreceiving, trivial⟩

/-- Every input leaves the records as the history says, whatever the client does about it. -/
theorem step_sound (hs : s.Sound outgoing incoming) (i : Input) : (s.step i).Sound outgoing incoming := by
  cases i with
  | PUBLISH p qos sent => exact (handleIncomingPublish_sound hs p qos sent).1
  | ack ackType p sent => exact handlePublishAcks_sound hs ackType p sent
  | MQTT_Publish p qos dup sent => exact publish_sound hs p qos dup sent
  | MQTT_Connect sessionPresent sent => exact handleSessionResumption_sound hs sessionPresent sent

/-- So they are after every run, from a client without records. -/
theorem run_sound (houtgoing : outgoing ≠ 0) (hincoming : incoming ≠ 0) (inputs : List Input) :
    (inputs.foldl Client.step (.init outgoing incoming)).Sound outgoing incoming :=
  List.foldlRecOn inputs Client.step (init_sound houtgoing hincoming) fun _ hs i _ => step_sound hs i

/-- In every run of the library, whatever is sent, received or asked for, and whether or not the
transport takes it, the records of either side say of each packet what the automaton of its exchange
makes of the history, and no two of them are of the same packet. -/
theorem records_follow_history (houtgoing : outgoing ≠ 0) (hincoming : incoming ≠ 0) (inputs : List Input) :
    view (inputs.foldl Client.step (.init outgoing incoming)).context.outgoingPublishRecords =
        sending (inputs.foldl Client.step (.init outgoing incoming)).history ∧
      view (inputs.foldl Client.step (.init outgoing incoming)).context.incomingPublishRecords =
        receiving (inputs.foldl Client.step (.init outgoing incoming)).history ∧
      Tidy outgoing (inputs.foldl Client.step (.init outgoing incoming)).context.outgoingPublishRecords ∧
      Tidy incoming (inputs.foldl Client.step (.init outgoing incoming)).context.incomingPublishRecords :=
  have hs := run_sound houtgoing hincoming inputs
  ⟨hs.sending, hs.receiving, hs.outgoing, hs.incoming⟩

/-- A publish of QoS 2 is received again over a connection that was lost, and finished; meanwhile two publishes
go out, of which one is resent after a failed send, and one waits for its PUBREL to be sent. -/
def twice : List Input :=
  [.PUBLISH 7 .MQTTQoS2 false, .MQTT_Publish 3 .MQTTQoS1 false false, .MQTT_Connect true fun _ => true,
    .MQTT_Publish 3 .MQTTQoS1 true true, .MQTT_Publish 4 .MQTTQoS2 false true, .PUBLISH 7 .MQTTQoS2 true,
    .ack .MQTTPuback 3 true, .ack .MQTTPubrec 4 false, .ack .MQTTPubrel 7 true, .PUBLISH 7 .MQTTQoS1 true]

theorem twice_follows_history :
    view (twice.foldl Client.step (.init 10 10)).context.outgoingPublishRecords =
        sending (twice.foldl Client.step (.init 10 10)).history ∧
      view (twice.foldl Client.step (.init 10 10)).context.incomingPublishRecords =
        receiving (twice.foldl Client.step (.init 10 10)).history ∧
      Tidy 10 (twice.foldl Client.step (.init 10 10)).context.outgoingPublishRecords ∧
      Tidy 10 (twice.foldl Client.step (.init 10 10)).context.incomingPublishRecords :=
  records_follow_history (by decide) (by decide) twice

/-- The exchange of a publish that comes in with a quality of service ends: its last acknowledgment is sent, or
the session is a new one. -/
def Ends (p : Nat) (qos : MQTTQoS) : Event → Prop
  | .acknowledged .MQTTPuback q => q = p ∧ qos = .MQTTQoS1
  | .acknowledged .MQTTPubcomp q => q = p ∧ qos = .MQTTQoS2
  | .cleared => True
  | _ => False

/-- An exchange that does not end stays open in its quality of service, whatever else is allowed. -/
theorem receiving_step {e : Event} (hallowed : Allowed e h)
    (hopen : ∃ state, receiving h p = some (qos, state)) (hends : ¬ Ends p qos e) :
    ∃ state, receiving (e :: h) p = some (qos, state) := by
  obtain ⟨state, hopen⟩ := hopen
  have hother (q : Nat) (v : Option Exchange) (hq : q ≠ p) :
      ∃ state, Function.update (receiving h) q v p = some (qos, state) :=
    ⟨state, by rw [Function.update_of_ne (Ne.symm hq), hopen]⟩
  change ∃ state, receiver (receiving h) e p = some (qos, state)
  unfold receiver
  split
  · next q =>
    refine hother q _ ?_
    rintro rfl
    rw [hallowed nofun] at hopen
    cases hopen
  · next q =>
    refine hother q _ ?_
    rintro rfl
    rw [hallowed nofun] at hopen
    cases hopen
  · next q =>
    split_ifs with hphase
    · refine hother q _ ?_
      rintro rfl
      rw [hphase] at hopen
      exact hends ⟨rfl, (congrArg Prod.fst (Option.some.inj hopen)).symm⟩
    · exact ⟨state, hopen⟩
  · next q =>
    split_ifs with hphase
    · obtain rfl | hq := eq_or_ne q p
      · rw [hphase] at hopen
        obtain rfl : MQTTQoS.MQTTQoS2 = qos := congrArg Prod.fst (Option.some.inj hopen)
        exact ⟨_, Function.update_self ..⟩
      · exact hother q _ hq
    · exact ⟨state, hopen⟩
  · next q =>
    obtain rfl | hq := eq_or_ne q p
    · obtain rfl : MQTTQoS.MQTTQoS2 = qos := by
        obtain hphase | hphase := hallowed
        · exact congrArg Prod.fst (Option.some.inj (hphase.symm.trans hopen))
        · exact congrArg Prod.fst (Option.some.inj (hphase.symm.trans hopen))
      exact ⟨_, Function.update_self ..⟩
    · exact hother q _ hq
  · next q =>
    split_ifs with hphase
    · refine hother q _ ?_
      rintro rfl
      rw [hphase] at hopen
      exact hends ⟨rfl, (congrArg Prod.fst (Option.some.inj hopen)).symm⟩
    · exact ⟨state, hopen⟩
  · exact absurd trivial hends
  · exact ⟨state, hopen⟩

private theorem receiving_run {between earlier : List Event} (horderly : Orderly (between ++ earlier))
    (hopen : ∃ state, receiving earlier p = some (qos, state)) (hends : ∀ e ∈ between, ¬ Ends p qos e) :
    ∃ state, receiving (between ++ earlier) p = some (qos, state) := by
  induction between with
  | nil => exact hopen
  | cons e between ih =>
    obtain ⟨he, hrest⟩ := List.forall_mem_cons.mp hends
    exact receiving_step horderly.1 (ih horderly.2 hrest) he

/-- An orderly history was orderly at every moment before. -/
theorem Orderly.append {later h : List Event} (ho : Orderly (later ++ h)) : Orderly h := by
  induction later with
  | nil => exact ho
  | cons e later ih => exact ih ho.2

/-- Where the application is given a packet twice, the exchange of the first time has been brought to an end in
between: by the acknowledgment that ends an exchange of its quality of service, or by a new session. -/
theorem delivered_once (houtgoing : outgoing ≠ 0) (hincoming : incoming ≠ 0) (inputs : List Input) (p : Nat)
    (q q' : MQTTQoS) (hq : q ≠ .MQTTQoS0) (hq' : q' ≠ .MQTTQoS0) (later between earlier : List Event)
    (hhistory : (inputs.foldl Client.step (.init outgoing incoming)).history =
      later ++ .delivered p q' :: (between ++ .delivered p q :: earlier)) : ∃ e ∈ between, Ends p q e := by
  have horderly := (run_sound houtgoing hincoming inputs).orderly
  rw [hhistory] at horderly
  have hnone := horderly.append.1 hq'
  by_contra hends
  push Not at hends
  have hopen : ∃ state, receiving (.delivered p q :: earlier) p = some (q, state) := by
    refine ⟨MQTT_CalculateStatePublish .MQTT_RECEIVE q, ?_⟩
    change receiver (receiving earlier) _ p = _
    rw [receiver_delivered hq, Function.update_self]
  obtain ⟨state, hstill⟩ := receiving_run horderly.append.2 hopen hends
  rw [hstill] at hnone
  cases hnone

theorem twice_delivered_once : ∃ e ∈ [Event.acknowledged .MQTTPubcomp 7, .received .MQTTPubrel 7,
    .received .MQTTPubrec 4, .received .MQTTPuback 3, .acknowledged .MQTTPubrec 7, .published 4 .MQTTQoS2,
    .reserved 4 .MQTTQoS2, .published 3 .MQTTQoS1, .reserved 3 .MQTTQoS1], Ends 7 .MQTTQoS2 e :=
  delivered_once (show 10 ≠ 0 by decide) (show 10 ≠ 0 by decide) twice 7 .MQTTQoS2 .MQTTQoS1 nofun nofun
    [.acknowledged .MQTTPuback 7] _ [] rfl

/-- As many exchanges are going on as there are records. -/
def Occupied (count : Nat) (h : List Event) : Prop :=
  ∃ ids : List Nat, ids.Nodup ∧ ids.length = count ∧ ∀ p ∈ ids, receiving h p ≠ none

/-- A full table of incoming records means that so many exchanges are open. -/
theorem occupied (hs : s.Sound outgoing incoming)
    (hfull : incoming ≤ (table.entries MQTTPubAckInfo.key s.context.incomingPublishRecords).length) :
    Occupied incoming s.history := by
  have hids : (table.entries MQTTPubAckInfo.key s.context.incomingPublishRecords).filterMap MQTTPubAckInfo.key =
      (table.entries MQTTPubAckInfo.key s.context.incomingPublishRecords).map MQTTPubAckInfo.packetId := by
    rw [← List.filterMap_eq_map]
    refine List.filterMap_congr fun record hmem => ?_
    obtain ⟨id, hid⟩ := Option.isSome_iff_exists.mp (table.mem_entries.mp hmem).2
    rw [hid, ← packetId_of_key hid]
    rfl
  refine ⟨(table.entries MQTTPubAckInfo.key s.context.incomingPublishRecords).map MQTTPubAckInfo.packetId, ?_,
    ?_, ?_⟩
  · rw [← hids]
    exact table.distinct_entries.mpr hs.incoming.distinct
  · rw [List.length_map]
    refine Nat.le_antisymm ?_ hfull
    rw [← hs.incoming.length]
    exact List.length_filter_le _ _
  · intro p hp
    obtain ⟨record, hmem, rfl⟩ := List.mem_map.mp hp
    obtain ⟨hrecord, hsome⟩ := table.mem_entries.mp hmem
    obtain ⟨id, hid⟩ := Option.isSome_iff_exists.mp hsome
    have hview := view_of_lookup (v := some record) (hs.incoming.distinct.lookup_of_mem hrecord hid)
    rw [hs.receiving, ← packetId_of_key hid] at hview
    rw [hview]
    exact nofun

end coremqtt.state
