import CatLitterBox.Provisioning.Session

open program text coremqtt

namespace catbox.provisioning

open catbox.session

variable (mac : Bytes)

/-- What an action of the provisioning does to the publishes of the client, and to the packets that have been
sent. The context of the library is left to the program, which has it among its variables. -/
def Acts (c : Client) : (a : Action) → a.Answer → Client → Prop
  | .MQTT_Connect, (sessionPresent : Option Bool), after =>
    after = if sessionPresent = some false then
      { c with pOutgoingPublishRecords := c.pOutgoingPublishRecords.map fun _ => .free } else c
  | .handlePublishResend, (resent : Bool), after =>
    ∃ transport, { c with mqttContext := MQTT_Init }.handlePublishResend transport =
      (resent, { after with mqttContext := MQTT_Init })
  | .cleanupOutgoingPublishes, _, after =>
    after = { c with outgoingPublishPackets := cleanupOutgoingPublishes c.outgoingPublishPackets }
  | .MQTT_Subscribe packetId topic, (sent : Bool), after =>
    (∃ transport, sent = coremqtt.MQTT_Subscribe transport c.mqttContext packetId) ∧
      after = { c with
        wire := if sent then .SUBSCRIBE packetId (SERVER_RX_TOPIC topic mac) :: c.wire else c.wire }
  | .MQTT_ProcessLoop, (r : ProcessLoop), after =>
    after = match r.received with
      | some (.PUBACK packetId) => c.handlePublishAcks packetId
      | _ => c
  | _, _, after => after = c

/-- The provisioning with a client that its actions work on. -/
def client_spec : Spec Action Action.Answer Client where
  allow _ _ := True
  trans a c r after := Acts mac c a r after

/-- The client under a context. -/
def with_context (c : Client) (mqttContext : Context) : Client := { c with mqttContext }

variable {mac} {s : Static} {c : Client}

theorem wp_client_halt {α : Type} (a : Action) (Q : α → Client → Prop) :
    (halt a : Code α).wp (client_spec mac) Q c := by
  refine Program.wp_seq (Program.wp_repeated (fun _ _ => True) trivial ?_)
  intro _ _ _
  exact Program.wp_perform_bind trivial fun _ _ _ => trivial

private theorem wp_client_connect :
    connectToBrokerWithBackoffRetries.wp (client_spec mac) (fun _ after => after = c) c := by
  have hevery : connectToBrokerWithBackoffRetries.Every fun a => ∀ before r after, Acts mac before a r after →
      after = before :=
    connectToBroker_every (fun _ _ _ _ h => h) fun _ _ _ h => h
  refine Program.wp_of_every hevery (fun _ _ _ _ => trivial) ?_ rfl
  intro a before r after hacts hbefore htrans
  exact (hacts before r after htrans).trans hbefore

/-- However the actions are answered, what is established is a session of the client with some answer of the
broker and some outcomes of the sends. -/
theorem establish_is_session (s : Static) (c : Client) :
    (EstablishMqttSession s).wp (client_spec mac) (fun x after => ∃ connack transport,
      c.EstablishMqttSession connack transport = (x.1, with_context after x.2.mqttContext)) c := by
  refine Program.wp_seq (Program.wp_mono ?_ wp_client_connect)
  rintro connected _ rfl
  refine Program.wp_ite (fun _ => ⟨.unreachable, [], rfl⟩) fun _ => ?_
  refine Program.wp_perform_bind trivial fun (sessionPresent : Option Bool) after hafter => ?_
  obtain rfl := hafter
  cases sessionPresent with
  | none => exact Program.wp_perform_bind trivial fun _ _ hclosed => ⟨.refused, [], by rw [hclosed]; rfl⟩
  | some present =>
    cases present with
    | true =>
      refine Program.wp_perform_bind trivial fun (resent : Bool) after hafter => ?_
      obtain ⟨transport, hresend⟩ := hafter
      exact ⟨.accepted true, transport, hresend⟩
    | false =>
      refine Program.wp_perform_bind trivial fun _ after hafter => ?_
      obtain rfl := hafter
      exact ⟨.accepted false, [], rfl⟩

/-- The records and slots that a PUBACK changes do not depend on the number to be given next. -/
theorem handlePublishAcks_with_context {mqttContext : Context} (h : mqttContext.stateful = c.mqttContext.stateful)
    (packetId : Nat) :
    (with_context c mqttContext).handlePublishAcks packetId =
      with_context (c.handlePublishAcks packetId) mqttContext := by
  unfold Client.handlePublishAcks with_context
  simp only [h]
  by_cases hnone : c.mqttContext.stateful = false
  · rw [if_pos hnone, if_pos hnone]
  · rw [if_neg hnone, if_neg hnone]
    by_cases hsuccess : (MQTT_UpdateStateAck c.pOutgoingPublishRecords packetId).1 = .MQTTSuccess
    · rw [if_pos hsuccess, if_pos hsuccess]
    · rw [if_neg hsuccess, if_neg hsuccess]

private theorem handlePublishAcks_context (c : Client) (packetId : Nat) :
    (c.handlePublishAcks packetId).mqttContext = c.mqttContext := by
  unfold Client.handlePublishAcks
  simp only
  split_ifs <;> rfl

/-- What holds while the acknowledgment of a SUBSCRIBE is waited for: since `sent` the client has only received
PUBACKs. -/
structure AwaitsSuback (sent : Client) (s : Static) (c : Client) : Prop where
  context : s.mqttContext = sent.mqttContext
  stateful : c.mqttContext.stateful = s.mqttContext.stateful
  acks : ∃ acks : List Nat, with_context c s.mqttContext = acks.foldl Client.handlePublishAcks sent

/-- A PUBACK is no answer to a SUBSCRIBE. -/
theorem AwaitsSuback.puback {sent : Client} (h : AwaitsSuback sent s c) (packetId : Nat) :
    AwaitsSuback sent s (c.handlePublishAcks packetId) := by
  refine ⟨h.context, ?_, ?_⟩
  · rw [handlePublishAcks_context]
    exact h.stateful
  · obtain ⟨acks, hacks⟩ := h.acks
    refine ⟨acks ++ [packetId], ?_⟩
    rw [List.foldl_concat, ← hacks, handlePublishAcks_with_context h.stateful.symm]

/-- Other static variables than the context do not matter. -/
theorem AwaitsSuback.statics {sent : Client} {s' : Static} (h : AwaitsSuback sent s c)
    (hcontext : s'.mqttContext = s.mqttContext) : AwaitsSuback sent s' c := by
  refine ⟨hcontext.trans h.context, ?_, ?_⟩
  · rw [hcontext]
    exact h.stateful
  · rw [hcontext]
    exact h.acks

private theorem mqttCallback_context {s' : Static} {packet : Received} (h : mqttCallback s packet = some s') :
    s'.mqttContext = s.mqttContext := by
  cases packet with
  | SUBACK packetId | UNSUBACK packetId =>
    obtain ⟨-, hs⟩ := Option.ite_none_right_eq_some.mp h
    obtain rfl := Option.some.inj hs
    rfl
  | PUBLISH | PUBACK packetId | other =>
    obtain rfl := Option.some.inj h
    rfl

private theorem wp_client_process_loop {sent : Client} (h : AwaitsSuback sent s c) :
    (MQTT_ProcessLoop s).wp (client_spec mac) (fun x after => AwaitsSuback sent x.2 after) c := by
  refine Program.wp_perform_bind trivial fun (r : ProcessLoop) after hafter => ?_
  have hreceived : AwaitsSuback sent s after := by
    obtain rfl := hafter
    split
    · exact h.puback _
    · exact h
  cases hcallback : r.received.elim (some s) (mqttCallback s) with
  | none => exact wp_client_halt .abort _
  | some s' =>
    refine hreceived.statics ?_
    cases hpacket : r.received with
    | none =>
      rw [hpacket] at hcallback
      obtain rfl := Option.some.inj hcallback
      rfl
    | some packet =>
      rw [hpacket] at hcallback
      exact mqttCallback_context hcallback

/-- However the actions are answered, a topic is subscribed to as the client does it, and what the client
receives during the wait are PUBACKs. -/
theorem subscribe_is_session (topic : session.Cmd) (hcontext : c.mqttContext = s.mqttContext) :
    (SubscribeToTopic s topic).wp (client_spec mac) (fun x after => ∃ (transport : Bool) (acks : List Nat),
      with_context after x.2.mqttContext =
        acks.foldl Client.handlePublishAcks (c.SubscribeToTopic (SERVER_RX_TOPIC topic mac) transport)) c := by
  refine Program.wp_perform_bind trivial fun (sent : Bool) after hafter => ?_
  obtain ⟨⟨transport, rfl⟩, rfl⟩ := hafter
  have hstart : AwaitsSuback (c.SubscribeToTopic (SERVER_RX_TOPIC topic mac) transport) s.subscribing
      { c with wire := if coremqtt.MQTT_Subscribe transport c.mqttContext s.subscribing.globalSubscribePacketIdentifier
        then .SUBSCRIBE s.subscribing.globalSubscribePacketIdentifier (SERVER_RX_TOPIC topic mac) :: c.wire
        else c.wire } := by
    obtain ⟨memory, mqttContext, records, packets, wire⟩ := c
    obtain rfl : mqttContext = s.mqttContext := hcontext
    exact ⟨rfl, rfl, [], rfl⟩
  refine Program.wp_ite (fun _ => ⟨transport, hstart.acks⟩) fun _ => ?_
  refine Program.wp_perform_bind trivial fun (now : UInt32) after hafter => ?_
  obtain rfl := hafter
  refine Program.wp_repeated
    (fun w after => AwaitsSuback (c.SubscribeToTopic (SERVER_RX_TOPIC topic mac) transport) w.statics after)
    (hstart.statics rfl) fun w after h => ?_
  refine Program.wp_ite (fun _ => ⟨transport, h.acks⟩) fun _ => ?_
  refine Program.wp_seq (Program.wp_mono ?_ (wp_client_process_loop h))
  rintro ⟨status, s'⟩ after h
  refine Program.wp_perform_bind trivial fun (now : UInt32) later hlater => ?_
  obtain rfl := hlater
  exact h

end catbox.provisioning
