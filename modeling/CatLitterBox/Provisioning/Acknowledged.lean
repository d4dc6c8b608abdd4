import CatLitterBox.Provisioning.Main

open program coremqtt

namespace catbox.provisioning

open catbox.session

/-- The SUBSCRIBE packets of the current MQTT session: the identifiers of all that have been issued, the
latest first, and of those that the broker has still to answer. -/
structure Requests where
  issued : List Nat
  unanswered : List Nat

/-- A SUBSCRIBE that could not be sent has taken its identifier all the same. -/
def Requests.after (v : Requests) : Event → Requests
  | ⟨.MQTT_Connect, some _⟩ => ⟨[], []⟩
  | ⟨.MQTT_Subscribe packetId _, true⟩ => ⟨packetId :: v.issued, packetId :: v.unanswered⟩
  | ⟨.MQTT_Subscribe packetId _, false⟩ => { v with issued := packetId :: v.issued }
  | ⟨.MQTT_ProcessLoop, ⟨_, some (.SUBACK packetId)⟩⟩ => { v with unanswered := v.unanswered.erase packetId }
  | _ => v

def requests (history : List Event) : Requests := history.foldr (fun e v => v.after e) ⟨[], []⟩

/-- The broker answers a SUBSCRIBE that it has not received in this session, or for the second time. -/
def Unsolicited : (a : Action) → a.Answer → List Event → Prop
  | .MQTT_ProcessLoop, ⟨_, some (.SUBACK packetId)⟩, history => packetId ∉ (requests history.tail).unanswered
  | _, _, _ => False

/-- A SUBACK is delivered when a later SUBSCRIBE has been issued. -/
def Overtaken : (a : Action) → a.Answer → List Event → Prop
  | .MQTT_ProcessLoop, ⟨_, some (.SUBACK packetId)⟩, history => packetId ∈ (requests history.tail).issued.tail
  | _, _, _ => False

instance : (a : Action) → (answer : a.Answer) → (history : List Event) → Decidable
    (Unsolicited a answer history) := by
  intro a answer history
  unfold Unsolicited
  split
  · infer_instance
  · infer_instance

instance : (a : Action) → (answer : a.Answer) → (history : List Event) → Decidable
    (Overtaken a answer history) := by
  intro a answer history
  unfold Overtaken
  split
  · infer_instance
  · infer_instance

/-- `mqttCallback` has been handed a SUBACK, and its assertion fails. -/
def SubackFails : Action → List Event → Prop
  | .abort, ⟨.MQTT_ProcessLoop, ⟨_, some (.SUBACK _)⟩⟩ :: _ => True
  | _, _ => False

/-- The identifier that `mqttCallback` expects is the one of the latest SUBSCRIBE. -/
def Latest (s : Static) (h : List Event) : Prop :=
  ∀ packetId ∈ (requests h).issued.head?, s.globalSubscribePacketIdentifier = packetId

/-- What the broker may not do in a run that is considered. -/
def Untimely (a : Action) (answer : a.Answer) (history : List Event) : Prop :=
  Unsolicited a answer history ∨ Overtaken a answer history

abbrev suback_spec : Spec Action Action.Answer (List Event) :=
  (Spec.history fun a h => ¬ SubackFails a h).until Untimely

/-- The actions that neither subscribe nor receive. -/
def Silent : Action → Prop
  | .MQTT_Connect | .MQTT_Subscribe _ _ | .MQTT_ProcessLoop | .abort => False
  | _ => True

variable {h : List Event} {s : Static}

theorem requests_silent {a : Action} (ha : Silent a) (answer : a.Answer) :
    requests (⟨a, answer⟩ :: h) = requests h := by
  cases a with
  | MQTT_Connect => exact ha.elim
  | MQTT_Subscribe => exact ha.elim
  | MQTT_ProcessLoop => exact ha.elim
  | _ => rfl

theorem requests_issued_process (r : ProcessLoop) :
    (requests (⟨.MQTT_ProcessLoop, r⟩ :: h)).issued = (requests h).issued := by
  obtain ⟨status, received⟩ := r
  cases received with
  | none => rfl
  | some packet =>
    cases packet with
    | _ => rfl

private theorem unanswered_issued : ∀ packetId ∈ (requests h).unanswered, packetId ∈ (requests h).issued := by
  induction h with
  | nil => exact fun _ h => h
  | cons e h ih =>
    intro packetId
    obtain ⟨a, answer⟩ := e
    cases a with
    | MQTT_Connect =>
      cases answer with
      | none => exact ih packetId
      | some => exact fun h => h
    | MQTT_Subscribe issued topic =>
      cases answer with
      | false => exact fun hmem => List.mem_cons_of_mem _ (ih packetId hmem)
      | true =>
        intro hmem
        obtain rfl | hmem := List.mem_cons.mp hmem
        · exact List.mem_cons_self
        · exact List.mem_cons_of_mem _ (ih packetId hmem)
    | MQTT_ProcessLoop =>
      obtain ⟨status, _ | packet⟩ := answer
      · exact ih packetId
      · cases packet with
        | SUBACK => exact fun hmem => ih packetId (List.mem_of_mem_erase hmem)
        | _ => exact ih packetId
    | _ => exact ih packetId

/-- A SUBACK that is solicited and has not been overtaken answers the latest SUBSCRIBE. -/
theorem Latest.expected {status : Bool} {packetId : Nat} (h0 : Latest s h)
    (htimely : ¬ Untimely .MQTT_ProcessLoop ⟨status, some (.SUBACK packetId)⟩
      (⟨.MQTT_ProcessLoop, ⟨status, some (.SUBACK packetId)⟩⟩ :: h)) :
    s.globalSubscribePacketIdentifier = packetId := by
  obtain ⟨hsolicited, hprompt⟩ := not_or.mp htimely
  have hissued : packetId ∈ (requests h).issued := unanswered_issued packetId (not_not.mp hsolicited)
  refine h0 packetId ?_
  cases hlist : (requests h).issued with
  | nil =>
    rw [hlist] at hissued
    cases hissued
  | cons latest earlier =>
    rw [hlist] at hissued
    obtain rfl | hearlier := List.mem_cons.mp hissued
    · exact Option.mem_def.mpr rfl
    · refine absurd ?_ hprompt
      change packetId ∈ (requests h).issued.tail
      rwa [hlist]

/-- Neither the event nor what is kept of the statics is about SUBSCRIBE packets. -/
theorem Latest.keep {h' : List Event} {s' : Static} (h0 : Latest s h)
    (hissued : (requests h').issued = (requests h).issued)
    (hglobal : s'.globalSubscribePacketIdentifier = s.globalSubscribePacketIdentifier) : Latest s' h' := by
  intro packetId hhead
  rw [hissued] at hhead
  exact hglobal.trans (h0 packetId hhead)

/-- An action that neither subscribes nor receives leaves the latest identifier. -/
theorem Latest.silent {a : Action} {answer : a.Answer} (h0 : Latest s h) (ha : Silent a) :
    Latest s (⟨a, answer⟩ :: h) :=
  h0.keep (congrArg Requests.issued (requests_silent ha answer)) rfl

theorem silent_allowed {a : Action} (ha : Silent a) : ¬ SubackFails a h := by
  cases a with
  | abort => exact ha.elim
  | _ => exact id

theorem wp_silent_bind {α : Type} {a : Action} {f : a.Answer → Code α} {Q : α → List Event → Prop}
    (ha : Silent a) (h0 : Latest s h)
    (hf : ∀ answer t, Latest s t → (f answer).wp suback_spec Q t) : ((act a).bind f).wp suback_spec Q h :=
  Program.wp_until_bind (silent_allowed ha) fun answer _ => hf answer _ (h0.silent ha)

theorem wp_silent_seq {α γ : Type} {c : Code α} {f : α → Code γ} {Q : γ → List Event → Prop}
    (hc : c.Every Silent) (h0 : Latest s h)
    (hf : ∀ x t, Latest s t → (f x).wp suback_spec Q t) : (c.bind f).wp suback_spec Q h := by
  refine Program.wp_seq (Program.wp_until_of_every (I := Latest s) hc ?_ ?_ h0 hf)
  · exact fun a t ha _ => silent_allowed ha
  · exact fun a answer t ha ht => ht.silent ha

/-- After the abort nothing else happens. -/
theorem wp_halt_abort {α : Type} {Q : α → List Event → Prop} (hother : ¬ SubackFails .abort h) :
    (halt .abort : Code α).wp suback_spec Q h := by
  refine Program.wp_seq (Program.wp_repeated (fun _ t => ¬ SubackFails .abort t) hother ?_)
  intro _ t ht
  exact Program.wp_until_bind ht fun _ _ => id

/-- What a call of the process loop leaves is as before; where an assertion fails, it is not the one on
the SUBACK. -/
theorem wp_process_loop (h0 : Latest s h) :
    (MQTT_ProcessLoop s).wp suback_spec (fun x t => Latest x.2 t) h := by
  refine Program.wp_until_bind id fun (r : ProcessLoop) htimely => ?_
  have hissued := requests_issued_process r (h := h)
  obtain ⟨status, _ | packet⟩ := r
  · exact h0.keep hissued rfl
  · cases packet with
    | PUBLISH => exact h0.keep hissued rfl
    | PUBACK => exact h0.keep hissued rfl
    | other => exact h0.keep hissued rfl
    | UNSUBACK packetId =>
      by_cases hexpected : s.globalUnsubscribePacketIdentifier = packetId
      · simp only [Option.elim_some, mqttCallback, if_pos hexpected]
        exact h0.keep hissued rfl
      · simp only [Option.elim_some, mqttCallback, if_neg hexpected]
        exact wp_halt_abort id
    | SUBACK packetId =>
      have hexpected := h0.expected htimely
      simp only [Option.elim_some, mqttCallback, if_pos hexpected]
      exact h0.keep hissued rfl

private theorem wp_wait {usPacketIdentifier : Nat} {ulTimeout : UInt32} (h0 : Latest s h) :
    (waitForPacketAck s usPacketIdentifier ulTimeout).wp suback_spec (fun x t => Latest x.2 t) h := by
  refine wp_silent_bind trivial h0 fun now h h0 => ?_
  refine Program.wp_repeated (fun w t => Latest w.statics t) (h0.keep rfl rfl) fun w h h0 => ?_
  refine Program.wp_ite (fun _ => h0) fun _ => ?_
  refine Program.wp_seq (Program.wp_mono ?_ (wp_process_loop h0))
  rintro ⟨status, s⟩ h h0
  exact wp_silent_bind trivial h0 fun _ _ h0 => h0

theorem wp_process_timeout {timeout : UInt32} (h0 : Latest s h) :
    (ProcessLoopWithTimeout s timeout).wp suback_spec (fun x t => Latest x.2 t) h := by
  refine wp_silent_bind trivial h0 fun now h h0 => ?_
  refine Program.wp_repeated (fun w t => Latest w.statics t) h0 fun w h h0 => ?_
  refine Program.wp_ite (fun _ => ?_) fun _ => h0
  refine Program.wp_seq (Program.wp_mono ?_ (wp_process_loop h0))
  rintro ⟨status, s⟩ h h0
  refine wp_silent_bind trivial h0 fun _ h h0 => ?_
  exact wp_silent_bind trivial h0 fun _ _ h0 => h0

/-- The identifier is taken before the SUBSCRIBE is sent, and whether or not it is sent. -/
theorem wp_subscribe_topic {topic : session.Cmd} :
    (SubscribeToTopic s topic).wp suback_spec (fun x t => Latest x.2 t) h := by
  refine Program.wp_until_bind id fun (sent : Bool) _ => ?_
  have hlatest : Latest s.subscribing
      (⟨.MQTT_Subscribe s.subscribing.globalSubscribePacketIdentifier topic, sent⟩ :: h) := by
    intro packetId hhead
    cases sent with
    | false => exact Option.some.inj hhead
    | true => exact Option.some.inj hhead
  exact Program.wp_ite (fun _ => hlatest) fun _ => wp_wait hlatest

private theorem wp_topic_copy (h0 : Latest s h) : (topic_copy s).wp suback_spec (fun x t => Latest x.2 t) h := by
  refine Program.wp_ite (fun _ => h0) fun _ => ?_
  refine wp_silent_bind trivial h0 fun (copy : Option Nat) h h0 => ?_
  cases copy with
  | none => exact h0
  | some copy => exact h0.keep rfl rfl

theorem wp_subscribe_block {topic : session.Cmd} (h0 : Latest s h) :
    (subscribe topic s).wp suback_spec (fun s t => Latest s t) h := by
  refine Program.wp_seq (Program.wp_mono ?_ (wp_topic_copy h0))
  rintro ⟨_ | copy, s⟩ h h0
  · exact h0
  · exact Program.wp_seq (Program.wp_mono (fun _ _ h0 => h0) wp_subscribe_topic)

theorem wp_subscribe_all (h0 : Latest s h) :
    (mqtt_subscribe_init s).wp suback_spec (fun x t => Latest x.2 t) h := by
  refine wp_silent_seq (free_topics_every fun _ => trivial) h0 fun _ h h0 => ?_
  refine Program.wp_seq (Program.wp_mono ?_ (wp_subscribe_block (h0.keep rfl rfl)))
  intro s h h0
  refine Program.wp_seq (Program.wp_mono ?_ (wp_subscribe_block h0))
  intro s h h0
  refine Program.wp_seq (Program.wp_mono ?_ (wp_subscribe_block h0))
  intro s h h0
  refine Program.wp_seq (Program.wp_mono ?_ (wp_subscribe_block h0))
  intro s h h0
  refine Program.wp_seq (Program.wp_mono ?_ (wp_subscribe_block h0))
  intro s h h0
  refine Program.wp_seq (Program.wp_mono ?_ (wp_subscribe_block h0))
  intro s h h0
  refine Program.wp_seq (Program.wp_mono ?_ (wp_subscribe_block h0))
  intro s h h0
  exact h0

/-- A session begins without SUBSCRIBE packets. -/
theorem wp_establish_session (h0 : Latest s h) :
    (EstablishMqttSession s).wp suback_spec (fun x t => Latest x.2 t) h := by
  refine wp_silent_seq (connectToBroker_every (fun _ => trivial) trivial) h0 fun connected h h0 => ?_
  refine Program.wp_ite (fun _ => h0.keep rfl rfl) fun _ => ?_
  refine Program.wp_until_bind id fun (sessionPresent : Option Bool) _ => ?_
  have hnone (present : Bool) (s : Static) : Latest s (⟨.MQTT_Connect, some present⟩ :: h) := nofun
  match sessionPresent with
  | none => exact wp_silent_bind trivial (h0.keep rfl rfl) fun _ _ h0 => h0
  | some true => exact wp_silent_bind trivial (hnone true _) fun _ _ h0 => h0
  | some false => exact wp_silent_bind trivial (hnone false _) fun _ _ h0 => h0

theorem disconnect_silently : (DisconnectMqttSession s).Every Silent :=
  disconnectMqttSession_every trivial trivial

theorem wp_device {is_registered : Bool} (h0 : Latest s h) :
    (device_session is_registered s).wp suback_spec (fun x t => Latest x.2 t) h := by
  refine Program.wp_seq (Program.wp_mono ?_ (wp_establish_session h0))
  rintro ⟨established, s⟩ h h0
  refine Program.wp_ite (fun _ => h0) fun _ => ?_
  refine Program.wp_seq (Program.wp_mono ?_ (wp_subscribe_all h0))
  rintro ⟨subscribed, s⟩ h h0
  refine Program.wp_ite (fun _ => ?_) fun _ => ?_
  · exact wp_silent_seq disconnect_silently h0 fun _ _ h0 => h0
  · exact wp_silent_bind trivial h0 fun _ _ h0 => h0

private theorem wp_claim (h0 : Latest s h) : (claim_session s).wp suback_spec (fun x t => Latest x.2 t) h := by
  refine Program.wp_seq (Program.wp_mono ?_ (wp_establish_session h0))
  rintro ⟨established, s⟩ h h0
  refine Program.wp_ite (fun _ => h0) fun _ => ?_
  refine wp_silent_seq disconnect_silently h0 fun _ h h0 => ?_
  exact wp_silent_bind trivial h0 fun _ _ h0 => h0

theorem wp_provisioning (h0 : Latest s h) :
    (aws_iot_provisioning_main s).wp suback_spec (fun x t => Latest x.2 t) h := by
  refine wp_silent_bind trivial h0 fun (is_registered : Bool) h h0 => ?_
  refine wp_silent_bind trivial h0 fun (opened : Bool) h h0 => ?_
  refine Program.wp_ite (fun _ => h0) fun _ => Program.wp_ite (fun _ => wp_device h0) fun _ => ?_
  refine Program.wp_seq (Program.wp_mono ?_ (wp_claim h0))
  rintro ⟨claimed, s⟩ h h0
  exact Program.wp_ite (fun _ => h0) fun _ => wp_device h0

theorem wp_consume_suback {q : Queue} (h0 : Latest s h) :
    (consume q s).wp suback_spec (fun s t => Latest s t) h := by
  refine wp_silent_bind trivial h0 fun (packet : Option (Packet q)) h h0 => ?_
  cases packet with
  | none => exact h0
  | some packet =>
    refine wp_silent_bind trivial h0 fun mqttContext h h0 => ?_
    obtain ⟨cmd, _ | data, data_len⟩ := packet
    · exact h0.keep rfl rfl
    · exact wp_silent_bind trivial (h0.keep rfl rfl) fun _ _ h0 => h0

private theorem wp_serve_suback (h0 : Latest s h) : (serve s).wp suback_spec
    (fun o t => Latest (o.elim id id) t) h := by
  refine Program.wp_seq (Program.wp_mono ?_ (wp_consume_suback h0))
  intro s h h0
  refine Program.wp_seq (Program.wp_mono ?_ (wp_consume_suback h0))
  intro s h h0
  refine Program.wp_seq (Program.wp_mono ?_ (wp_process_timeout h0))
  rintro ⟨connected, s⟩ h h0
  exact Program.wp_ite (fun _ => h0) fun _ => h0

private theorem wp_attempt {t : Task} (h0 : Latest t.statics h) :
    (provision t).wp suback_spec (fun o u => Latest (o.elim id id).statics u) h := by
  refine Program.wp_seq (Program.wp_mono ?_ (wp_provisioning h0))
  rintro ⟨exit, s⟩ h h0
  cases exit with
  | EXIT_SUCCESS => exact h0
  | EXIT_FAILURE =>
    refine wp_silent_bind trivial h0 fun _ h h0 => ?_
    refine Program.wp_ite (fun _ => ?_) fun _ => h0
    refine Program.wp_seq (Program.wp_repeated (fun _ _ => True) trivial fun _ h _ => ?_)
    exact Program.wp_until_bind id fun _ _ => trivial

private theorem wp_turn {t : Task} (h0 : Latest t.statics h) :
    (reconnect t).wp suback_spec (fun o u => o.elim (fun t => Latest t.statics u) fun _ => True) h := by
  refine wp_silent_bind trivial h0 fun _ h h0 => ?_
  refine wp_silent_bind trivial h0 fun _ h h0 => ?_
  refine wp_silent_bind trivial h0 fun _ h h0 => ?_
  refine Program.wp_seq (Program.wp_repeated (fun t u => Latest t.statics u) h0 fun t h h0 => ?_)
  refine Program.wp_mono ?_ (wp_attempt h0)
  rintro (t | t) h h0
  · exact h0
  · refine wp_silent_bind trivial h0 fun _ h h0 => ?_
    refine wp_silent_bind trivial h0 fun _ h h0 => ?_
    refine Program.wp_seq (Program.wp_repeated (fun s u => Latest s u) h0 fun s h h0 => ?_)
    refine Program.wp_mono ?_ (wp_serve_suback h0)
    rintro (s | s) h h0
    · exact h0
    · refine wp_silent_bind trivial h0 fun _ h h0 => ?_
      refine wp_silent_seq disconnect_silently h0 fun _ h h0 => ?_
      exact wp_silent_bind trivial h0 fun _ _ h0 => h0

private theorem wp_main_entry_suback : aws_iot_main_entry.wp suback_spec (fun _ _ => True) [] := by
  have h0 : Latest .boot [] := nofun
  refine wp_silent_bind trivial h0 fun _ h h0 => ?_
  refine wp_silent_bind trivial h0 fun _ h h0 => ?_
  refine wp_silent_bind trivial h0 fun _ h h0 => ?_
  refine wp_silent_bind trivial h0 fun _ h h0 => ?_
  exact Program.wp_repeated (fun t u => Latest t.statics u) h0 fun t h h0 => wp_turn h0

/-- In every run of `aws_iot_main_entry` whose broker answers each SUBSCRIBE at most once, and always before
the next SUBSCRIBE is issued, the assertion of `mqttCallback` on the identifier of a
SUBACK never fails. -/
theorem suback_assertion_holds_while_prompt (oracle : (a : Action) → List Event → a.Answer) (n : Nat)
    (hsolicited : Program.Unhooked Unsolicited (aws_iot_main_entry.recorded oracle n).2)
    (hprompt : Program.Unhooked Overtaken (aws_iot_main_entry.recorded oracle n).2) :
    ∀ a ∈ (aws_iot_main_entry.recorded oracle n).1.next,
      ¬ SubackFails a (aws_iot_main_entry.recorded oracle n).2 := by
  intro a hnext
  have huntil := Program.wp_until_recorded wp_main_entry_suback (Program.unhooked_or hsolicited hprompt)
  exact Program.wp_next huntil hnext

/-- The broker answers at the first call of `MQTT_ProcessLoop`. -/
def answering_broker : (a : Action) → List Event → a.Answer
  | .MQTT_ProcessLoop, history => ⟨true, (requests history).unanswered.head?.map Received.SUBACK⟩
  | a, _ => a.success

set_option maxRecDepth 4000 in
theorem suback_assertion_holds_with_answering_broker :
    (requests (aws_iot_main_entry.recorded answering_broker 62).2) = ⟨[7, 6, 5, 4, 3, 2, 1], []⟩ ∧
    ∀ a ∈ (aws_iot_main_entry.recorded answering_broker 62).1.next,
      ¬ SubackFails a (aws_iot_main_entry.recorded answering_broker 62).2 := by
  refine ⟨rfl, ?_⟩
  exact suback_assertion_holds_while_prompt answering_broker 62 (by decide +kernel) (by decide +kernel)

/-- The broker answers a SUBSCRIBE when the next one has come, and every read of the time is later by a second
or more. -/
def slow_broker : (a : Action) → List Event → a.Answer
  | .MQTT_ProcessLoop, history => ⟨true, (requests history).issued.tail.head?.map Received.SUBACK⟩
  | .getTime, history => UInt32.ofNat (1000 * history.length)
  | a, _ => a.success

set_option maxRecDepth 4000 in
/-- The wait for the first SUBACK times out, and it is delivered during the second. -/
theorem late_suback_aborts : ¬ ∀ (oracle : (a : Action) → List Event → a.Answer) (n : Nat),
    Program.Unhooked Unsolicited (aws_iot_main_entry.recorded oracle n).2 →
    ∀ a ∈ (aws_iot_main_entry.recorded oracle n).1.next,
      ¬ SubackFails a (aws_iot_main_entry.recorded oracle n).2 := by
  intro hall
  exact hall slow_broker 28 (by decide +kernel) .abort rfl trivial

end catbox.provisioning
