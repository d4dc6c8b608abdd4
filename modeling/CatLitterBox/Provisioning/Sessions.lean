import CatLitterBox.Provisioning.Main

open program

namespace catbox.provisioning

/-- What is open: the PKCS#11 sessions and the TLS connections, each by the number of the call of
`aws_iot_provisioning_main` that opened it, the latest first; whether `tlsContext` holds the
latest connection; and the number of the present call. -/
structure Resources where
  call : Nat
  sessions : List Nat
  connections : List Nat
  current : Bool

/-- An attempt to connect initializes `tlsContext`, whatever it held. -/
def Resources.after (r : Resources) : Event → Resources
  | ⟨.read_nvs_registration_flag, _⟩ => { r with call := r.call + 1 }
  | ⟨.xInitializePkcs11Session, true⟩ => { r with sessions := r.call :: r.sessions }
  | ⟨.pkcs11CloseSession, _⟩ => { r with sessions := r.sessions.tail }
  | ⟨.Mbedtls_Pkcs11_Connect _, true⟩ => { r with connections := r.call :: r.connections, current := true }
  | ⟨.Mbedtls_Pkcs11_Connect _, false⟩ => { r with current := false }
  | ⟨.Mbedtls_Pkcs11_Disconnect, _⟩ =>
    if r.current then { r with connections := r.connections.tail, current := false } else r
  | _ => r

def resources (history : List Event) : Resources :=
  history.foldr (fun e r => r.after e) ⟨0, [], [], false⟩

/-- Nothing that the present call has opened is open. -/
structure Resources.Released (r : Resources) : Prop where
  sessions : r.call ∉ r.sessions
  connections : r.call ∉ r.connections

/-- The module has opened a session. -/
def Event.opens : Event → Bool
  | ⟨.xInitializePkcs11Session, opened⟩ => opened
  | _ => false

/-- The module opens a session for the second time, or a step fails after it has opened one: all attempts
to reach the broker, the MQTT connection, or the resending. -/
def Spoils : (a : Action) → a.Answer → List Event → Prop
  | .xInitializePkcs11Session, opened, history => opened = true ∧ history.tail.any Event.opens = true
  | .Mbedtls_Pkcs11_Connect attemptsDone, connected, _ =>
    connected = false ∧ attemptsDone = CONNECTION_RETRY_MAX_ATTEMPTS
  | .MQTT_Connect, sessionPresent, _ => sessionPresent = none
  | .handlePublishResend, resent, _ => resent = false
  | _, _, _ => False

instance : (a : Action) → (answer : a.Answer) → (history : List Event) → Decidable
    (Spoils a answer history) := by
  intro a answer history
  cases a with
  | xInitializePkcs11Session =>
    exact @instDecidableAnd _ _ ((inferInstance : DecidableEq Bool) answer true) inferInstance
  | Mbedtls_Pkcs11_Connect attemptsDone =>
    exact @instDecidableAnd _ _ ((inferInstance : DecidableEq Bool) answer false) inferInstance
  | MQTT_Connect => exact (inferInstance : DecidableEq (Option Bool)) answer none
  | handlePublishResend => exact (inferInstance : DecidableEq Bool) answer false
  | _ => exact .isFalse nofun

/-- `aws_iot_main_entry` waits for 3 s exactly after a call that has failed. -/
def Returned (a : Action) (history : List Event) : Prop :=
  a = .vTaskDelay 3000 → (resources history).Released

abbrev balance_spec : Spec Action Action.Answer (List Event) := (Spec.history Returned).until Spoils

/-- An action that opens and closes nothing, whatever it is answered. -/
def Neutral : Action → Prop
  | .read_nvs_registration_flag | .xInitializePkcs11Session | .pkcs11CloseSession | .Mbedtls_Pkcs11_Connect _
  | .Mbedtls_Pkcs11_Disconnect => False
  | .vTaskDelay delay => delay ≠ 3000
  | _ => True

/-- The session of the present call is open, and no connection. -/
structure Resources.Opened (r : Resources) : Prop where
  sessions : r.sessions = [r.call]
  connections : r.connections = []

/-- The session of the present call is open, and its connection. -/
structure Resources.Connected (r : Resources) : Prop where
  sessions : r.sessions = [r.call]
  connections : r.connections = [r.call]
  current : r.current = true

/-- Between two calls no connection is open. -/
structure Resources.Idle (r : Resources) : Prop where
  sessions : ∀ call ∈ r.sessions, call ≤ r.call
  connections : r.connections = []

variable {h : List Event} {s : Static}

theorem resources_cons (e : Event) : resources (e :: h) = (resources h).after e := rfl

theorem after_neutral {r : Resources} {a : Action} (ha : Neutral a) (answer : a.Answer) :
    r.after ⟨a, answer⟩ = r := by
  cases a with
  | read_nvs_registration_flag => exact ha.elim
  | xInitializePkcs11Session => exact ha.elim
  | pkcs11CloseSession => exact ha.elim
  | Mbedtls_Pkcs11_Connect => exact ha.elim
  | Mbedtls_Pkcs11_Disconnect => exact ha.elim
  | _ => rfl

theorem returned_neutral {a : Action} (ha : Neutral a) : Returned a h := by
  rintro rfl
  exact absurd rfl ha

theorem after_sessions_length (r : Resources) (e : Event) :
    (r.after e).sessions.length ≤ r.sessions.length + e.opens.toNat := by
  obtain ⟨a, answer⟩ := e
  cases a with
  | xInitializePkcs11Session =>
    cases answer with
    | false => exact le_rfl
    | true => exact le_rfl
  | pkcs11CloseSession =>
    change r.sessions.tail.length ≤ r.sessions.length
    rw [List.length_tail]
    omega
  | Mbedtls_Pkcs11_Connect attemptsDone =>
    cases answer with
    | false => exact le_rfl
    | true => exact le_rfl
  | Mbedtls_Pkcs11_Disconnect =>
    simp only [Resources.after]
    split_ifs
    · exact le_rfl
    · exact le_rfl
  | _ => exact le_rfl

theorem sessions_of_unopened (hunopened : h.any Event.opens = false) : (resources h).sessions = [] := by
  induction h with
  | nil => rfl
  | cons e h ih =>
    rw [List.any_cons, Bool.or_eq_false_iff] at hunopened
    have hlength := after_sessions_length (resources h) e
    rw [hunopened.1, ih hunopened.2] at hlength
    exact List.length_eq_zero_iff.mp (Nat.le_zero.mp hlength)

/-- Code that opens and closes nothing keeps what is said about the resources. -/
theorem wp_neutral {α : Type} {c : Code α} {P : Resources → Prop} {Q : α → List Event → Prop}
    (hc : c.Every Neutral) (h0 : P (resources h)) (hQ : ∀ x t, P (resources t) → Q x t) :
    c.wp balance_spec Q h := by
  refine Program.wp_until_of_every (I := fun t => P (resources t)) hc ?_ ?_ h0 hQ
  · intro a t ha _
    exact returned_neutral ha
  · intro a answer t ha ht
    rw [resources_cons, after_neutral ha]
    exact ht

theorem wp_neutral_bind {α γ : Type} {c : Code α} {f : α → Code γ} {P : Resources → Prop}
    {Q : γ → List Event → Prop} (hc : c.Every Neutral) (h0 : P (resources h))
    (hf : ∀ x t, P (resources t) → (f x).wp balance_spec Q t) : (c.bind f).wp balance_spec Q h :=
  Program.wp_seq (wp_neutral hc h0 hf)

theorem wp_subscribe_init (h0 : (resources h).Connected) :
    (mqtt_subscribe_init s).wp balance_spec (fun x t => x.1 = true ∧ (resources t).Connected) h := by
  have hblock (topic : session.Cmd) (s : Static) : (subscribe topic s).Every Neutral :=
    subscribe_every trivial (fun _ => trivial) trivial trivial trivial
  refine wp_neutral_bind (free_topics_every fun _ => trivial) h0 fun _ h h0 => ?_
  refine wp_neutral_bind (hblock _ _) h0 fun _ h h0 => ?_
  refine wp_neutral_bind (hblock _ _) h0 fun _ h h0 => ?_
  refine wp_neutral_bind (hblock _ _) h0 fun _ h h0 => ?_
  refine wp_neutral_bind (hblock _ _) h0 fun _ h h0 => ?_
  refine wp_neutral_bind (hblock _ _) h0 fun _ h h0 => ?_
  refine wp_neutral_bind (hblock _ _) h0 fun _ h h0 => ?_
  refine wp_neutral_bind (hblock _ _) h0 fun _ h h0 => ?_
  exact ⟨rfl, h0⟩

private theorem wp_connectToBroker (h0 : (resources h).Opened) : connectToBrokerWithBackoffRetries.wp balance_spec
    (fun connected t => connected = true ∧ (resources t).Connected) h := by
  refine Program.wp_repeated (fun attemptsDone t =>
    attemptsDone ≤ CONNECTION_RETRY_MAX_ATTEMPTS ∧ (resources t).Opened) ⟨Nat.zero_le _, h0⟩ ?_
  rintro attemptsDone h ⟨hretries, hopened⟩
  refine Program.wp_until_bind nofun fun connected hnot => ?_
  cases connected with
  | true =>
    refine ⟨rfl, hopened.sessions, ?_, rfl⟩
    change _ :: (resources h).connections = _
    rw [hopened.connections]
    rfl
  | false =>
    have hleft : attemptsDone < CONNECTION_RETRY_MAX_ATTEMPTS := by
      refine lt_of_le_of_ne hretries fun hlast => hnot ⟨rfl, hlast⟩
    change Program.wp balance_spec (if attemptsDone < CONNECTION_RETRY_MAX_ATTEMPTS then _ else _) _ _
    rw [if_pos hleft]
    refine Program.wp_until_bind nofun fun _ _ => ?_
    exact ⟨hleft, hopened.sessions, hopened.connections⟩

theorem wp_establish (h0 : (resources h).Opened) : (EstablishMqttSession s).wp balance_spec
    (fun x t => x.1 = true ∧ (resources t).Connected) h := by
  refine Program.wp_seq (Program.wp_mono ?_ (wp_connectToBroker h0))
  rintro connected h ⟨rfl, hconnected⟩
  refine Program.wp_until_bind nofun fun sessionPresent hnot => ?_
  have hkept : (resources (⟨.MQTT_Connect, sessionPresent⟩ :: h)).Connected := hconnected
  match sessionPresent, hnot, hkept with
  | none, hnot, _ => exact absurd rfl hnot
  | some true, _, hkept =>
    refine Program.wp_until_bind nofun fun resent hnot => ?_
    exact ⟨eq_true_of_ne_false hnot, hkept⟩
  | some false, _, hkept =>
    refine Program.wp_until_bind nofun fun _ _ => ?_
    exact ⟨rfl, hkept⟩

theorem after_disconnect (h0 : (resources h).Connected) :
    (resources (⟨.Mbedtls_Pkcs11_Disconnect, ()⟩ :: h)).Opened := by
  rw [resources_cons]
  simp only [Resources.after, h0.current, if_true]
  refine ⟨h0.sessions, ?_⟩
  simp [h0.connections]

/-- After the disconnection the session is open still, and no connection is. -/
theorem wp_disconnect (h0 : (resources h).Connected) :
    (DisconnectMqttSession s).wp balance_spec (fun _ t => (resources t).Opened) h := by
  refine Program.wp_ite (fun _ => ?_) fun _ => ?_
  · refine Program.wp_until_bind nofun fun _ _ => ?_
    have hkept : (resources (⟨.MQTT_Disconnect, ‹_›⟩ :: h)).Connected := h0
    exact Program.wp_until_bind nofun fun _ _ => after_disconnect hkept
  · exact Program.wp_until_bind nofun fun _ _ => after_disconnect h0

theorem wp_device_session {is_registered : Bool} (h0 : (resources h).Opened) :
    (device_session is_registered s).wp balance_spec
      (fun x t => x.1 = .EXIT_SUCCESS ∧ (resources t).Connected) h := by
  refine Program.wp_seq (Program.wp_mono ?_ (wp_establish h0))
  rintro ⟨established, s⟩ h ⟨rfl, hconnected⟩
  refine Program.wp_seq (Program.wp_mono ?_ (wp_subscribe_init hconnected))
  rintro ⟨subscribed, s⟩ h ⟨rfl, hconnected⟩
  exact Program.wp_until_bind nofun fun _ _ => ⟨rfl, hconnected⟩

private theorem wp_claim_session (h0 : (resources h).Opened) :
    (claim_session s).wp balance_spec (fun x t => x.1 = true ∧ (resources t).Opened) h := by
  refine Program.wp_seq (Program.wp_mono ?_ (wp_establish h0))
  rintro ⟨established, s⟩ h ⟨rfl, hconnected⟩
  refine Program.wp_seq (Program.wp_mono ?_ (wp_disconnect hconnected))
  rintro _ h hopened
  refine Program.wp_until_bind (by simp [Returned]) fun _ _ => ⟨rfl, hopened⟩

/-- What a call of `aws_iot_provisioning_main` comes to. -/
def Resources.Outcome (r : Resources) : ExitCode → Prop
  | .EXIT_SUCCESS => r.Connected
  | .EXIT_FAILURE => r.Idle ∧ r.Released

private theorem wp_provisioning_main (h0 : (resources h).Idle) : (aws_iot_provisioning_main s).wp balance_spec
    (fun x t => (resources t).Outcome x.1) h := by
  refine Program.wp_until_bind nofun fun (is_registered : Bool) _ => ?_
  refine Program.wp_until_bind nofun fun opened hnot => ?_
  cases opened with
  | false =>
    constructor
    · exact ⟨fun call hcall => Nat.le_succ_of_le (h0.sessions call hcall), h0.connections⟩
    constructor
    · intro hmem
      have hle := h0.sessions _ hmem
      simp only [resources_cons, Resources.after] at hle
      omega
    · change _ ∉ (resources h).connections
      rw [h0.connections]
      exact List.not_mem_nil
  | true =>
    have hunopened : h.any Event.opens = false := Bool.eq_false_iff.mpr fun hsome => hnot ⟨rfl, hsome⟩
    have hnone := sessions_of_unopened hunopened
    have hopened : (resources (⟨.xInitializePkcs11Session, true⟩ ::
        ⟨.read_nvs_registration_flag, is_registered⟩ :: h)).Opened := by
      refine ⟨?_, h0.connections⟩
      simp [resources_cons, Resources.after, hnone]
    have hdevice (s : Static) {t : List Event} (ht : (resources t).Opened) :
        (device_session is_registered s).wp balance_spec (fun x t => (resources t).Outcome x.1) t := by
      refine Program.wp_mono ?_ (wp_device_session ht)
      rintro ⟨exit, s⟩ t ⟨rfl, hconnected⟩
      exact hconnected
    refine Program.wp_ite nofun fun _ => Program.wp_ite (fun _ => hdevice s hopened) fun _ => ?_
    refine Program.wp_seq (Program.wp_mono ?_ (wp_claim_session hopened))
    rintro ⟨claimed, s⟩ t ⟨rfl, ht⟩
    exact hdevice s ht

private theorem wp_halt {α : Type} {a : Action} (ha : Neutral a) {Q : α → List Event → Prop} :
    (halt a : Code α).wp balance_spec Q h := by
  refine Program.wp_seq (Program.wp_repeated (fun _ _ => True) trivial ?_)
  intro _ t _
  exact Program.wp_until_bind (returned_neutral ha) fun _ _ => trivial

private theorem wp_provision {t : Task} (h0 : (resources h).Idle) : (provision t).wp balance_spec
    (fun o t => o.elim (fun _ => (resources t).Idle) fun _ => (resources t).Connected) h := by
  refine Program.wp_seq (Program.wp_mono ?_ (wp_provisioning_main h0))
  rintro ⟨exit, s⟩ h houtcome
  cases exit with
  | EXIT_SUCCESS => exact houtcome
  | EXIT_FAILURE =>
    obtain ⟨hidle, hreleased⟩ := houtcome
    refine Program.wp_until_bind (fun _ => hreleased) fun _ _ => ?_
    exact Program.wp_ite (fun _ => wp_halt (a := .esp_restart) trivial) fun _ => hidle

private theorem serve_neutral : (serve s).Every Neutral := by
  refine serve_every (fun q s => ?_) trivial trivial ?_ trivial
  · exact consume_every trivial (fun _ => trivial) fun _ => trivial
  · simp [Neutral]

private theorem wp_reconnect {t : Task} (h0 : (resources h).Idle) : (reconnect t).wp balance_spec
    (fun o t => o.elim (fun _ => (resources t).Idle) fun _ => True) h := by
  refine Program.wp_until_bind nofun fun _ _ => ?_
  refine Program.wp_until_bind nofun fun _ _ => ?_
  refine Program.wp_until_bind nofun fun _ _ => ?_
  refine Program.wp_seq (Program.wp_repeated (fun _ t => (resources t).Idle) h0 fun t h h0 => ?_)
  refine Program.wp_mono ?_ (wp_provision h0)
  rintro (t | t) h hend
  · exact hend
  · refine Program.wp_until_bind nofun fun _ _ => ?_
    refine Program.wp_until_bind nofun fun _ _ => ?_
    refine wp_neutral_bind (P := Resources.Connected) (Program.every_repeated fun _ => serve_neutral) hend
      fun s h hend => ?_
    refine Program.wp_until_bind nofun fun _ _ => ?_
    refine Program.wp_seq (Program.wp_mono ?_ (wp_disconnect hend))
    rintro _ h hopened
    refine Program.wp_until_bind (by simp [Returned]) fun _ _ => ?_
    refine ⟨fun call hcall => ?_, hopened.connections⟩
    have hcall : call ∈ (resources h).sessions := hcall
    rw [hopened.sessions, List.mem_singleton] at hcall
    exact hcall.le

private theorem wp_main_entry : aws_iot_main_entry.wp balance_spec (fun _ _ => True) [] := by
  refine Program.wp_until_bind nofun fun _ _ => ?_
  refine Program.wp_until_bind nofun fun _ _ => ?_
  refine Program.wp_until_bind nofun fun _ _ => ?_
  refine Program.wp_until_bind nofun fun _ _ => ?_
  refine Program.wp_repeated (fun _ t => (resources t).Idle) ⟨nofun, rfl⟩ fun t h h0 => ?_
  exact wp_reconnect h0

/-- As long as the module does not open a session twice, there is at most one. -/
theorem sessions_le_one (hunspoiled : Program.Unhooked Spoils h) : (resources h).sessions.length ≤ 1 := by
  induction h with
  | nil => exact Nat.zero_le 1
  | cons e h ih =>
    obtain ⟨hnot, hrest⟩ := hunspoiled
    have hbefore := ih hrest
    have hlength := after_sessions_length (resources h) e
    rw [← resources_cons] at hlength
    cases hopens : e.opens with
    | false =>
      rw [hopens, Bool.toNat_false] at hlength
      omega
    | true =>
      have hunopened : h.any Event.opens = false := by
        refine Bool.eq_false_iff.mpr fun hsome => hnot ?_
        obtain ⟨a, answer⟩ := e
        cases a with
        | xInitializePkcs11Session => exact ⟨hopens, hsome⟩
        | _ => cases hopens
      rw [hopens, Bool.toNat_true, sessions_of_unopened hunopened, List.length_nil] at hlength
      omega

/-- In every run of `aws_iot_main_entry` that opens no second session and in which no step
fails after a session has been opened, at most one session is open, and every failed call
of `aws_iot_provisioning_main` has released all that it had opened. -/
theorem provisioning_is_balanced (oracle : (a : Action) → List Event → a.Answer) (n : Nat)
    (hunspoiled : Program.Unhooked Spoils (aws_iot_main_entry.recorded oracle n).2) :
    (resources (aws_iot_main_entry.recorded oracle n).2).sessions.length ≤ 1 ∧
    ((aws_iot_main_entry.recorded oracle n).1.next = some (.vTaskDelay 3000) →
      (resources (aws_iot_main_entry.recorded oracle n).2).Released) := by
  constructor
  · exact sessions_le_one hunspoiled
  · intro hnext
    exact Program.wp_next (Program.wp_until_recorded wp_main_entry hunspoiled) hnext rfl

/-- The module opens one session, and the connection is lost at the first call of the process loop. -/
def one_session : (a : Action) → List Event → a.Answer
  | .xInitializePkcs11Session, history => !history.any Event.opens
  | .MQTT_ProcessLoop, _ => ⟨false, none⟩
  | a, _ => a.success

set_option maxRecDepth 4000 in
theorem provisioning_is_balanced_after_one_session :
    (aws_iot_main_entry.recorded one_session 87).1.next = some (.vTaskDelay 3000) ∧
    (resources (aws_iot_main_entry.recorded one_session 87).2).sessions.length ≤ 1 ∧
    (resources (aws_iot_main_entry.recorded one_session 87).2).Released := by
  have hbalanced := provisioning_is_balanced one_session 87 (by decide +kernel)
  exact ⟨rfl, hbalanced.1, hbalanced.2 rfl⟩

/-- The broker has kept the session, and resending a publish to it fails. -/
def resend_fails : (a : Action) → List Event → a.Answer
  | .handlePublishResend, _ => false
  | a, _ => a.success

/-- A call fails with its session and its connection open, and the next call opens another session. -/
theorem failed_resend_leaks :
    (aws_iot_main_entry.recorded resend_fails 15).1.next = some (.vTaskDelay 3000) ∧
    ¬ (resources (aws_iot_main_entry.recorded resend_fails 15).2).Released ∧
    (resources (aws_iot_main_entry.recorded resend_fails 19).2).sessions = [2, 1] := by
  refine ⟨rfl, fun hreleased => ?_, by decide⟩
  exact hreleased.connections (by decide)

end catbox.provisioning
