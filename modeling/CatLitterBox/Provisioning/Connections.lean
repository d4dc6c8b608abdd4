import CatLitterBox.Program.Implement
import CatLitterBox.Provisioning.Main
import CatLitterBox.Provisioning.Tls

open program

namespace catbox.tls

/-- What a turn of the loop of `connectToBrokerWithBackoffRetries` leaves to the next one: its back-off context
and the delay before the next attempt. -/
structure Retries where
  reconnectParams : BackoffAlgorithmContext
  nextRetryBackOff : Nat

def Retries.start : Retries where
  reconnectParams := BackoffAlgorithm_InitializeParams CONNECTION_RETRY_BACKOFF_BASE_MS
    CONNECTION_RETRY_MAX_BACKOFF_DELAY_MS CONNECTION_RETRY_MAX_ATTEMPTS
  nextRetryBackOff := 0

/-- The first attempt starts the back-off. -/
def started (attemptsDone : Nat) (r : Retries) : Code Retries :=
  if attemptsDone = 0 then do
    let _ ← act .BackoffAlgorithm_InitializeParams
    return .start
  else return r

/-- The next back-off, if there is one. -/
def Retries.granted (r : Retries) : Option (Nat × BackoffAlgorithmContext) → Retries
  | none => r
  | some (nextRetryBackOff, reconnectParams) => ⟨reconnectParams, nextRetryBackOff⟩

/-- An attempt, and the back-off that it is given where it fails. -/
def tried (r : Retries) : Code (Bool × Retries) := do
  let tlsStatus ← Mbedtls_Pkcs11_Connect
  if tlsStatus = .MBEDTLS_PKCS11_SUCCESS then return (true, r)
  else do
    let randomValue : UInt32 ← act .rand
    return (false, r.granted (BackoffAlgorithm_GetNextBackoff r.reconnectParams randomValue))

def attempt (attemptsDone : Nat) (r : Retries) : Code (Bool × Retries) := do
  let r ← started attemptsDone r
  tried r

def disconnect (r : Retries) : Code (Unit × Retries) := do
  Mbedtls_Pkcs11_Disconnect
  return ((), r)

def sleep (r : Retries) : Code (Unit × Retries) := do
  let _ ← act (.Clock_SleepMs r.nextRetryBackOff)
  return ((), r)

end catbox.tls

namespace catbox.provisioning

open tls (Retries Bare Over All)

/-- The actions of the task beside those of the TLS connections. -/
abbrev Layered.Answer : provisioning.Action ⊕ tls.Action → Type :=
  Sum.elim provisioning.Action.Answer tls.Action.Answer

abbrev Layered (α : Type) : Type 1 := Program (provisioning.Action ⊕ tls.Action) Layered.Answer α

abbrev Layered.Event : Type := (a : provisioning.Action ⊕ tls.Action) × Layered.Answer a

def below {α : Type} (c : tls.Code α) : Layered α := c.embed .inr fun _ answer => answer

/-- The actions on the TLS connection are carried out by the functions of `mbedtls_pkcs11_posix.c` and the
back-off; the others are left as they are. -/
def carry_out : (a : Action) → Retries → Layered (a.Answer × Retries)
  | .Mbedtls_Pkcs11_Connect attemptsDone, r => below (tls.attempt attemptsDone r)
  | .Mbedtls_Pkcs11_Disconnect, r => below (tls.disconnect r)
  | .Clock_SleepMs, r => below (tls.sleep r)
  | a, r => (Program.perform (R := Layered.Answer) (.inl a)).bind fun answer => .ret (answer, r)

/-- The task with its TLS connections. -/
def aws_iot_main_entry_layered : Layered (Empty × Retries) := aws_iot_main_entry.implement carry_out .start

/-- What has happened to the TLS connections. -/
def tls_events : List Layered.Event → List tls.Event
  | [] => []
  | ⟨.inl _, _⟩ :: h => tls_events h
  | ⟨.inr a, answer⟩ :: h => ⟨a, answer⟩ :: tls_events h

def Layered.Careful : provisioning.Action ⊕ tls.Action → List Layered.Event → Prop
  | .inl _, _ => True
  | .inr a, h => tls.Careful a (tls_events h)

/-- The publishes of a session that the broker has kept could not be sent again. -/
def unresent : (a : Action) → a.Answer → Bool
  | .handlePublishResend, (resent : Bool) => !resent
  | _, _ => false

def Layered.Unresent : (a : provisioning.Action ⊕ tls.Action) → Layered.Answer a → List Layered.Event → Prop
  | .inl a, answer, _ => unresent a answer = true
  | .inr _, _, _ => False

instance : (a : provisioning.Action ⊕ tls.Action) → (answer : Layered.Answer a) → (h : List Layered.Event) →
    Decidable (Layered.Unresent a answer h)
  | .inl a, answer, _ => inferInstanceAs (Decidable (unresent a answer = true))
  | .inr _, _, _ => inferInstanceAs (Decidable False)

abbrev layered_spec : Spec (provisioning.Action ⊕ tls.Action) Layered.Answer (List Layered.Event) :=
  (Spec.history Layered.Careful).until Layered.Unresent

/-- The TLS connection as the task sees it: the next attempt may be made, the back-off after a failed one is
still to be waited for, or it is there. -/
inductive Link where
  | ready (attemptsDone : Nat)
  | waiting (attemptsDone : Nat)
  | up

def Link.Allows : Action → Link → Prop
  | .Mbedtls_Pkcs11_Connect attemptsDone, l => l = .ready attemptsDone ∧ attemptsDone ≤ CONNECTION_RETRY_MAX_ATTEMPTS
  | .Clock_SleepMs, l => ∃ attemptsDone, l = .waiting attemptsDone
  | .Mbedtls_Pkcs11_Disconnect, l => l = .up
  | _, _ => True

def Link.after : (a : Action) → a.Answer → Link → Link
  | .Mbedtls_Pkcs11_Connect attemptsDone, (connected : Bool), _ =>
    if connected then .up
    else if attemptsDone < CONNECTION_RETRY_MAX_ATTEMPTS then .waiting attemptsDone
    else .ready 0
  | .Clock_SleepMs, _, .waiting attemptsDone => .ready (attemptsDone + 1)
  | .Mbedtls_Pkcs11_Disconnect, _, _ => .ready 0
  | _, _, l => l

abbrev link_spec : Spec Action Action.Answer Link :=
  Spec.until ⟨Link.Allows, fun a l answer l' => l' = l.after a answer⟩ fun a answer _ => unresent a answer = true

/-- An action that is none of those on the TLS connection. -/
def Unlinked : Action → Prop
  | .Mbedtls_Pkcs11_Connect _ | .Mbedtls_Pkcs11_Disconnect | .Clock_SleepMs => False
  | _ => True

variable {α β γ : Type} {l : Link} {s : Static} {a : Action}

theorem allows_unlinked (ha : Unlinked a) : Link.Allows a l := by
  cases a with
  | Mbedtls_Pkcs11_Connect => exact ha.elim
  | Mbedtls_Pkcs11_Disconnect => exact ha.elim
  | Clock_SleepMs => exact ha.elim
  | _ => trivial

theorem after_unlinked (ha : Unlinked a) (answer : a.Answer) : l.after a answer = l := by
  cases a with
  | Mbedtls_Pkcs11_Connect => exact ha.elim
  | Mbedtls_Pkcs11_Disconnect => exact ha.elim
  | Clock_SleepMs => exact ha.elim
  | _ => rfl

theorem wp_link_bind {f : a.Answer → Code γ} {Q : γ → Link → Prop} (hallow : Link.Allows a l)
    (hf : ∀ answer, unresent a answer = false → (f answer).wp link_spec Q (l.after a answer)) :
    ((act a).bind f).wp link_spec Q l := by
  refine Program.wp_perform_bind hallow fun answer l' htrans => ?_
  obtain ⟨rfl, hsent⟩ := htrans
  exact hf answer (Bool.eq_false_iff.mpr hsent)

/-- Code without the TLS connection leaves it as it is. -/
theorem wp_unlinked {c : Code α} {Q : α → Link → Prop} (hc : c.Every Unlinked) (hQ : ∀ x, Q x l) :
    c.wp link_spec Q l := by
  refine Program.wp_mono (P := fun _ t => t = l) ?_ (Program.wp_of_every hc ?_ ?_ rfl)
  · rintro x _ rfl
    exact hQ x
  · exact fun a t ha _ => allows_unlinked ha
  · rintro a t answer t' ha rfl ⟨rfl, -⟩
    exact after_unlinked ha answer

theorem wp_unlinked_bind {c : Code α} {f : α → Code γ} {Q : γ → Link → Prop} (hc : c.Every Unlinked)
    (hf : ∀ x, (f x).wp link_spec Q l) : (c.bind f).wp link_spec Q l :=
  Program.wp_seq (wp_unlinked hc hf)

/-- The connection of a success, and none after a failure. -/
def Link.Is (l : Link) (connected : Prop) : Prop := (connected → l = .up) ∧ (¬ connected → l = .ready 0)

private theorem wp_link_connectToBroker :
    connectToBrokerWithBackoffRetries.wp link_spec (fun connected l => l.Is (connected = true)) (.ready 0) := by
  refine Program.wp_repeated (fun attemptsDone l => l = .ready attemptsDone ∧
    attemptsDone ≤ CONNECTION_RETRY_MAX_ATTEMPTS) ⟨rfl, Nat.zero_le _⟩ ?_
  rintro attemptsDone l hready
  refine wp_link_bind hready fun (connected : Bool) _ => ?_
  cases connected with
  | true => exact ⟨fun _ => rfl, fun hnot => absurd rfl hnot⟩
  | false =>
    refine Program.wp_ite nofun fun _ => ?_
    by_cases hleft : attemptsDone < CONNECTION_RETRY_MAX_ATTEMPTS
    · have hafter : l.after (.Mbedtls_Pkcs11_Connect attemptsDone) false = .waiting attemptsDone := if_pos hleft
      rw [hafter]
      refine Program.wp_ite (fun _ => ?_) fun hnot => absurd hleft hnot
      exact wp_link_bind ⟨attemptsDone, rfl⟩ fun _ _ => ⟨rfl, hleft⟩
    · have hafter : l.after (.Mbedtls_Pkcs11_Connect attemptsDone) false = .ready 0 := if_neg hleft
      rw [hafter]
      exact Program.wp_ite (fun hmore => absurd hmore hleft) fun _ => ⟨nofun, fun _ => rfl⟩

theorem wp_link_establish :
    (EstablishMqttSession s).wp link_spec (fun x l => l.Is (x.1 = true)) (.ready 0) := by
  refine Program.wp_seq (Program.wp_mono ?_ wp_link_connectToBroker)
  rintro connected l ⟨hup, hdown⟩
  cases connected with
  | false => exact ⟨nofun, fun _ => hdown nofun⟩
  | true =>
    obtain rfl := hup rfl
    refine wp_link_bind trivial fun (sessionPresent : Option Bool) _ => ?_
    match sessionPresent with
    | none => exact wp_link_bind rfl fun _ _ => ⟨nofun, fun _ => rfl⟩
    | some true =>
      refine wp_link_bind trivial fun (resent : Bool) hsent => ?_
      have hresent : resent = true := by simpa [unresent] using hsent
      exact ⟨fun _ => rfl, fun hnot => absurd hresent hnot⟩
    | some false => exact wp_link_bind trivial fun _ _ => ⟨fun _ => rfl, fun hnot => absurd rfl hnot⟩

theorem wp_link_disconnect :
    (DisconnectMqttSession s).wp link_spec (fun _ l => l = .ready 0) .up := by
  refine Program.wp_ite (fun _ => ?_) fun _ => ?_
  · exact wp_link_bind trivial fun _ _ => wp_link_bind rfl fun _ _ => rfl
  · exact wp_link_bind rfl fun _ _ => rfl

private theorem subscribe_init_unlinked : (mqtt_subscribe_init s).Every Unlinked := by
  have hblock (topic : session.Cmd) (s : Static) : (subscribe topic s).Every Unlinked :=
    subscribe_every trivial (fun _ => trivial) trivial trivial trivial
  refine Program.every_bind (free_topics_every fun _ => trivial) fun _ => ?_
  refine Program.every_bind (hblock _ _) fun s => ?_
  refine Program.every_bind (hblock _ _) fun s => ?_
  refine Program.every_bind (hblock _ _) fun s => ?_
  refine Program.every_bind (hblock _ _) fun s => ?_
  refine Program.every_bind (hblock _ _) fun s => ?_
  refine Program.every_bind (hblock _ _) fun s => ?_
  exact Program.every_bind (hblock _ _) fun s => trivial

theorem wp_link_device_session {is_registered : Bool} : (device_session is_registered s).wp link_spec
    (fun x l => l.Is (x.1 = .EXIT_SUCCESS)) (.ready 0) := by
  refine Program.wp_seq (Program.wp_mono ?_ wp_link_establish)
  rintro ⟨established, s⟩ l ⟨hup, hdown⟩
  cases established with
  | false => exact ⟨nofun, fun _ => hdown nofun⟩
  | true =>
    obtain rfl := hup rfl
    refine wp_unlinked_bind subscribe_init_unlinked fun subscribed => ?_
    refine Program.wp_ite (fun _ => ?_) fun _ => ?_
    · refine Program.wp_seq (Program.wp_mono ?_ wp_link_disconnect)
      rintro _ l rfl
      exact ⟨nofun, fun _ => rfl⟩
    · exact wp_link_bind trivial fun _ _ => ⟨fun _ => rfl, fun hnot => absurd rfl hnot⟩

private theorem wp_link_claim_session :
    (claim_session s).wp link_spec (fun _ l => l = .ready 0) (.ready 0) := by
  refine Program.wp_seq (Program.wp_mono ?_ wp_link_establish)
  rintro ⟨established, s⟩ l ⟨hup, hdown⟩
  cases established with
  | false => exact hdown nofun
  | true =>
    obtain rfl := hup rfl
    refine Program.wp_seq (Program.wp_mono ?_ wp_link_disconnect)
    rintro _ l rfl
    exact wp_link_bind trivial fun _ _ => rfl

private theorem wp_link_provisioning_main : (aws_iot_provisioning_main s).wp link_spec
    (fun x l => l.Is (x.1 = .EXIT_SUCCESS)) (.ready 0) := by
  refine wp_link_bind trivial fun (is_registered : Bool) _ => ?_
  refine wp_link_bind trivial fun (opened : Bool) _ => ?_
  refine Program.wp_ite (fun _ => ⟨nofun, fun _ => rfl⟩) fun _ => ?_
  refine Program.wp_ite (fun _ => wp_link_device_session) fun _ => ?_
  refine Program.wp_seq (Program.wp_mono ?_ wp_link_claim_session)
  rintro ⟨claimed, s⟩ l rfl
  exact Program.wp_ite (fun _ => ⟨nofun, fun _ => rfl⟩) fun _ => wp_link_device_session

private theorem wp_link_provision {t : Task} : (provision t).wp link_spec
    (fun o l => o.elim (fun _ => l = .ready 0) fun _ => l = .up) (.ready 0) := by
  refine Program.wp_seq (Program.wp_mono ?_ wp_link_provisioning_main)
  rintro ⟨exit, s⟩ l ⟨hup, hdown⟩
  cases exit with
  | EXIT_SUCCESS => exact hup rfl
  | EXIT_FAILURE =>
    obtain rfl := hdown nofun
    refine wp_link_bind trivial fun _ _ => ?_
    refine Program.wp_ite (fun _ => ?_) fun _ => rfl
    refine wp_unlinked_bind (Program.every_repeated fun _ => ?_) nofun
    exact Program.every_bind (every_act trivial) fun _ => trivial

private theorem serve_unlinked : (serve s).Every Unlinked :=
  serve_every (fun _ _ => consume_every trivial (fun _ => trivial) fun _ => trivial) trivial trivial trivial trivial

private theorem wp_link_reconnect {t : Task} :
    (reconnect t).wp link_spec (fun o l => o.elim (fun _ => l = .ready 0) fun _ => True) (.ready 0) := by
  refine wp_link_bind trivial fun _ _ => ?_
  refine wp_link_bind trivial fun _ _ => ?_
  refine wp_link_bind trivial fun _ _ => ?_
  refine Program.wp_seq (Program.wp_mono (P := fun _ l => l = .up) ?_ ?_)
  · rintro t l rfl
    refine wp_link_bind trivial fun _ _ => ?_
    refine wp_link_bind trivial fun _ _ => ?_
    refine wp_unlinked_bind (Program.every_repeated fun _ => serve_unlinked) fun s => ?_
    refine wp_link_bind trivial fun _ _ => ?_
    refine Program.wp_seq (Program.wp_mono ?_ wp_link_disconnect)
    rintro _ l rfl
    exact wp_link_bind trivial fun _ _ => rfl
  · refine Program.wp_repeated (fun _ l => l = .ready 0) rfl ?_
    rintro t l rfl
    exact wp_link_provision

/-- The task makes its attempts and waits in turn, and closes only the connection that it has. -/
theorem wp_link_main_entry : aws_iot_main_entry.wp link_spec (fun _ _ => True) (.ready 0) := by
  refine wp_link_bind trivial fun _ _ => ?_
  refine wp_link_bind trivial fun _ _ => ?_
  refine wp_link_bind trivial fun _ _ => ?_
  refine wp_link_bind trivial fun _ _ => ?_
  refine Program.wp_repeated (fun _ l => l = .ready 0) rfl ?_
  rintro t l rfl
  exact wp_link_reconnect

variable {r : Retries} {h : List tls.Event}

/-- Before the given attempt the back-off has granted as many retries as there have been attempts. -/
def Granted (attemptsDone : Nat) (r : Retries) (h : List tls.Event) : Prop :=
  tls.Between r.reconnectParams h ∧ r.reconnectParams.attemptsDone = attemptsDone

/-- What the connection as the task sees it says about the structures of mbedTLS. -/
def Link.Made : Link → Retries → List tls.Event → Prop
  | .ready attemptsDone, r, h => Bare h ∧ (attemptsDone ≠ 0 → Granted attemptsDone r h)
  | .waiting attemptsDone, r, h =>
    Granted (attemptsDone + 1) r h ∧ r.nextRetryBackOff ≤ min (500 * 2 ^ attemptsDone) 5000
  | .up, _, h => All .held h

private theorem wp_link_started {attemptsDone : Nat} (hmade : (Link.ready attemptsDone).Made r h) :
    (tls.started attemptsDone r).wp tls.tls_spec (fun r t => Granted attemptsDone r t) h := by
  refine Program.wp_ite (fun hfirst => ?_) fun hlater => hmade.2 hlater
  refine Program.wp_history_bind hmade.1 fun _ => ?_
  exact ⟨⟨hmade.1, ⟨rfl, rfl, rfl, Nat.zero_le _⟩, rfl⟩, hfirst.symm⟩

theorem wp_link_attempt {attemptsDone : Nat} (hfew : attemptsDone ≤ CONNECTION_RETRY_MAX_ATTEMPTS)
    (hmade : (Link.ready attemptsDone).Made r h) : (tls.attempt attemptsDone r).wp tls.tls_spec
    (fun x t => (Link.after (.Mbedtls_Pkcs11_Connect attemptsDone) x.1 l).Made x.2 t) h := by
  refine Program.wp_seq (Program.wp_mono ?_ (wp_link_started hmade))
  rintro r t ⟨hbetween, hdone⟩
  have hcount := hbetween.attempts
  rw [hdone] at hcount
  refine Program.wp_seq (Program.wp_mono ?_ (tls.wp_connect hbetween.bare (hcount ▸ hfew)))
  rintro status u ⟨hattempts, hok, hfailed⟩
  rw [hcount] at hattempts
  refine Program.wp_ite (fun hs => hok hs) fun hs => ?_
  refine Program.wp_history_bind trivial fun (randomValue : UInt32) => ?_
  change (Link.after (.Mbedtls_Pkcs11_Connect attemptsDone) false l).Made
    (r.granted (tls.BackoffAlgorithm_GetNextBackoff r.reconnectParams randomValue)) _
  have hover : Over (⟨.rand, randomValue⟩ :: u) := ⟨(hfailed hs).freed, (hfailed hs).allocated⟩
  cases hnext : tls.BackoffAlgorithm_GetNextBackoff r.reconnectParams randomValue with
  | none =>
    have hexhausted := tls.backoff_exhausted hbetween.backoff hnext
    rw [hdone] at hexhausted
    have hafter : Link.after (.Mbedtls_Pkcs11_Connect attemptsDone) false l = .ready 0 := if_neg hexhausted
    rw [hafter]
    exact ⟨hover.bare, fun hnot => absurd rfl hnot⟩
  | some next =>
    obtain ⟨nextRetryBackOff, reconnectParams⟩ := next
    obtain ⟨hbackoff, hcount', hbound⟩ := tls.backoff_next hbetween.backoff hnext
    have hleft : attemptsDone < CONNECTION_RETRY_MAX_ATTEMPTS := by
      have hmax := hbackoff.attemptsDone
      rw [hcount', hdone] at hmax
      exact hmax
    have hafter : Link.after (.Mbedtls_Pkcs11_Connect attemptsDone) false l = .waiting attemptsDone := if_pos hleft
    rw [hafter]
    rw [hdone] at hcount' hbound
    exact ⟨⟨⟨hover.bare, hbackoff, hattempts.trans hcount'.symm⟩, hcount'⟩, hbound⟩

theorem wp_link_sleep {attemptsDone : Nat} (hmade : (Link.waiting attemptsDone).Made r h) :
    (tls.sleep r).wp tls.tls_spec (fun x t => (Link.ready (attemptsDone + 1)).Made x.2 t) h := by
  obtain ⟨⟨hbetween, hdone⟩, hbound⟩ := hmade
  have hcount := hbetween.attempts
  rw [hdone] at hcount
  refine Program.wp_history_bind ⟨hbetween.bare, ?_⟩ fun _ => ?_
  · rw [hcount]
    exact hbound
  · exact ⟨hbetween.bare, fun _ => ⟨⟨hbetween.bare, hbetween.backoff, hbetween.attempts⟩, hdone⟩⟩

theorem wp_link_closed (hmade : Link.up.Made r h) :
    (tls.disconnect r).wp tls.tls_spec (fun x t => (Link.ready 0).Made x.2 t) h := by
  refine Program.wp_seq (Program.wp_mono ?_ (tls.wp_disconnect hmade))
  exact fun _ t hall => ⟨hall.over.bare, fun hnot => absurd rfl hnot⟩

/-- Code of the TLS connections does the same within the task. -/
theorem wp_below {c : tls.Code α} {Q : α → List tls.Event → Prop} {h : List Layered.Event}
    (hc : c.wp tls.tls_spec Q (tls_events h)) :
    (below c).wp layered_spec (fun x t => Q x (tls_events t)) h := by
  have hallow (a : tls.Action) (t : List Layered.Event) (ha : tls.tls_spec.allow a (tls_events t)) :
      layered_spec.allow (.inr a) t := ha
  refine Program.wp_embed hallow ?_ hc
  rintro a t answer _ ⟨rfl, -⟩
  rfl

private theorem carry_out_unlinked (ha : Unlinked a) : carry_out a r =
    (Program.perform (R := Layered.Answer) (.inl a)).bind fun answer => .ret (answer, r) := by
  cases a with
  | Mbedtls_Pkcs11_Connect => exact ha.elim
  | Mbedtls_Pkcs11_Disconnect => exact ha.elim
  | Clock_SleepMs => exact ha.elim
  | _ => rfl

private theorem wp_carry_out {h : List Layered.Event} (hmade : l.Made r (tls_events h)) (hallow : Link.Allows a l) :
    (carry_out a r).wp layered_spec
      (fun x t => ∃ l', link_spec.trans a l x.1 l' ∧ l'.Made x.2 (tls_events t)) h := by
  by_cases ha : Unlinked a
  · rw [carry_out_unlinked ha]
    refine Program.wp_until_bind trivial fun answer hsent => ⟨l, ⟨(after_unlinked ha answer).symm, hsent⟩, hmade⟩
  · cases a with
    | Mbedtls_Pkcs11_Connect attemptsDone =>
      obtain ⟨rfl, hfew⟩ := hallow
      refine Program.wp_mono ?_ (wp_below (wp_link_attempt (l := .ready attemptsDone) hfew hmade))
      exact fun x t hmade' => ⟨_, ⟨rfl, nofun⟩, hmade'⟩
    | Mbedtls_Pkcs11_Disconnect =>
      obtain rfl := hallow
      refine Program.wp_mono ?_ (wp_below (wp_link_closed hmade))
      exact fun x t hmade' => ⟨_, ⟨rfl, nofun⟩, hmade'⟩
    | Clock_SleepMs =>
      obtain ⟨attemptsDone, rfl⟩ := hallow
      refine Program.wp_mono ?_ (wp_below (wp_link_sleep hmade))
      exact fun x t hmade' => ⟨_, ⟨rfl, nofun⟩, hmade'⟩
    | _ => exact absurd trivial ha

theorem wp_main_entry_layered : aws_iot_main_entry_layered.wp layered_spec (fun _ _ => True) [] := by
  have hstart : (Link.ready 0).Made .start (tls_events []) := ⟨⟨nofun, rfl⟩, fun hnot => absurd rfl hnot⟩
  have hcarry (a : Action) (l : Link) (r : Retries) (t : List Layered.Event) (hmade : l.Made r (tls_events t))
      (hallow : link_spec.allow a l) : (carry_out a r).wp layered_spec
      (fun x u => ∃ l', link_spec.trans a l x.1 l' ∧ l'.Made x.2 (tls_events u)) t := wp_carry_out hmade hallow
  exact Program.wp_mono (fun _ _ _ => trivial) (Program.wp_implement hcarry wp_link_main_entry hstart)

/-- The loops of the two levels after the same attempts. -/
structure Abreast (x : Nat × Retries) (c : tls.BackoffAlgorithmContext) : Prop where
  context : x.2.reconnectParams = c
  backoff : tls.Backoff c
  attemptsDone : c.attemptsDone = x.1
  retried : x.1 ≠ 0

/-- What a turn of the loop of the task does after an attempt. -/
def tried_turn (attemptsDone : Nat) (x : Bool × Retries) : Layered ((Nat × Retries) ⊕ (Bool × Retries)) :=
  ((if x.1 then .ret (.inr true)
    else if attemptsDone < CONNECTION_RETRY_MAX_ATTEMPTS then
      (act .Clock_SleepMs).bind fun _ => .ret (.inl (attemptsDone + 1))
    else .ret (.inr false) : Code (Nat ⊕ Bool)).implement carry_out x.2).bind fun o =>
      .ret (o.1.elim (fun z => .inl (z, o.2)) fun b => .inr (b, o.2))

theorem tried_alike {attemptsDone : Nat} (hbackoff : tls.Backoff r.reconnectParams)
    (hdone : r.reconnectParams.attemptsDone = attemptsDone) :
    Program.Alike (Sum.LiftRel Abreast fun x connected => x.1 = connected)
      ((below (tls.tried r)).bind (tried_turn attemptsDone)) (below (tls.connectTurn r.reconnectParams)) := by
  have htried : below (tls.tried r) = (below tls.Mbedtls_Pkcs11_Connect).bind _ := Program.embed_bind _ _
  have hturn : below (tls.connectTurn r.reconnectParams) = (below tls.Mbedtls_Pkcs11_Connect).bind _ :=
    Program.embed_bind _ _
  rw [htried, hturn, Program.bind_assoc]
  refine Program.alike_bind (Program.alike_refl (fun _ => rfl) _) ?_
  rintro status _ rfl
  by_cases hs : status = .MBEDTLS_PKCS11_SUCCESS
  · subst hs
    exact .ret (.inr rfl)
  · simp only [if_neg hs]
    refine .act fun (randomValue : UInt32) => ?_
    change Program.Alike _
      (tried_turn attemptsDone (false, r.granted (tls.BackoffAlgorithm_GetNextBackoff r.reconnectParams randomValue)))
      (below (tls.waitBackoff (tls.BackoffAlgorithm_GetNextBackoff r.reconnectParams randomValue)))
    cases hnext : tls.BackoffAlgorithm_GetNextBackoff r.reconnectParams randomValue with
    | none =>
      have hexhausted : ¬ attemptsDone < CONNECTION_RETRY_MAX_ATTEMPTS :=
        hdone ▸ tls.backoff_exhausted hbackoff hnext
      have hleave : tried_turn attemptsDone (false, r) = .ret (.inr (false, r)) := by
        rw [tried_turn, if_neg nofun, if_neg hexhausted]
        rfl
      rw [tls.Retries.granted, hleave]
      exact .ret (.inr rfl)
    | some next =>
      obtain ⟨nextRetryBackOff, reconnectParams⟩ := next
      obtain ⟨hbackoff', hcount, -⟩ := tls.backoff_next hbackoff hnext
      rw [hdone] at hcount
      have hleft : attemptsDone < CONNECTION_RETRY_MAX_ATTEMPTS := by
        have hmax := hbackoff'.attemptsDone
        rw [hcount] at hmax
        exact hmax
      rw [tls.Retries.granted, tried_turn, if_neg nofun, if_pos hleft]
      refine .act fun _ => .ret (.inl ⟨rfl, hbackoff', hcount, ?_⟩)
      exact Nat.succ_ne_zero attemptsDone

def attempt_turn (x : Nat × Retries) : Layered ((Nat × Retries) ⊕ (Bool × Retries)) :=
  (below (tls.attempt x.1 x.2)).bind (tried_turn x.1)

theorem attempt_alike {x : Nat × Retries} {c : tls.BackoffAlgorithmContext} (habreast : Abreast x c) :
    Program.Alike (Sum.LiftRel Abreast fun x connected => x.1 = connected)
      (attempt_turn x) (below (tls.connectTurn c)) := by
  obtain ⟨attemptsDone, r⟩ := x
  obtain ⟨rfl, hbackoff, hdone, hretried⟩ := habreast
  have hlater : tls.started attemptsDone r = .ret r := if_neg hretried
  rw [attempt_turn, tls.attempt, hlater]
  exact tried_alike hbackoff hdone

private theorem implement_connectToBroker (r : Retries) :
    connectToBrokerWithBackoffRetries.implement carry_out r = Program.repeated attempt_turn (0, r) := by
  refine congrArg (fun body => Program.repeated body (0, r)) (funext fun x => ?_)
  exact Program.bind_assoc _ _ _

private theorem below_connectToBroker : below tls.connectToBrokerWithBackoffRetries =
    .act (.inr .BackoffAlgorithm_InitializeParams) fun _ =>
      Program.repeated (fun c => below (tls.connectTurn c)) Retries.start.reconnectParams := rfl

/-- With its actions carried out, the loop of the task that counts the attempts performs what the loop with the
back-off algorithm does, and with the same result. -/
theorem connectToBroker_alike (r : Retries) :
    Program.Alike (fun x connected => x.1 = connected)
      (connectToBrokerWithBackoffRetries.implement carry_out r) (below tls.connectToBrokerWithBackoffRetries) := by
  have hleave (x : Bool × Retries) (connected : Bool) (hx : x.1 = connected) :
      Program.Alike (fun (x : Bool × Retries) connected => x.1 = connected)
        (.ret x : Layered (Bool × Retries)) (.ret connected) := .ret hx
  have hfirst := tried_alike (r := .start) ⟨rfl, rfl, rfl, Nat.zero_le _⟩ rfl
  have hround := Program.alike_turn (I := Abreast) (fun _ _ => attempt_alike) hleave hfirst
  rw [implement_connectToBroker, below_connectToBroker]
  -- the first turn starts the back-off, which the other loop finds started
  refine .unroll_left (.act fun _ => .unroll_right ?_)
  exact hround

/-- The two models of `connectToBrokerWithBackoffRetries` agree: whatever mbedTLS, PKCS #11 and the socket
answer, what the loop of the task does with its actions carried out is what the loop with the back-off
algorithm does, and what is left of the two is alike. -/
theorem connectToBroker_recorded (r : Retries)
    (oracle : (a : provisioning.Action ⊕ tls.Action) → List Layered.Event → Layered.Answer a) (n : Nat) :
    let task := (connectToBrokerWithBackoffRetries.implement carry_out r).recorded oracle
    let backoff := (below tls.connectToBrokerWithBackoffRetries).recorded oracle
    ∃ m, (task n).2 = (backoff m).2 ∧ Program.Alike (fun x connected => x.1 = connected) (task n).1 (backoff m).1 :=
  Program.alike_recorded (connectToBroker_alike r) n

end catbox.provisioning

namespace catbox.tls

open provisioning

/-- The broker is out of reach until the third attempt, and the connection is lost at the first call of the
process loop. -/
def third_time : (a : provisioning.Action ⊕ Action) → List Layered.Event → Layered.Answer a
  | .inl .malloc_topic, _ => (none : Option Nat)
  | .inl .MQTT_ProcessLoop, _ => ⟨false, none⟩
  | .inl a, _ => a.success
  | .inr (.call .mbedtls_net_connect), h => decide (2 < attempts (tls_events h))
  | .inr (.call _), _ => true
  | .inr .keyType, _ => KeyType.CKK_EC
  | .inr .malloc_certificate, _ => true
  | .inr .mbedtls_ssl_handshake, _ => Handshake.done
  | .inr .rand, h => .ofNat h.length
  | .inr (.init _), _ | .inr (.free _), _ | .inr .free_certificate, _ | .inr .BackoffAlgorithm_InitializeParams, _
  | .inr (.Clock_SleepMs _), _ => ()

end catbox.tls
