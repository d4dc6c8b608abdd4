import CatLitterBox.Provisioning.Main

open program coremqtt

namespace catbox.provisioning

/-- The latest elements of a list that starts with the latest are all the occurrences of a value exactly if
nothing else has come after one of them. -/
theorem take_count_eq_replicate_iff {A : Type} [DecidableEq A] {a : A} {l : List A} :
    l.take (l.count a) = List.replicate
    (l.count a) a ↔ l.Pairwise fun later earlier => earlier = a → later = a := by
  induction l with
  | nil => exact ⟨fun _ => .nil, fun _ => rfl⟩
  | cons b l ih =>
    rw [List.pairwise_cons]
    by_cases hb : b = a
    · rw [hb, List.count_cons_self, List.take_succ_cons, List.replicate_succ, List.cons_inj_right, ih]
      exact ⟨fun hl => ⟨fun _ _ _ => rfl, hl⟩, And.right⟩
    · rw [List.count_cons_of_ne hb]
      constructor
      · intro htake
        have hnone : l.count a = 0 := by
          by_contra hsome
          obtain ⟨n, hn⟩ := Nat.exists_eq_succ_of_ne_zero hsome
          rw [hn, List.take_succ_cons, List.replicate_succ] at htake
          exact hb (List.cons.inj htake).1
        have hmem := List.count_eq_zero.mp hnone
        refine ⟨fun earlier hearlier heq => absurd (heq ▸ hearlier) hmem, ih.mp ?_⟩
        rw [hnone]
        rfl
      · rintro ⟨hall, -⟩
        have hnone : l.count a = 0 := List.count_eq_zero.mpr fun hmem => hb (hall a hmem rfl)
        rw [hnone]
        rfl

/-- What a call of `aws_iot_provisioning_main` has returned, in the event that shows it. -/
def Event.outcome : Event → Option ExitCode
  | ⟨.set_aws_started, _⟩ => some .EXIT_SUCCESS
  | ⟨.vTaskDelay delay, _⟩ => if delay = 3000 then some .EXIT_FAILURE else none
  | _ => none

/-- What the calls of `aws_iot_provisioning_main` have returned, the latest first. -/
def outcomes (history : List Event) : List ExitCode := history.filterMap Event.outcome

/-- The actions within a call, within a session, and between them. -/
def Inner : Action → Prop
  | .set_aws_started | .esp_restart => False
  | .vTaskDelay delay => delay ≠ 3000
  | _ => True

/-- A restart comes after the eleventh failure. -/
def Restarts (a : Action) (h : List Event) : Prop := a = .esp_restart → (outcomes h).count .EXIT_FAILURE = 11

abbrev restart_spec : Spec Action Action.Answer (List Event) := .history Restarts

/-- The counter is the number of all failures since boot. -/
structure Counted (t : Task) (l : List ExitCode) : Prop where
  counted : l.count .EXIT_FAILURE = t.provisioning_count
  bounded : t.provisioning_count ≤ 10

variable {h : List Event} {s : Static} {t : Task}

private theorem outcomes_inner {a : Action} (ha : Inner a) (answer : a.Answer) :
    outcomes (⟨a, answer⟩ :: h) = outcomes h := by
  have hnone : Event.outcome ⟨a, answer⟩ = none := by
    cases a with
    | set_aws_started => exact ha.elim
    | vTaskDelay delay => exact if_neg ha
    | _ => rfl
  exact List.filterMap_cons_none hnone

private theorem inner_allowed {a : Action} (ha : Inner a) : Restarts a h := by
  rintro rfl
  exact ha.elim

theorem wp_inner_seq {α γ : Type} {c : Code α} {f : α → Code γ} {P : List ExitCode → Prop}
    {Q : γ → List Event → Prop} (hc : c.Every Inner) (h0 : P (outcomes h))
    (hf : ∀ x u, P (outcomes u) → (f x).wp restart_spec Q u) : (c.bind f).wp restart_spec Q h := by
  refine Program.wp_seq (Program.wp_history_of_every (I := fun u => P (outcomes u)) hc ?_ ?_ h0 hf)
  · exact fun a u ha _ => inner_allowed ha
  · intro a answer u ha hu
    rwa [outcomes_inner ha]

theorem wp_inner_bind {α : Type} {a : Action} {f : a.Answer → Code α} {P : List ExitCode → Prop}
    {Q : α → List Event → Prop} (ha : Inner a) (h0 : P (outcomes h))
    (hf : ∀ answer u, P (outcomes u) → (f answer).wp restart_spec Q u) : ((act a).bind f).wp restart_spec Q h :=
  wp_inner_seq (every_act ha) h0 hf

theorem disconnect_inner : (DisconnectMqttSession s).Every Inner := disconnectMqttSession_every trivial trivial

private theorem provisions_inner {a : Action} (ha : Provisions a) : Inner a := by
  cases a with
  | set_aws_started => exact ha
  | esp_restart => exact ha
  | vTaskDelay delay =>
    obtain rfl : delay = 1000 := ha
    simp [Inner]
  | _ => trivial

/-- A call of `aws_iot_provisioning_main` does not restart the device, and what it returns shows only after it.
-/
theorem provisioning_main_inner : (aws_iot_provisioning_main s).Every Inner :=
  Program.every_mono (fun _ => provisions_inner) provisioning_main_every

private theorem serve_inner : (serve s).Every Inner := by
  refine serve_every (fun q s => ?_) trivial trivial ?_ trivial
  · exact consume_every trivial (fun _ => trivial) fun _ => trivial
  · simp [Inner]

private theorem wp_provision_counted (h0 : Counted t (outcomes h)) : (provision t).wp restart_spec
    (fun o u => Counted (o.elim id id) (outcomes u)) h := by
  refine wp_inner_seq provisioning_main_inner h0 ?_
  rintro ⟨exit, s⟩ h ⟨hcounted, hbounded⟩
  cases exit with
  | EXIT_SUCCESS => exact ⟨hcounted, hbounded⟩
  | EXIT_FAILURE =>
    refine Program.wp_history_bind nofun fun _ => ?_
    have hfailed : (outcomes (⟨.vTaskDelay 3000, ()⟩ :: h)).count .EXIT_FAILURE = t.provisioning_count + 1 :=
      List.count_cons_self.trans (congrArg (· + 1) hcounted)
    refine Program.wp_ite (fun hmany => ?_) fun hfew => ⟨hfailed, not_lt.mp hfew⟩
    have heleven : (outcomes (⟨.vTaskDelay 3000, ()⟩ :: h)).count .EXIT_FAILURE = 11 := by omega
    refine Program.wp_seq (Program.wp_repeated (fun _ u => (outcomes u).count .EXIT_FAILURE = 11) heleven ?_)
    intro _ u hu
    exact Program.wp_history_bind (fun _ => hu) fun _ => hu

private theorem wp_reconnect_counted (h0 : Counted t (outcomes h)) : (reconnect t).wp restart_spec
    (fun o u => o.elim (fun t => Counted t (outcomes u)) fun _ => True) h := by
  refine wp_inner_bind trivial h0 fun _ h h0 => ?_
  refine wp_inner_bind trivial h0 fun _ h h0 => ?_
  refine wp_inner_bind trivial h0 fun _ h h0 => ?_
  refine Program.wp_seq (Program.wp_repeated (fun t u => Counted t (outcomes u)) h0 fun t h h0 => ?_)
  refine Program.wp_mono ?_ (wp_provision_counted h0)
  rintro (t | t) h h0
  · exact h0
  · refine Program.wp_history_bind nofun fun _ => ?_
    -- A success leaves the counter as it is.
    have hsuccess : ExitCode.EXIT_SUCCESS ≠ .EXIT_FAILURE := by decide
    have hkept : Counted t (outcomes (⟨.set_aws_started, ()⟩ :: h)) :=
      ⟨(List.count_cons_of_ne hsuccess).trans h0.counted, h0.bounded⟩
    refine wp_inner_bind trivial hkept fun _ h h0 => ?_
    refine wp_inner_seq (Program.every_repeated fun _ => serve_inner) h0 fun s h h0 => ?_
    refine wp_inner_bind trivial h0 fun _ h h0 => ?_
    refine wp_inner_seq disconnect_inner h0 fun _ h h0 => ?_
    exact wp_inner_bind (by simp [Inner]) h0 fun _ _ h0 => ⟨h0.counted, h0.bounded⟩

private theorem wp_main_entry_restart : aws_iot_main_entry.wp restart_spec (fun _ _ => True) [] := by
  have h0 : Counted ⟨.boot, 0⟩ (outcomes []) := ⟨rfl, Nat.zero_le _⟩
  refine wp_inner_bind trivial h0 fun _ h h0 => ?_
  refine wp_inner_bind trivial h0 fun _ h h0 => ?_
  refine wp_inner_bind trivial h0 fun _ h h0 => ?_
  refine wp_inner_bind trivial h0 fun _ h h0 => ?_
  exact Program.wp_repeated (fun t u => Counted t (outcomes u)) h0 fun t h h0 => wp_reconnect_counted h0

/-- In every run of `aws_iot_main_entry`: where the device is restarted, the eleven latest calls of
`aws_iot_provisioning_main` have all failed if and only if none has succeeded after one that failed. -/
theorem restart_after_repeated_failure_iff (oracle : (a : Action) → List Event → a.Answer) (n : Nat)
    (hrestart : (aws_iot_main_entry.recorded oracle n).1.next = some .esp_restart) :
    (outcomes (aws_iot_main_entry.recorded oracle n).2).take 11 = List.replicate 11 .EXIT_FAILURE ↔
      (outcomes (aws_iot_main_entry.recorded oracle n).2).Pairwise
        fun later earlier => earlier = .EXIT_FAILURE → later = .EXIT_FAILURE := by
  have heleven := Program.wp_next (Program.wp_recorded wp_main_entry_restart n) hrestart rfl
  have hiff := take_count_eq_replicate_iff (a := .EXIT_FAILURE)
      (l := outcomes (aws_iot_main_entry.recorded oracle n).2)
  rwa [heleven] at hiff

/-- No session is opened by the module. -/
def no_module : (a : Action) → List Event → a.Answer
  | .xInitializePkcs11Session, _ => false
  | a, _ => a.success

set_option maxRecDepth 4000 in
theorem restart_after_eleven_failures :
    (aws_iot_main_entry.recorded no_module 53).1.next = some .esp_restart ∧
    (outcomes (aws_iot_main_entry.recorded no_module 53).2).take 11 = List.replicate 11 .EXIT_FAILURE := by
  refine ⟨rfl, (restart_after_repeated_failure_iff no_module 53 rfl).mpr ?_⟩
  decide +kernel

/-- The module opens a session at the second call only, whose connection is lost at once. -/
def one_success : (a : Action) → List Event → a.Answer
  | .xInitializePkcs11Session, history => decide ((outcomes history).length = 1)
  | .malloc_topic, _ => none
  | .MQTT_ProcessLoop, _ => ⟨false, none⟩
  | a, _ => a.success

set_option maxRecDepth 4000 in
/-- The device is restarted after one failure, a success and ten failures. -/
theorem restart_adds_up_over_a_success : ¬ ∀ (oracle : (a : Action) → List Event → a.Answer) (n : Nat),
    (aws_iot_main_entry.recorded oracle n).1.next = some .esp_restart →
    (outcomes (aws_iot_main_entry.recorded oracle n).2).take 11 = List.replicate 11 .EXIT_FAILURE := by
  intro hall
  exact absurd (hall one_success 87 rfl) (by decide +kernel)

end catbox.provisioning
