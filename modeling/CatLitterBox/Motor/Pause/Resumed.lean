import CatLitterBox.Motor.Frame.Clean
import CatLitterBox.Motor.Interrupt.Scenario

open catbox.sensor program program.Program

namespace catbox.motor

/-- How many actions `do_clean` may still take in its normal sequence: `fuel` more before
a poll sees the resume, and ten from that poll on. -/
structure Leaving where
  fuel : Nat
  seen : Bool

/-- All the actions left until the normal sequence has to be left. -/
def Leaving.total (s : Leaving) : Nat := if s.seen then s.fuel else s.fuel + 10

/-- The polls of the resume request by the waits and checks, the retried wait excepted. -/
def Act.pollsResume : Act → Bool
  | .read .clean_resume_recovery_requested p =>
    p != .wait_motor_operation .WASTE_COVER_MOTOR .MT_CLOSE && p != .estop_exit
  | _ => false

def Leaving.next (a : Act) (s : Leaving) : Leaving :=
  if a.pollsResume && !s.seen then { fuel := 10, seen := true } else { s with fuel := s.fuel - 1 }

/-- What a requested resume asks of the normal sequence of `do_clean`: no motor is driven,
the request is not taken back, the normal end (which disables the sensor) is not reached,
and the sequence is left before the fuel is spent. -/
def resumed : Spec Act Act.Answer Leaving where
  allow a s := 0 < s.fuel ∧ a.drives = false ∧ a ≠ .set_tof_sensor_enable false ∧
    ∀ v, a ≠ .write .clean_resume_recovery_requested v
  trans a s r t := a ≠ .write .clean_running_flag false ∧ t = s.next a ∧
    match a, r with
    | .read .clean_resume_recovery_requested _, r => r = true
    | _, _ => True

/-- The first poll that sees the resume. -/
def resume_seen (a : Act) (r : a.Answer) (t : Leaving) : Prop :=
  match a, r with
  | .read .clean_resume_recovery_requested p, r => r = true ∧ t.fuel = 10 ∧ ¬ p.retried ∧ p ≠ .estop_exit
  | _, _ => False

theorem Leaving.next_of_quiet {a : Act} (ha : a.reads = false) (s : Leaving) :
    s.next a = { s with fuel := s.fuel - 1 } := by
  cases a with
  | read f p => cases ha
  | _ => rfl

/-- Every action of the normal sequence uses up some of what is left. -/
theorem Leaving.total_next {a : Act} {s : Leaving} (hs : 0 < s.fuel) : (s.next a).total < s.total := by
  obtain ⟨fuel, seen⟩ := s
  have hfuel : 0 < fuel := hs
  unfold Leaving.next Leaving.total
  cases seen with
  | true =>
    rw [Bool.not_true, Bool.and_false]
    simp only [Bool.false_eq_true, if_false, if_true]
    omega
  | false =>
    cases a.pollsResume with
    | true => simp [hfuel]
    | false =>
      simp only [Bool.false_and, Bool.false_eq_true, if_false]
      omega

private theorem polls_resumed : Polls resume_seen fun n t => n ≤ t.fuel where
  quiet a ha := by
    cases a with
    | read f p => cases ha
    | _ => exact fun _ _ h => h
  seen f p r t h := by
    cases f with
    | clean_resume_recovery_requested =>
      obtain ⟨hr, hfuel, hp, hexit⟩ := h
      exact ⟨hr, hfuel.ge, .inr rfl, hp, fun hplace => hexit hplace.2⟩
    | _ => exact h.elim

private theorem exits_resumed : Exits resumed fun n t => n ≤ t.fuel where
  mono n t h := by omega
  tick n a s r t ha hs ht := by
    obtain ⟨-, rfl, -⟩ := ht
    rw [Leaving.next_of_quiet ha]
    simp only
    omega
  allow n a s hs hdrives hsets := by
    refine ⟨by omega, hdrives, ?_, ?_⟩
    · rintro rfl
      cases hsets
    · rintro v rfl
      cases hsets
  estop_exit s hs := by
    obtain ⟨fuel, seen⟩ := s
    have hfuel : 6 ≤ fuel := hs
    refine wp_perform_bind ⟨by simp only; omega, rfl, by simp, by simp⟩ fun _ t ht => ?_
    obtain ⟨-, rfl, -⟩ := ht
    refine wp_perform_bind ⟨?_, rfl, by simp, by simp⟩ fun _ u hu => ?_
    · simp only [Leaving.next_of_quiet (a := .write _ _) rfl]
      omega
    obtain ⟨-, rfl, -⟩ := hu
    refine wp_perform_bind ⟨?_, rfl, by simp, by simp⟩ fun _ _ hleft => absurd rfl hleft.1
    simp [Leaving.next, Act.pollsResume]
    omega
  recovery_abort s hs := by
    refine wp_perform_bind ⟨by omega, rfl, by simp, by simp⟩ fun _ _ hleft => ?_
    exact absurd rfl hleft.1

/-- A resume is a request that the normal sequence honours once it polls it. -/
theorem interrupts_resumed : Interrupts resumed resume_seen fun n t => n ≤ t.fuel :=
  polls_resumed.interrupts exits_resumed

end catbox.motor
