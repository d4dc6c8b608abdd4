import CatLitterBox.Motor.Frame.Wait
import CatLitterBox.Motor.Clean
import CatLitterBox.Program.Until

open catbox.sensor program program.Program

namespace catbox.motor

def Act.reads : Act → Bool
  | .read .. => true
  | _ => false

/-- The actions that end a scenario: they set a shared flag or switch the sensor off. -/
def Act.sets : Act → Bool
  | .write .. => true
  | .set_tof_sensor_enable enable => !enable
  | _ => false

variable {S : Type} {M : Spec Act Act.Answer S} {hook : (a : Act) → a.Answer → S → Prop} {α : Type}

/-- The second half of a turn of a wait polls nothing. -/
theorem wait_motor_sample_after (hquiet : ∀ a, a.reads = false → ∀ r t, ¬ hook a r t) {mt : Motor}
    {timeout start : Int} {status : MotorStatus} {Q : Unit ⊕ Int → S → Prop} :
    (wait_motor_sample mt timeout status start).After M hook Q := by
  have hsamples : Samples fun a => a.reads = false := ⟨fun _ => rfl, fun _ _ => rfl, rfl, fun _ => rfl⟩
  exact after_of_every (every_mono hquiet (wait_motor_sample_every hsamples))

/-- The place of the one wait whose failure is answered with another try, by
`close_waste_try`. -/
def Place.retried (p : Place) : Prop := p = .wait_motor_operation .WASTE_COVER_MOTOR .MT_CLOSE

/-- What an exit may still do after a request: `level n` says that at least `n` more
actions are granted. -/
structure Exits (M : Spec Act Act.Answer S) (level : Nat → S → Prop) : Prop where
  mono : ∀ n t, level (n + 1) t → level n t
  tick : ∀ n a s r t, a.reads = false → level (n + 1) s → M.trans a s r t → level n t
  allow : ∀ n a s, level (n + 1) s → a.drives = false → a.sets = false → M.allow a s
  estop_exit : ∀ t, level 6 t → motor.estop_exit.wp M (fun _ _ => True) t
  recovery_abort : ∀ t, level 6 t → motor.recovery_abort.wp M (fun _ _ => True) t

theorem Exits.relax {level : Nat → S → Prop} (h : Exits M level) {t : S} (ht : level 10 t) : level 8 t :=
  h.mono 8 t (h.mono 9 t ht)

/-- A way of asking a scenario to stop. `M` says what is forbidden from the request on
and `hook` which polls of the shared flags see it. The polls seen by the waits and
checks make them fail, the retried wait excepted. -/
structure Interrupts (M : Spec Act Act.Answer S) (hook : (a : Act) → a.Answer → S → Prop)
    (level : Nat → S → Prop) : Prop extends Exits M level where
  quiet : ∀ a, a.reads = false → ∀ r t, ¬ hook a r t
  stop : ∀ p r t, hook (.read .emergency_stop_flag p) r t → r = true ∧ level 10 t
  exit : ∀ r t, ¬ hook (.read .clean_resume_recovery_requested .estop_exit) r t
  wait : ∀ mt timeout status Q,
    (Place.wait_motor_operation mt status).retried ∨ (∀ t, level 8 t → Q (-1) t) →
    (wait_motor_operation mt timeout status).After M hook Q
  check : ∀ Q, (∀ t, level 8 t → Q true t) → (stop_requested .check_estop).After M hook Q
  duration : ∀ ms (rest : Code Bool) Q, (∀ t, level 8 t → Q true t) → rest.After M hook Q →
    ((wait_duration ms).bind fun ret => if ret != 0 then .ret true else
      (stop_requested .check_estop).bind fun stop => if stop then .ret true else rest).After M hook Q
  tof : ∀ Q, (∀ t, level 8 t → Q true t) → CHECK_TOF_PAUSE.After M hook Q

/-- The requests that the polls of one of the two stop flags see, with the value `true`. -/
structure Polls (hook : (a : Act) → a.Answer → S → Prop) (level : Nat → S → Prop) : Prop where
  quiet : ∀ a, a.reads = false → ∀ r t, ¬ hook a r t
  seen : ∀ f p r t, hook (.read f p) r t → r = true ∧ level 10 t ∧
    (f = .emergency_stop_flag ∨ f = .clean_resume_recovery_requested) ∧ ¬ p.retried ∧
    ¬ (f = .clean_resume_recovery_requested ∧ p = .estop_exit)

namespace Polls

variable {level : Nat → S → Prop}

private theorem pause_unseen (h : Polls hook level) {p : Place} (r : Bool) (t : S) :
    ¬ hook (.read .clean_pause_flag p) r t := by
  intro hr
  obtain ⟨-, -, hf | hf, -, -⟩ := h.seen _ _ _ _ hr
  · cases hf
  · cases hf

/-- A poll of a stop flag that sees the request makes the test succeed. -/
theorem stop_requested_after (h : Polls hook level) {p : Place} {Q : Bool → S → Prop}
    (hQ : p.retried ∨ ∀ t, level 10 t → Q true t) : (stop_requested p).After M hook Q := by
  have hseen (f : Flag) (r : Bool) (t : S) (hr : hook (.read f p) r t) : r = true ∧ Q true t := by
    obtain ⟨hr, ht, -, hp, -⟩ := h.seen _ _ _ _ hr
    exact ⟨hr, hQ.resolve_left hp t ht⟩
  refine after_perform_bind (fun r t hr => ?_) fun stop =>
    after_ite trivial ⟨fun r t hr => ?_, fun _ => trivial⟩
  · obtain ⟨rfl, ht⟩ := hseen _ r t hr
    exact ht
  · obtain ⟨rfl, ht⟩ := hseen _ r t hr
    exact ht

theorem wait_while_paused_after (h : Polls hook level) {p : Place} {Q : Bool → S → Prop}
    (hQ : p.retried ∨ ∀ t, level 10 t → Q true t) : (wait_while_paused p).After M hook Q := by
  refine ⟨fun _ => after_skip h.pause_unseen fun paused => after_ite trivial ?_, fun _ => trivial⟩
  refine after_bind (h.stop_requested_after hQ) fun stop => after_ite trivial ?_
  exact after_skip (h.quiet _ rfl) fun _ => trivial

theorem wait_motor_operation_after (h : Polls hook level) {mt : Motor} {timeout : Int} {status : MotorStatus}
    {Q : Int → S → Prop}
    (hQ : (Place.wait_motor_operation mt status).retried ∨ ∀ t, level 10 t → Q (-1) t) :
    (wait_motor_operation mt timeout status).After M hook Q := by
  refine after_skip (h.quiet _ rfl) fun _ => after_skip (h.quiet _ rfl) fun start => ?_
  refine ⟨fun _ => after_bind (h.stop_requested_after hQ) fun stop => after_ite trivial ?_, fun _ => trivial⟩
  refine after_bind (h.wait_while_paused_after hQ) fun stop => after_ite trivial ?_
  refine after_bind (h.stop_requested_after hQ) fun stop => after_ite trivial ?_
  exact wait_motor_sample_after h.quiet

private theorem wait_duration_after (h : Polls hook level) {ms : Nat} {Q : Int → S → Prop}
    (hQ : ∀ t, level 10 t → Q (-1) t) : (wait_duration ms).After M hook Q := by
  refine after_ite trivial ⟨fun cnt => ?_, fun _ => trivial⟩
  refine after_bind (h.stop_requested_after (.inr hQ)) fun stop => after_ite trivial ?_
  refine after_bind (h.wait_while_paused_after (.inr hQ)) fun stop => after_ite trivial ?_
  exact after_skip (h.quiet _ rfl) fun _ => after_ite trivial trivial

private theorem CHECK_TOF_PAUSE_after (h : Polls hook level) {Q : Bool → S → Prop}
    (hQ : ∀ t, level 10 t → Q true t) : CHECK_TOF_PAUSE.After M hook Q := by
  have hmeasures : MeasuresTof fun a => a.reads = false := ⟨rfl, rfl, rfl, fun _ => rfl, rfl⟩
  refine after_bind (after_of_every (every_mono h.quiet ?_)) fun tof_dist => after_ite ?_ trivial
  · exact get_fresh_tof_distance_every hmeasures
  refine after_bind (after_of_every (every_mono h.quiet ?_)) fun _ => ?_
  · simp [pause_all_motors, Act.reads]
  refine after_skip (h.quiet _ rfl) fun _ => after_skip (h.quiet _ rfl) fun _ => ?_
  exact h.wait_while_paused_after (.inr hQ)

/-- A request that the polls of a stop flag see interrupts every scenario. -/
theorem interrupts (h : Polls hook level) (hexits : Exits M level) : Interrupts M hook level where
  toExits := hexits
  quiet := h.quiet
  stop p r t hr := by
    obtain ⟨hr, ht, -⟩ := h.seen _ _ _ _ hr
    exact ⟨hr, ht⟩
  exit r t hr := by
    obtain ⟨-, -, -, -, hplace⟩ := h.seen _ _ _ _ hr
    exact hplace ⟨rfl, rfl⟩
  wait _ _ _ _ hQ := h.wait_motor_operation_after (hQ.imp_right fun hexit t ht => hexit t (hexits.relax ht))
  check _ hQ := h.stop_requested_after (.inr fun t ht => hQ t (hexits.relax ht))
  duration ms rest Q hQ hrest := by
    have hexit (t : S) (ht : level 10 t) : Q true t := hQ t (hexits.relax ht)
    refine after_bind (h.wait_duration_after hexit) fun ret => after_ite trivial ?_
    exact after_bind (h.stop_requested_after (.inr hexit)) fun stop => after_ite trivial hrest
  tof _ hQ := h.CHECK_TOF_PAUSE_after fun t ht => hQ t (hexits.relax ht)

end Polls

namespace Interrupts

variable {level : Nat → S → Prop}

/-- The levels are ordered: what holds at one holds at those below. -/
theorem mono_of_le (h : Interrupts M hook level) {m n : Nat} (hmn : m ≤ n) {t : S} (ht : level n t) :
    level m t := by
  induction hmn with
  | refl => exact ht
  | step _ ih => exact ih (h.mono _ t ht)

/-- An exit that needs six actions needs no more than eight. -/
theorem weaken (h : Interrupts M hook level) {P : S → Prop} (hP : ∀ t, level 6 t → P t) :
    ∀ t, level 8 t → P t :=
  fun t ht => hP t (h.mono_of_le (by omega) ht)

end Interrupts

end catbox.motor
