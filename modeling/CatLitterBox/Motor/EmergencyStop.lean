import CatLitterBox.Motor.Interrupt.Scenario

open catbox.sensor program program.Program

namespace catbox.motor

/-- What an emergency stop asks of a scenario that runs on: no motor is driven and the
flag stays set. No resume is requested meanwhile, since only a user command does that. -/
def stopped : Spec Act Act.Answer Unit where
  allow a _ := a.drives = false ∧ a ≠ .write .emergency_stop_flag false ∧
    a ≠ .write .clean_resume_recovery_requested true
  trans a _ r _ :=
    match a, r with
    | .read .emergency_stop_flag _, r => r = true
    | .read .clean_resume_recovery_requested _, r => r = false
    | _, _ => True

/-- The polls of the stop flag, without those of the wait for the waste cover to close. -/
def aborting (a : Act) (r : a.Answer) (_ : Unit) : Prop :=
  match a, r with
  | .read .emergency_stop_flag p, r => r = true ∧ ¬ p.retried
  | _, _ => False

private theorem aborting_quiet (a : Act) (ha : a.reads = false) : ∀ r t, ¬ aborting a r t := by
  cases a with
  | read f p => cases ha
  | _ => exact fun _ _ h => h

private theorem estop_exit_stopped (t : Unit) : estop_exit.wp stopped (fun _ _ => True) t := by
  simp [estop_exit, motor.estop_exit_after, stopped, Act.drives]

private theorem polls_stopped : Polls aborting fun _ (_ : Unit) => True where
  quiet := aborting_quiet
  seen f p r t h := by
    cases f with
    | emergency_stop_flag => exact ⟨h.1, trivial, .inl rfl, h.2, fun hp => nomatch hp.1⟩
    | _ => exact h.elim

private theorem exits_stopped : Exits stopped fun _ _ => True where
  mono _ _ h := h
  tick _ _ _ _ _ _ _ _ := trivial
  allow _ a _ _ hdrives hsets := by
    refine ⟨hdrives, ?_, ?_⟩
    · rintro rfl
      cases hsets
    · rintro rfl
      cases hsets
  estop_exit t _ := estop_exit_stopped t
  recovery_abort _ _ := by simp [recovery_abort, stopped, Act.drives]

/-- The emergency stop is a request that every scenario honours once it polls it. -/
theorem interrupts_stopped : Interrupts stopped aborting fun _ _ => True :=
  polls_stopped.interrupts exits_stopped

theorem manage_exit_stopped (t : Unit) (_ : True) : manage_exit.wp stopped (fun _ _ => True) t := by
  simp [manage_exit, stopped, Act.drives]

/-- What may happen while a scenario runs: a step of it, an emergency stop, a user
command that clears the stop (`W` also toggles the pause of a running clean), or a
change of the sensors, the clock and the motor tasks. -/
inductive StopMove where
  | scenario
  | set_emergency_stop
  | user_command (toggle : Bool)
  | sense (s : Sense)

def StopMove.apply (c : Config) : StopMove → Config
  | .scenario => c.step
  | .set_emergency_stop => { c with world := motor.set_emergency_stop.finish Act.perform c.world }
  | .user_command toggle =>
    let w := clear_emergency_stop.finish Act.perform c.world
    { c with
      world := if toggle && w.flag .clean_running_flag then toggle_clean_pause.finish Act.perform w else w }
  | .sense s => { c with world := s.apply c.world }

/-- The scenario after the moves, from its start in the state `w`. -/
def stopRun (scenario : Scenario) (w : World) (moves : List StopMove) : Config :=
  moves.foldl StopMove.apply (scenario.start w)

/-- A point at which an emergency stop takes effect: no resume is requested, and on every
path the scenario polls the stop flag before it next drives a motor or resets the flag. -/
def StopPoint (c : Config) : Prop :=
  c.world.flag .clean_resume_recovery_requested = false ∧
    c.code.wp (stopped.until aborting) (fun _ _ => True) ()

/-- What holds of a scenario from an effective stop until the next user command. -/
structure Stopped (c : Config) : Prop where
  code : c.code.wp stopped (fun _ _ => True) ()
  flag : c.world.flag .emergency_stop_flag = true
  resume : c.world.flag .clean_resume_recovery_requested = false

theorem StopMove.apply_after {c : Config} (m : StopMove) (h : c.code.After stopped aborting fun _ _ => True) :
    (m.apply c).code.After stopped aborting fun _ _ => True := by
  cases m with
  | scenario => exact after_advance h
  | _ => exact h

theorem stopRun_after (scenario : Scenario) (w : World) (moves : List StopMove) :
    (stopRun scenario w moves).code.After stopped aborting fun _ _ => True :=
  List.foldlRecOn (motive := fun c => c.code.After stopped aborting fun _ _ => True) moves StopMove.apply
    (interrupts_stopped.scenario_after manage_exit_stopped scenario) fun _ h m _ => m.apply_after h

/-- A step of the scenario under a stop: its polls are answered by the flags as the
stop left them, and it leaves them so. -/
theorem Stopped.step {c : Config} (h : Stopped c) : Stopped c.step := by
  cases hnext : c.code.next with
  | none =>
    have hworld : c.step.world = c.world := advance_of_none hnext
    refine ⟨wp_advance h.code ?_ fun _ => rfl, hworld ▸ h.flag, hworld ▸ h.resume⟩
    simp [hnext]
  | some a =>
    obtain ⟨_, hclear, hrequest⟩ := wp_next h.code hnext
    have hworld : c.step.world = (a.perform c.world).2 := advance_of_next hnext
    refine ⟨wp_advance h.code (fun a' ha' => ?_) fun _ => rfl, ?_, ?_⟩
    · cases a' with
      | read f p =>
        cases f with
        | emergency_stop_flag => exact h.flag
        | clean_resume_recovery_requested => exact h.resume
        | _ => trivial
      | _ => trivial
    · rw [hworld]
      by_cases hwrite : a = .write .emergency_stop_flag true
      · subst hwrite
        rfl
      · rw [Act.perform_flag ?_, h.flag]
        rintro (_ | _)
        · exact hclear
        · exact hwrite
    · rw [hworld]
      by_cases hwrite : a = .write .clean_resume_recovery_requested false
      · subst hwrite
        rfl
      · rw [Act.perform_flag ?_, h.resume]
        rintro (_ | _)
        · exact hwrite
        · exact hrequest

/-- Only the user takes back the stop: every other move keeps what follows from it. -/
theorem Stopped.move {c : Config} (h : Stopped c) {m : StopMove} (hm : ∀ toggle, m ≠ .user_command toggle) :
    Stopped (m.apply c) := by
  cases m with
  | scenario => exact h.step
  | set_emergency_stop => exact ⟨h.code, rfl, h.resume⟩
  | user_command toggle => exact absurd rfl (hm toggle)
  | sense s =>
    have hflag : (s.apply c.world).flag = c.world.flag := by cases s <;> rfl
    exact ⟨h.code, hflag ▸ h.flag, hflag ▸ h.resume⟩

/-- Emergency stop absorbs motor motion: from a stop at a stop point until the next user
command, the scenario drives no motor and leaves the stop flag set. -/
theorem emergency_stop_absorbing (scenario : Scenario) (w : World) (before after : List StopMove)
    (hpoint : StopPoint (stopRun scenario w before)) (hafter : ∀ toggle, .user_command toggle ∉ after)
    (a : Act) (ha : (stopRun scenario w (before ++ .set_emergency_stop :: after)).code.next = some a) :
    a.drives = false ∧ a ≠ .write .emergency_stop_flag false := by
  have hstop : Stopped (StopMove.set_emergency_stop.apply (stopRun scenario w before)) :=
    ⟨wp_of_until hpoint.2 (stopRun_after scenario w before), rfl, hpoint.1⟩
  have hrun : Stopped (stopRun scenario w (before ++ .set_emergency_stop :: after)) := by
    rw [stopRun, List.foldl_append, List.foldl_cons]
    refine List.foldlRecOn after StopMove.apply hstop fun c hc m hm => hc.move fun toggle hmove => ?_
    exact hafter toggle (hmove ▸ hm)
  obtain ⟨hdrives, hclear, -⟩ := wp_next hrun.code ha
  exact ⟨hdrives, hclear⟩

/-- A wait other than the one for the waste cover to close polls before anything else. -/
theorem wait_motor_operation_polls {α : Type} {mt : Motor} {timeout : Int} {status : MotorStatus}
    {f : Int → Code α} {Q : α → Unit → Prop} {t : Unit}
    (hplace : ¬ (Place.wait_motor_operation mt status).retried) :
    ((wait_motor_operation mt timeout status).bind f).wp (stopped.until aborting) Q t := by
  have hlook (a : Act) (ha : a.drives = false)
      (hread : ∀ f v, a ≠ .write f v) : (stopped.until aborting).allow a t :=
    ⟨ha, hread _ _, hread _ _⟩
  refine wp_seq (wp_perform_bind (hlook _ rfl (by simp)) fun _ _ _ => ?_)
  refine wp_perform_bind (hlook _ rfl (by simp)) fun start _ _ => ?_
  refine wp_repeated (fun _ _ => True) trivial fun _ _ _ => ?_
  refine wp_seq (wp_perform_bind (hlook _ rfl (by simp)) fun stop _ hstop => ?_)
  exact absurd ⟨hstop.1, hplace⟩ hstop.2

/-- The wait for the main cover, stopped, goes on to switch the TOF sensor off. -/
theorem emergency_stop_absorbing_in_wait :
    (stopRun .do_manage_start (.boot 0) (List.replicate 19 .scenario ++ .set_emergency_stop ::
      [.scenario, .scenario, .sense (.word PT_BIT_MCOVER_OPEN), .scenario, .scenario])).code.next =
        some (.set_tof_sensor_enable false) ∧
      Act.drives (.set_tof_sensor_enable false) = false ∧
      Act.set_tof_sensor_enable false ≠ .write .emergency_stop_flag false := by
  have hnext : (stopRun .do_manage_start (.boot 0) (List.replicate 19 .scenario ++ .set_emergency_stop ::
      [.scenario, .scenario, .sense (.word PT_BIT_MCOVER_OPEN), .scenario, .scenario])).code.next =
        some (.set_tof_sensor_enable false) := by decide +kernel
  refine ⟨hnext, ?_⟩
  exact emergency_stop_absorbing .do_manage_start (.boot 0) (List.replicate 19 .scenario) _
    ⟨rfl, wait_motor_operation_polls (by simp [Place.retried])⟩ (by simp) _ hnext

/-- A stop inside the ramp of `drive_main_cover_soft` is followed by the next FORWARD. -/
theorem emergency_stop_ignored_by_ramp :
    ¬ ∀ (scenario : Scenario) (w : World) (before after : List StopMove),
      (∀ toggle, .user_command toggle ∉ after) →
      ∀ a, (stopRun scenario w (before ++ .set_emergency_stop :: after)).code.next = some a →
        a.drives = false ∧ a ≠ .write .emergency_stop_flag false := by
  intro h
  have hdrive := h .do_manage_start (.boot 0) (List.replicate 6 .scenario) [] (by simp) _ rfl
  exact absurd hdrive.1 (by decide)

end catbox.motor
