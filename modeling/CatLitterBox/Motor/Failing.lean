import CatLitterBox.Motor.Frame.Clean
import CatLitterBox.Motor.Run

open catbox.sensor program program.Program

namespace catbox.motor

def Act.drivesMotor (mt : Motor) (a : Act) : Prop := ∃ dir, a.command mt = some dir ∧ dir ≠ .STOP

/-- For each motor the scenario has driven, its last command to that motor is STOP. -/
def MotorsStopped (trace : List Event) : Prop :=
  ∀ mt, (∃ e ∈ trace, e.1.drivesMotor mt) → lastCommand mt trace = some .STOP

/-- No restriction on the steps: only the history at the end matters. -/
abbrev recorded : Spec Act Act.Answer (List Event) := .history fun _ _ => True

variable {α : Type} {s : List Event}

/-- Whatever a program does, what follows it may assume nothing about the history. -/
theorem wp_recorded {c : Code α} {Q : α → List Event → Prop} (hQ : ∀ a t, Q a t) : c.wp recorded Q s :=
  wp_history_of_every (I := fun _ => True) (every_true c) (fun _ _ _ _ => trivial) (fun _ _ _ _ _ => trivial)
    trivial fun a t _ => hQ a t

private theorem lastCommand_eq_none_iff {mt : Motor} {trace : List Event} :
    lastCommand mt trace = none ↔ ∀ e ∈ trace, e.1.command mt = none := by
  simp [lastCommand, List.findSome?_eq_none_iff]

/-- The motors are stopped exactly when no last command is a driving one. -/
theorem motorsStopped_iff {trace : List Event} :
    MotorsStopped trace ↔ ∀ mt dir, lastCommand mt trace = some dir → dir = .STOP := by
  constructor
  · intro h mt dir hlast
    by_contra hdir
    obtain ⟨e, he, hcommand⟩ := List.exists_of_findSome?_eq_some hlast
    rw [h mt ⟨e, he, dir, hcommand, hdir⟩] at hlast
    exact hdir (Option.some.inj hlast).symm
  · rintro h mt ⟨e, he, dir, hcommand, -⟩
    cases hlast : lastCommand mt trace with
    | none =>
      rw [lastCommand_eq_none_iff.mp hlast e he] at hcommand
      cases hcommand
    | some last => rw [h mt last hlast]

/-- STOP commands to all five motors stop them, in whatever order they are sent. -/
theorem motorsStopped_of_last {trace : List Event} (h : ∀ mt, lastCommand mt trace = some .STOP) :
    MotorsStopped trace := fun mt _ => h mt

/-- What a failing scenario should leave behind. -/
def failsStopped (r : Int) (t : List Event) : Prop := r ≠ 0 → MotorsStopped t

theorem recovery_abort_stops : recovery_abort.wp recorded failsStopped s := by
  iterate 10 refine wp_history_bind trivial fun _ => ?_
  refine fun _ => motorsStopped_of_last fun mt => ?_
  cases mt <;> simp [Act.command]

/-- Every step of the recovery that fails goes to `recovery_abort`; its end returns 0. -/
theorem do_clean_resume_recovery_stops : do_clean_resume_recovery.wp recorded failsStopped s := by
  refine wp_history_bind trivial fun _ => wp_history_bind trivial fun _ => ?_
  refine wp_seq (wp_recorded fun exit t => wp_ite (fun _ => recovery_abort_stops) fun _ => ?_)
  refine wp_seq (wp_recorded fun exit t => wp_ite (fun _ => recovery_abort_stops) fun _ => ?_)
  refine wp_seq (wp_recorded fun exit t => wp_ite (fun _ => recovery_abort_stops) fun _ => ?_)
  refine wp_seq (wp_recorded fun exit t => wp_ite (fun _ => recovery_abort_stops) fun _ => ?_)
  iterate 11 refine wp_history_bind trivial fun _ => ?_
  exact fun hfail => absurd rfl hfail

private theorem estop_exit_stops : estop_exit.wp recorded failsStopped s := by
  refine wp_history_bind trivial fun _ => wp_history_bind trivial fun is_recovery_mode => ?_
  iterate 8 refine wp_history_bind trivial fun _ => ?_
  refine wp_ite (fun _ => do_clean_resume_recovery_stops) fun _ => wp_history_bind trivial fun _ => ?_
  refine fun _ => motorsStopped_of_last fun mt => ?_
  cases mt <;> simp [Act.command]

theorem do_clean_stops : do_clean.wp recorded failsStopped s := by
  refine wp_seq (wp_recorded fun _ t => wp_seq (wp_recorded fun exit u => ?_))
  refine wp_ite (fun _ => estop_exit_stops) fun _ => ?_
  iterate 6 refine wp_history_bind trivial fun _ => ?_
  exact fun hfail => absurd rfl hfail

/-- A step of a calibration: it commands the scoop motors only. -/
def ScoopOnly (a : Act) : Prop := ∀ mt, mt ≠ .SCPSPIN_MOTOR → mt ≠ .SCPINOUT_MOTOR → a.command mt = none

/-- No motor but those of the scoop has been commanded. -/
def ScoopCommanded (t : List Event) : Prop :=
  ∀ mt, mt ≠ .SCPSPIN_MOTOR → mt ≠ .SCPINOUT_MOTOR → lastCommand mt t = none

theorem calibrates_scoopOnly : Calibrates ScoopOnly where
  read _ _ _ _ _ := rfl
  pt _ _ _ _ := rfl
  run _ _ _ _ _ := rfl
  time _ _ _ := rfl
  delay _ _ _ _ := rfl
  spin _ _ hspin _ := if_neg (Ne.symm hspin)
  scoop _ _ _ _ hscoop := if_neg (Ne.symm hscoop)
  clear _ _ _ := rfl

/-- A step that commands no motor but the scoop's leaves the others as they were. -/
theorem ScoopCommanded.cons {a : Act} {r : a.Answer} {t : List Event} (ha : ScoopOnly a)
    (h : ScoopCommanded t) :
    ScoopCommanded (⟨a, r⟩ :: t) := by
  intro mt hspin hscoop
  rw [lastCommand_cons, ha mt hspin hscoop, Option.none_or]
  exact h mt hspin hscoop

/-- A part of a calibration commands nothing but the scoop motors. -/
theorem wp_calibrating {c : Code α} {Q : α → List Event → Prop}
    (hc : c.Every ScoopOnly) (hs : ScoopCommanded s)
    (hQ : ∀ x t, ScoopCommanded t → Q x t) : c.wp recorded Q s :=
  wp_history_of_every hc (fun _ _ _ _ => trivial) (fun _ _ _ ha h => h.cons ha) hs hQ

theorem calib_abort_stops (hs : ScoopCommanded s) : calib_abort.wp recorded failsStopped s := by
  refine wp_history_bind trivial fun _ => wp_history_bind trivial fun _ => fun _ => ?_
  refine motorsStopped_iff.mpr fun mt dir hlast => ?_
  cases mt with
  | SCPSPIN_MOTOR => simpa [Act.command, eq_comm] using hlast
  | SCPINOUT_MOTOR => simpa [Act.command, eq_comm] using hlast
  | _ =>
    simp only [lastCommand_cons, Act.command] at hlast
    rw [hs _ (by simp) (by simp)] at hlast
    cases hlast

/-- A wait of a calibration, whose failure goes to `calib_abort`. -/
theorem calibrating_wait {mt : Motor} {timeout : Int} {status : MotorStatus} {c : Code Int}
    (hs : ScoopCommanded s) (hc : ∀ t, ScoopCommanded t → c.wp recorded failsStopped t) :
    ((wait_motor_operation mt timeout status).bind fun ret => if ret != 0 then calib_abort else c).wp
      recorded failsStopped s := by
  refine wp_seq (wp_calibrating (wait_motor_operation_every calibrates_scoopOnly.toObserves) hs
    fun ret t ht => ?_)
  exact wp_ite (fun _ => calib_abort_stops ht) fun _ => hc t ht

theorem calibrating_origin {dir : Direction} {c : Code Int} (hs : ScoopCommanded s)
    (hc : ∀ t, ScoopCommanded t → c.wp recorded failsStopped t) :
    ((scp_spin_find_st_origin dir).bind fun ret => if ret != 0 then calib_abort else c).wp
      recorded failsStopped s := by
  have hevery : (scp_spin_find_st_origin dir).Every ScoopOnly :=
    scp_spin_find_st_origin_every calibrates_scoopOnly.toObserves calibrates_scoopOnly.spin
  exact wp_seq (wp_calibrating hevery hs fun ret t ht =>
    wp_ite (fun _ => calib_abort_stops ht) fun _ => hc t ht)

/-- A single step of a calibration. -/
theorem calibrating_act {a : Act} {f : a.Answer → Code Int} (ha : ScoopOnly a) (hs : ScoopCommanded s)
    (hf : ∀ r t, ScoopCommanded t → (f r).wp recorded failsStopped t) :
    (a.code.bind f).wp recorded failsStopped s :=
  wp_history_bind trivial fun r => hf r _ (hs.cons ha)

theorem motor_calibration_stops (hs : ScoopCommanded s) : motor_calibration.wp recorded failsStopped s := by
  have h := calibrates_scoopOnly
  refine calibrating_act h.clear hs fun _ t ht => calibrating_act (h.pt _) ht fun pt t ht => ?_
  have hscoop : (calibrate_scoop (pt.has PT_BIT_SCP_IN)).Every ScoopOnly := by
    refine every_ite (every_bind ?_ fun _ => trivial) (calibrate_scoop_out_every h)
    exact scp_spin_find_st_origin_every h.toObserves h.spin
  refine wp_seq (wp_calibrating hscoop ht fun abort t ht =>
    wp_ite (fun _ => calib_abort_stops ht) fun _ => ?_)
  refine calibrating_act (h.read _ _) ht fun stop t ht => wp_ite (fun _ => calib_abort_stops ht) fun _ => ?_
  refine calibrating_act (h.spin _) ht fun _ t ht => calibrating_act (h.delay _) ht fun _ t ht => ?_
  refine calibrating_wait ht fun t ht => calibrating_act (h.read _ _) ht fun stop t ht => ?_
  exact wp_ite (fun _ => calib_abort_stops ht) fun _ hfail => absurd rfl hfail

theorem motor_calibration_recovery_stops (hs : ScoopCommanded s) :
    motor_calibration_recovery.wp recorded failsStopped s := by
  have h := calibrates_scoopOnly
  have hread {p : Place} {c : Code Int} {t : List Event} (ht : ScoopCommanded t)
      (hc : ∀ u, ScoopCommanded u → c.wp recorded failsStopped u) :
      ((read .emergency_stop_flag p).bind fun stop => if stop then calib_abort else c).wp
        recorded failsStopped t :=
    calibrating_act (h.read _ _) ht fun _ u hu => wp_ite (fun _ => calib_abort_stops hu) fun _ => hc u hu
  refine calibrating_act h.clear hs fun _ t ht => calibrating_origin ht fun t ht => hread ht fun t ht => ?_
  refine calibrating_act (h.delay _) ht fun _ t ht => calibrating_act (h.spin _) ht fun _ t ht => ?_
  refine calibrating_act (h.delay _) ht fun _ t ht => calibrating_wait ht fun t ht => ?_
  refine calibrating_act (h.spin _) ht fun _ t ht => ?_
  refine calibrating_act (h.delay _) ht fun _ t ht => ?_
  refine hread ht fun t ht => ?_
  refine calibrating_act (h.scoop _ (by simp)) ht fun _ t ht => ?_
  refine calibrating_act (h.delay _) ht fun _ t ht => ?_
  refine calibrating_wait ht fun t ht => calibrating_act (h.scoop _ (by simp)) ht fun _ t ht => ?_
  refine calibrating_act (h.delay _) ht fun _ t ht => ?_
  refine hread ht fun t ht => ?_
  refine calibrating_origin ht fun t ht => ?_
  refine calibrating_act (h.delay _) ht fun _ t ht => calibrating_act (h.spin _) ht fun _ t ht => ?_
  refine calibrating_act (h.delay _) ht fun _ t ht => calibrating_wait ht fun t ht => ?_
  refine calibrating_act (h.spin _) ht fun _ t ht => calibrating_act (h.delay _) ht fun _ t ht => ?_
  exact fun hfail => absurd rfl hfail

/-- The manage scenarios leave their sequence with a motor driven. -/
def failsDriven (r : Int) (t : List Event) : Prop := r ≠ 0 → ¬ MotorsStopped t

private theorem manage_exit_drives {mt : Motor} {dir : Direction}
    (hlast : lastCommand mt s = some dir) (hdir : dir ≠ .STOP) :
    manage_exit.wp recorded failsDriven s := by
  refine wp_history_bind trivial fun _ _ hstopped => hdir ?_
  exact motorsStopped_iff.mp hstopped mt dir (by simpa [Act.command] using hlast)

theorem drive_main_cover_soft_drives {dir : Direction} {target_speed : Nat} :
    (drive_main_cover_soft dir target_speed).wp recorded
      (fun _ t => lastCommand .MAIN_COVER_MOTOR t = some dir) s := by
  refine wp_history_bind trivial fun _ => wp_history_bind trivial fun _ => wp_history_bind trivial fun _ => ?_
  refine wp_repeated (fun _ t => lastCommand .MAIN_COVER_MOTOR t = some dir)
    (by simp [Act.command]) fun duty t ht => ?_
  refine wp_ite (fun _ => ?_) fun _ => ht
  exact wp_history_bind trivial fun _ => wp_history_bind trivial fun _ => by simp [Act.command]

/-- A wait for a driven motor, whose failure leaves the motor driven. -/
theorem manage_wait {mt : Motor} {timeout : Int} {status : MotorStatus} {dir : Direction} {c : Code Int}
    (hlast : lastCommand mt s = some dir) (hdir : dir ≠ .STOP)
    (hc : ∀ t, lastCommand mt t = some dir → c.wp recorded failsDriven t) :
    ((wait_motor_operation mt timeout status).bind fun ret => if ret != 0 then manage_exit else c).wp
      recorded failsDriven s := by
  have hsilent : Observes fun a => a.command mt = none :=
    { pt := fun _ => rfl, run := fun _ _ => rfl, time := rfl, delay := fun _ => rfl, read := fun _ _ => rfl }
  have hkeep (a : Act) (r : a.Answer) (t : List Event) (ha : a.command mt = none)
      (ht : lastCommand mt t = some dir) : lastCommand mt (⟨a, r⟩ :: t) = some dir := by
    rw [lastCommand_cons, ha, Option.none_or, ht]
  refine wp_seq (wp_history_of_every (wait_motor_operation_every hsilent)
    (fun _ _ _ _ => trivial) hkeep hlast ?_)
  exact fun ret t ht => wp_ite (fun _ => manage_exit_drives ht hdir) fun _ => hc t ht

theorem do_manage_start_drives : do_manage_start.wp recorded failsDriven s := by
  refine wp_history_bind trivial fun _ => wp_history_bind trivial fun _ => ?_
  refine wp_seq (wp_mono (fun _ t ht => ?_) drive_main_cover_soft_drives)
  refine wp_history_bind trivial fun _ =>
    manage_wait (show lastCommand _ _ = some .FORWARD by simpa [Act.command] using ht) (by simp) ?_
  intro t _
  iterate 3 refine wp_history_bind trivial fun _ => ?_
  refine manage_wait (show lastCommand _ _ = some .FORWARD by simp [Act.command]) (by simp) fun t _ => ?_
  iterate 2 refine wp_history_bind trivial fun _ => ?_
  exact fun hfail => absurd rfl hfail

theorem do_manage_finish_drives : do_manage_finish.wp recorded failsDriven s := by
  iterate 3 refine wp_history_bind trivial fun _ => ?_
  refine manage_wait (show lastCommand _ _ = some .REVERSE by simp [Act.command]) (by simp) fun t _ => ?_
  refine wp_history_bind trivial fun _ => wp_seq (wp_mono (fun _ t ht => ?_) drive_main_cover_soft_drives)
  refine wp_history_bind trivial fun _ =>
    manage_wait (show lastCommand _ _ = some .REVERSE by simpa [Act.command] using ht) (by simp) ?_
  intro t _
  iterate 3 refine wp_history_bind trivial fun _ => ?_
  exact fun hfail => absurd rfl hfail

/-- The scenarios whose exit label only switches the sensor off. -/
def Scenario.manages (scenario : Scenario) : Prop :=
  scenario = .do_manage_start ∨ scenario = .do_manage_finish

private theorem scenario_stops {scenario : Scenario} (h : ¬ scenario.manages) :
    scenario.code.wp recorded failsStopped [] := by
  have hnone : ScoopCommanded [] := fun _ _ _ => rfl
  cases scenario with
  | do_clean => exact do_clean_stops
  | do_clean_resume_recovery => exact do_clean_resume_recovery_stops
  | motor_calibration => exact motor_calibration_stops hnone
  | motor_calibration_recovery => exact motor_calibration_recovery_stops hnone
  | do_manage_start => exact absurd (.inl rfl) h
  | do_manage_finish => exact absurd (.inr rfl) h

/-- A failing run leaves the driven motors stopped exactly when its scenario is not one
of the two manage scenarios, whatever the sensors and the other tasks do meanwhile. -/
theorem failing_scenario_stops_motors_iff (scenario : Scenario) (w : World) (moves : List Move) (r : Int)
    (hresult : (run scenario w moves).code.result = some r) (hfail : r ≠ 0) :
    MotorsStopped (run scenario w moves).trace ↔ ¬ scenario.manages := by
  constructor
  · rintro hstopped (rfl | rfl)
    · exact wp_result (run_history do_manage_start_drives w moves) hresult hfail hstopped
    · exact wp_result (run_history do_manage_finish_drives w moves) hresult hfail hstopped
  · exact fun hother => wp_result (run_history (scenario_stops hother) w moves) hresult hfail

/-- A calibration that an emergency stop interrupts in its first search. -/
theorem failing_calibration_stops_motors :
    MotorsStopped (run .motor_calibration (.boot 0) (List.replicate 9 .scenario ++
      .others ((World.boot 0).setFlag .emergency_stop_flag true) :: List.replicate 4 .scenario)).trace ↔
      ¬ Scenario.motor_calibration.manages :=
  failing_scenario_stops_motors_iff .motor_calibration (.boot 0) _ (-1) rfl (by decide)

/-- An emergency stop in the first wait of `do_manage_start` leaves the main cover driven. -/
theorem failing_manage_start_drives :
    ¬ ∀ (scenario : Scenario) (w : World) (moves : List Move) (r : Int),
      (run scenario w moves).code.result = some r → r ≠ 0 → MotorsStopped (run scenario w moves).trace := by
  intro h
  have hstopped := h .do_manage_start (.boot 0) (List.replicate 20 .scenario ++
    .others ((World.boot 0).setFlag .emergency_stop_flag true) :: List.replicate 4 .scenario)
    (-1) rfl (by decide)
  exact absurd (motorsStopped_iff.mp hstopped .MAIN_COVER_MOTOR .FORWARD rfl) (by decide)

end catbox.motor
