import CatLitterBox.Motor.Frame.Wait

open catbox.sensor program program.Program

namespace catbox.motor

variable {q : Act → Prop}

/-- What the calibrations may do: look, turn the scoop, move it in or stop it, and
clear the emergency stop. -/
structure Calibrates (q : Act → Prop) : Prop extends Observes q where
  spin : ∀ msg, q (.send .SCPSPIN_MOTOR msg)
  scoop : ∀ msg, msg.direction ≠ .FORWARD → q (.send .SCPINOUT_MOTOR msg)
  clear : q (.write .emergency_stop_flag false)

theorem calib_abort_every (h : Calibrates q) : calib_abort.Every q :=
  every_perform_bind (h.spin _) fun _ => every_perform_bind (h.scoop _ (by simp)) fun _ => trivial

/-- The calibration of the scoop does only what calibrations may do. -/
theorem calibrate_scoop_out_every (h : Calibrates q) : calibrate_scoop_out.Every q := by
  have horigin (dir : Direction) : (scp_spin_find_st_origin dir).Every q :=
    scp_spin_find_st_origin_every h.toObserves h.spin
  refine every_bind (horigin _) fun ret => every_ite trivial ?_
  refine every_perform_bind (h.read _ _) fun stop => every_ite trivial ?_
  refine every_perform_bind (h.spin _) fun _ => every_perform_bind (h.delay _) fun _ => ?_
  refine every_bind (wait_motor_operation_every h.toObserves) fun ret => every_ite trivial ?_
  refine every_perform_bind (h.read _ _) fun stop => every_ite trivial ?_
  refine every_perform_bind (h.scoop _ (by simp)) fun _ => every_perform_bind (h.delay _) fun _ => ?_
  refine every_bind (wait_motor_operation_every h.toObserves) fun ret => every_ite trivial ?_
  refine every_perform_bind (h.scoop _ (by simp)) fun _ => ?_
  refine every_perform_bind (h.read _ _) fun stop => every_ite trivial ?_
  exact every_bind (horigin _) fun _ => trivial

/-- So does the whole calibration. -/
theorem motor_calibration_every (h : Calibrates q) : motor_calibration.Every q := by
  have habort (α : Type) (f : Int → Code α) (hf : ∀ r, (f r).Every q) :
      (calib_abort.bind f).Every q := every_bind (calib_abort_every h) hf
  refine every_perform_bind h.clear fun _ => every_perform_bind (h.pt _) fun pt => ?_
  refine every_bind ?_ fun abort => every_ite (habort _ _ fun _ => trivial) ?_
  · refine every_ite (every_bind ?_ fun _ => trivial) (calibrate_scoop_out_every h)
    exact scp_spin_find_st_origin_every h.toObserves h.spin
  refine every_perform_bind (h.read _ _) fun stop => every_ite (habort _ _ fun _ => trivial) ?_
  refine every_perform_bind (h.spin _) fun _ => every_perform_bind (h.delay _) fun _ => ?_
  refine every_bind (wait_motor_operation_every h.toObserves) fun ret =>
    every_ite (habort _ _ fun _ => trivial) ?_
  exact every_perform_bind (h.read _ _) fun stop => every_ite (habort _ _ fun _ => trivial) trivial

/-- And so does that of the recovery. -/
theorem motor_calibration_recovery_every (h : Calibrates q) : motor_calibration_recovery.Every q := by
  have habort (α : Type) (f : Int → Code α) (hf : ∀ r, (f r).Every q) :
      (calib_abort.bind f).Every q := every_bind (calib_abort_every h) hf
  have horigin (dir : Direction) : (scp_spin_find_st_origin dir).Every q :=
    scp_spin_find_st_origin_every h.toObserves h.spin
  refine every_perform_bind h.clear fun _ => ?_
  refine every_bind (horigin _) fun ret => every_ite (habort _ _ fun _ => trivial) ?_
  refine every_perform_bind (h.read _ _) fun stop => every_ite (habort _ _ fun _ => trivial) ?_
  refine every_perform_bind (h.delay _) fun _ => every_perform_bind (h.spin _) fun _ => ?_
  refine every_perform_bind (h.delay _) fun _ => ?_
  refine every_bind (wait_motor_operation_every h.toObserves) fun ret =>
    every_ite (habort _ _ fun _ => trivial) ?_
  refine every_perform_bind (h.spin _) fun _ => every_perform_bind (h.delay _) fun _ => ?_
  refine every_perform_bind (h.read _ _) fun stop => every_ite (habort _ _ fun _ => trivial) ?_
  refine every_perform_bind (h.scoop _ (by simp)) fun _ => every_perform_bind (h.delay _) fun _ => ?_
  refine every_bind (wait_motor_operation_every h.toObserves) fun ret =>
    every_ite (habort _ _ fun _ => trivial) ?_
  refine every_perform_bind (h.scoop _ (by simp)) fun _ => every_perform_bind (h.delay _) fun _ => ?_
  refine every_perform_bind (h.read _ _) fun stop => every_ite (habort _ _ fun _ => trivial) ?_
  refine every_bind (horigin _) fun ret => every_ite (habort _ _ fun _ => trivial) ?_
  refine every_perform_bind (h.delay _) fun _ => every_perform_bind (h.spin _) fun _ => ?_
  refine every_perform_bind (h.delay _) fun _ => ?_
  refine every_bind (wait_motor_operation_every h.toObserves) fun ret =>
    every_ite (habort _ _ fun _ => trivial) ?_
  exact every_perform_bind (h.spin _) fun _ => every_perform_bind (h.delay _) fun _ => trivial

end catbox.motor
