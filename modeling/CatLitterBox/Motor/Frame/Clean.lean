import CatLitterBox.Motor.Clean
import CatLitterBox.Motor.Frame.Calibration

open catbox.sensor program program.Program

namespace catbox.motor

variable {q : Act → Prop}

/-- What the normal sequence of `do_clean` may do before it closes the main cover. -/
structure Cleans (q : Act → Prop) : Prop extends Calibrates q, MeasuresTof q where
  cover : ∀ msg, msg.direction ≠ .REVERSE → q (.send .MAIN_COVER_MOTOR msg)
  scoopOut : ∀ msg, q (.send .SCPINOUT_MOTOR msg)
  waste : ∀ msg, q (.send .WASTE_COVER_MOTOR msg)
  plate : ∀ msg, msg.direction = .STOP → q (.send .PLATE_MOTOR msg)
  led : ∀ cmd, q (.send_led_cmd_msg cmd)
  always : ∀ v, q (.write .spin_mt_always_on v)
  pause : q (.write .clean_pause_flag true)

/-- `CHECK_TOF_PAUSE` commands nothing but STOP. -/
theorem CHECK_TOF_PAUSE_every_of_stop (h : Observes q) (hmeasure : MeasuresTof q)
    (hstop : ∀ mt msg, msg.direction = .STOP → q (.send mt msg)) (hled : ∀ cmd, q (.send_led_cmd_msg cmd))
    (hpause : q (.write .clean_pause_flag true)) : CHECK_TOF_PAUSE.Every q := by
  refine every_bind (get_fresh_tof_distance_every hmeasure) fun dist => every_ite ?_ trivial
  refine every_bind ?_ fun _ => every_perform_bind (hled _) fun _ => every_perform_bind hpause fun _ => ?_
  · refine every_perform_bind (hstop _ _ rfl) fun _ => every_perform_bind (hstop _ _ rfl) fun _ => ?_
    refine every_perform_bind (hstop _ _ rfl) fun _ => every_perform_bind (hstop _ _ rfl) fun _ => ?_
    exact every_perform (hstop _ _ rfl)
  · exact wait_while_paused_every h

/-- The check of the TOF sensor does only what a clean may do before it closes the cover. -/
theorem CHECK_TOF_PAUSE_every (h : Cleans q) : CHECK_TOF_PAUSE.Every q := by
  refine CHECK_TOF_PAUSE_every_of_stop h.toObserves h.toMeasuresTof (fun mt msg hmsg => ?_) h.led h.pause
  cases mt with
  | PLATE_MOTOR => exact h.plate msg hmsg
  | MAIN_COVER_MOTOR => exact h.cover msg (by simp [hmsg])
  | SCPINOUT_MOTOR => exact h.scoopOut msg
  | SCPSPIN_MOTOR => exact h.spin msg
  | WASTE_COVER_MOTOR => exact h.waste msg

/-- So does the opening of the cover. -/
theorem clean_open_cover_every (h : Cleans q) : clean_open_cover.Every q := by
  refine every_bind (drive_main_cover_soft_every h.toSamples fun msg hmsg => h.cover msg ?_) fun _ => ?_
  · simp [hmsg]
  refine every_perform_bind (h.delay _) fun _ => ?_
  refine every_bind (wait_motor_operation_every h.toObserves) fun ret => ?_
  refine every_perform_bind (h.cover _ (by simp)) fun _ => every_perform_bind (h.delay _) fun _ => ?_
  refine every_ite trivial (every_bind (pt_check_every h.toSamples) fun ret => every_ite trivial ?_)
  exact every_perform_bind (h.always _) fun _ => trivial

/-- An action that only the first cycle takes, before `c`. -/
theorem every_optional {α : Type} {P : Prop} [Decidable P] {a : Act} {c : Code α} (ha : q a)
    (hc : c.Every q) : (if P then a.code.bind fun _ => c else c).Every q :=
  every_ite (every_perform_bind ha fun _ => hc) hc

theorem clean_collect_every (h : Cleans q) {cycle : Nat} : (clean_collect cycle).Every q := by
  have hwait {mt : Motor} {timeout : Int} {status : MotorStatus} {c : Code Bool} (hc : c.Every q) :
      ((wait_motor_operation mt timeout status).bind fun ret => if ret != 0 then .ret true else c).Every q :=
    checked_wait_every h.toObserves trivial hc
  have hestop {c : Code Bool} (hc : c.Every q) :
      ((stop_requested .check_estop).bind fun stop => if stop then .ret true else c).Every q :=
    every_bind (stop_requested_every h.toObserves) fun stop => every_ite trivial hc
  have hduration (ms : Nat) {c : Code Bool} (hc : c.Every q) :
      ((wait_duration ms).bind fun ret => if ret != 0 then .ret true else c).Every q :=
    every_bind (wait_duration_every h.toObserves) fun ret => every_ite trivial hc
  refine every_optional (h.spin _) (hduration _ (hestop ?_))
  refine every_perform_bind (h.scoopOut _) fun _ => every_perform_bind (h.delay _) fun _ => hwait ?_
  refine every_perform_bind (h.scoopOut _) fun _ => hestop (hduration _ (hestop ?_))
  refine every_perform_bind (h.spin _) fun _ => every_perform_bind (h.delay _) fun _ => hwait ?_
  refine every_perform_bind (h.waste _) fun _ => every_perform_bind (h.delay _) fun _ => hwait ?_
  exact every_perform_bind (h.waste _) fun _ => every_perform_bind (h.delay _) fun _ => trivial

theorem clean_dump_every (h : Cleans q) : clean_dump.Every q := by
  have hwait {mt : Motor} {timeout : Int} {status : MotorStatus} {c : Code Bool} (hc : c.Every q) :
      ((wait_motor_operation mt timeout status).bind fun ret => if ret != 0 then .ret true else c).Every q :=
    checked_wait_every h.toObserves trivial hc
  refine every_bind (CHECK_TOF_PAUSE_every h) fun obstacle => every_ite trivial ?_
  refine every_perform_bind (h.scoopOut _) fun _ => every_perform_bind (h.delay _) fun _ => hwait ?_
  refine every_perform_bind (h.scoopOut _) fun _ => ?_
  refine every_perform_bind (h.spin _) fun _ => every_perform_bind (h.delay _) fun _ => hwait ?_
  refine every_perform_bind (h.spin _) fun _ => every_perform_bind (h.delay _) fun _ => hwait ?_
  refine every_perform_bind (h.scoopOut _) fun _ => every_perform_bind (h.delay _) fun _ => hwait ?_
  exact every_perform_bind (h.scoopOut _) fun _ => trivial

theorem clean_retry_scoop_out_every (h : Cleans q) : clean_retry_scoop_out.Every q := by
  refine every_bind (pt_check_every h.toSamples) fun ret => every_ite trivial ?_
  refine every_perform_bind (h.scoopOut _) fun _ => every_perform_bind (h.delay _) fun _ => ?_
  exact checked_wait_every h.toObserves trivial (every_perform_bind (h.scoopOut _) fun _ => trivial)

private theorem close_waste_try_every (h : Cleans q) {retry : Nat} : (close_waste_try retry).Every q := by
  have hwait {c d : Code (Nat ⊕ Bool)} (hc : c.Every q) (hd : d.Every q) :
      ((wait_motor_operation .WASTE_COVER_MOTOR 15000 .MT_CLOSE).bind fun ret =>
        if ret == 0 then c else d).Every q :=
    every_bind (wait_motor_operation_every h.toObserves) fun _ => every_ite hc hd
  have hclosed : (send_waste_motor_msg .WASTE_COVER_CMD 0 .STOP 0 >>= fun _ => vTaskDelay 150 >>= fun _ =>
      pt_check .WASTE_COVER_MOTOR .do_clean >>= fun ret =>
        if ret == -1 then pure (.inr true) else pure (.inl (retry + 1)) : Code (Nat ⊕ Bool)).Every q := by
    refine every_perform_bind (h.waste _) fun _ => every_perform_bind (h.delay _) fun _ => ?_
    exact every_bind (pt_check_every h.toSamples) fun ret => every_ite trivial trivial
  refine every_ite (every_ite ?_ (hwait hclosed trivial)) trivial
  refine every_perform_bind (h.waste _) fun _ => every_perform_bind (h.delay _) fun _ => ?_
  refine every_perform_bind (h.waste _) fun _ => every_perform_bind (h.delay _) fun _ => ?_
  exact hwait hclosed trivial

private theorem clean_close_waste_every (h : Cleans q) {cycle : Nat} : (clean_close_waste cycle).Every q := by
  refine every_perform_bind (h.waste _) fun _ => every_perform_bind (h.delay _) fun _ => ?_
  refine every_optional (h.spin _) (every_bind ⟨fun retry => close_waste_try_every h, fun _ => trivial⟩ ?_)
  exact fun success => every_ite trivial (every_perform_bind (h.delay _) fun _ => trivial)

/-- Each cycle does only what a clean may do before it closes the cover. -/
theorem clean_cycle_every (h : Cleans q) {cycle : Nat} : (clean_cycle cycle).Every q := by
  refine every_bind (clean_collect_every h) fun exit => every_ite trivial ?_
  refine every_bind (clean_dump_every h) fun exit => every_ite trivial ?_
  refine every_bind (clean_retry_scoop_out_every h) fun exit => every_ite trivial ?_
  exact clean_close_waste_every h

private theorem clean_scoop_in_every (h : Cleans q) : clean_scoop_in.Every q := by
  refine every_perform_bind (h.spin _) fun _ => every_perform_bind (h.delay _) fun _ => ?_
  refine checked_wait_every h.toObserves trivial (every_perform_bind (h.always _) fun _ => ?_)
  refine every_bind (CHECK_TOF_PAUSE_every h) fun obstacle => every_ite trivial ?_
  refine every_perform_bind (h.scoopOut _) fun _ => every_perform_bind (h.delay _) fun _ => ?_
  refine checked_wait_every h.toObserves trivial (every_perform_bind (h.scoopOut _) fun _ => ?_)
  refine every_perform_bind (h.spin _) fun _ => every_perform_bind (h.delay _) fun _ => ?_
  exact every_bind (wait_motor_operation_every h.toObserves) fun _ => trivial

/-- The closing of the cover does what calibrations may do, and commands that cover. -/
theorem clean_close_cover_every (h : Calibrates q) (hcover : ∀ msg, q (.send .MAIN_COVER_MOTOR msg)) :
    clean_close_cover.Every q := by
  refine every_bind (motor_calibration_every h) fun ret => every_ite trivial ?_
  refine every_bind (drive_main_cover_soft_every h.toSamples fun msg _ => hcover msg) fun _ => ?_
  refine every_perform_bind (h.delay _) fun _ => ?_
  exact checked_wait_every h.toObserves trivial (every_perform_bind (hcover _) fun _ => trivial)

/-- Every action of the normal sequence, whatever the sensors and the other tasks do. -/
theorem clean_sequence_every (h : Cleans q) (hcover : ∀ msg, q (.send .MAIN_COVER_MOTOR msg)) :
    clean_sequence.Every q := by
  refine every_bind (clean_open_cover_every h) fun exit => every_ite trivial ?_
  refine every_bind (clean_cycle_every h) fun exit => every_ite trivial ?_
  refine every_bind (clean_cycle_every h) fun exit => every_ite trivial ?_
  refine every_bind (clean_scoop_in_every h) fun exit => every_ite trivial ?_
  exact clean_close_cover_every h.toCalibrates hcover

end catbox.motor
