import CatLitterBox.Motor.Calibration
import CatLitterBox.Program.Wp

open catbox.sensor program program.Program

namespace catbox.motor

/-- A command that makes a motor move: FORWARD or REVERSE. -/
def Act.drives : Act → Bool
  | .send _ msg => msg.direction != .STOP
  | _ => false

/-- The steps of a wait: the photo sensors, a motor or the clock is read, or time passes. -/
structure Samples (q : Act → Prop) : Prop where
  pt : ∀ p, q (.get_pt_status p)
  run : ∀ mt p, q (.get_motor_run mt p)
  time : q .esp_timer_get_time
  delay : ∀ ms, q (.vTaskDelay ms)

/-- The steps of a wait, reads of the shared flags included. -/
structure Observes (q : Act → Prop) : Prop extends Samples q where
  read : ∀ f p, q (.read f p)

variable {q : Act → Prop}

/-- A test for a stop only looks. -/
theorem stop_requested_every {p : Place} (h : Observes q) : (stop_requested p).Every q :=
  every_perform_bind (h.read _ _) fun _ => every_ite trivial (every_perform (h.read _ _))

/-- So does the wait while a clean is paused. -/
theorem wait_while_paused_every {p : Place} (h : Observes q) : (wait_while_paused p).Every q := by
  refine every_repeated fun _ => every_perform_bind (h.read _ _) fun paused => every_ite trivial ?_
  refine every_bind (stop_requested_every h) fun stop => every_ite trivial ?_
  exact every_perform_bind (h.delay _) fun _ => trivial

/-- `pt_check` only samples the sensors. -/
theorem pt_check_every {mt : Motor} {p : Place} (h : Samples q) : (pt_check mt p).Every q :=
  every_perform_bind (h.pt _) fun _ => trivial

/-- So does one look of a wait for a motor. -/
theorem wait_motor_sample_every {mt : Motor} {timeout : Int} {status : MotorStatus} {start : Int}
    (h : Samples q) : (wait_motor_sample mt timeout status start).Every q := by
  refine every_perform_bind (h.delay _) fun _ => every_bind (pt_check_every h) fun ret => ?_
  refine every_perform_bind h.time fun now => every_bind ?_ fun still => ?_
  · exact every_ite (every_perform_bind (h.run _ _) fun _ => trivial) trivial
  · exact every_ite trivial (every_ite trivial trivial)

/-- And so does the whole wait. -/
theorem wait_motor_operation_every {mt : Motor} {timeout : Int} {status : MotorStatus}
    (h : Observes q) : (wait_motor_operation mt timeout status).Every q := by
  refine every_perform_bind (h.delay _) fun _ => every_perform_bind h.time fun start => ?_
  refine every_repeated fun _ => every_bind (stop_requested_every h) fun stop => every_ite trivial ?_
  refine every_bind (wait_while_paused_every h) fun stop => every_ite trivial ?_
  refine every_bind (stop_requested_every h) fun stop => every_ite trivial ?_
  exact wait_motor_sample_every h.toSamples

/-- A wait whose result is tested does what its two branches do. -/
theorem checked_wait_every {α : Type} (h : Observes q) {mt : Motor} {timeout : Int} {status : MotorStatus}
    {e c : Code α} (he : e.Every q) (hc : c.Every q) :
    ((wait_motor_operation mt timeout status).bind fun ret => if ret != 0 then e else c).Every q :=
  every_bind (wait_motor_operation_every h) fun _ => every_ite he hc

/-- A wait for some time only looks, too. -/
theorem wait_duration_every {ms : Nat} (h : Observes q) : (wait_duration ms).Every q := by
  refine every_ite trivial (every_repeated fun cnt => ?_)
  refine every_bind (stop_requested_every h) fun stop => every_ite trivial ?_
  refine every_bind (wait_while_paused_every h) fun stop => every_ite trivial ?_
  exact every_perform_bind (h.delay _) fun _ => every_ite trivial trivial

/-- The soft drive of the main cover samples, and commands that cover in one direction. -/
theorem drive_main_cover_soft_every {dir : Direction} {target_speed : Nat} (h : Samples q)
    (hsend : ∀ msg, msg.direction = dir → q (.send .MAIN_COVER_MOTOR msg)) :
    (drive_main_cover_soft dir target_speed).Every q := by
  refine every_perform_bind (h.delay _) fun _ => every_perform_bind (hsend _ rfl) fun _ => ?_
  refine every_perform_bind (h.delay _) fun _ => every_repeated fun duty => every_ite ?_ trivial
  exact every_perform_bind (hsend _ rfl) fun _ => every_perform_bind (h.delay _) fun _ => trivial

/-- The steps of `get_fresh_tof_distance`. -/
structure MeasuresTof (q : Act → Prop) : Prop where
  enable : q (.set_tof_sensor_enable true)
  reset : q .reset_tof_ring_buffer
  count : q .get_tof_ring_count
  pass : ∀ ms, q (.vTaskDelay ms)
  distance : q .get_tof_distance

/-- A measurement with the TOF sensor does what such a measurement may do. -/
theorem get_fresh_tof_distance_every (h : MeasuresTof q) : get_fresh_tof_distance.Every q := by
  refine every_perform_bind h.enable fun _ => every_perform_bind h.reset fun _ => every_bind ?_ fun _ => ?_
  · refine every_repeated fun wait_ms => every_perform_bind h.count fun count => every_ite ?_ trivial
    exact every_perform_bind (h.pass _) fun _ => trivial
  · exact every_perform_bind h.distance fun dist => every_ite trivial trivial

private theorem search_st_bit_every {want : Bool} (h : Observes q)
    (hspin : ∀ msg, q (.send .SCPSPIN_MOTOR msg)) : (search_st_bit want).Every q := by
  refine every_perform_bind h.time fun st_time => every_repeated fun _ => ?_
  refine every_perform_bind h.time fun now => every_ite ?_ trivial
  refine every_perform_bind (h.read _ _) fun stop => every_ite ?_ ?_
  · exact every_perform_bind (hspin _) fun _ => trivial
  · refine every_perform_bind (h.pt _) fun word => every_ite trivial ?_
    exact every_perform_bind (h.delay _) fun _ => trivial

/-- The search for the origin of the spin motor looks, and commands that motor. -/
theorem scp_spin_find_st_origin_every {dir : Direction} (h : Observes q)
    (hspin : ∀ msg, q (.send .SCPSPIN_MOTOR msg)) : (scp_spin_find_st_origin dir).Every q := by
  have hsearch (want : Bool) : (search_st_bit want).Every q := search_st_bit_every h hspin
  refine every_repeated fun depth => every_perform_bind (h.read _ _) fun stop => every_ite trivial ?_
  refine every_perform_bind (h.pt _) fun word => every_ite (every_bind ?_ fun _ => trivial) ?_
  · refine every_perform_bind (hspin _) fun _ => every_bind (hsearch _) fun stop => every_ite trivial ?_
    refine every_perform_bind (hspin _) fun _ => every_perform_bind (h.delay _) fun _ => ?_
    refine every_perform_bind (h.read _ _) fun stop => every_ite trivial ?_
    refine every_perform_bind (hspin _) fun _ => every_bind (hsearch _) fun stop => every_ite trivial ?_
    exact every_perform_bind (hspin _) fun _ => trivial
  · refine every_perform_bind (hspin _) fun _ => every_bind (hsearch _) fun stop => every_ite trivial ?_
    refine every_perform_bind (hspin _) fun _ => every_perform_bind (h.delay _) fun _ => ?_
    exact every_perform_bind (h.read _ _) fun stop => every_ite trivial trivial

end catbox.motor
