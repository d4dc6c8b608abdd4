import CatLitterBox.Motor.World

open catbox.sensor program

namespace catbox.motor

/-- The STOP commands of a pause, in the order of `toggle_clean_pause` and
`CHECK_TOF_PAUSE`. -/
def pause_all_motors : Code Unit := do
  send_plate_msg .PLATE_CMD 0 .STOP 0
  send_scpspin_motor_msg_ex .SCP_SPIN_CMD 0 .STOP 0 0 false
  send_scpinout_msg .SCP_INOUT_CMD 0 .STOP 0
  send_waste_motor_msg .WASTE_COVER_CMD 0 .STOP 0
  send_main_motor_msg .MAIN_COVER_CMD 0 .STOP 0

def toggle_clean_pause : Code Unit := do
  if !(← read .clean_pause_flag .toggle_clean_pause) then
    write .clean_pause_flag true
    pause_all_motors
    send_led_cmd_msg .LED_PAUSE_CMD
  else
    write .clean_pause_flag false
    write .clean_resume_recovery_requested true

def set_emergency_stop : Code Unit := do
  write .emergency_stop_flag true
  send_plate_msg .PLATE_CMD 0 .STOP 0
  send_scpinout_msg .SCP_INOUT_CMD 0 .STOP 0
  send_main_motor_msg .MAIN_COVER_CMD 0 .STOP 0
  send_waste_motor_msg .WASTE_COVER_CMD 0 .STOP 0
  send_scpspin_motor_msg_ex .SCP_SPIN_CMD 0 .STOP 0 0 false

def clear_emergency_stop : Code Unit := write .emergency_stop_flag false

/-- The test `emergency_stop_flag || clean_resume_recovery_requested`, read left to right. -/
def stop_requested (p : Place) : Code Bool := do
  if ← read .emergency_stop_flag p then return true
  read .clean_resume_recovery_requested p

/-- The loop `while (clean_pause_flag)` of the waits and of `CHECK_TOF_PAUSE`. The
result says whether the loop was left because a stop or a resume was requested. -/
def wait_while_paused (p : Place) : Code Bool :=
  .repeated (fun _ : Unit => do
    if !(← read .clean_pause_flag p) then return .inr false
    if ← stop_requested p then return .inr true
    vTaskDelay 100
    return .inl ()) ()

def pt_check (mt : Motor) (p : Place) : Code Int := do
  return pt_check_word mt (← get_pt_status p)

/-- The first two tests of `is_reached`: the position is the one waited for. -/
def at_target (status : MotorStatus) (ret : Int) : Bool :=
  (ret == 1 && status == .MT_OPEN) || (ret == -1 && status == .MT_CLOSE)

/-- The third test of `is_reached`: after 300 ms a motor that stands still counts. -/
def stands_still (mt : Motor) (p : Place) (elapsed_ms : Int) : Code Bool := do
  if elapsed_ms > 300 then return !(← get_motor_run mt p)
  return false

/-- The second half of a turn of `wait_motor_operation`: look where the motor is and
decide whether the wait is over. -/
def wait_motor_sample (mt : Motor) (timeout : Int) (status : MotorStatus) (start : Int) :
    Code (Unit ⊕ Int) := do
  let p := Place.wait_motor_operation mt status
  vTaskDelay 20
  let ret ← pt_check mt p
  let elapsed_ms := ((← esp_timer_get_time) - start).tdiv 1000
  let still ← stands_still mt p elapsed_ms
  if at_target status ret || still then return .inr 0
  if elapsed_ms ≥ timeout then return .inr (-1)
  return .inl ()

/-- One turn of the polling loop of `wait_motor_operation`. -/
def wait_motor_turn (mt : Motor) (timeout : Int) (status : MotorStatus) (start : Int) :
    Code (Unit ⊕ Int) := do
  let p := Place.wait_motor_operation mt status
  if ← stop_requested p then return .inr (-1)
  if ← wait_while_paused p then return .inr (-1)
  if ← stop_requested p then return .inr (-1)
  wait_motor_sample mt timeout status start

def wait_motor_operation (mt : Motor) (timeout : Int) (status : MotorStatus) : Code Int := do
  vTaskDelay 150
  let start ← esp_timer_get_time
  .repeated (fun _ : Unit => wait_motor_turn mt timeout status start) ()

/-- One turn of the loop of `wait_duration`, with `cnt` turns left. -/
def wait_duration_turn (cnt : Nat) : Code (Nat ⊕ Int) := do
  if ← stop_requested .wait_duration then return .inr (-1)
  if ← wait_while_paused .wait_duration then return .inr (-1)
  vTaskDelay 100
  if cnt - 1 > 0 then return .inl (cnt - 1)
  return .inr 0

def wait_duration (ms : Nat) : Code Int := do
  if ms < 100 then return -1
  let cnt := if ms % 100 != 0 then ms / 100 + 1 else ms / 100
  .repeated wait_duration_turn cnt

/-- The ramp of `drive_main_cover_soft`. The duty travels in the timeout field. -/
def soft_ramp (dir : Direction) (target_speed start_speed : Nat) : Code Unit :=
  .repeated (fun duty : Nat => do
    if duty ≤ target_speed then
      send_main_motor_msg .MAIN_COVER_CMD 0 dir duty
      vTaskDelay 30
      return .inl (duty + 10)
    else return .inr ()) start_speed

def drive_main_cover_soft (dir : Direction) (target_speed : Nat) : Code Unit := do
  vTaskDelay 50
  send_main_motor_msg .MAIN_COVER_CMD 0 dir 100
  vTaskDelay 300
  let start_speed := if target_speed < 70 then target_speed else 70
  soft_ramp dir target_speed start_speed

/-- The wait of `get_fresh_tof_distance` for five samples or two seconds. -/
def wait_fresh_samples : Code Unit :=
  .repeated (fun wait_ms : Nat => do
    if (← get_tof_ring_count) < 5 ∧ wait_ms < 2000 then
      vTaskDelay 10
      return .inl (wait_ms + 10)
    else return .inr ()) 0

def get_fresh_tof_distance : Code Int := do
  set_tof_sensor_enable true
  reset_tof_ring_buffer
  wait_fresh_samples
  let valid_dist ← get_tof_distance
  if valid_dist ≥ 0 ∧ valid_dist ≤ 2000 then return valid_dist
  return -1

/-- The obstacle test of `CHECK_TOF_PAUSE` on a measured distance. -/
def tof_obstacle (tof_dist : Int) : Bool := tof_dist > 0 && tof_dist ≤ 550

/-- `CHECK_TOF_PAUSE(target_label)`; the result says whether it goes to the label. -/
def CHECK_TOF_PAUSE : Code Bool := do
  let tof_dist ← get_fresh_tof_distance
  if tof_obstacle tof_dist then
    pause_all_motors
    send_led_cmd_msg .LED_PAUSE_CMD
    write .clean_pause_flag true
    wait_while_paused .check_tof_pause
  else return false

end catbox.motor
