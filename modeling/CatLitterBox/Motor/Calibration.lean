import CatLitterBox.Motor.Wait

open catbox.sensor program

namespace catbox.motor

def send_scpspin_stop : Code Unit := send_scpspin_motor_msg_ex .SCP_SPIN_CMD 0 .STOP 0 0 false

/-- The search loops of `scp_spin_find_st_origin`: turn until the ST bit has the
value `want`, for at most 30 s. The result says whether an emergency stop ended the
search; the motor is then already stopped. -/
def search_st_bit (want : Bool) : Code Bool := do
  let st_time ← esp_timer_get_time
  .repeated (fun _ : Unit => do
    if ((← esp_timer_get_time) - st_time).tdiv 1000 < 30000 then
      if ← read .emergency_stop_flag .scp_spin_find_st_origin then
        send_scpspin_stop
        return .inr true
      let pt ← get_pt_status .scp_spin_find_st_origin
      if pt.has PT_BIT_SCP_SPIN_ST == want then return .inr false
      vTaskDelay 10
      return .inl ()
    else return .inr false) ()

/-- The branch taken on the ST sensor: leave it in reverse, then come back forward. -/
def leave_and_return_to_st : Code Int := do
  send_scpspin_motor_msg_ex .SCP_SPIN_CMD 360 .REVERSE 100 30000 false
  if ← search_st_bit false then return -1
  send_scpspin_stop
  vTaskDelay 100
  if ← read .emergency_stop_flag .scp_spin_find_st_origin then return -1
  send_scpspin_motor_msg_ex .SCP_SPIN_CMD 360 .FORWARD 100 30000 false
  if ← search_st_bit true then return -1
  send_scpspin_stop
  return 0

/-- One activation of `scp_spin_find_st_origin` at recursion depth `depth`; `inl` is
the self-call of the branch that starts off the ST sensor. -/
def find_st_origin_call (search_dir : Direction) (depth : Nat) : Code (Nat ⊕ Int) := do
  if ← read .emergency_stop_flag .scp_spin_find_st_origin then return .inr (-1)
  let current_pt ← get_pt_status .scp_spin_find_st_origin
  if current_pt.has PT_BIT_SCP_SPIN_ST then
    return .inr (← leave_and_return_to_st)
  send_scpspin_motor_msg_ex .SCP_SPIN_CMD 360 search_dir 100 30000 false
  if ← search_st_bit true then return .inr (-1)
  send_scpspin_stop
  vTaskDelay 100
  if ← read .emergency_stop_flag .scp_spin_find_st_origin then return .inr (-1)
  return .inl (depth + 1)

/-- `scp_spin_find_st_origin(search_dir)`, with the direction that `search_dir`
selects: FORWARD for 1, REVERSE otherwise. -/
def scp_spin_find_st_origin (search_dir : Direction) : Code Int :=
  .repeated (find_st_origin_call search_dir) 0

/-- The label `calib_abort` of `motor_calibration`, and `calib_rec_abort` of
`motor_calibration_recovery`. -/
def calib_abort : Code Int := do
  send_scpspin_stop
  send_scpinout_msg .SCP_INOUT_CMD 0 .STOP 0
  return -1

/-- The branch of `motor_calibration` for a scoop that is not in. The result says
whether it goes to `calib_abort`. -/
def calibrate_scoop_out : Code Bool := do
  if (← scp_spin_find_st_origin .REVERSE) != 0 then return true
  if ← read .emergency_stop_flag .motor_calibration then return true
  send_scpspin_motor_msg_ex .SCP_SPIN_CMD 90 .FORWARD 100 10000 false
  vTaskDelay 150
  if (← wait_motor_operation .SCPSPIN_MOTOR 10000 .MT_MIDDLE) != 0 then return true
  if ← read .emergency_stop_flag .motor_calibration then return true
  send_scpinout_msg .SCP_INOUT_CMD 0 .REVERSE 15000
  vTaskDelay 150
  if (← wait_motor_operation .SCPINOUT_MOTOR 15000 .MT_CLOSE) != 0 then return true
  send_scpinout_msg .SCP_INOUT_CMD 0 .STOP 0
  if ← read .emergency_stop_flag .motor_calibration then return true
  return (← scp_spin_find_st_origin .REVERSE) != 0

/-- The two branches of `motor_calibration` on the SCP_IN bit. -/
def calibrate_scoop (is_scp_in : Bool) : Code Bool := do
  if is_scp_in then return (← scp_spin_find_st_origin .FORWARD) != 0
  calibrate_scoop_out

def motor_calibration : Code Int := do
  clear_emergency_stop
  let pt ← get_pt_status .motor_calibration
  if ← calibrate_scoop (pt.has PT_BIT_SCP_IN) then return (← calib_abort)
  if ← read .emergency_stop_flag .motor_calibration then return (← calib_abort)
  send_scpspin_motor_msg_ex .SCP_SPIN_CMD 70 .REVERSE 100 10000 false
  vTaskDelay 150
  if (← wait_motor_operation .SCPSPIN_MOTOR 10000 .MT_MIDDLE) != 0 then return (← calib_abort)
  if ← read .emergency_stop_flag .motor_calibration then return (← calib_abort)
  return 0

def motor_calibration_recovery : Code Int := do
  clear_emergency_stop
  if (← scp_spin_find_st_origin .REVERSE) != 0 then return (← calib_abort)
  if ← read .emergency_stop_flag .motor_calibration_recovery then return (← calib_abort)
  vTaskDelay 200
  send_scpspin_motor_msg_ex .SCP_SPIN_CMD 75 .FORWARD 100 10000 false
  vTaskDelay 200
  if (← wait_motor_operation .SCPSPIN_MOTOR 10000 .MT_MIDDLE) != 0 then return (← calib_abort)
  send_scpspin_stop
  vTaskDelay 300
  if ← read .emergency_stop_flag .motor_calibration_recovery then return (← calib_abort)
  send_scpinout_msg .SCP_INOUT_CMD 0 .REVERSE 15000
  vTaskDelay 200
  if (← wait_motor_operation .SCPINOUT_MOTOR 15000 .MT_CLOSE) != 0 then return (← calib_abort)
  send_scpinout_msg .SCP_INOUT_CMD 0 .STOP 0
  vTaskDelay 300
  if ← read .emergency_stop_flag .motor_calibration_recovery then return (← calib_abort)
  if (← scp_spin_find_st_origin .REVERSE) != 0 then return (← calib_abort)
  vTaskDelay 200
  send_scpspin_motor_msg_ex .SCP_SPIN_CMD 70 .REVERSE 100 10000 false
  vTaskDelay 200
  if (← wait_motor_operation .SCPSPIN_MOTOR 10000 .MT_MIDDLE) != 0 then return (← calib_abort)
  send_scpspin_stop
  vTaskDelay 300
  return 0

end catbox.motor
