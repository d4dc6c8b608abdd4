import CatLitterBox.Motor.Recovery

open catbox.sensor program

namespace catbox.motor

/-- Step 1 of `do_clean`: open the main cover. Each part of the normal sequence says
whether it goes to `estop_exit`. -/
def clean_open_cover : Code Bool := do
  drive_main_cover_soft .FORWARD 100
  vTaskDelay 300
  let wait_cov_ret ← wait_motor_operation .MAIN_COVER_MOTOR 20000 .MT_OPEN
  send_main_motor_msg .MAIN_COVER_CMD 0 .STOP 0
  vTaskDelay 100
  if wait_cov_ret != 0 then return true
  if (← pt_check .MAIN_COVER_MOTOR .do_clean) != 1 then return true
  write .spin_mt_always_on true
  return false

/-- A cycle from its start to the scoop turned over the open waste bin. -/
def clean_collect (cycle : Nat) : Code Bool := do
  if cycle == 1 then send_scpspin_motor_msg_ex .SCP_SPIN_CMD 220 .FORWARD 140 5000 false
  if (← wait_duration 5000) != 0 then return true
  if ← stop_requested .check_estop then return true
  send_scpinout_msg .SCP_INOUT_CMD 0 .FORWARD 15000
  vTaskDelay 150
  if (← wait_motor_operation .SCPINOUT_MOTOR 15000 .MT_OPEN) != 0 then return true
  send_scpinout_msg .SCP_INOUT_CMD 0 .STOP 0
  if ← stop_requested .check_estop then return true
  if (← wait_duration (90 * 1000)) != 0 then return true
  if ← stop_requested .check_estop then return true
  send_scpspin_motor_msg_ex .SCP_SPIN_CMD 80 .REVERSE 100 10000 false
  vTaskDelay 150
  if (← wait_motor_operation .SCPSPIN_MOTOR 10000 .MT_MIDDLE) != 0 then return true
  send_waste_motor_msg .WASTE_COVER_CMD 0 .FORWARD 15000
  vTaskDelay 300
  if (← wait_motor_operation .WASTE_COVER_MOTOR 15000 .MT_OPEN) != 0 then return true
  send_waste_motor_msg .WASTE_COVER_CMD 0 .STOP 0
  vTaskDelay 200
  return false

/-- A cycle from the TOF check to the scoop out again. -/
def clean_dump : Code Bool := do
  if ← CHECK_TOF_PAUSE then return true
  send_scpinout_msg .SCP_INOUT_CMD 0 .REVERSE 10000
  vTaskDelay 150
  if (← wait_motor_operation .SCPINOUT_MOTOR 10000 .MT_CLOSE) != 0 then return true
  send_scpinout_msg .SCP_INOUT_CMD 0 .STOP 0
  send_scpspin_motor_msg_ex .SCP_SPIN_CMD 160 .REVERSE 100 10000 false
  vTaskDelay 150
  if (← wait_motor_operation .SCPSPIN_MOTOR 10000 .MT_MIDDLE) != 0 then return true
  send_scpspin_motor_msg_ex .SCP_SPIN_CMD 70 .FORWARD 100 5000 false
  vTaskDelay 150
  if (← wait_motor_operation .SCPSPIN_MOTOR 5000 .MT_MIDDLE) != 0 then return true
  send_scpinout_msg .SCP_INOUT_CMD 0 .FORWARD 15000
  vTaskDelay 150
  if (← wait_motor_operation .SCPINOUT_MOTOR 15000 .MT_OPEN) != 0 then return true
  send_scpinout_msg .SCP_INOUT_CMD 0 .STOP 0
  return false

/-- The retry when the scoop-out switch is not seen after the wait. -/
def clean_retry_scoop_out : Code Bool := do
  if (← pt_check .SCPINOUT_MOTOR .do_clean) == 1 then return false
  send_scpinout_msg .SCP_INOUT_CMD 0 .FORWARD 15000
  vTaskDelay 150
  if (← wait_motor_operation .SCPINOUT_MOTOR 15000 .MT_OPEN) != 0 then return true
  send_scpinout_msg .SCP_INOUT_CMD 0 .STOP 0
  return false

/-- One try of the waste-cover closing loop; `inr` carries `waste_close_success`. -/
def close_waste_try (retry : Nat) : Code (Nat ⊕ Bool) := do
  if retry < 3 then
    if retry > 0 then
      send_waste_motor_msg .WASTE_COVER_CMD 0 .FORWARD 3000
      vTaskDelay 500
      send_waste_motor_msg .WASTE_COVER_CMD 0 .REVERSE 15000
      vTaskDelay 150
    if (← wait_motor_operation .WASTE_COVER_MOTOR 15000 .MT_CLOSE) == 0 then
      send_waste_motor_msg .WASTE_COVER_CMD 0 .STOP 0
      vTaskDelay 150
      if (← pt_check .WASTE_COVER_MOTOR .do_clean) == -1 then return .inr true
    return .inl (retry + 1)
  else return .inr false

/-- The end of a cycle: close the waste cover, with the next spin already under way in
the first cycle. -/
def clean_close_waste (cycle : Nat) : Code Bool := do
  send_waste_motor_msg .WASTE_COVER_CMD 0 .REVERSE 15000
  vTaskDelay 150
  if cycle == 1 then send_scpspin_motor_msg_ex .SCP_SPIN_CMD 170 .FORWARD 140 5000 false
  let waste_close_success ← .repeated close_waste_try 0
  if !waste_close_success then return true
  vTaskDelay 100
  return false

def clean_cycle (cycle : Nat) : Code Bool := do
  if ← clean_collect cycle then return true
  if ← clean_dump then return true
  if ← clean_retry_scoop_out then return true
  clean_close_waste cycle

/-- The end of the normal sequence up to the closed scoop: steps 18 to 20. -/
def clean_scoop_in : Code Bool := do
  send_scpspin_motor_msg_ex .SCP_SPIN_CMD 50 .FORWARD 100 8000 false
  vTaskDelay 150
  if (← wait_motor_operation .SCPSPIN_MOTOR 8000 .MT_MIDDLE) != 0 then return true
  write .spin_mt_always_on false
  if ← CHECK_TOF_PAUSE then return true
  send_scpinout_msg .SCP_INOUT_CMD 0 .REVERSE 25000
  vTaskDelay 150
  if (← wait_motor_operation .SCPINOUT_MOTOR 25000 .MT_CLOSE) != 0 then return true
  send_scpinout_msg .SCP_INOUT_CMD 0 .STOP 0
  send_scpspin_motor_msg_ex .SCP_SPIN_CMD 0 .REVERSE 100 8000 false
  vTaskDelay 150
  return (← wait_motor_operation .SCPSPIN_MOTOR 8000 .MT_MIDDLE) != 0

/-- The calibration and the closing of the main cover. -/
def clean_close_cover : Code Bool := do
  if (← motor_calibration) != 0 then return true
  drive_main_cover_soft .REVERSE 100
  vTaskDelay 150
  if (← wait_motor_operation .MAIN_COVER_MOTOR 10000 .MT_CLOSE) != 0 then return true
  send_main_motor_msg .MAIN_COVER_CMD 0 .STOP 0
  return false

/-- The normal sequence of `do_clean`, from the first opening to the last closing. -/
def clean_sequence : Code Bool := do
  if ← clean_open_cover then return true
  if ← clean_cycle 1 then return true
  if ← clean_cycle 2 then return true
  if ← clean_scoop_in then return true
  clean_close_cover

/-- The label `estop_exit` after the test of the resume request. -/
def estop_exit_after (is_recovery_mode : Bool) : Code Int := do
  write .clean_running_flag false
  write .clean_pause_flag false
  write .clean_resume_recovery_requested false
  send_plate_msg .PLATE_CMD 0 .STOP 0
  send_main_motor_msg .MAIN_COVER_CMD 0 .STOP 0
  send_scpinout_msg .SCP_INOUT_CMD 0 .STOP 0
  send_waste_motor_msg .WASTE_COVER_CMD 0 .STOP 0
  send_scpspin_motor_msg_ex .SCP_SPIN_CMD 0 .STOP 0 0 false
  if is_recovery_mode then do_clean_resume_recovery
  else do
    send_led_cmd_msg .LED_ERROR_CMD
    return -1

def estop_exit : Code Int := do
  write .spin_mt_always_on false
  let is_recovery_mode ← read .clean_resume_recovery_requested .estop_exit
  estop_exit_after is_recovery_mode

/-- The normal end of `do_clean`. -/
def clean_end : Code Int := do
  send_plate_msg .PLATE_CMD 0 .STOP 0
  set_tof_sensor_enable false
  write .clean_running_flag false
  write .clean_pause_flag false
  write .clean_resume_recovery_requested false
  send_led_cmd_msg .LED_IDLE_CMD
  return 0

/-- The start of `do_clean` up to its first motor command. -/
def clean_begin : Code Unit := do
  clear_emergency_stop
  write .spin_mt_always_on false
  write .clean_running_flag true
  write .clean_pause_flag false
  write .clean_resume_recovery_requested false
  send_led_cmd_msg .LED_CLEANING_CMD
  set_tof_sensor_enable true
  send_plate_msg .PLATE_CMD 0 .FORWARD 0

def do_clean : Code Int := do
  clean_begin
  if ← clean_sequence then estop_exit
  else clean_end

end catbox.motor
