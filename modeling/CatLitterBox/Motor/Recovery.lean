import CatLitterBox.Motor.Calibration

open catbox.sensor program

namespace catbox.motor

/-- Step 1 of the recovery: close the waste cover unless it reports closed. Each step
says whether it goes to `recovery_abort`. -/
def recovery_close_waste : Code Bool := do
  let pt ← get_pt_status (.recovery_step 1)
  if pt.has PT_BIT_WASTE_CLOSE then return false
  send_waste_motor_msg .WASTE_COVER_CMD 0 .REVERSE 15000
  vTaskDelay 200
  if (← wait_motor_operation .WASTE_COVER_MOTOR 15000 .MT_CLOSE) != 0 then return true
  send_waste_motor_msg .WASTE_COVER_CMD 0 .STOP 0
  vTaskDelay 300
  return false

/-- Step 2: calibrate the scoop spin. -/
def recovery_calibrate : Code Bool := do
  if (← motor_calibration_recovery) != 0 then return true
  vTaskDelay 300
  return false

/-- Step 3: bring the scoop in unless it reports in. -/
def recovery_scoop_in : Code Bool := do
  let pt ← get_pt_status (.recovery_step 3)
  if pt.has PT_BIT_SCP_IN then return false
  send_scpinout_msg .SCP_INOUT_CMD 0 .REVERSE 15000
  vTaskDelay 200
  if (← wait_motor_operation .SCPINOUT_MOTOR 15000 .MT_CLOSE) != 0 then return true
  send_scpinout_msg .SCP_INOUT_CMD 0 .STOP 0
  vTaskDelay 300
  return false

/-- Step 4: close the main cover if it reports open. -/
def recovery_close_cover : Code Bool := do
  let pt ← get_pt_status (.recovery_step 4)
  if !pt.has PT_BIT_MCOVER_OPEN then return false
  drive_main_cover_soft .REVERSE 100
  vTaskDelay 200
  if (← wait_motor_operation .MAIN_COVER_MOTOR 10000 .MT_CLOSE) != 0 then return true
  send_main_motor_msg .MAIN_COVER_CMD 0 .STOP 0
  vTaskDelay 300
  return false

/-- The label `recovery_abort`. -/
def recovery_abort : Code Int := do
  write .clean_running_flag false
  write .clean_pause_flag false
  write .clean_resume_recovery_requested false
  send_plate_msg .PLATE_CMD 0 .STOP 0
  send_main_motor_msg .MAIN_COVER_CMD 0 .STOP 0
  send_scpinout_msg .SCP_INOUT_CMD 0 .STOP 0
  send_waste_motor_msg .WASTE_COVER_CMD 0 .STOP 0
  send_scpspin_motor_msg_ex .SCP_SPIN_CMD 0 .STOP 0 0 false
  set_tof_sensor_enable false
  send_led_cmd_msg .LED_ERROR_CMD
  return -1

/-- Step 5: reset the system to the idle state. -/
def recovery_reset : Code Int := do
  write .clean_running_flag false
  write .clean_pause_flag false
  write .clean_resume_recovery_requested false
  write .emergency_stop_flag false
  set_tof_sensor_enable false
  send_plate_msg .PLATE_CMD 0 .STOP 0
  send_scpspin_motor_msg_ex .SCP_SPIN_CMD 0 .STOP 0 0 false
  send_scpinout_msg .SCP_INOUT_CMD 0 .STOP 0
  send_waste_motor_msg .WASTE_COVER_CMD 0 .STOP 0
  send_main_motor_msg .MAIN_COVER_CMD 0 .STOP 0
  send_led_cmd_msg .LED_IDLE_CMD
  return 0

def do_clean_resume_recovery : Code Int := do
  write .clean_pause_flag false
  vTaskDelay 300
  if ← recovery_close_waste then return (← recovery_abort)
  if ← recovery_calibrate then return (← recovery_abort)
  if ← recovery_scoop_in then return (← recovery_abort)
  if ← recovery_close_cover then return (← recovery_abort)
  recovery_reset

/-- The test of `check_boot_origin_recovery` on the sensor word. -/
def boot_unaligned (pt : PtWord) : Bool :=
  !pt.has PT_BIT_WASTE_CLOSE || !pt.has PT_BIT_MCOVER_CLOSE || !pt.has PT_BIT_SCP_IN

end catbox.motor
