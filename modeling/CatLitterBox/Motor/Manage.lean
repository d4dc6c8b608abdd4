import CatLitterBox.Motor.Wait

open program

namespace catbox.motor

/-- The labels `manage_start_exit` and `manage_finish_exit`. -/
def manage_exit : Code Int := do
  set_tof_sensor_enable false
  return -1

def do_manage_start : Code Int := do
  send_led_cmd_msg .LED_MANAGE_CMD
  set_tof_sensor_enable true
  drive_main_cover_soft .FORWARD 100
  vTaskDelay 150
  if (← wait_motor_operation .MAIN_COVER_MOTOR 10000 .MT_OPEN) != 0 then return (← manage_exit)
  send_main_motor_msg .MAIN_COVER_CMD 0 .STOP 0
  send_scpinout_msg .SCP_INOUT_CMD 0 .FORWARD 10000
  vTaskDelay 150
  if (← wait_motor_operation .SCPINOUT_MOTOR 10000 .MT_OPEN) != 0 then return (← manage_exit)
  send_scpinout_msg .SCP_INOUT_CMD 0 .STOP 0
  set_tof_sensor_enable false
  return 0

def do_manage_finish : Code Int := do
  set_tof_sensor_enable true
  send_scpinout_msg .SCP_INOUT_CMD 0 .REVERSE 10000
  vTaskDelay 150
  if (← wait_motor_operation .SCPINOUT_MOTOR 10000 .MT_CLOSE) != 0 then return (← manage_exit)
  send_scpinout_msg .SCP_INOUT_CMD 0 .STOP 0
  drive_main_cover_soft .REVERSE 100
  vTaskDelay 150
  if (← wait_motor_operation .MAIN_COVER_MOTOR 10000 .MT_CLOSE) != 0 then return (← manage_exit)
  send_main_motor_msg .MAIN_COVER_CMD 0 .STOP 0
  set_tof_sensor_enable false
  send_led_cmd_msg .LED_IDLE_CMD
  return 0

end catbox.motor
