import CatLitterBox.Sensor.Photo

open catbox.sensor

namespace catbox.motor

/-- The motors, one for each pair `(sel, mt)` of a motor kind and an index that the
source passes around, and one for each motor queue. -/
inductive Motor where
  | PLATE_MOTOR
  | MAIN_COVER_MOTOR
  | SCPINOUT_MOTOR
  | SCPSPIN_MOTOR
  | WASTE_COVER_MOTOR
deriving DecidableEq, Repr

/-- `MOTOR_DIRECTION_T`. -/
inductive Direction where
  | FORWARD
  | REVERSE
  | STOP
deriving DecidableEq, Repr

/-- `motor_status_t`: the position a wait is for. -/
inductive MotorStatus where
  | MT_OPEN
  | MT_CLOSE
  | MT_MIDDLE
deriving DecidableEq, Repr

/-- The commands of `MOTOR_CMD_T` that the scenarios and the console send. -/
inductive MotorCmd where
  | WASTE_COVER_CMD
  | PLATE_CMD
  | SCP_INOUT_CMD
  | SCP_SPIN_CMD
  | MAIN_COVER_CMD
  | WASTE_STEP_CMD
deriving DecidableEq, Repr

/-- `mt_message_t`. Only `send_scpspin_motor_msg_ex` sets `speed` and `cal`; the
other senders leave in them what the caller's structure held. -/
structure Message where
  cmd : MotorCmd
  angle : Nat
  direction : Direction
  timeout : Nat
  speed : Option Nat
  cal : Option Bool
deriving DecidableEq, Repr

/-- `LED_CMD_T`. -/
inductive LedCmd where
  | LED_IDLE_CMD
  | LED_INITOK_CMD
  | LED_PAIRING_CMD
  | LED_UNLOCK_CMD
  | LED_LOCK_CMD
  | LED_INVALID_CMD
  | LED_INUSE_CMD
  | LED_CLEANING_CMD
  | LED_MANAGE_CMD
  | LED_BINFULL_CMD
  | LED_ERROR_CMD
  | LED_QCMODE_CMD
  | LED_QCQUIT_CMD
  | LED_PAUSE_CMD
deriving DecidableEq, Repr

/-- The flags of `motor.c`: four shared between tasks, one read by the step driver. -/
inductive Flag where
  | emergency_stop_flag
  | clean_running_flag
  | clean_pause_flag
  | clean_resume_recovery_requested
  | spin_mt_always_on
deriving DecidableEq, Repr

/-- The place of the source that reads a shared flag or a sensor: the function, and
for a wait the motor and the position waited for. -/
inductive Place where
  | check_estop
  | check_tof_pause
  | wait_motor_operation (mt : Motor) (status : MotorStatus)
  | wait_duration
  | do_clean
  | estop_exit
  | recovery_step (n : Nat)
  | scp_spin_find_st_origin
  | motor_calibration
  | motor_calibration_recovery
  | toggle_clean_pause
deriving DecidableEq, Repr

/-- `pt_check` on the word it reads: 1 at the open end of a motor, -1 at its closed
end, 0 in between. The closed end wins when both bits are set. -/
def pt_check_word (mt : Motor) (word : PtWord) : Int :=
  match mt with
  | .WASTE_COVER_MOTOR =>
    if word.has PT_BIT_WASTE_CLOSE then -1 else if word.has PT_BIT_WASTE_OPEN then 1 else 0
  | .SCPSPIN_MOTOR =>
    if word.has PT_BIT_SCP_SPIN_ST ∧ word.has PT_BIT_SCP_SPIN_ED then 1 else 0
  | .MAIN_COVER_MOTOR =>
    if word.has PT_BIT_MCOVER_CLOSE then -1 else if word.has PT_BIT_MCOVER_OPEN then 1 else 0
  | .SCPINOUT_MOTOR =>
    if word.has PT_BIT_SCP_IN then -1 else if word.has PT_BIT_SCP_OUT then 1 else 0
  | .PLATE_MOTOR => 0

/-- The bit of the closed end of a motor that has one. -/
def Motor.close_bit : Motor → PtWord
  | .WASTE_COVER_MOTOR => PT_BIT_WASTE_CLOSE
  | .MAIN_COVER_MOTOR => PT_BIT_MCOVER_CLOSE
  | .SCPINOUT_MOTOR => PT_BIT_SCP_IN
  | _ => 0

/-- A motor at its closed end shows its bit. -/
theorem pt_check_word_close {mt : Motor} {word : PtWord} (h : pt_check_word mt word = -1) :
    word.has mt.close_bit = true := by
  cases mt with
  | PLATE_MOTOR => cases h
  | SCPSPIN_MOTOR =>
    simp only [pt_check_word] at h
    split at h
    · cases h
    · cases h
  | _ =>
    simp only [pt_check_word] at h
    split at h
    · assumption
    · split at h
      · cases h
      · cases h

end catbox.motor
