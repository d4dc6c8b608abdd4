import CatLitterBox.Diag.Modes
import CatLitterBox.Motor.Wait
import CatLitterBox.Program.Implement
import CatLitterBox.Program.Oracle

open catbox.motor catbox.sensor program

namespace catbox.diag.routine

/-- The atomic steps of `diag_process_task`. -/
inductive Step where
  | send (mt : Motor) (msg : Message)
  | get_pt_status
  | get_motor_run (mt : Motor)
  | esp_timer_get_time
  | vTaskDelay (ms : Nat)
  | set_tof_sensor_enable (enable : Bool)
  | send_led_cmd_msg (cmd : LedCmd)
  | get_keyclean_status
  | diag_next_step_f
  | clear_next_step
  | diag_next_func_f
  | clear_next_func
  | get_weight
  | system_reset

def Step.Answer : Step → Type
  | .get_pt_status => PtWord
  | .get_motor_run _ => Bool
  | .esp_timer_get_time => Int
  | .get_keyclean_status | .diag_next_step_f | .diag_next_func_f => Bool
  | _ => Unit

abbrev Code (α : Type) : Type 1 := Program Step Step.Answer α

abbrev Event : Type := (a : Step) × a.Answer

def act (a : Step) : Code a.Answer := Program.perform a

def MOTOR_CMD_TRANSFER_DELAY : Nat := 50

/-- The motor that a command is for. -/
def motor_of : MotorCmd → Motor
  | .PLATE_CMD => .PLATE_MOTOR
  | .MAIN_COVER_CMD => .MAIN_COVER_MOTOR
  | .SCP_INOUT_CMD => .SCPINOUT_MOTOR
  | .SCP_SPIN_CMD => .SCPSPIN_MOTOR
  | .WASTE_COVER_CMD | .WASTE_STEP_CMD => .WASTE_COVER_MOTOR

/-- A message that is zero but for its fields goes to the motor of its command. -/
def send (msg : Message) : Code Unit := act (.send (motor_of msg.cmd) msg)

def send_plate_msg (direction : Direction) : Code Unit := send (diag_message .PLATE_CMD 0 direction 0)

def send_scpinout_msg (direction : Direction) (timeout : Nat) : Code Unit :=
  send (diag_message .SCP_INOUT_CMD 0 direction timeout)

def send_scpspin_motor_msg (angle : Nat) (direction : Direction) (timeout : Nat) : Code Unit :=
  send (diag_message .SCP_SPIN_CMD angle direction timeout)

def send_waste_motor_msg (direction : Direction) (timeout : Nat) : Code Unit :=
  send (diag_message .WASTE_COVER_CMD 0 direction timeout)

def get_pt_status : Code PtWord := act .get_pt_status

def get_motor_run (mt : Motor) : Code Bool := act (.get_motor_run mt)

def esp_timer_get_time : Code Int := act .esp_timer_get_time

def vTaskDelay (ms : Nat) : Code Unit := act (.vTaskDelay ms)

def pt_check (mt : Motor) : Code Int := do
  return pt_check_word mt (← get_pt_status)

section shared

/-- The steps that the scenarios of the motors take as well, at a place `p`, and the others. -/
def Step.shared (p : motor.Place) : Step → Act ⊕ Step
  | .send mt msg => .inl (.send mt msg)
  | .get_pt_status => .inl (.get_pt_status p)
  | .get_motor_run mt => .inl (.get_motor_run mt p)
  | .esp_timer_get_time => .inl .esp_timer_get_time
  | .vTaskDelay ms => .inl (.vTaskDelay ms)
  | .set_tof_sensor_enable enable => .inl (.set_tof_sensor_enable enable)
  | .send_led_cmd_msg cmd => .inl (.send_led_cmd_msg cmd)
  | a => .inr a

def Step.shared_answer (p : motor.Place) : (a : Step) → Sum.elim Act.Answer Step.Answer (a.shared p) → a.Answer
  | .send _ _, r | .get_pt_status, r | .get_motor_run _, r | .esp_timer_get_time, r | .vTaskDelay _, r
  | .set_tof_sensor_enable _, r | .send_led_cmd_msg _, r | .get_keyclean_status, r | .diag_next_step_f, r
  | .clear_next_step, r | .diag_next_func_f, r | .clear_next_func, r | .get_weight, r | .system_reset, r => r

/-- A step of a scenario whose message variable has been zeroed, as it is in `diag.c`: the fields that a sender
does not set are zero. -/
def zeroed : Act → Act ⊕ Step
  | .send mt msg => .inl (.send mt { msg with speed := some (msg.speed.getD 0), cal := some (msg.cal.getD false) })
  | a => .inl a

def zeroed_answer : (a : Act) → Sum.elim Act.Answer Step.Answer (zeroed a) → a.Answer
  | .send .., r | .send_led_cmd_msg _, r | .read .., r | .write .., r | .get_pt_status _, r | .get_motor_run .., r
  | .esp_timer_get_time, r | .vTaskDelay _, r | .set_tof_sensor_enable _, r | .reset_tof_ring_buffer, r
  | .get_tof_ring_count, r | .get_tof_distance, r => r

variable (p : motor.Place)

/-- The senders of the scenarios are those of the routine: the same message goes to the same motor. -/
theorem send_shared (cmd : MotorCmd) (angle : Nat) (direction : Direction) (timeout : Nat) :
    (send (diag_message cmd angle direction timeout)).embed (Step.shared p) (Step.shared_answer p) =
      (motor.send_motor_msg (motor_of cmd) cmd angle direction timeout).embed zeroed zeroed_answer := rfl

theorem send_plate_msg_shared (direction : Direction) :
    (send_plate_msg direction).embed (Step.shared p) (Step.shared_answer p) =
      (motor.send_plate_msg .PLATE_CMD 0 direction 0).embed zeroed zeroed_answer :=
  send_shared p .PLATE_CMD 0 direction 0

theorem send_scpinout_msg_shared (direction : Direction) (timeout : Nat) :
    (send_scpinout_msg direction timeout).embed (Step.shared p) (Step.shared_answer p) =
      (motor.send_scpinout_msg .SCP_INOUT_CMD 0 direction timeout).embed zeroed zeroed_answer :=
  send_shared p .SCP_INOUT_CMD 0 direction timeout

theorem send_scpspin_motor_msg_shared (angle : Nat) (direction : Direction) (timeout : Nat) :
    (send_scpspin_motor_msg angle direction timeout).embed (Step.shared p) (Step.shared_answer p) =
      (motor.send_scpspin_motor_msg .SCP_SPIN_CMD angle direction timeout).embed zeroed zeroed_answer :=
  send_shared p .SCP_SPIN_CMD angle direction timeout

theorem send_waste_motor_msg_shared (direction : Direction) (timeout : Nat) :
    (send_waste_motor_msg direction timeout).embed (Step.shared p) (Step.shared_answer p) =
      (motor.send_waste_motor_msg .WASTE_COVER_CMD 0 direction timeout).embed zeroed zeroed_answer :=
  send_shared p .WASTE_COVER_CMD 0 direction timeout

/-- Both look at the sensors of a motor in the same way. -/
theorem pt_check_shared (mt : Motor) :
    (pt_check mt).embed (Step.shared p) (Step.shared_answer p) =
      (motor.pt_check mt p).embed zeroed zeroed_answer := rfl

end shared

/-- A turn of the loop of `wait_diag_operation`, which began at `start`. -/
def wait_diag_turn (mt : Motor) (timeout : Int) (status : MotorStatus) (start : Int) : Code (Unit ⊕ Int) := do
  vTaskDelay 10
  let ret ← pt_check mt
  if ret = 1 ∧ status = .MT_OPEN ∨ ret = -1 ∧ status = .MT_CLOSE then return .inr 0
  else do
    let now ← esp_timer_get_time
    if timeout ≤ (now - start).tdiv 1000 then return .inr (-1)
    else do
      let running ← get_motor_run mt
      return if running then .inl () else .inr 0

/-- No caller looks at the result. -/
def wait_diag_operation (mt : Motor) (timeout : Int) (status : MotorStatus) : Code Int := do
  vTaskDelay 40
  let start ← esp_timer_get_time
  Program.repeated (fun _ => wait_diag_turn mt timeout status start) ()

/-- The scoop is driven out, if it is not seen there. -/
def scoop_out : Code Unit := do
  let ret ← pt_check .SCPINOUT_MOTOR
  if ret ≠ 1 then do
    send_scpinout_msg .FORWARD 10000
    let _ ← wait_diag_operation .SCPINOUT_MOTOR 10000 .MT_OPEN
    return ()
  else return ()

def start_scpinout : Code Unit := do
  let ret ← pt_check .SCPINOUT_MOTOR
  if ret ≠ 1 then send_scpinout_msg .FORWARD 10000 else return ()

def start_waste : Code Unit := do
  let ret ← pt_check .WASTE_COVER_MOTOR
  if ret ≠ 1 then send_waste_motor_msg .FORWARD 15000 else return ()

def start_diag_mode (mode : DiagMode) : Code Unit :=
  match mode with
  | .DIAG_SENSOR_RF_MODE => act (.set_tof_sensor_enable true)
  | .DIAG_PLATE_MODE => send_plate_msg .FORWARD
  | .DIAG_SCPINOUT_MODE => start_scpinout
  | .DIAG_SCPSPIN_MODE => do
    scoop_out
    send_scpspin_motor_msg 360 .FORWARD 15000
  | .DIAG_WASTE_MODE => do
    scoop_out
    start_waste

/-- The waste cover is driven shut, if it is not seen there. -/
def waste_close : Code Unit := do
  let ret ← pt_check .WASTE_COVER_MOTOR
  if ret ≠ -1 then do
    send_waste_motor_msg .REVERSE 15000
    let _ ← wait_diag_operation .WASTE_COVER_MOTOR 15000 .MT_CLOSE
    send_waste_motor_msg .STOP 0
  else return ()

/-- Both sensors of the scoop spin see it. -/
def at_origin (word : PtWord) : Bool := word.has PT_BIT_SCP_SPIN_ST && word.has PT_BIT_SCP_SPIN_ED

/-- A turn of the loop that looks for the origin. -/
def origin_turn : Code (Unit ⊕ Unit) := do
  vTaskDelay MOTOR_CMD_TRANSFER_DELAY
  let ret ← get_pt_status
  if at_origin ret then do
    send_scpspin_motor_msg 0 .STOP 0
    return .inr ()
  else do
    let running ← get_motor_run .SCPSPIN_MOTOR
    return if running then .inl () else .inr ()

def find_origin : Code Unit := do
  let ret ← get_pt_status
  if at_origin ret then return ()
  else do
    send_scpspin_motor_msg 360 .FORWARD 15000
    Program.repeated (fun _ => origin_turn) ()

/-- The loop that waits until the scoop does not turn any more. -/
def spin_ended : Code Unit :=
  Program.repeated (fun _ => do
    vTaskDelay MOTOR_CMD_TRANSFER_DELAY
    let running ← get_motor_run .SCPSPIN_MOTOR
    return if running then .inl () else .inr ()) ()

def finish_waste : Code Unit := do
  waste_close
  find_origin
  send_scpspin_motor_msg 90 .REVERSE 10000
  spin_ended
  send_scpinout_msg .REVERSE 10000
  let _ ← wait_diag_operation .SCPINOUT_MOTOR 10000 .MT_CLOSE
  send_scpinout_msg .STOP 0
  send_scpspin_motor_msg 20 .REVERSE 5000
  spin_ended

def finish_diag_mode (mode : DiagMode) : Code Unit :=
  match mode with
  | .DIAG_SENSOR_RF_MODE => act (.set_tof_sensor_enable false)
  | .DIAG_PLATE_MODE => send_plate_msg .STOP
  | .DIAG_SCPINOUT_MODE => scoop_out
  | .DIAG_SCPSPIN_MODE => send_scpspin_motor_msg 0 .STOP 0
  | .DIAG_WASTE_MODE => finish_waste

/-- What `next_diag_func` looks at: where a motor with ends is. -/
def look (mode : DiagMode) : Code Int :=
  match mode with
  | .DIAG_SCPINOUT_MODE => pt_check .SCPINOUT_MOTOR
  | .DIAG_WASTE_MODE => pt_check .WASTE_COVER_MOTOR
  | _ => return 0

def send_all : List Message → Code Unit
  | [] => return ()
  | msg :: messages => do
    send msg
    send_all messages

/-- The new value of `diag_func`. -/
def next_diag_func (mode : DiagMode) (diag_func : Int) : Code Int := do
  let pt ← look mode
  send_all (diag.next_diag_func mode diag_func pt).2
  return (diag.next_diag_func mode diag_func pt).1

def diag_func_turn (mode : DiagMode) (diag_func : Int) : Code Int := do
  let requested : Bool ← act .diag_next_func_f
  if requested then do
    let diag_func ← next_diag_func mode (diag_func + 1)
    let _ ← act .clear_next_func
    return diag_func
  else return diag_func

def diag_sensor_rf (mode : DiagMode) : Code Unit :=
  if mode = .DIAG_SENSOR_RF_MODE then do
    let _ ← act .get_weight
    let _ ← act .get_weight
    vTaskDelay 500
  else return ()

/-- A turn of the loop of `do_diag_mode`. -/
def diag_turn (mode : DiagMode) (diag_func : Int) : Code (Int ⊕ Unit) := do
  let left : Bool ← act .diag_next_step_f
  if left then do
    let _ ← act .clear_next_step
    return .inr ()
  else do
    let diag_func ← diag_func_turn mode diag_func
    diag_sensor_rf mode
    vTaskDelay 10
    return .inl diag_func

def do_diag_mode (mode : DiagMode) : Code Unit := do
  start_diag_mode mode
  Program.repeated (diag_turn mode) 0
  finish_diag_mode mode

/-- The loop that waits until the clean key has been let go. -/
def key_released : Code Unit :=
  Program.repeated (fun _ => do
    let pressed : Bool ← act .get_keyclean_status
    if pressed then do
      vTaskDelay 10
      return .inl ()
    else do
      vTaskDelay 100
      return .inr ()) ()

def diag_process_task : Code Unit := do
  let _ ← act (.send_led_cmd_msg .LED_QCMODE_CMD)
  key_released
  let _ ← act .clear_next_step
  let _ ← act .clear_next_func
  do_diag_mode .DIAG_SENSOR_RF_MODE
  do_diag_mode .DIAG_PLATE_MODE
  do_diag_mode .DIAG_SCPINOUT_MODE
  do_diag_mode .DIAG_SCPSPIN_MODE
  do_diag_mode .DIAG_WASTE_MODE
  act .system_reset

/-- The last command of the scoop has sent it out. -/
def sent_out : List Event → Bool
  | [] => false
  | ⟨.send m msg, _⟩ :: h => if m = .SCPINOUT_MOTOR then msg.direction = .FORWARD else sent_out h
  | _ :: h => sent_out h

/-- What the clock has said, in microseconds, each time that it was read since the scoop was sent out. -/
def outward : List Event → List Int
  | [] => []
  | ⟨.send m _, _⟩ :: h => if m = .SCPINOUT_MOTOR then [] else outward h
  | ⟨.esp_timer_get_time, (now : Int)⟩ :: h => if sent_out h then now :: outward h else outward h
  | _ :: h => outward h

/-- A motor has come to rest as far as the routine knows: its last command has stopped it, or it has been seen
since to stand still. The waste cover may have been seen closed instead. The scoop may have been seen out, whichever
way it was sent, or it has been sent out and given ten seconds. -/
def settled (mt : Motor) : List Event → Bool
  | [] => true
  | ⟨.send m msg, _⟩ :: h => if m = mt then msg.direction = .STOP else settled mt h
  | ⟨.get_pt_status, (word : PtWord)⟩ :: h =>
    settled mt h || (mt = .SCPINOUT_MOTOR && pt_check_word mt word = 1) ||
      (mt = .WASTE_COVER_MOTOR && pt_check_word mt word = -1)
  | ⟨.get_motor_run m, (running : Bool)⟩ :: h => settled mt h || (m = mt && !running)
  | ⟨.esp_timer_get_time, (now : Int)⟩ :: h =>
    settled mt h || (mt = .SCPINOUT_MOTOR && (outward h).any fun start => 10000 ≤ (now - start).tdiv 1000)
  | _ :: h => settled mt h

/-- The last command of a motor has stopped it. -/
def stopped (mt : Motor) : List Event → Bool
  | [] => true
  | ⟨.send m msg, _⟩ :: h => if m = mt then msg.direction = .STOP else stopped mt h
  | _ :: h => stopped mt h

/-- The distance sensor has been switched off again. -/
def sensor_off : List Event → Bool
  | [] => true
  | ⟨.set_tof_sensor_enable enable, _⟩ :: _ => !enable
  | _ :: h => sensor_off h

/-- A motor is commanded only while all the others are settled, the main cover never. When the firmware is
started again they all are, the scoop is stopped and the distance sensor is off. -/
def Careful : Step → List Event → Prop
  | .send mt _, h => mt ≠ .MAIN_COVER_MOTOR ∧ ∀ other, other ≠ mt → settled other h = true
  | .system_reset, h =>
    (∀ mt, settled mt h = true) ∧ stopped .SCPINOUT_MOTOR h = true ∧ sensor_off h = true
  | _, _ => True

end catbox.diag.routine
