import CatLitterBox.Motor.Types
import CatLitterBox.Program.Basic
import CatLitterBox.Sensor.Tof

open catbox.sensor program

namespace catbox.motor

/-- The state the scenarios share with the rest of the firmware. `queue` holds the
messages a motor task has not consumed yet, oldest first; `running` and `forward`
are the run and direction flags that the motor tasks keep. -/
structure World where
  flag : Flag → Bool
  pt_value : PtWord
  tof : TofRing
  tof_enable_f : Bool
  clock : Int
  queue : Motor → List Message
  running : Motor → Bool
  forward : Motor → Bool

/-- The state after boot with the sensor word `word`: no flag set, all motors at rest. -/
def World.boot (word : PtWord) : World where
  flag _ := false
  pt_value := word
  tof := sensor.reset_tof_ring_buffer
  tof_enable_f := false
  clock := 0
  queue _ := []
  running _ := false
  forward _ := false

/-- The atomic steps of a scenario. Logging is left out. -/
inductive Act where
  | send (mt : Motor) (msg : Message)
  | send_led_cmd_msg (cmd : LedCmd)
  | read (f : Flag) (p : Place)
  | write (f : Flag) (v : Bool)
  | get_pt_status (p : Place)
  | get_motor_run (mt : Motor) (p : Place)
  | esp_timer_get_time
  | vTaskDelay (ms : Nat)
  | set_tof_sensor_enable (enable : Bool)
  | reset_tof_ring_buffer
  | get_tof_ring_count
  | get_tof_distance
deriving DecidableEq

/-- What a step returns to the scenario. -/
abbrev Act.Answer : Act → Type
  | .read .. => Bool
  | .get_pt_status _ => PtWord
  | .get_motor_run .. => Bool
  | .esp_timer_get_time => Int
  | .get_tof_ring_count => Nat
  | .get_tof_distance => Int
  | _ => Unit

def World.enqueue (w : World) (mt : Motor) (msg : Message) : World :=
  { w with queue := Function.update w.queue mt (w.queue mt ++ [msg]) }

def World.setFlag (w : World) (f : Flag) (v : Bool) : World :=
  { w with flag := Function.update w.flag f v }

/-- The effect of one atomic step. A send appends to the queue of the motor: no
sender uses the result of `xQueueSend`, and the motor tasks drain their queues. -/
def Act.perform : (a : Act) → World → a.Answer × World
  | .send mt msg, w => ((), w.enqueue mt msg)
  | .send_led_cmd_msg _, w => ((), w)
  | .read f _, w => (w.flag f, w)
  | .write f v, w => ((), w.setFlag f v)
  | .get_pt_status _, w => (w.pt_value, w)
  | .get_motor_run mt _, w => (w.running mt, w)
  | .esp_timer_get_time, w => (w.clock, w)
  | .vTaskDelay _, w => ((), w)
  | .set_tof_sensor_enable enable, w => ((), { w with tof_enable_f := enable })
  | .reset_tof_ring_buffer, w => ((), { w with tof := sensor.reset_tof_ring_buffer })
  | .get_tof_ring_count, w => (sensor.get_tof_ring_count w.tof, w)
  | .get_tof_distance, w => (sensor.get_tof_distance w.tof, w)

/-- A flag that is written can be read. -/
@[simp] theorem World.setFlag_flag_self (w : World) (f : Flag) (v : Bool) : (w.setFlag f v).flag f = v := by
  simp [World.setFlag]

/-- The other flags stay. -/
@[simp] theorem World.setFlag_flag_of_ne (w : World) {f g : Flag} (v : Bool) (h : g ≠ f) :
    (w.setFlag f v).flag g = w.flag g := by
  simp [World.setFlag, h]

/-- Only a write of a flag changes it. -/
theorem Act.perform_flag {a : Act} {w : World} {f : Flag} (h : ∀ v, a ≠ .write f v) :
    (a.perform w).2.flag f = w.flag f := by
  cases a with
  | write g v =>
    have hne : f ≠ g := fun hfg => h v (hfg ▸ rfl)
    exact w.setFlag_flag_of_ne v hne
  | _ => rfl

/-- A function of `motor.c` as a program over the atomic steps. -/
abbrev Code (α : Type) : Type 1 := Program Act Act.Answer α

/-- The function that takes just the step `a`. -/
abbrev Act.code (a : Act) : Code a.Answer := .perform a

@[simp] def read (f : Flag) (p : Place) : Code Bool := (Act.read f p).code

@[simp] def write (f : Flag) (v : Bool) : Code Unit := (Act.write f v).code

@[simp] def get_pt_status (p : Place) : Code PtWord := (Act.get_pt_status p).code

@[simp] def get_motor_run (mt : Motor) (p : Place) : Code Bool := (Act.get_motor_run mt p).code

@[simp] def esp_timer_get_time : Code Int := Act.esp_timer_get_time.code

@[simp] def vTaskDelay (ms : Nat) : Code Unit := (Act.vTaskDelay ms).code

@[simp] def set_tof_sensor_enable (enable : Bool) : Code Unit := (Act.set_tof_sensor_enable enable).code

@[simp] def reset_tof_ring_buffer : Code Unit := Act.reset_tof_ring_buffer.code

@[simp] def get_tof_ring_count : Code Nat := Act.get_tof_ring_count.code

@[simp] def get_tof_distance : Code Int := Act.get_tof_distance.code

@[simp] def send_led_cmd_msg (cmd : LedCmd) : Code Unit := (Act.send_led_cmd_msg cmd).code

/-- The common shape of the senders: one queue, one message. -/
@[simp] def send_motor_msg (mt : Motor) (cmd : MotorCmd) (angle : Nat) (dir : Direction) (timeout : Nat) :
    Code Unit :=
  (Act.send mt { cmd, angle, direction := dir, timeout, speed := none, cal := none }).code

@[simp] def send_plate_msg (cmd : MotorCmd) (angle : Nat) (dir : Direction) (timeout : Nat) : Code Unit :=
  send_motor_msg .PLATE_MOTOR cmd angle dir timeout

@[simp] def send_scpinout_msg (cmd : MotorCmd) (angle : Nat) (dir : Direction) (timeout : Nat) : Code Unit :=
  send_motor_msg .SCPINOUT_MOTOR cmd angle dir timeout

/-- The definition takes a timeout last; `main.h` declares the parameter as a speed. -/
@[simp] def send_main_motor_msg (cmd : MotorCmd) (angle : Nat) (dir : Direction)
  (timeout : Nat) : Code Unit :=
  send_motor_msg .MAIN_COVER_MOTOR cmd angle dir timeout

@[simp] def send_waste_motor_msg (cmd : MotorCmd) (angle : Nat) (dir : Direction)
  (timeout : Nat) : Code Unit :=
  send_motor_msg .WASTE_COVER_MOTOR cmd angle dir timeout

@[simp] def send_scpspin_motor_msg (cmd : MotorCmd) (angle : Nat) (dir : Direction)
  (timeout : Nat) : Code Unit :=
  send_motor_msg .SCPSPIN_MOTOR cmd angle dir timeout

@[simp] def send_scpspin_motor_msg_ex (cmd : MotorCmd) (angle : Nat) (dir : Direction) (speed timeout : Nat)
    (cal : Bool) : Code Unit :=
  (Act.send .SCPSPIN_MOTOR { cmd, angle, direction := dir, timeout, speed := some speed, cal := some cal }).code

end catbox.motor
