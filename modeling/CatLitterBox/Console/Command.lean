import CatLitterBox.Config.ResetReason
import CatLitterBox.Motor.Wait
import CatLitterBox.Text.Scan

open catbox.config catbox.motor program text

namespace catbox.console

/-- `LOADCELL_CMD_T`. -/
inductive LoadcellCmd where
  | LOADCELL_TARE_CMD
  | LOADCELL_SAVE_STATE1_CMD
  | LOADCELL_SAVE_STATE2_CMD
  | LOADCELL_SAVE_STATE3_CMD
deriving DecidableEq, Repr

/-- The tasks that `Process_Command` creates. -/
inductive CommandTask where
  | demo_synario
  | loadcell_tare_task
  | motor_calib_task
  | recovery_scenario_task
  | scpspin_test_task
deriving DecidableEq, Repr

/-- What a command does to the rest of the firmware. -/
inductive Effect where
  | motor (a : Act)
  | send_loadcell_msg (cmd : LoadcellCmd)
  | xTaskCreate (task : CommandTask)
  | vTaskDelete (task : CommandTask)
  | system_reset (reason : Reason)

/-- The state that the commands act on: the shared state of the motor tasks, whether
`xScpSpinTestTaskHandle` is set, whether the heap has room for a task, whether
`system_reset` has been called, and the effects so far. -/
structure System where
  world : World
  xScpSpinTestTaskHandle : Bool
  heap : Bool
  restarting : Bool
  effects : List Effect

/-- After boot, with room for tasks. -/
def System.boot : System := ⟨.boot 0, false, true, false, []⟩

/-- Whether a step is an effect: a message always is, a flag that has its value already is not. -/
def effective (w : World) : Act → Bool
  | .send .. | .send_led_cmd_msg _ => true
  | .write f v => w.flag f != v
  | _ => false

def System.add (s : System) (e : Effect) : System := { s with effects := s.effects ++ [e] }

def System.perform (a : Act) (s : System) : a.Answer × System :=
  let s' := { s with world := (a.perform s.world).2 }
  ((a.perform s.world).1, if effective s.world a then s'.add (.motor a) else s')

/-- Runs code of `motor.c` to its end. -/
def System.run {α : Type} (s : System) (code : Code α) : System := code.finish System.perform s

/-- The logs of a failed creation are left out. Only the test task's handle is kept. -/
def System.xTaskCreate (s : System) (task : CommandTask) : System :=
  let s := s.add (.xTaskCreate task)
  if task = .scpspin_test_task then { s with xScpSpinTestTaskHandle := s.heap } else s

/-- `vTaskDelete(xScpSpinTestTaskHandle)`, where it is set. -/
def System.delete_test_task (s : System) : System :=
  if s.xScpSpinTestTaskHandle then
    { s.add (.vTaskDelete .scpspin_test_task) with xScpSpinTestTaskHandle := false }
  else s

/-- It does not return. -/
def System.system_reset (s : System) (reason : Reason) : System :=
  { s.add (.system_reset reason) with restarting := true }

/-- The character that each `strncmp` of `Process_Command` compares with its letter. -/
def initial (cmd : Bytes) : Char := .ofNat (cmd.head?.getD 0).toNat

/-- What `Process_Command` does before it looks for the command. -/
def prepare (c : Char) (s : System) : System :=
  let s := if c ≠ 'Z' ∧ c ≠ 'z' then s.run clear_emergency_stop else s
  if c ≠ 'X' ∧ c ≠ 'x' then s.delete_test_task else s

/-- The branches of `Process_Command`. The texts that `Y` and `Usage` print are left out. -/
def branch (c : Char) (s : System) : System :=
  match c with
  | 'a' => s.run (send_plate_msg .PLATE_CMD 0 .FORWARD 0)
  | 'b' => s.run (send_plate_msg .PLATE_CMD 0 .REVERSE 0)
  | 'c' => s.run (send_plate_msg .PLATE_CMD 0 .STOP 0)
  | 'd' | 'D' => s.run (send_scpinout_msg .SCP_INOUT_CMD 30 .FORWARD 10000)
  | 'e' => s.run (send_scpinout_msg .SCP_INOUT_CMD 30 .REVERSE 10000)
  | 'f' => s.run (send_scpinout_msg .SCP_INOUT_CMD 0 .STOP 0)
  | 'g' => s.run (send_waste_motor_msg .WASTE_STEP_CMD 1000 .FORWARD 15000)
  | 'h' => s.run (send_waste_motor_msg .WASTE_STEP_CMD 1000 .REVERSE 15000)
  | 'i' => s.run (send_waste_motor_msg .WASTE_STEP_CMD 0 .STOP 0)
  | 'j' => (s.run clear_emergency_stop).xTaskCreate .demo_synario
  | 'k' => s.run (send_scpspin_motor_msg .SCP_SPIN_CMD 120 .FORWARD 15000)
  | 'l' => s.run (send_scpspin_motor_msg .SCP_SPIN_CMD 120 .REVERSE 15000)
  | 'm' => s.run (send_scpspin_motor_msg .SCP_SPIN_CMD 0 .STOP 0)
  | 'n' => s.run (send_main_motor_msg .MAIN_COVER_CMD 0 .FORWARD 10000)
  | 'o' => s.run (send_main_motor_msg .MAIN_COVER_CMD 0 .REVERSE 10000)
  | 'p' => s.run (send_main_motor_msg .MAIN_COVER_CMD 0 .STOP 0)
  | 'q' => s.xTaskCreate .loadcell_tare_task
  | 's' | 'S' => s.xTaskCreate .motor_calib_task
  | 't' => s.add (.send_loadcell_msg .LOADCELL_SAVE_STATE1_CMD)
  | 'u' => s.add (.send_loadcell_msg .LOADCELL_SAVE_STATE2_CMD)
  | 'v' => s.add (.send_loadcell_msg .LOADCELL_SAVE_STATE3_CMD)
  | 'w' | 'W' =>
    let s := s.run clear_emergency_stop
    if s.world.flag .clean_running_flag then s.run toggle_clean_pause
    else s.xTaskCreate .recovery_scenario_task
  | 'x' | 'X' => s.delete_test_task.xTaskCreate .scpspin_test_task
  | 'r' => s.system_reset .REASON_FACTORY_RESTORE
  | 'z' | 'Z' =>
    (s.run set_emergency_stop).run (send_scpspin_motor_msg_ex .SCP_SPIN_CMD 0 .STOP 0 0 false)
  | _ => s

def Process_Command (cmd : Bytes) (s : System) : System :=
  branch (initial cmd) (prepare (initial cmd) s)

/-- The arguments of `sscanf(parse_buf, "%15s %d %d", ...)`, where it assigns at least two. -/
structure Arguments where
  cmd_type : Bytes
  dir_val : Int
  angle_val : Int

def scan_arguments (cmd : Bytes) : Option Arguments :=
  match scan_word 15 cmd with
  | none => none
  | some (cmd_type, rest) =>
    match scan_int rest with
    | none => none
    | some (dir_val, rest) => some ⟨cmd_type, dir_val, ((scan_int rest).map (·.1)).getD 0⟩

def target_dir (dir_val : Int) : Direction :=
  if dir_val = 1 then .FORWARD else if dir_val = 2 then .REVERSE else .STOP

/-- An `int` that is passed as a `uint32_t`. -/
def uint32 (n : Int) : Nat := (BitVec.ofInt 32 n).toNat

/-- The motor commands that `uart_parser` sends itself. -/
def motor_command (args : Arguments) : Option (Code Unit) :=
  let dir := target_dir args.dir_val
  if args.cmd_type = ascii "MP" then some (send_plate_msg .PLATE_CMD 0 dir 0)
  else if args.cmd_type = ascii "MI" then some (send_scpinout_msg .SCP_INOUT_CMD 0 dir 0)
  else if args.cmd_type = ascii "MM" then some (send_main_motor_msg .MAIN_COVER_CMD 0 dir 0)
  else if args.cmd_type = ascii "MW" then some (send_waste_motor_msg .WASTE_COVER_CMD 0 dir 0)
  else if args.cmd_type = ascii "MS" then
    some (send_scpspin_motor_msg .SCP_SPIN_CMD (uint32 args.angle_val) dir 0)
  else none

/-- What `uart_parser` does with the string in `parse_buf`. -/
def execute (cmd : Bytes) (s : System) : System :=
  match scan_arguments cmd with
  | some args =>
    match motor_command args with
    | some code => s.run code
    | none => Process_Command cmd s
  | none => if cmd ≠ [] then Process_Command cmd s else s

/-- The string is a motor command. -/
def direct (cmd : Bytes) : Bool := (scan_arguments cmd).any fun args => (motor_command args).isSome

end catbox.console
