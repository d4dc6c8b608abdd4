import CatLitterBox.Firmware.Tasks
import CatLitterBox.LoadCell.Fsm
import CatLitterBox.Ui.Proximity

open catbox.sensor catbox.motor catbox.loadcell catbox.ui program

namespace catbox.firmware

/-- Where `ui_task` is. -/
inductive UiPc where
  | receive
  | checking (cmd : UiCmd) (rest : List (RunFlag × Bool))
  | create (cmd : UiCmd)
  | mark

/-- Where `proximity_task` is. It runs the recovery at boot itself. -/
inductive ProximityPc where
  | turn
  | checking (rest : List RunFlag)
  | act (operating : Bool)
  | boot_check
  | recovering (code : Code Int)

/-- Where the key task is: polling, about to send a command, or in `toggle_clean_pause`. -/
inductive KeyPc where
  | poll
  | sending (cmd : UiCmd)
  | toggling (code : Code Unit)

/-- Where the console task is. -/
inductive UartPc where
  | read
  | test_running
  | creating (kind : TaskKind)
  | executing (code : Code Unit)

/-- The tasks that start or run scenarios, with what they share. -/
structure System where
  world : World
  fsm : CatFsm
  ui_cmd_msg : List UiCmd
  flag : RunFlag → Bool
  cfg : ProximityConfig
  proximity : Proximity
  ui_pc : UiPc
  proximity_pc : ProximityPc
  key_pc : KeyPc
  uart_pc : UartPc
  tasks : List Task

/-- After boot: `diag` for a boot with the CLEAN key held, `pairing` for one after a
factory reset. -/
def System.boot (word : PtWord) (cfg : ProximityConfig) (diag pairing : Bool) : System where
  world := .boot word
  fsm := .init
  ui_cmd_msg := if pairing && !diag then [.UI_PAIRING_CMD] else []
  flag f := f = .diag_status_f && diag
  cfg := cfg
  proximity := .init
  ui_pc := .receive
  proximity_pc := .turn
  key_pc := .poll
  uart_pc := .read
  tasks := []

def System.setFlag (s : System) (f : RunFlag) (v : Bool) : System :=
  { s with flag := Function.update s.flag f v }

/-- `xTaskCreate`. -/
def System.xTaskCreate (s : System) (kind : TaskKind) : System :=
  { s with tasks := s.tasks ++ [⟨kind, .created⟩] }

/-- `send_ui_cmd_msg`: the queue holds ten messages, and a sender that waits in vain drops its own. -/
def System.send_ui_cmd_msg (s : System) (cmd : UiCmd) : System :=
  if s.ui_cmd_msg.length < 10 then { s with ui_cmd_msg := s.ui_cmd_msg ++ [cmd] } else s

/-- One step of `ui_task`. -/
def System.ui_step (s : System) : System :=
  match s.ui_pc with
  | .receive =>
    match s.ui_cmd_msg with
    | [] => s
    | cmd :: queue => { s with ui_cmd_msg := queue, ui_pc := .checking cmd cmd.guards }
  | .checking cmd [] => { s with ui_pc := .create cmd }
  | .checking cmd ((f, v) :: rest) =>
      { s with ui_pc := if s.flag f = v then .checking cmd rest else .receive }
  | .create cmd =>
    { s.xTaskCreate cmd.task with ui_pc := if cmd = .UI_MANAGE_START_CMD then .mark else .receive }
  | .mark => { s.setFlag .ui_manage_f true with ui_pc := .receive }

/-- The `switch` of `proximity_task`, after `check_operating` has answered. -/
def System.proximity_act (s : System) (operating : Bool) (weight weight_again : ℚ) : System :=
  let (proximity, effects) := proximity_turn s.cfg s.proximity { operating, weight, weight_again }
  let t : System :=
    { s with
      proximity
      proximity_pc := if .print_boot_photo_sensor_status ∈ effects then .boot_check else .turn }
  if .create_ui_clean_task ∈ effects then t.xTaskCreate .ui_clean_task else t

/-- The recovery of `check_boot_origin_recovery`. -/
def boot_recovery : Code Int := do
  clear_emergency_stop
  do_clean_resume_recovery

/-- One step of `proximity_task`, with what `get_weight` returns in it. -/
def System.proximity_step (s : System) (weight weight_again : ℚ) : System :=
  match s.proximity_pc with
  | .turn => { s with proximity_pc := .checking check_operating }
  | .checking [] => { s with proximity_pc := .act false }
  | .checking (f :: rest) => { s with proximity_pc := if s.flag f then .act true else .checking rest }
  | .act operating => s.proximity_act operating weight weight_again
  | .boot_check =>
    { s with proximity_pc := if boot_unaligned s.world.pt_value then .recovering boot_recovery else .turn }
  | .recovering code =>
    match code.result with
    | some _ => { s with proximity_pc := .turn }
    | none =>
      { s with
        proximity_pc := .recovering (code.advance Act.perform s.world).1
        world := (code.advance Act.perform s.world).2 }

/-- The call that the sensor task makes with a weight. -/
def System.call (s : System) (weight : ℚ) (now : Int) : Call where
  current_weight := weight
  now := now
  clean_running := s.world.flag .clean_running_flag
  clean_pause_flag := s.world.flag .clean_pause_flag
  clean_resume_recovery_requested := s.world.flag .clean_resume_recovery_requested

/-- A weight arrives at the load-cell FSM. -/
def System.loadcell_step (s : System) (weight : ℚ) (now : Int) : System :=
  let (fsm, sent) := process_cat_detection_fsm s.fsm (s.call weight now)
  if sent then { s with fsm }.send_ui_cmd_msg .UI_CLEAN_CMD else { s with fsm }

/-- The key events: a click of one of the keys, or one held for its time. -/
inductive KeyEvent where
  | clean_click
  | change_click
  | set_click
  | change_3s
  | set_5s
  | clean_change_10s
deriving DecidableEq

/-- What the key task does on an event, once the system is ready. -/
def System.key_event (s : System) : KeyEvent → KeyPc
  | .clean_click =>
    if s.flag .diag_status_f then .poll
    else if s.world.flag .clean_running_flag then .toggling toggle_clean_pause
    else .sending .UI_CLEAN_CMD
  | .change_click => if s.flag .diag_status_f then .poll else .sending .UI_MANAGE_FINISH_CMD
  | .set_click => .sending .UI_TARE_ZERO_CMD
  | .change_3s => .sending .UI_MANAGE_START_CMD
  | .set_5s => .sending .UI_PAIRING_CMD
  | .clean_change_10s => .sending .UI_FACTORY_CMD

/-- One step of the key task; the event counts only while it polls. -/
def System.key_step (s : System) (e : KeyEvent) : System :=
  match s.key_pc with
  | .poll => if s.proximity.g_is_system_ready then { s with key_pc := s.key_event e } else s
  | .sending cmd => { s.send_ui_cmd_msg cmd with key_pc := .poll }
  | .toggling code =>
    match code.result with
    | some _ => { s with key_pc := .poll }
    | none =>
      { s with
        key_pc := .toggling (code.advance Act.perform s.world).1
        world := (code.advance Act.perform s.world).2 }

/-- The console commands: those that start or stop scenarios, the other letters, which
send a motor at most one message, and the two-letter motor commands. -/
inductive Command where
  | J
  | S
  | W
  | Z
  | letter (send : Option (Motor × Message))
  | direct (mt : Motor) (msg : Message)

/-- Every letter but Z clears the emergency stop. -/
def System.clear_stop (s : System) : System := { s with world := s.world.setFlag .emergency_stop_flag false }

def System.command (s : System) : Command → System
  | .J => { s.clear_stop with uart_pc := .creating .demo_synario }
  | .S => { s.clear_stop with uart_pc := .creating .motor_calib_task }
  | .W => { s.clear_stop with uart_pc := .test_running }
  | .Z => { s with uart_pc := .executing set_emergency_stop }
  | .letter none => s.clear_stop
  | .letter (some (mt, msg)) => { s.clear_stop with world := s.clear_stop.world.enqueue mt msg }
  | .direct mt msg => { s with world := s.world.enqueue mt msg }

/-- One step of the console task; the command counts only while it reads. -/
def System.uart_step (s : System) (c : Command) : System :=
  match s.uart_pc with
  | .read => s.command c
  | .test_running =>
    { s with
      uart_pc := if s.world.flag .clean_running_flag then .executing toggle_clean_pause
        else .creating .recovery_scenario_task }
  | .creating kind => { s.xTaskCreate kind with uart_pc := .read }
  | .executing code =>
    match code.result with
    | some _ => { s with uart_pc := .read }
    | none =>
      { s with
        uart_pc := .executing (code.advance Act.perform s.world).1
        world := (code.advance Act.perform s.world).2 }

/-- The flag of a task, set or cleared by it. -/
def System.setRunFlag (s : System) (kind : TaskKind) (v : Bool) : System :=
  match kind.run_flag with
  | some f => s.setFlag f v
  | none => s

def System.setPhase (s : System) (i : Nat) (kind : TaskKind) (phase : Phase) : System :=
  { s with tasks := s.tasks.set i ⟨kind, phase⟩ }

/-- One step of the task number `i`. The first one sets the run flag and calls the scenario. -/
def System.task_step (s : System) (i : Nat) : System :=
  match s.tasks[i]? with
  | none => s
  | some ⟨kind, .created⟩ => (s.setRunFlag kind true).setPhase i kind (.running kind.code)
  | some ⟨kind, .running code⟩ =>
    match code.result with
    | some _ => s.setPhase i kind .returned
    | none =>
      { s.setPhase i kind (.running (code.advance Act.perform s.world).1) with
        world := (code.advance Act.perform s.world).2 }
  | some ⟨kind, .returned⟩ =>
    (if kind = .ui_manage_finish_task then s.setFlag .ui_manage_f false else s).setPhase i kind .clearing
  | some ⟨kind, .clearing⟩ => (s.setRunFlag kind false).setPhase i kind .deleted
  | some ⟨_, .deleted⟩ => s

/-- A step of one of the tasks, or a change of the sensors, the clock or a motor task. -/
inductive Move where
  | ui
  | proximity (weight weight_again : ℚ)
  | loadcell (weight : ℚ) (now : Int)
  | key (e : KeyEvent)
  | uart (c : Command)
  | task (i : Nat)
  | sense (e : Sense)

def System.step (s : System) : Move → System
  | .ui => s.ui_step
  | .proximity weight weight_again => s.proximity_step weight weight_again
  | .loadcell weight now => s.loadcell_step weight now
  | .key e => s.key_step e
  | .uart c => s.uart_step c
  | .task i => s.task_step i
  | .sense e => { s with world := e.apply s.world }

/-- The system after the moves. -/
def System.run (s : System) (moves : List Move) : System := moves.foldl System.step s

/-- The move is the step in which a task calls `do_clean`; the write of its run flag just before the call is part
of the same step. -/
def System.starts_clean (s : System) : Move → Prop
  | .task i => ∃ kind : TaskKind, s.tasks[i]? = some ⟨kind, .created⟩ ∧ kind.scenario = some .do_clean
  | _ => False

end catbox.firmware
