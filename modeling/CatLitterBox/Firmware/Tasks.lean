import CatLitterBox.Motor.Scenario

open catbox.motor program

namespace catbox.firmware

/-- `UI_CMD_T`. -/
inductive UiCmd where
  | UI_CLEAN_CMD
  | UI_MANAGE_FINISH_CMD
  | UI_TARE_ZERO_CMD
  | UI_MANAGE_START_CMD
  | UI_PAIRING_CMD
  | UI_FACTORY_CMD
deriving DecidableEq, Repr

/-- The flags of `ui.c`, and `diag_status_f` of `diag.c`. -/
inductive RunFlag where
  | clean_task_run
  | pairing_task_run
  | factory_task_run
  | tare_task_run
  | manage_finish_task_run
  | manage_start_task_run
  | ui_manage_f
  | diag_status_f
deriving DecidableEq, Repr

/-- The functions that `ui_task`, `proximity_task` and the console start as tasks. -/
inductive TaskKind where
  | ui_clean_task
  | ui_manage_finish_task
  | ui_tarezero_task
  | ui_manage_start_task
  | ui_pairing_task
  | ui_factory_task
  | demo_synario
  | motor_calib_task
  | recovery_scenario_task
deriving DecidableEq, Repr

/-- The task that `ui_task` creates for a command. -/
def UiCmd.task : UiCmd → TaskKind
  | .UI_CLEAN_CMD => .ui_clean_task
  | .UI_MANAGE_FINISH_CMD => .ui_manage_finish_task
  | .UI_TARE_ZERO_CMD => .ui_tarezero_task
  | .UI_MANAGE_START_CMD => .ui_manage_start_task
  | .UI_PAIRING_CMD => .ui_pairing_task
  | .UI_FACTORY_CMD => .ui_factory_task

/-- The scenario a task runs, if it runs one. -/
def TaskKind.scenario : TaskKind → Option Scenario
  | .ui_clean_task | .demo_synario => some .do_clean
  | .ui_manage_finish_task => some .do_manage_finish
  | .ui_manage_start_task => some .do_manage_start
  | .motor_calib_task => some .motor_calibration
  | .recovery_scenario_task => some .do_clean_resume_recovery
  | .ui_tarezero_task | .ui_pairing_task | .ui_factory_task => none

/-- What a task does between setting and clearing its flag. The radio and the flash are
left out of the pairing and the factory reset. -/
def TaskKind.code : TaskKind → Code Int
  | .ui_clean_task | .demo_synario => do_clean
  | .ui_manage_finish_task => do_manage_finish
  | .ui_manage_start_task => do_manage_start
  | .motor_calib_task => motor_calibration
  | .recovery_scenario_task => do_clean_resume_recovery
  | .ui_tarezero_task => do
    vTaskDelay 1000
    return 0
  | .ui_pairing_task => do
    send_led_cmd_msg .LED_PAIRING_CMD
    send_led_cmd_msg .LED_IDLE_CMD
    return 0
  | .ui_factory_task => do
    send_led_cmd_msg .LED_INITOK_CMD
    return 0

/-- The flag a task sets first and clears last. The tasks of the console have none. -/
def TaskKind.run_flag : TaskKind → Option RunFlag
  | .ui_clean_task => some .clean_task_run
  | .ui_manage_finish_task => some .manage_finish_task_run
  | .ui_tarezero_task => some .tare_task_run
  | .ui_manage_start_task => some .manage_start_task_run
  | .ui_pairing_task => some .pairing_task_run
  | .ui_factory_task => some .factory_task_run
  | .demo_synario | .motor_calib_task | .recovery_scenario_task => none

/-- No two kinds of task have one run flag. -/
theorem TaskKind.run_flag_injective {k l : TaskKind} {f : RunFlag} (hk : k.run_flag = some f)
    (hl : l.run_flag = some f) : k = l := by
  cases k with
  | _ => cases l <;> first | rfl | cases hk <;> cases hl

/-- Where a task is: created but not yet run, in its function, back from it, about to
clear its flag, and deleted. -/
inductive Phase where
  | created
  | running (code : Code Int)
  | returned
  | clearing
  | deleted

structure Task where
  kind : TaskKind
  phase : Phase

/-- The flags that `check_run_flag(manage)` reads, one after another, with the value that
lets it go on. -/
def check_run_flag (manage : Bool) : List (RunFlag × Bool) :=
  [(.clean_task_run, false), (.pairing_task_run, false), (.factory_task_run, false), (.tare_task_run, false),
    (.manage_finish_task_run, false), (.manage_start_task_run, false), (.ui_manage_f, manage)]

/-- `check_task_runnable`, and the second look at `ui_manage_f` that `ui_task` takes for
the two manage commands. -/
def UiCmd.guards : UiCmd → List (RunFlag × Bool)
  | .UI_MANAGE_FINISH_CMD => check_run_flag true ++ [(.ui_manage_f, true)]
  | .UI_MANAGE_START_CMD => check_run_flag false ++ [(.ui_manage_f, false)]
  | _ => check_run_flag false

/-- The flags that `check_operating` reads, one after another. -/
def check_operating : List RunFlag :=
  [.clean_task_run, .pairing_task_run, .factory_task_run, .tare_task_run, .manage_finish_task_run,
    .manage_start_task_run, .ui_manage_f, .diag_status_f]

end catbox.firmware
