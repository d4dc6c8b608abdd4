import CatLitterBox.Console.Command

open catbox.motor program text

namespace catbox.console

/-- The commands, by what they do to the stop flag and to the test task. -/
inductive Kind where
  | motor
  | stop
  | test
  | reset
  | other
deriving DecidableEq, Repr

def kind (cmd : Bytes) : Kind :=
  if direct cmd then .motor
  else
    match initial cmd with
    | 'z' | 'Z' => .stop
    | 'x' | 'X' => .test
    | 'r' => .reset
    | _ => .other

/-- The stop flag and the test task, while the device runs. -/
structure Status where
  stop : Bool
  test : Bool
deriving DecidableEq, Repr

/-- Nothing after a reset. -/
def System.status (s : System) : Option Status :=
  if s.restarting then none else some ⟨s.world.flag .emergency_stop_flag, s.xScpSpinTestTaskHandle⟩

/-- The status after a command. -/
def Status.after (status : Status) (heap : Bool) : Kind → Option Status
  | .motor => some status
  | .stop => some ⟨true, false⟩
  | .test => some ⟨false, heap⟩
  | .reset => none
  | .other => some ⟨false, false⟩

/-- What `Process_Command` does for a blank line: it takes back an emergency stop and
deletes the test task. -/
def System.settle (s : System) : System := (s.run clear_emergency_stop).delete_test_task

/-- The next effect after those in `s` is `e`. -/
def Starts (s s' : System) (e : Effect) : Prop := s.effects ++ [e] <+: s'.effects

variable {s : System} {cmd : Bytes}

/-- To clear the emergency stop writes one flag. -/
theorem run_clear : s.run clear_emergency_stop =
    { s with
      world := s.world.setFlag .emergency_stop_flag false
      effects := s.effects ++
        if s.world.flag .emergency_stop_flag then [.motor (.write .emergency_stop_flag false)] else [] } := by
  cases hflag : s.world.flag .emergency_stop_flag with
  | false =>
    simp [System.run, clear_emergency_stop, Program.finish, System.perform, effective, hflag, Act.perform]
  | true =>
    simp [System.run, clear_emergency_stop, Program.finish, System.perform, effective, hflag, Act.perform,
      System.add]

theorem setFlag_of_eq {w : World} {f : Flag} {v : Bool} (h : w.flag f = v) : w.setFlag f v = w := by
  unfold World.setFlag
  rw [← h, Function.update_eq_self]

/-- Where no stop is in force, clearing it changes nothing. -/
theorem run_clear_of_unset (h : s.world.flag .emergency_stop_flag = false) :
    s.run clear_emergency_stop = s := by
  rw [run_clear, setFlag_of_eq h, h]
  simp

theorem run_clear_flag : (s.run clear_emergency_stop).world.flag .emergency_stop_flag = false := by
  rw [run_clear]
  exact World.setFlag_flag_self _ _ _

theorem delete_handle : s.delete_test_task.xScpSpinTestTaskHandle = false := by
  unfold System.delete_test_task
  split_ifs with h
  · rfl
  · simpa using h

theorem delete_world : s.delete_test_task.world = s.world := by
  unfold System.delete_test_task
  split_ifs
  · rfl
  · rfl

theorem delete_of_unset (h : s.xScpSpinTestTaskHandle = false) : s.delete_test_task = s := by
  unfold System.delete_test_task
  rw [if_neg (by simp [h])]

theorem delete_delete : s.delete_test_task.delete_test_task = s.delete_test_task :=
  delete_of_unset delete_handle

/-- A blank line has nothing to do when no stop is set and no test task is there. -/
theorem settle_of_clear (hflag : s.world.flag .emergency_stop_flag = false)
    (hhandle : s.xScpSpinTestTaskHandle = false) : s.settle = s := by
  unfold System.settle
  rw [run_clear_of_unset hflag, delete_of_unset hhandle]

/-- After a blank line no emergency stop is set. -/
theorem settle_flag : s.settle.world.flag .emergency_stop_flag = false := by
  unfold System.settle
  rw [delete_world, run_clear_flag]

/-- A second blank line does nothing. -/
theorem settle_settle : s.settle.settle = s.settle := settle_of_clear settle_flag delete_handle

/-- What no code of `motor.c` changes, and effects that are only added to. -/
structure Keeps (s s' : System) : Prop where
  effects : s.effects <+: s'.effects
  handle : s'.xScpSpinTestTaskHandle = s.xScpSpinTestTaskHandle
  heap : s'.heap = s.heap
  restarting : s'.restarting = s.restarting

theorem run_keeps {α : Type} (code : Code α) : Keeps s (s.run code) := by
  refine Program.finish_of_step (P := Keeps s) ?_ code ⟨List.prefix_refl _, rfl, rfl, rfl⟩
  intro a s' h
  unfold System.perform System.add
  split_ifs
  · exact ⟨h.effects.trans (List.prefix_append _ _), h.handle, h.heap, h.restarting⟩
  · exact ⟨h.effects, h.handle, h.heap, h.restarting⟩

private theorem perform_world (a : Act) : (s.perform a).2.world = (a.perform s.world).2 := by
  unfold System.perform System.add
  split_ifs
  · rfl
  · rfl

/-- The shared state does not depend on the log. -/
theorem run_world {α : Type} (code : Code α) : (s.run code).world = code.finish Act.perform s.world := by
  unfold System.run
  induction code generalizing s with
  | ret _ => rfl
  | act a k ih =>
    unfold Program.finish
    rw [ih, perform_world]
    rfl
  | loop _ _ _ => rfl

/-- A message is one effect. -/
theorem run_send (mt : Motor) (msg : Message) : s.run (Act.send mt msg).code =
    { s with world := s.world.enqueue mt msg, effects := s.effects ++ [.motor (.send mt msg)] } := rfl

theorem run_toggle_flag :
    (s.run toggle_clean_pause).world.flag .emergency_stop_flag = s.world.flag .emergency_stop_flag := by
  rw [run_world]
  unfold toggle_clean_pause pause_all_motors
  cases hpause : s.world.flag .clean_pause_flag with
  | false => simp [Program.finish, Act.perform, hpause, World.setFlag, World.enqueue]
  | true => simp [Program.finish, Act.perform, hpause, World.setFlag]

theorem xTaskCreate_of_ne {task : CommandTask} (h : task ≠ .scpspin_test_task) :
    s.xTaskCreate task = s.add (.xTaskCreate task) := if_neg h

/-- What a branch keeps: the effects before it, and, but for the commands that are about them,
the stop flag and the test task. -/
structure Branch (c : Char) (s s' : System) : Prop where
  effects : s.effects <+: s'.effects
  heap : s'.heap = s.heap
  restarting : c ≠ 'r' → s'.restarting = s.restarting
  flag : c ≠ 'z' → c ≠ 'Z' → s.world.flag .emergency_stop_flag = false →
    s'.world.flag .emergency_stop_flag = false
  handle : c ≠ 'x' → c ≠ 'X' → s'.xScpSpinTestTaskHandle = s.xScpSpinTestTaskHandle

theorem Branch.of_send {c : Char} {mt : Motor} {msg : Message} : Branch c s (s.run (Act.send mt msg).code) := by
  rw [run_send]
  exact ⟨List.prefix_append _ _, rfl, fun _ => rfl, fun _ _ h => h, fun _ _ => rfl⟩

theorem Branch.of_add {c : Char} {e : Effect} : Branch c s (s.add e) :=
  ⟨List.prefix_append _ _, rfl, fun _ => rfl, fun _ _ h => h, fun _ _ => rfl⟩

/-- Code that takes back no stop may run in every branch but the one of the stop. -/
theorem Branch.of_run {c : Char} {s' : System} {α : Type} {code : Code α} (h : Branch c s s')
    (hflag : c ≠ 'z' → c ≠ 'Z' → s'.world.flag .emergency_stop_flag = false →
      (s'.run code).world.flag .emergency_stop_flag = false) : Branch c s (s'.run code) := by
  have hkeeps := run_keeps (s := s') code
  constructor
  · exact h.effects.trans hkeeps.effects
  · exact hkeeps.heap.trans h.heap
  · exact fun hr => hkeeps.restarting.trans (h.restarting hr)
  · exact fun hz hZ hclear => hflag hz hZ (h.flag hz hZ hclear)
  · exact fun hx hX => hkeeps.handle.trans (h.handle hx hX)

/-- A branch that does nothing is within bounds. -/
theorem Branch.refl {c : Char} : Branch c s s :=
  ⟨List.prefix_refl _, rfl, fun _ => rfl, fun _ _ h => h, fun _ _ => rfl⟩

/-- Two parts of a branch make one. -/
theorem Branch.trans {c : Char} {s' s'' : System} (h : Branch c s s')
    (h' : Branch c s' s'') : Branch c s s'' := by
  constructor
  · exact h.effects.trans h'.effects
  · exact h'.heap.trans h.heap
  · exact fun hr => (h'.restarting hr).trans (h.restarting hr)
  · exact fun hz hZ hclear => h'.flag hz hZ (h.flag hz hZ hclear)
  · exact fun hx hX => (h'.handle hx hX).trans (h.handle hx hX)

theorem Branch.of_create {c : Char} {task : CommandTask} (h : task ≠ .scpspin_test_task) :
    Branch c s (s.xTaskCreate task) := by
  rw [xTaskCreate_of_ne h]
  exact .of_add

theorem Branch.of_clear {c : Char} : Branch c s (s.run clear_emergency_stop) :=
  Branch.refl.of_run fun _ _ _ => run_clear_flag

theorem Branch.of_origin {c : Char} :
    Branch c s (if s.world.flag .clean_running_flag then s.run toggle_clean_pause
      else s.xTaskCreate .recovery_scenario_task) := by
  split_ifs
  · exact Branch.refl.of_run fun _ _ h => run_toggle_flag.trans h
  · exact .of_create nofun

theorem delete_effects : s.delete_test_task.effects =
    s.effects ++ if s.xScpSpinTestTaskHandle then [.vTaskDelete .scpspin_test_task] else [] := by
  unfold System.delete_test_task
  split_ifs
  · rfl
  · exact (List.append_nil _).symm

theorem delete_heap : s.delete_test_task.heap = s.heap := by
  unfold System.delete_test_task
  split_ifs
  · rfl
  · rfl

theorem delete_restarting : s.delete_test_task.restarting = s.restarting := by
  unfold System.delete_test_task
  split_ifs
  · rfl
  · rfl

/-- The test task is created anew. -/
theorem create_test : s.xTaskCreate .scpspin_test_task =
    { s with xScpSpinTestTaskHandle := s.heap, effects := s.effects ++ [.xTaskCreate .scpspin_test_task] } :=
    rfl

theorem Branch.of_test {c : Char} (hc : c = 'x' ∨ c = 'X') :
    Branch c s (s.delete_test_task.xTaskCreate .scpspin_test_task) := by
  rw [create_test]
  constructor
  · rw [delete_effects, List.append_assoc]
    exact List.prefix_append _ _
  · exact delete_heap
  · exact fun _ => delete_restarting
  · intro _ _ hclear
    rwa [delete_world]
  · intro hx hX
    obtain h | h := hc
    · exact absurd h hx
    · exact absurd h hX

theorem Branch.of_stop {c : Char} (hc : c = 'z' ∨ c = 'Z') :
    Branch c s ((s.run set_emergency_stop).run
      (send_scpspin_motor_msg_ex .SCP_SPIN_CMD 0 .STOP 0 0 false)) := by
  have hnot : c ≠ 'z' → c ≠ 'Z' → False := by tauto
  exact (Branch.refl.of_run fun hz hZ => (hnot hz hZ).elim).of_run fun hz hZ => (hnot hz hZ).elim

/-- One case for each branch of the source. -/
theorem branch_spec (c : Char) (s : System) : Branch c s (branch c s) := by
  unfold branch
  split
  case h_11 => exact Branch.of_clear.trans (.of_create nofun)
  case h_18 => exact .of_create nofun
  case h_19 => exact .of_create nofun
  case h_20 => exact .of_create nofun
  case h_21 => exact .of_add
  case h_22 => exact .of_add
  case h_23 => exact .of_add
  case h_24 => exact Branch.of_clear.trans .of_origin
  case h_25 => exact Branch.of_clear.trans .of_origin
  case h_26 => exact .of_test (.inl rfl)
  case h_27 => exact .of_test (.inr rfl)
  case h_28 =>
    exact ⟨List.prefix_append _ _, rfl, fun hr => absurd rfl hr, fun _ _ h => h, fun _ _ => rfl⟩
  case h_29 => exact .of_stop (.inl rfl)
  case h_30 => exact .of_stop (.inr rfl)
  case h_31 => exact .refl
  all_goals exact .of_send

theorem kind_of_direct (h : direct cmd = true) : kind cmd = .motor := if_pos h

/-- The letter that a kind of command begins with. -/
theorem kind_cases (h : direct cmd = false) :
    kind cmd = .stop ∧ (initial cmd = 'z' ∨ initial cmd = 'Z') ∨
      kind cmd = .test ∧ (initial cmd = 'x' ∨ initial cmd = 'X') ∨
      kind cmd = .reset ∧ initial cmd = 'r' ∨
      kind cmd = .other ∧ initial cmd ≠ 'z' ∧ initial cmd ≠ 'Z' ∧ initial cmd ≠ 'x' ∧ initial cmd ≠ 'X' ∧
        initial cmd ≠ 'r' := by
  unfold kind
  rw [if_neg (by simp [h])]
  generalize initial cmd = c
  split
  · simp
  · simp
  · simp
  · simp
  · simp
  · rename_i hz hZ hx hX hr
    exact .inr (.inr (.inr ⟨rfl, hz, hZ, hx, hX, hr⟩))

/-- A motor command is one message. -/
theorem execute_direct (h : direct cmd = true) :
    ∃ mt msg, ∀ s, execute cmd s = s.run (Act.send mt msg).code := by
  unfold direct at h
  unfold execute
  cases hargs : scan_arguments cmd with
  | none => simp [hargs] at h
  | some args =>
    rw [hargs, Option.any_some] at h
    unfold motor_command at h ⊢
    simp only
    split_ifs at h ⊢
    · exact ⟨_, _, fun _ => rfl⟩
    · exact ⟨_, _, fun _ => rfl⟩
    · exact ⟨_, _, fun _ => rfl⟩
    · exact ⟨_, _, fun _ => rfl⟩
    · exact ⟨_, _, fun _ => rfl⟩
    · cases h

/-- Any other string is a command for `Process_Command`. -/
theorem execute_of_not_direct (h : direct cmd = false) (hne : cmd ≠ []) :
    execute cmd s = Process_Command cmd s := by
  unfold direct at h
  unfold execute
  cases hargs : scan_arguments cmd with
  | none => exact if_pos hne
  | some args =>
    rw [hargs, Option.any_some] at h
    cases hcode : motor_command args with
    | none => simp only [hcode]
    | some code => simp [hcode] at h

/-- An empty command does nothing. -/
theorem execute_nil : execute [] s = s := rfl

theorem prepare_other {c : Char} (hz : c ≠ 'z') (hZ : c ≠ 'Z') (hx : c ≠ 'x') (hX : c ≠ 'X') :
    prepare c s = s.settle := by
  simp [prepare, System.settle, hz, hZ, hx, hX]

theorem prepare_stop {c : Char} (hc : c = 'z' ∨ c = 'Z') : prepare c s = s.delete_test_task := by
  obtain rfl | rfl := hc
  · rfl
  · rfl

theorem prepare_test {c : Char} (hc : c = 'x' ∨ c = 'X') : prepare c s = s.run clear_emergency_stop := by
  obtain rfl | rfl := hc
  · rfl
  · rfl

private theorem branch_test {c : Char} (hc : c = 'x' ∨ c = 'X') :
    branch c s = s.delete_test_task.xTaskCreate .scpspin_test_task := by
  obtain rfl | rfl := hc
  · rfl
  · rfl

private theorem branch_stop {c : Char} (hc : c = 'z' ∨ c = 'Z') : branch c s =
    (s.run set_emergency_stop).run (send_scpspin_motor_msg_ex .SCP_SPIN_CMD 0 .STOP 0 0 false) := by
  obtain rfl | rfl := hc
  · rfl
  · rfl

/-- The test of the spin motor begins as a blank line does. -/
theorem process_test (hc : initial cmd = 'x' ∨ initial cmd = 'X') :
    Process_Command cmd s = s.settle.xTaskCreate .scpspin_test_task := by
  unfold Process_Command
  rw [prepare_test hc, branch_test hc]
  rfl

theorem process_stop (hc : initial cmd = 'z' ∨ initial cmd = 'Z') : Process_Command cmd s =
    (s.delete_test_task.run set_emergency_stop).run
      (send_scpspin_motor_msg_ex .SCP_SPIN_CMD 0 .STOP 0 0 false) := by
  unfold Process_Command
  rw [prepare_stop hc, branch_stop hc]

/-- Every other command begins as a blank line does, and then takes its branch. -/
theorem process_other (hz : initial cmd ≠ 'z') (hZ : initial cmd ≠ 'Z') (hx : initial cmd ≠ 'x')
    (hX : initial cmd ≠ 'X') : Process_Command cmd s = branch (initial cmd) s.settle := by
  unfold Process_Command
  rw [prepare_other hz hZ hx hX]

theorem settle_heap : s.settle.heap = s.heap := by
  unfold System.settle
  rw [delete_heap, run_clear]

/-- A blank line restarts nothing. -/
theorem settle_restarting : s.settle.restarting = s.restarting := by
  unfold System.settle
  rw [delete_restarting, run_clear]

/-- The effects of a blank line: the stop flag is cleared if it was set, and the test task is
deleted if it was there. -/
theorem settle_effects : s.settle.effects =
    s.effects ++ (if s.world.flag .emergency_stop_flag then
      [.motor (.write .emergency_stop_flag false)] else []) ++
      if s.xScpSpinTestTaskHandle then [.vTaskDelete .scpspin_test_task] else [] := by
  unfold System.settle
  rw [delete_effects, run_clear]

/-- How `Process_Command` goes on for each kind. -/
theorem process_cases (h : direct cmd = false) :
    kind cmd = .stop ∧ (∀ s, Process_Command cmd s = (s.delete_test_task.run set_emergency_stop).run
        (send_scpspin_motor_msg_ex .SCP_SPIN_CMD 0 .STOP 0 0 false)) ∨
      kind cmd = .test ∧ (∀ s, Process_Command cmd s = s.settle.xTaskCreate .scpspin_test_task) ∨
      kind cmd = .reset ∧ (∀ s, Process_Command cmd s = s.settle.system_reset .REASON_FACTORY_RESTORE) ∨
      kind cmd = .other ∧ (∀ s, Process_Command cmd s = branch (initial cmd) s.settle) ∧
        initial cmd ≠ 'z' ∧ initial cmd ≠ 'Z' ∧ initial cmd ≠ 'x' ∧ initial cmd ≠ 'X' ∧ initial cmd ≠ 'r' := by
  obtain ⟨hkind, hc⟩ | ⟨hkind, hc⟩ | ⟨hkind, hc⟩ | ⟨hkind, hz, hZ, hx, hX, hr⟩ := kind_cases h
  · exact .inl ⟨hkind, fun s => process_stop hc⟩
  · exact .inr (.inl ⟨hkind, fun s => process_test hc⟩)
  · refine .inr (.inr (.inl ⟨hkind, fun s => ?_⟩))
    rw [process_other (by simp [hc]) (by simp [hc]) (by simp [hc]) (by simp [hc]), hc]
    rfl
  · exact .inr (.inr (.inr ⟨hkind, fun s => process_other hz hZ hx hX, hz, hZ, hx, hX, hr⟩))

/-- A command that is no motor command begins as a blank line does, but for a stop. -/
theorem execute_settle (hne : cmd ≠ []) (hmotor : kind cmd ≠ .motor)
    (hstop : kind cmd = .stop → s.world.flag .emergency_stop_flag = false) :
    execute cmd s.settle = execute cmd s := by
  have hdirect : direct cmd = false := by
    rw [← Bool.not_eq_true]
    exact mt kind_of_direct hmotor
  rw [execute_of_not_direct hdirect hne, execute_of_not_direct hdirect hne]
  obtain ⟨hkind, hprocess⟩ | ⟨-, hprocess⟩ | ⟨-, hprocess⟩ | ⟨-, hprocess, -⟩ := process_cases hdirect
  · have hsettle : s.settle = s.delete_test_task := by
      unfold System.settle
      rw [run_clear_of_unset (hstop hkind)]
    rw [hprocess, hprocess, hsettle, delete_delete]
  · rw [hprocess, hprocess, settle_settle]
  · rw [hprocess, hprocess, settle_settle]
  · rw [hprocess, hprocess, settle_settle]

theorem stop_flag : ((s.run set_emergency_stop).run
    (send_scpspin_motor_msg_ex .SCP_SPIN_CMD 0 .STOP 0 0 false)).world.flag .emergency_stop_flag = true := by
  rw [run_world, run_world]
  simp [set_emergency_stop, Program.finish, Act.perform, World.setFlag, World.enqueue]

/-- The effects of a settled system begin with those before. -/
theorem settle_prefix : s.effects <+: s.settle.effects := by
  rw [settle_effects, List.append_assoc]
  exact List.prefix_append _ _

private theorem delete_prefix : s.effects <+: s.delete_test_task.effects := by
  rw [delete_effects]
  exact List.prefix_append _ _

/-- What a command does to the status; the effects before it stay. -/
theorem execute_status (hne : cmd ≠ []) (hrun : s.restarting = false) :
    (execute cmd s).status =
        Status.after ⟨s.world.flag .emergency_stop_flag, s.xScpSpinTestTaskHandle⟩ s.heap (kind cmd) ∧
      (execute cmd s).heap = s.heap ∧ s.effects <+: (execute cmd s).effects := by
  cases hdirect : direct cmd with
  | true =>
    obtain ⟨mt, msg, hsend⟩ := execute_direct hdirect
    rw [hsend, run_send, kind_of_direct hdirect]
    refine ⟨?_, rfl, List.prefix_append _ _⟩
    simp [System.status, hrun, Status.after, World.enqueue]
  | false =>
    rw [execute_of_not_direct hdirect hne]
    obtain ⟨hkind, hprocess⟩ | ⟨hkind, hprocess⟩ | ⟨hkind, hprocess⟩ |
      ⟨hkind, hprocess, hz, hZ, hx, hX, hr⟩ := process_cases hdirect
    · have hstop := run_keeps (s := s.delete_test_task) set_emergency_stop
      have hsend := run_keeps (s := s.delete_test_task.run set_emergency_stop)
        (send_scpspin_motor_msg_ex .SCP_SPIN_CMD 0 .STOP 0 0 false)
      rw [hprocess, hkind]
      refine ⟨?_, ?_, ?_⟩
      · unfold System.status
        rw [stop_flag, hsend.restarting, hstop.restarting, delete_restarting, hrun, hsend.handle, hstop.handle,
          delete_handle]
        rfl
      · rw [hsend.heap, hstop.heap, delete_heap]
      · exact delete_prefix.trans (hstop.effects.trans hsend.effects)
    · rw [hprocess, hkind, create_test]
      refine ⟨?_, settle_heap, settle_prefix.trans (List.prefix_append _ _)⟩
      unfold System.status
      simp [settle_restarting, hrun, settle_flag, settle_heap, Status.after]
    · rw [hprocess, hkind]
      exact ⟨rfl, settle_heap, settle_prefix.trans (List.prefix_append _ _)⟩
    · have hbranch := branch_spec (initial cmd) s.settle
      rw [hprocess, hkind]
      refine ⟨?_, hbranch.heap.trans settle_heap, settle_prefix.trans hbranch.effects⟩
      unfold System.status
      rw [hbranch.restarting hr, settle_restarting, hrun, hbranch.flag hz hZ settle_flag,
        hbranch.handle hx hX, show s.settle.xScpSpinTestTaskHandle = false from delete_handle]
      rfl

/-- Two continuations of one run begin with the same effect. -/
theorem Starts.unique {s' s'' : System} {e e' : Effect} {log : List Effect} (h : Starts s s' e)
    (h' : Starts s s'' e') (hlog : s'.effects <+: log) (hlog' : s''.effects <+: log) : e = e' := by
  have hsame := List.prefix_of_prefix_length_le (h.trans hlog) (h'.trans hlog') (by simp)
  have heq := hsame.eq_of_length (by simp)
  simpa using heq

/-- A blank line begins with taking back the stop, if there is one. -/
theorem settle_starts_clear (h : s.world.flag .emergency_stop_flag = true) :
    Starts s s.settle (.motor (.write .emergency_stop_flag false)) := by
  unfold Starts
  rw [settle_effects, h, if_pos rfl]
  exact List.prefix_append _ _

/-- With no stop to clear, the deletion of the test task comes first. -/
theorem settle_starts_delete (h : s.world.flag .emergency_stop_flag = false)
    (hhandle : s.xScpSpinTestTaskHandle = true) : Starts s s.settle (.vTaskDelete .scpspin_test_task) := by
  unfold Starts
  rw [settle_effects, h, hhandle]
  simp

/-- A motor command begins with its message. -/
theorem motor_starts (h : kind cmd = .motor) :
    ∃ mt msg, ∀ s, Starts s (execute cmd s) (.motor (.send mt msg)) := by
  cases hdirect : direct cmd with
  | true =>
    obtain ⟨mt, msg, hsend⟩ := execute_direct hdirect
    refine ⟨mt, msg, fun s => ?_⟩
    rw [hsend]
    exact List.prefix_refl _
  | false =>
    obtain ⟨hkind, -⟩ | ⟨hkind, -⟩ | ⟨hkind, -⟩ | ⟨hkind, -⟩ := process_cases hdirect
    all_goals
      rw [h] at hkind
      cases hkind

private theorem stop_starts_send (h : s.world.flag .emergency_stop_flag = true) :
    Starts s (s.run set_emergency_stop)
      (.motor (.send .PLATE_MOTOR ⟨.PLATE_CMD, 0, .STOP, 0, none, none⟩)) := by
  unfold Starts System.run set_emergency_stop
  simp [Program.finish, System.perform, effective, h, System.add]

/-- A stop while a stop is in force does not begin with taking it back. -/
theorem stop_starts (h : kind cmd = .stop) (hne : cmd ≠ []) (hflag : s.world.flag .emergency_stop_flag = true) :
    ∃ e, Starts s (execute cmd s) e ∧ e ≠ .motor (.write .emergency_stop_flag false) := by
  have hdirect : direct cmd = false := by
    rw [← Bool.not_eq_true]
    intro hdirect
    rw [kind_of_direct hdirect] at h
    cases h
  rw [execute_of_not_direct hdirect hne]
  obtain ⟨-, hprocess⟩ | ⟨hkind, -⟩ | ⟨hkind, -⟩ | ⟨hkind, -⟩ := process_cases hdirect
  · have hstop := (run_keeps (s := s.delete_test_task) set_emergency_stop).effects.trans
      (run_keeps (send_scpspin_motor_msg_ex .SCP_SPIN_CMD 0 .STOP 0 0 false)).effects
    rw [hprocess]
    cases hhandle : s.xScpSpinTestTaskHandle with
    | true =>
      refine ⟨.vTaskDelete .scpspin_test_task, ?_, nofun⟩
      rw [delete_effects, hhandle] at hstop
      exact hstop
    | false =>
      -- the flag is set already, so the first effect is the first message
      refine ⟨_, (stop_starts_send hflag).trans ?_, nofun⟩
      rw [delete_of_unset hhandle]
      exact (run_keeps _).effects
  all_goals
    rw [h] at hkind
    cases hkind

end catbox.console
