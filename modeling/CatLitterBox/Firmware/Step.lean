import CatLitterBox.Firmware.System
import CatLitterBox.Ui.ClumpingWait

open catbox.motor catbox.loadcell catbox.ui program

namespace catbox.ui

/-- The turns of `proximity_task` that start a clean, unless `check_operating` stops them. -/
def Proximity.hardened (s : Proximity) : Prop := s.mode = .PROXI_MODE_HARDEN ∧ 20 ≤ s.cat_enter_cnt

instance (s : Proximity) : Decidable s.hardened := inferInstanceAs (Decidable (_ ∧ _))

theorem proximity_turn_creates_iff {cfg : ProximityConfig} {s : Proximity} {t : Tick} :
    .create_ui_clean_task ∈ (proximity_turn cfg s t).2 ↔ t.operating = false ∧ s.hardened := by
  constructor
  · intro hcreate
    cases proximity_turn_step cfg s t with
    | start hoperating hmode hge => exact ⟨hoperating, hmode, hge⟩
    | rest _ heffect => exact absurd hcreate heffect
    | seen _ _ _ heffect => exact absurd hcreate heffect
    | unseen _ _ _ _ heffect => exact absurd hcreate heffect
    | escape _ _ _ heffect => exact absurd hcreate heffect
    | settle _ _ _ heffect => exact absurd hcreate heffect
    | harden _ _ _ _ heffect => exact absurd hcreate heffect
  · rintro ⟨hoperating, hmode, hge⟩
    unfold proximity_turn proximity_harden
    rw [if_neg (by rw [hoperating]; simp)]
    simp only [hmode]
    rw [if_pos (by omega)]
    simp

end catbox.ui

namespace catbox.firmware

/-- The task that a move creates. -/
def System.creates (s : System) : Move → Option TaskKind
  | .ui =>
    match s.ui_pc with
    | .create cmd => some cmd.task
    | _ => none
  | .proximity _ _ =>
    match s.proximity_pc with
    | .act false => if s.proximity.hardened then some .ui_clean_task else none
    | _ => none
  | .uart _ =>
    match s.uart_pc with
    | .creating kind => some kind
    | _ => none
  | _ => none

/-- The tasks, with the one that a move creates. -/
def System.with_created (s : System) (m : Move) : List Task :=
  s.tasks ++ (s.creates m).toList.map (⟨·, .created⟩)

variable {s : System} {m : Move}

/-- The UI task adds the scenario that it creates, and touches no other. -/
theorem ui_step_tasks : s.ui_step.tasks = s.with_created .ui := by
  unfold System.ui_step System.with_created System.creates
  cases hpc : s.ui_pc with
  | receive =>
    cases hqueue : s.ui_cmd_msg with
    | nil => simp
    | cons cmd queue => simp
  | checking cmd rest =>
    cases rest with
    | nil => simp
    | cons g rest => simp
  | create cmd => rfl
  | mark => simp [System.setFlag]

/-- So does the proximity task. -/
theorem proximity_step_tasks (weight weight_again : ℚ) :
    (s.proximity_step weight weight_again).tasks = s.with_created (.proximity weight weight_again) := by
  unfold System.proximity_step System.with_created System.creates
  cases hpc : s.proximity_pc with
  | turn => simp
  | checking rest =>
    cases rest with
    | nil => simp
    | cons f rest => simp
  | act operating =>
    simp only [System.proximity_act, proximity_turn_creates_iff]
    cases operating with
    | true => simp
    | false =>
      by_cases hhardened : s.proximity.hardened
      · simp [hhardened, System.xTaskCreate]
      · simp [hhardened]
  | boot_check => simp
  | recovering code =>
    cases hresult : code.result with
    | none => simp [hresult]
    | some r => simp [hresult]

theorem key_step_tasks (e : KeyEvent) : (s.key_step e).tasks = s.tasks := by
  unfold System.key_step System.send_ui_cmd_msg
  cases s.key_pc with
  | poll =>
    simp only
    split_ifs <;> rfl
  | sending cmd =>
    simp only
    split_ifs <;> rfl
  | toggling code =>
    simp only
    split <;> rfl

private theorem command_tasks (c : Command) : (s.command c).tasks = s.tasks := by
  cases c with
  | letter send => cases send <;> rfl
  | _ => rfl

private theorem uart_step_tasks (c : Command) : (s.uart_step c).tasks = s.with_created (.uart c) := by
  unfold System.uart_step System.with_created System.creates
  cases hpc : s.uart_pc with
  | read => simp [command_tasks]
  | test_running => simp
  | creating kind => rfl
  | executing code =>
    cases hresult : code.result with
    | none => simp [hresult]
    | some r => simp [hresult]

/-- The load cell task creates none. -/
theorem loadcell_step_tasks (weight : ℚ) (now : Int) : (s.loadcell_step weight now).tasks = s.tasks := by
  unfold System.loadcell_step System.send_ui_cmd_msg
  simp only
  split_ifs <;> rfl

/-- The tasks after a move that is not a step of one of them. -/
theorem step_tasks (hm : ∀ i, m ≠ .task i) : (s.step m).tasks = s.with_created m := by
  have hnone (h : s.creates m = none) : s.with_created m = s.tasks := by
    unfold System.with_created
    rw [h]
    simp
  cases m with
  | ui => exact ui_step_tasks
  | proximity weight weight_again => exact proximity_step_tasks weight weight_again
  | loadcell weight now => exact (loadcell_step_tasks weight now).trans (hnone rfl).symm
  | key e => exact (key_step_tasks e).trans (hnone rfl).symm
  | uart c => exact uart_step_tasks c
  | task i => exact absurd rfl (hm i)
  | sense e => exact (hnone rfl).symm

theorem setRunFlag_tasks (kind : TaskKind) (v : Bool) : (s.setRunFlag kind v).tasks = s.tasks := by
  unfold System.setRunFlag
  split <;> rfl

theorem setRunFlag_fsm (kind : TaskKind) (v : Bool) : (s.setRunFlag kind v).fsm = s.fsm := by
  unfold System.setRunFlag
  split <;> rfl

/-- The phase that a step leads to. -/
def Phase.next (kind : TaskKind) (world : World) : Phase → Phase
  | .created => .running kind.code
  | .running code => if code.result.isSome then .returned else .running (code.advance Act.perform world).1
  | .returned => .clearing
  | .clearing => .deleted
  | .deleted => .deleted

/-- A task that is not there does nothing. -/
theorem task_step_none {i : Nat} (h : s.tasks[i]? = none) : s.task_step i = s := by
  unfold System.task_step
  rw [h]

/-- A step of a task moves that task on. -/
theorem task_step_tasks {i : Nat} {t : Task} (h : s.tasks[i]? = some t) :
    (s.task_step i).tasks = s.tasks.set i ⟨t.kind, t.phase.next t.kind s.world⟩ := by
  obtain ⟨kind, phase⟩ := t
  unfold System.task_step
  rw [h]
  cases phase with
  | created => exact congrArg (List.set · i _) (setRunFlag_tasks kind true)
  | running code =>
    cases hresult : code.result with
    | none => simp [hresult, System.setPhase, Phase.next]
    | some r => simp [hresult, System.setPhase, Phase.next]
  | returned =>
    simp only [System.setPhase, Phase.next]
    split_ifs <;> rfl
  | clearing => exact congrArg (List.set · i _) (setRunFlag_tasks kind false)
  | deleted =>
    obtain ⟨hi, hget⟩ := List.getElem?_eq_some_iff.mp h
    simp only [Phase.next]
    rw [← hget, List.set_getElem_self]

/-- A step of a scenario is no call of the load cell's automaton. -/
theorem task_step_fsm (i : Nat) : (s.task_step i).fsm = s.fsm := by
  unfold System.task_step
  split
  · rfl
  · exact setRunFlag_fsm _ true
  · split <;> rfl
  · simp only [System.setPhase]
    split_ifs <;> rfl
  · exact setRunFlag_fsm _ false
  · rfl

/-- Only a sample changes the load-cell FSM. -/
theorem step_fsm (hm : ∀ weight now, m ≠ .loadcell weight now) : (s.step m).fsm = s.fsm := by
  cases m with
  | ui =>
    change s.ui_step.fsm = s.fsm
    unfold System.ui_step
    split
    · split <;> rfl
    all_goals rfl
  | proximity weight weight_again =>
    change (s.proximity_step weight weight_again).fsm = s.fsm
    unfold System.proximity_step System.proximity_act
    split
    case h_4 =>
      simp only
      split_ifs <;> rfl
    case h_6 => split <;> rfl
    all_goals rfl
  | loadcell weight now => exact absurd rfl (hm weight now)
  | key e =>
    change (s.key_step e).fsm = s.fsm
    unfold System.key_step System.send_ui_cmd_msg
    split
    · split_ifs <;> rfl
    · split_ifs <;> rfl
    · split <;> rfl
  | uart c =>
    change (s.uart_step c).fsm = s.fsm
    unfold System.uart_step
    split
    · cases c with
      | letter send => cases send <;> rfl
      | _ => rfl
    · rfl
    · rfl
    · split <;> rfl
  | task i => exact task_step_fsm i
  | sense e => rfl

/-- The load cell task hands each sample to the automaton. -/
theorem loadcell_step_fsm (weight : ℚ) (now : Int) :
    (s.loadcell_step weight now).fsm = (process_cat_detection_fsm s.fsm (s.call weight now)).1 := by
  unfold System.loadcell_step System.send_ui_cmd_msg
  simp only
  split_ifs <;> rfl

end catbox.firmware
