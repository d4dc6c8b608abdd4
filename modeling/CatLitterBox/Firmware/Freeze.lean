import CatLitterBox.Firmware.Exclusive
import CatLitterBox.Motor.Ownership

open catbox.sensor catbox.motor catbox.loadcell catbox.ui program program.Program temporal

namespace catbox.firmware

/-- The tasks for a clean or a recovery. -/
def TaskKind.cleans (kind : TaskKind) : Bool :=
  kind.scenario = some .do_clean || kind.scenario = some .do_clean_resume_recovery

/-- The cleans and recoveries that are executed, with what is left of them; `none` is the
recovery at boot. -/
def System.executing (s : System) : Option Nat → Code Int → Prop
  | none, code => s.proximity_pc = .recovering code
  | some i, code => ∃ kind : TaskKind, s.tasks[i]? = some ⟨kind, .running code⟩ ∧ kind.cleans = true

/-- The next action of the function that the key task or the console is in. -/
def System.foreign_act (s : System) : Move → Option Act
  | .key _ =>
    match s.key_pc with
    | .toggling code => code.next
    | _ => none
  | .uart _ =>
    match s.uart_pc with
    | .executing code => code.next
    | _ => none
  | _ => none

/-- The moves that do not pause or resume a clean that has ended: `toggle_clean_pause` sets
a flag only while `clean_running_flag`, which its caller has tested, is still set. -/
def System.toggles_running (s : System) (m : Move) : Prop :=
  ∀ a ∈ s.foreign_act m, a = .write .clean_pause_flag true ∨
    a = .write .clean_resume_recovery_requested true →
    s.world.flag .clean_running_flag = true

instance (s : System) (m : Move) : Decidable (s.toggles_running m) :=
  inferInstanceAs (Decidable (∀ a ∈ s.foreign_act m, _))

/-- Some clean or recovery is executed that will still clear the flag. -/
def System.owns_flag (s : System) (f : Flag) : Prop := ∃ x code, s.executing x code ∧ WillClear f code

/-- A set pause or resume flag is cleared by a clean or a recovery that is executed, and
the load-cell FSM is frozen only while one is. -/
structure System.flags_owned (s : System) : Prop where
  pause : s.world.flag .clean_pause_flag = true → s.owns_flag .clean_pause_flag
  resume : s.world.flag .clean_resume_recovery_requested = true → s.owns_flag .clean_resume_recovery_requested
  frozen : ∀ weight now, (s.call weight now).frozen = true → ∃ x code, s.executing x code

/-- The invariant: a set flag is owned, `clean_running_flag` by a clean before its end, and
every task treats the flags as it should. -/
structure System.Owned (s : System) : Prop where
  cleaning : ∀ x code, s.executing x code → Cleaning code
  others : ∀ (i : Nat) (kind : TaskKind) (code : Code Int), s.tasks[i]? = some ⟨kind, .running code⟩ →
    kind.cleans = false → ∀ f : Flag, code.Every (· ≠ .write f true)
  key : ∀ code, s.key_pc = .toggling code → code.Every (· ≠ .write .clean_running_flag true)
  uart : ∀ code, s.uart_pc = .executing code → code.Every (· ≠ .write .clean_running_flag true)
  running : s.world.flag .clean_running_flag = true → ∃ x code, s.executing x code ∧ Open code
  owned : ∀ f : Flag, f.of_clean = true → s.world.flag f = true → s.owns_flag f

variable {s s' : System}

/-- One task executes one scenario. -/
theorem executing_unique {x : Option Nat} {c d : Code Int} (hc : s.executing x c) (hd : s.executing x d) :
    c = d := by
  cases x with
  | none => exact ProximityPc.recovering.inj (hc.symm.trans hd)
  | some i =>
    obtain ⟨kind, hget, -⟩ := hc
    obtain ⟨kind', hget', -⟩ := hd
    obtain ⟨-, hphase⟩ := Task.mk.inj (Option.some.inj (hget.symm.trans hget'))
    exact Phase.running.inj hphase

/-- A step that sets no flag, and after which what was executed and not over still is. -/
theorem System.Owned.grow (h : s.Owned)
    (hexec : ∀ x code, s.executing x code → code.result = none → s'.executing x code)
    (hcleaning : ∀ x code, s'.executing x code → Cleaning code)
    (hothers : ∀ (i : Nat) (kind : TaskKind) (code : Code Int), s'.tasks[i]? = some ⟨kind, .running code⟩ →
      kind.cleans = false → ∀ f : Flag, code.Every (· ≠ .write f true))
    (hkey : ∀ code, s'.key_pc = .toggling code → code.Every (· ≠ .write .clean_running_flag true))
    (huart : ∀ code, s'.uart_pc = .executing code → code.Every (· ≠ .write .clean_running_flag true))
    (hflag : ∀ f : Flag, f.of_clean = true → s'.world.flag f = true → s.world.flag f = true) : s'.Owned where
  cleaning := hcleaning
  others := hothers
  key := hkey
  uart := huart
  running hset := by
    obtain ⟨x, code, hx, hopen⟩ := h.running (hflag _ rfl hset)
    exact ⟨x, code, hexec x code hx (result_of_reaches hopen), hopen⟩
  owned f hf hset := by
    obtain ⟨x, code, hx, hclear⟩ := h.owned f hf (hflag f hf hset)
    exact ⟨x, code, hexec x code hx (result_of_reaches hclear), hclear⟩

/-- A step of a task, of the key task or of the console that touches none of what is
executed. -/
theorem System.Owned.frame (h : s.Owned) (htasks : ∀ (i : Nat) (kind : TaskKind) (code : Code Int),
      s'.tasks[i]? = some ⟨kind, .running code⟩ ↔ s.tasks[i]? = some ⟨kind, .running code⟩)
    (hpc : ∀ code, s'.proximity_pc = .recovering code ↔ s.proximity_pc = .recovering code)
    (hkey : ∀ code, s'.key_pc = .toggling code → code.Every (· ≠ .write .clean_running_flag true))
    (huart : ∀ code, s'.uart_pc = .executing code → code.Every (· ≠ .write .clean_running_flag true))
    (hflag : ∀ f : Flag, f.of_clean = true → s'.world.flag f = true → s.world.flag f = true) : s'.Owned := by
  have hexec (x : Option Nat) (code : Code Int) : s'.executing x code ↔ s.executing x code := by
    cases x with
    | none => exact hpc code
    | some i =>
      constructor
      · rintro ⟨kind, hget, hkind⟩
        exact ⟨kind, (htasks i kind code).mp hget, hkind⟩
      · rintro ⟨kind, hget, hkind⟩
        exact ⟨kind, (htasks i kind code).mpr hget, hkind⟩
  refine h.grow (fun x code hx _ => (hexec x code).mpr hx) ?_ ?_ hkey huart hflag
  · intro x code hx
    exact h.cleaning x code ((hexec x code).mp hx)
  · intro i kind code hget
    exact h.others i kind code ((htasks i kind code).mp hget)

/-- A step of a clean or a recovery. -/
theorem System.Owned.act {x : Option Nat} {code : Code Int} (h : s.Owned) (hx : s.executing x code)
    (hself : s'.executing x (code.advance Act.perform s.world).1)
    (hrest : ∀ y d, y ≠ x → (s'.executing y d ↔ s.executing y d))
    (hothers : ∀ (i : Nat) (kind : TaskKind) (d : Code Int), s'.tasks[i]? = some ⟨kind, .running d⟩ →
      kind.cleans = false → s.tasks[i]? = some ⟨kind, .running d⟩)
    (hkey : s'.key_pc = s.key_pc) (huart : s'.uart_pc = s.uart_pc)
    (hworld : s'.world = (code.advance Act.perform s.world).2) : s'.Owned := by
  have hcode : Cleaning code := h.cleaning x code hx
  constructor
  · intro y d hy
    by_cases hxy : y = x
    · subst hxy
      obtain rfl := executing_unique hself hy
      exact hcode.advance
    · exact h.cleaning y d ((hrest y d hxy).mp hy)
  · intro i kind d hget hkind
    exact h.others i kind d (hothers i kind d hget hkind) hkind
  · rw [hkey]
    exact h.key
  · rw [huart]
    exact h.uart
  · intro hset
    rw [hworld] at hset
    obtain hnext | ⟨hbefore, hclear⟩ := advance_flag hset
    · exact ⟨x, _, hself, hcode.begins hnext⟩
    · obtain ⟨y, d, hy, hopen⟩ := h.running hbefore
      by_cases hxy : y = x
      · subst hxy
        obtain rfl : code = d := executing_unique hx hy
        exact ⟨y, _, hself, reaches_advance hopen hclear⟩
      · exact ⟨y, d, (hrest y d hxy).mpr hy, hopen⟩
  · intro f hf hset
    rw [hworld] at hset
    obtain hnext | ⟨hbefore, hclear⟩ := advance_flag hset
    · exact ⟨x, _, hself, hcode.sets hf hnext⟩
    · obtain ⟨y, d, hy, hwill⟩ := h.owned f hf hbefore
      by_cases hxy : y = x
      · subst hxy
        obtain rfl : code = d := executing_unique hx hy
        exact ⟨y, _, hself, reaches_advance hwill hclear⟩
      · exact ⟨y, d, (hrest y d hxy).mpr hy, hwill⟩

/-- A step of `toggle_clean_pause` or `set_emergency_stop` in the key task or the console. -/
theorem System.Owned.toggle {code : Code Unit} (h : s.Owned)
    (hcode : code.Every (· ≠ .write .clean_running_flag true))
    (hok : ∀ a, code.next = some a → a = .write .clean_pause_flag true ∨
      a = .write .clean_resume_recovery_requested true → s.world.flag .clean_running_flag = true)
    (hexec : ∀ x d, s'.executing x d ↔ s.executing x d) (htasks : s'.tasks = s.tasks)
    (hkey : ∀ d, s'.key_pc = .toggling d → d.Every (· ≠ .write .clean_running_flag true))
    (huart : ∀ d, s'.uart_pc = .executing d → d.Every (· ≠ .write .clean_running_flag true))
    (hworld : s'.world = (code.advance Act.perform s.world).2) : s'.Owned := by
  have hrunning (hset : s.world.flag .clean_running_flag = true) : ∃ x d, s'.executing x d ∧ Open d := by
    obtain ⟨x, d, hx, hopen⟩ := h.running hset
    exact ⟨x, d, (hexec x d).mpr hx, hopen⟩
  constructor
  · intro x d hx
    exact h.cleaning x d ((hexec x d).mp hx)
  · rw [htasks]
    exact h.others
  · exact hkey
  · exact huart
  · intro hset
    rw [hworld] at hset
    obtain hnext | ⟨hbefore, -⟩ := advance_flag hset
    · exact absurd rfl (every_next hcode hnext)
    · exact hrunning hbefore
  · intro f hf hset
    rw [hworld] at hset
    obtain hnext | ⟨hbefore, -⟩ := advance_flag hset
    · have hstill : s.world.flag .clean_running_flag = true := by
        cases f with
        | clean_running_flag => exact absurd rfl (every_next hcode hnext)
        | clean_pause_flag => exact hok _ hnext (.inl rfl)
        | clean_resume_recovery_requested => exact hok _ hnext (.inr rfl)
        | emergency_stop_flag => cases hf
        | spin_mt_always_on => cases hf
      obtain ⟨x, d, hx, hopen⟩ := hrunning hstill
      exact ⟨x, d, hx, hopen.will_clear hf⟩
    · obtain ⟨x, d, hx, hwill⟩ := h.owned f hf hbefore
      exact ⟨x, d, (hexec x d).mpr hx, hwill⟩

theorem running_get_created {tasks : List Task} {created : Option TaskKind} {i : Nat}
    {kind : TaskKind} {code : Code Int} :
    (tasks ++ created.toList.map (⟨·, .created⟩))[i]? = some ⟨kind, .running code⟩ ↔
      tasks[i]? = some ⟨kind, .running code⟩ := by
  cases created with
  | none => simp
  | some new =>
    constructor
    · intro hget
      obtain hold | ⟨-, hnew⟩ := created_get hget
      · exact hold
      · cases hnew
    · intro hget
      obtain ⟨hi, -⟩ := List.getElem?_eq_some_iff.mp hget
      rw [List.getElem?_append_left hi]
      exact hget

/-- A turn of the UI task leaves every set flag with its owner. -/
theorem System.Owned.ui_step (h : s.Owned) : s.ui_step.Owned := by
  have hrest : s.ui_step.proximity_pc = s.proximity_pc ∧ s.ui_step.key_pc = s.key_pc ∧
      s.ui_step.uart_pc = s.uart_pc ∧ s.ui_step.world = s.world := by
    unfold System.ui_step
    split
    · split <;> exact ⟨rfl, rfl, rfl, rfl⟩
    all_goals exact ⟨rfl, rfl, rfl, rfl⟩
  obtain ⟨hpc, hkey, huart, hworld⟩ := hrest
  apply h.frame
  · intro i kind code
    rw [ui_step_tasks]
    exact running_get_created
  · intro code
    rw [hpc]
  · rw [hkey]
    exact h.key
  · rw [huart]
    exact h.uart
  · rw [hworld]
    exact fun _ _ => id

private theorem boot_recovery_cleaning : Cleaning boot_recovery where
  running := .inr ⟨by simp, fun _ => do_clean_resume_recovery_unset _⟩
  pause := .inr ⟨by simp, fun _ => do_clean_resume_recovery_unset _⟩
  resume := ⟨by simp, fun _ => do_clean_resume_recovery_unset _⟩

private theorem proximity_act_rest (operating : Bool) (weight weight_again : ℚ) :
    (s.proximity_act operating weight weight_again).key_pc = s.key_pc ∧
    (s.proximity_act operating weight weight_again).uart_pc = s.uart_pc ∧
    (s.proximity_act operating weight weight_again).world = s.world ∧
    ∀ code, (s.proximity_act operating weight weight_again).proximity_pc ≠ .recovering code := by
  unfold System.proximity_act
  simp only
  split_ifs <;> exact ⟨rfl, rfl, rfl, nofun⟩

/-- So does a turn of the proximity task. -/
theorem System.Owned.proximity_step (weight weight_again : ℚ) (h : s.Owned) :
    (s.proximity_step weight weight_again).Owned := by
  have htasks := proximity_step_tasks (s := s) weight weight_again
  unfold System.proximity_step at htasks ⊢
  cases hpc : s.proximity_pc with
  | turn => exact h.frame (fun _ _ _ => .rfl) (by simp [hpc]) h.key h.uart fun _ _ => id
  | checking rest =>
    cases rest with
    | nil => exact h.frame (fun _ _ _ => .rfl) (by simp [hpc]) h.key h.uart fun _ _ => id
    | cons f rest =>
      refine h.frame (fun _ _ _ => .rfl) (fun code => ?_) h.key h.uart fun _ _ => id
      simp only [hpc]
      split_ifs <;> simp
  | act operating =>
    simp only [hpc] at htasks
    obtain ⟨hkey, huart, hworld, hleaves⟩ := proximity_act_rest (s := s) operating weight weight_again
    apply h.frame
    · intro i kind code
      rw [htasks]
      exact running_get_created
    · intro code
      rw [hpc]
      constructor
      · exact fun hrecovering => absurd hrecovering (hleaves code)
      · nofun
    · rw [hkey]
      exact h.key
    · rw [huart]
      exact h.uart
    · rw [hworld]
      exact fun _ _ => id
  | boot_check =>
    simp only
    split_ifs
    · refine h.grow ?_ ?_ h.others h.key h.uart fun _ _ => id
      · rintro (_ | i) code hx _
        · cases hpc.symm.trans hx
        · exact hx
      · rintro (_ | i) code hx
        · obtain rfl := ProximityPc.recovering.inj hx
          exact boot_recovery_cleaning
        · exact h.cleaning (some i) code hx
    · exact h.frame (fun _ _ _ => .rfl) (by simp [hpc]) h.key h.uart fun _ _ => id
  | recovering code =>
    cases hresult : code.result with
    | some r =>
      simp only [hresult]
      refine h.grow ?_ ?_ h.others h.key h.uart fun _ _ => id
      · rintro (_ | i) d hx hd
        · obtain rfl := ProximityPc.recovering.inj (hpc.symm.trans hx)
          cases hresult.symm.trans hd
        · exact hx
      · rintro (_ | i) d hx
        · cases hx
        · exact h.cleaning (some i) d hx
    | none =>
      simp only [hresult]
      refine h.act (x := none) hpc rfl ?_ (fun _ _ _ hget _ => hget) rfl rfl rfl
      rintro (_ | i) d hne
      · exact absurd rfl hne
      · exact .rfl

theorem toggle_clean_pause_unset : toggle_clean_pause.Every (· ≠ .write .clean_running_flag true) := by
  refine every_perform_bind (by simp) fun paused => every_ite ?_ ?_
  · simp [pause_all_motors]
  · simp

private theorem set_emergency_stop_unset : set_emergency_stop.Every (· ≠ .write .clean_running_flag true) := by
  simp [set_emergency_stop]

/-- So does a key that does not pause a clean that has ended. -/
theorem System.Owned.key_step (e : KeyEvent) (h : s.Owned) (hok : s.toggles_running (.key e)) :
    (s.key_step e).Owned := by
  unfold System.key_step
  cases hpc : s.key_pc with
  | poll =>
    simp only
    split_ifs
    · refine h.frame (fun _ _ _ => .rfl) (fun _ => .rfl) ?_ h.uart fun _ _ => id
      intro code hcode
      obtain rfl : code = toggle_clean_pause := by
        cases e with
        | clean_click =>
          simp only [System.key_event] at hcode
          split_ifs at hcode
          exact (KeyPc.toggling.inj hcode).symm
        | change_click =>
          simp only [System.key_event] at hcode
          split_ifs at hcode
        | _ => cases hcode
      exact toggle_clean_pause_unset
    · exact h
  | sending cmd =>
    simp only [System.send_ui_cmd_msg]
    split_ifs
    · exact h.frame (fun _ _ _ => .rfl) (fun _ => .rfl) nofun h.uart fun _ _ => id
    · exact h.frame (fun _ _ _ => .rfl) (fun _ => .rfl) nofun h.uart fun _ _ => id
  | toggling code =>
    have hcode := h.key code hpc
    cases hresult : code.result with
    | some r =>
      simp only [hresult]
      exact h.frame (fun _ _ _ => .rfl) (fun _ => .rfl) nofun h.uart fun _ _ => id
    | none =>
      simp only [hresult]
      have hexec (x : Option Nat) (d : Code Int) : System.executing { s with
          key_pc := .toggling (code.advance Act.perform s.world).1
          world := (code.advance Act.perform s.world).2 } x d ↔ s.executing x d := by cases x <;> exact .rfl
      refine h.toggle hcode ?_ hexec rfl ?_ h.uart rfl
      · intro a ha
        exact hok a (by simp [System.foreign_act, hpc, ha])
      · rintro d ⟨⟩
        exact every_advance hcode

/-- So does such a command of the console. -/
theorem System.Owned.uart_step (c : Command) (h : s.Owned) (hok : s.toggles_running (.uart c)) :
    (s.uart_step c).Owned := by
  unfold System.uart_step
  cases hpc : s.uart_pc with
  | read =>
    have hstop (f : Flag) (hf : f.of_clean = true) (hset : s.clear_stop.world.flag f = true) :
        s.world.flag f = true := by
      have hne : f ≠ .emergency_stop_flag := by
        rintro rfl
        cases hf
      rwa [System.clear_stop, World.setFlag_flag_of_ne _ _ hne] at hset
    cases c with
    | J => exact h.frame (fun _ _ _ => .rfl) (fun _ => .rfl) h.key nofun hstop
    | S => exact h.frame (fun _ _ _ => .rfl) (fun _ => .rfl) h.key nofun hstop
    | W => exact h.frame (fun _ _ _ => .rfl) (fun _ => .rfl) h.key nofun hstop
    | Z =>
      refine h.frame (fun _ _ _ => .rfl) (fun _ => .rfl) h.key ?_ fun _ _ => id
      rintro code ⟨⟩
      exact set_emergency_stop_unset
    | letter send => cases send with
      | none => exact h.frame (fun _ _ _ => .rfl) (fun _ => .rfl) h.key h.uart hstop
      | some m => exact h.frame (fun _ _ _ => .rfl) (fun _ => .rfl) h.key h.uart hstop
    | direct mt msg => exact h.frame (fun _ _ _ => .rfl) (fun _ => .rfl) h.key h.uart fun _ _ => id
  | test_running =>
    refine h.frame (fun _ _ _ => .rfl) (fun _ => .rfl) h.key ?_ fun _ _ => id
    intro code hcode
    simp only at hcode
    split_ifs at hcode
    obtain rfl := UartPc.executing.inj hcode
    exact toggle_clean_pause_unset
  | creating kind =>
    refine h.frame (fun i k code => ?_) (fun _ => .rfl) h.key nofun fun _ _ => id
    exact @running_get_created _ (some kind) _ _ _
  | executing code =>
    have hcode := h.uart code hpc
    cases hresult : code.result with
    | some r =>
      simp only [hresult]
      exact h.frame (fun _ _ _ => .rfl) (fun _ => .rfl) h.key nofun fun _ _ => id
    | none =>
      simp only [hresult]
      have hexec (x : Option Nat) (d : Code Int) : System.executing { s with
          uart_pc := .executing (code.advance Act.perform s.world).1
          world := (code.advance Act.perform s.world).2 } x d ↔ s.executing x d := by cases x <;> exact .rfl
      refine h.toggle hcode ?_ hexec rfl h.key ?_ rfl
      · intro a ha
        exact hok a (by simp [System.foreign_act, hpc, ha])
      · rintro d ⟨⟩
        exact every_advance hcode

/-- So does the load cell task. -/
theorem System.Owned.loadcell_step (weight : ℚ) (now : Int) (h : s.Owned) :
    (s.loadcell_step weight now).Owned := by
  unfold System.loadcell_step System.send_ui_cmd_msg
  simp only
  split_ifs
  · exact h.frame (fun _ _ _ => .rfl) (fun _ => .rfl) h.key h.uart fun _ _ => id
  · exact h.frame (fun _ _ _ => .rfl) (fun _ => .rfl) h.key h.uart fun _ _ => id
  · exact h.frame (fun _ _ _ => .rfl) (fun _ => .rfl) h.key h.uart fun _ _ => id

/-- How the function of a task treats the flags. -/
theorem TaskKind.code_flags (kind : TaskKind) :
    (kind.cleans = true → Cleaning kind.code) ∧
    (kind.cleans = false → ∀ f : Flag, kind.code.Every (· ≠ .write f true)) := by
  cases kind with
  | ui_clean_task => exact ⟨fun _ => do_clean_cleaning, nofun⟩
  | demo_synario => exact ⟨fun _ => do_clean_cleaning, nofun⟩
  | recovery_scenario_task => exact ⟨fun _ => do_clean_resume_recovery_cleaning, nofun⟩
  | ui_manage_finish_task => exact ⟨nofun, fun _ => do_manage_finish_unset⟩
  | ui_manage_start_task => exact ⟨nofun, fun _ => do_manage_start_unset⟩
  | motor_calib_task => exact ⟨nofun, fun _ f => motor_calibration_every (calibrates_unset f)⟩
  | ui_tarezero_task => exact ⟨nofun, fun _ f => by simp [TaskKind.code]⟩
  | ui_pairing_task => exact ⟨nofun, fun _ f => by simp [TaskKind.code]⟩
  | ui_factory_task => exact ⟨nofun, fun _ f => by simp [TaskKind.code]⟩

theorem task_step_pcs (i : Nat) : (s.task_step i).proximity_pc = s.proximity_pc ∧
    (s.task_step i).key_pc = s.key_pc ∧ (s.task_step i).uart_pc = s.uart_pc := by
  have hflag (kind : TaskKind) (v : Bool) (phase : Phase) :
      ((s.setRunFlag kind v).setPhase i kind phase).proximity_pc = s.proximity_pc ∧
      ((s.setRunFlag kind v).setPhase i kind phase).key_pc = s.key_pc ∧
      ((s.setRunFlag kind v).setPhase i kind phase).uart_pc = s.uart_pc := by
    unfold System.setRunFlag
    split <;> exact ⟨rfl, rfl, rfl⟩
  unfold System.task_step
  split
  · exact ⟨rfl, rfl, rfl⟩
  · exact hflag _ _ _
  · split <;> exact ⟨rfl, rfl, rfl⟩
  · split_ifs <;> exact ⟨rfl, rfl, rfl⟩
  · exact hflag _ _ _
  · exact ⟨rfl, rfl, rfl⟩

/-- A step of a task in its function performs the next action of it; no other step of a
task touches the world. -/
theorem task_step_world {i : Nat} {t : Task} (hget : s.tasks[i]? = some t) :
    (s.task_step i).world = match t.phase with
      | .running code => (code.advance Act.perform s.world).2
      | _ => s.world := by
  have hflag (kind : TaskKind) (v : Bool) (phase : Phase) :
      ((s.setRunFlag kind v).setPhase i kind phase).world = s.world := by
    unfold System.setRunFlag
    split <;> rfl
  obtain ⟨kind, phase⟩ := t
  unfold System.task_step
  rw [hget]
  cases phase with
  | created => exact hflag _ _ _
  | running code =>
    cases hcode : code with
    | ret r => rfl
    | act a k => rfl
    | loop body x k => rfl
  | returned =>
    simp only
    split_ifs <;> rfl
  | clearing => exact hflag _ _ _
  | deleted => rfl

/-- A step of a task that is not the next action of a clean or a recovery. -/
theorem System.Owned.task_step_grow {i : Nat} {t : Task} (h : s.Owned) (hget : s.tasks[i]? = some t)
    (hhere : ∀ kind code, t = ⟨kind, .running code⟩ → kind.cleans = true → code.result ≠ none)
    (hnew : ∀ kind code, t.next s.world = ⟨kind, .running code⟩ →
      (kind.cleans = true → Cleaning code) ∧
      (kind.cleans = false → ∀ f : Flag, code.Every (· ≠ .write f true)))
    (hflag : ∀ f : Flag, f.of_clean = true → (s.task_step i).world.flag f = true → s.world.flag f = true) :
    (s.task_step i).Owned := by
  obtain ⟨hpc, hkey, huart⟩ := task_step_pcs (s := s) i
  refine h.grow ?_ ?_ ?_ ?_ ?_ hflag
  · rintro (_ | j) code hx hresult
    · exact hpc.trans hx
    · obtain ⟨kind, hj, hkind⟩ := hx
      have hij : i ≠ j := by
        rintro rfl
        exact hhere kind code (Option.some.inj (hget.symm.trans hj)) hkind hresult
      exact ⟨kind, by rw [task_step_get hget, if_neg hij]; exact hj, hkind⟩
  · rintro (_ | j) code hx
    · exact h.cleaning none code (hpc.symm.trans hx)
    · obtain ⟨kind, hj, hkind⟩ := hx
      rw [task_step_get hget] at hj
      split_ifs at hj
      · exact (hnew kind code (Option.some.inj hj)).1 hkind
      · exact h.cleaning (some j) code ⟨kind, hj, hkind⟩
  · intro j kind code hj hkind
    rw [task_step_get hget] at hj
    split_ifs at hj
    · exact (hnew kind code (Option.some.inj hj)).2 hkind
    · exact h.others j kind code hj hkind
  · rw [hkey]
    exact h.key
  · rw [huart]
    exact h.uart

/-- The next action of a clean or a recovery. -/
theorem System.Owned.task_step_cleans {i : Nat} {kind : TaskKind} {code : Code Int} (h : s.Owned)
    (hget : s.tasks[i]? = some ⟨kind, .running code⟩) (hkind : kind.cleans = true)
    (hresult : code.result = none) : (s.task_step i).Owned := by
  obtain ⟨hpc, hkey, huart⟩ := task_step_pcs (s := s) i
  have hnext : (⟨kind, .running code⟩ : Task).next s.world =
      ⟨kind, .running (code.advance Act.perform s.world).1⟩ := by simp [Task.next, Phase.next, hresult]
  have hx : s.executing (some i) code := ⟨kind, hget, hkind⟩
  refine h.act hx ⟨kind, ?_, hkind⟩ ?_ ?_ hkey huart (task_step_world hget)
  · rw [task_step_get hget, if_pos rfl, hnext]
  · rintro (_ | j) d hne
    · simp only [System.executing, hpc]
    · have hij : i ≠ j := fun hij => hne (by rw [hij])
      simp only [System.executing, task_step_get hget, if_neg hij]
  · intro j kind' d hj hkind'
    rw [task_step_get hget] at hj
    split_ifs at hj
    · rw [hnext] at hj
      obtain ⟨rfl, -⟩ := Task.mk.inj (Option.some.inj hj)
      cases hkind.symm.trans hkind'
    · exact hj

/-- A task that was not in its function and is not after the step. -/
theorem System.Owned.task_step_outside {i : Nat} {kind : TaskKind} {phase : Phase} (h : s.Owned)
    (hget : s.tasks[i]? = some ⟨kind, phase⟩) (hphase : ∀ code, phase ≠ .running code)
    (hnext : ∀ kind' code, (⟨kind, phase⟩ : Task).next s.world ≠ ⟨kind', .running code⟩) :
    (s.task_step i).Owned := by
  have hworld := task_step_world hget
  apply h.task_step_grow hget
  · rintro _ code ⟨⟩
    exact absurd rfl (hphase code)
  · intro kind' code hrunning
    exact absurd hrunning (hnext kind' code)
  · intro f _ hset
    cases phase with
    | running code => exact absurd rfl (hphase code)
    | created | returned | clearing | deleted =>
      rw [hworld] at hset
      exact hset

/-- So does a step of a scenario, which clears its own flags at its end. -/
theorem System.Owned.task_step (i : Nat) (h : s.Owned) : (s.task_step i).Owned := by
  cases hget : s.tasks[i]? with
  | none =>
    rw [task_step_none hget]
    exact h
  | some t =>
    obtain ⟨kind, phase⟩ := t
    have hworld := task_step_world hget
    cases phase with
    | created =>
      apply h.task_step_grow hget
      · intro _ _ hrunning
        cases hrunning
      · rintro kind' code ⟨⟩
        exact kind.code_flags
      · rw [hworld]
        exact fun _ _ => id
    | running code =>
      by_cases hacts : kind.cleans = true ∧ code.result = none
      · exact h.task_step_cleans hget hacts.1 hacts.2
      · apply h.task_step_grow hget
        · rintro kind' code' ⟨⟩ hkind hresult
          exact hacts ⟨hkind, hresult⟩
        · intro kind' code' hnext
          unfold Task.next Phase.next at hnext
          obtain ⟨rfl, hphase⟩ := Task.mk.inj hnext
          simp only at hphase
          split_ifs at hphase with hresult
          obtain rfl := Phase.running.inj hphase
          have hunresult : code.result = none := by simpa using hresult
          constructor
          · exact fun hkind => absurd ⟨hkind, hunresult⟩ hacts
          · exact fun hkind f => every_advance (h.others i kind code hget hkind f)
        · intro f hf hset
          rw [hworld] at hset
          obtain hnext | ⟨hbefore, -⟩ := advance_flag hset
          · have hkind : kind.cleans = false := by
              have hresult : code.result = none := by
                cases code with
                | act a k => rfl
                | _ => cases hnext
              exact eq_false_of_ne_true fun hkind => hacts ⟨hkind, hresult⟩
            exact absurd rfl (every_next (h.others i kind code hget hkind f) hnext)
          · exact hbefore
    | returned => exact h.task_step_outside hget nofun nofun
    | clearing => exact h.task_step_outside hget nofun nofun
    | deleted => exact h.task_step_outside hget nofun nofun

/-- Every move that pauses no clean after its end leaves each set flag with its owner. -/
theorem System.Owned.step (s : System) (m : Move) (h : s.Owned) (hok : s.toggles_running m) :
    (s.step m).Owned := by
  cases m with
  | ui => exact h.ui_step
  | proximity weight weight_again => exact h.proximity_step weight weight_again
  | loadcell weight now => exact h.loadcell_step weight now
  | key e => exact h.key_step e hok
  | uart c => exact h.uart_step c hok
  | task i => exact h.task_step i
  | sense e =>
    exact h.frame (fun _ _ _ => .rfl) (fun _ => .rfl) h.key h.uart (by cases e <;> exact fun _ _ => id)

private theorem boot_owned (word : PtWord) (cfg : ProximityConfig) (diag pairing : Bool) :
    (System.boot word cfg diag pairing).Owned where
  cleaning := by
    rintro (_ | i) code hx
    · cases hx
    · obtain ⟨kind, hget, -⟩ := hx
      cases hget
  others _ _ _ hget := by cases hget
  key := nofun
  uart := nofun
  running := nofun
  owned _ _ := nofun

/-- The invariant says that every set flag is owned. -/
theorem System.Owned.flags_owned (h : s.Owned) : s.flags_owned where
  pause := h.owned _ rfl
  resume := h.owned _ rfl
  frozen weight now hfrozen := by
    have hset : ∃ f : Flag, f.of_clean = true ∧ s.world.flag f = true := by
      simp only [System.call, Call.frozen, Bool.or_eq_true] at hfrozen
      obtain (hset | hset) | hset := hfrozen
      · exact ⟨_, rfl, hset⟩
      · exact ⟨_, rfl, hset⟩
      · exact ⟨_, rfl, hset⟩
    obtain ⟨f, hf, hset⟩ := hset
    obtain ⟨x, code, hx, -⟩ := h.owned f hf hset
    exact ⟨x, code, hx⟩

/-- In every run in which no clean is paused or resumed after its end, a set pause or
resume flag is cleared by a clean or a recovery in progress. -/
theorem pause_flags_owned (word : PtWord) (cfg : ProximityConfig) (diag pairing : Bool) (moves : List Move)
    (hok : Along System.step System.toggles_running (System.boot word cfg diag pairing) moves) :
    ((System.boot word cfg diag pairing).run moves).flags_owned := by
  have hinvariant : ((System.boot word cfg diag pairing).run moves).Owned :=
    hok.invariant System.Owned.step (boot_owned word cfg diag pairing)
  exact hinvariant.flags_owned

/-- A clean started by the console, and paused by it while it waits for the main cover. -/
def paused_clean : List Move :=
  [.uart .J, .uart .J] ++ List.replicate 50 (.task 0) ++ List.replicate 4 (.uart .W)

theorem paused_clean_owned :
    ((System.boot 0 ⟨1500, 10⟩ false false).run paused_clean).world.flag .clean_pause_flag = true ∧
      ((System.boot 0 ⟨1500, 10⟩ false false).run paused_clean).flags_owned :=
  ⟨by decide +kernel, pause_flags_owned 0 ⟨1500, 10⟩ false false paused_clean (by decide +kernel)⟩

/-- The same, but the clean times out between the test of the console and its pause. -/
def late_pause : List Move :=
  [.uart .J, .uart .J] ++ List.replicate 50 (.task 0) ++ [.uart .W, .uart .W, .sense (.clock 30000000)] ++
    List.replicate 60 (.task 0) ++ List.replicate 3 (.uart .W)

private theorem executing_active {x : Option Nat} {code : Code Int} (h : s.executing x code) : s.active x := by
  cases x with
  | none =>
    have hpc : s.proximity_pc = .recovering code := h
    simp [System.active, System.recovering, hpc]
  | some i =>
    obtain ⟨kind, hget, hkind⟩ := h
    refine ⟨_, hget, ?_⟩
    cases kind with
    | _ => first | rfl | cases hkind

theorem late_pause_freezes :
    ¬ ∀ (word : PtWord) (cfg : ProximityConfig) (diag pairing : Bool) (moves : List Move),
    ((System.boot word cfg diag pairing).run moves).flags_owned := by
  intro hall
  have hset :
      ((System.boot 0 ⟨1500, 10⟩ false false).run late_pause).world.flag .clean_pause_flag = true := by
    decide +kernel
  have hover : ((System.boot 0 ⟨1500, 10⟩ false false).run late_pause).recovering = false ∧
      ∀ t ∈ ((System.boot 0 ⟨1500, 10⟩ false false).run late_pause).tasks, t.active = false := by
    decide +kernel
  obtain ⟨x, code, hx, -⟩ := (hall 0 ⟨1500, 10⟩ false false late_pause).pause hset
  have hactive := executing_active hx
  cases x with
  | none => cases hover.1.symm.trans hactive
  | some i =>
    obtain ⟨t, hget, ht⟩ := hactive
    cases (hover.2 t (List.mem_of_getElem? hget)).symm.trans ht

end catbox.firmware
