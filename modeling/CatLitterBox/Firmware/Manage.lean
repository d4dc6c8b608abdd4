import CatLitterBox.Firmware.Exclusive

open catbox.sensor catbox.motor catbox.loadcell catbox.ui program temporal

namespace catbox.firmware

/-- The two tasks of the manage mode. -/
def TaskKind.manages : TaskKind → Bool
  | .ui_manage_start_task | .ui_manage_finish_task => true
  | _ => false

/-- The manage scenario that begins in a move. -/
def System.begins (s : System) : Move → Option TaskKind
  | .task i =>
    match s.tasks[i]? with
    | some ⟨kind, .created⟩ => if kind.manages then some kind else none
    | _ => none
  | _ => none

/-- The manage scenario that returns in a move, with its result. -/
def System.returns (s : System) : Move → Option (TaskKind × Int)
  | .task i =>
    match s.tasks[i]? with
    | some ⟨kind, .running code⟩ => if kind.manages then code.result.map (kind, ·) else none
    | _ => none
  | _ => none

/-- The manage scenario that has begun last, and the one that has returned last, with its result. -/
structure Managed where
  begun : Option TaskKind
  returned : Option (TaskKind × Int)

/-- The system, with what its manage mode has done. -/
structure Managing where
  system : System
  managed : Managed

def Managing.boot (word : PtWord) (cfg : ProximityConfig) (diag pairing : Bool) : Managing where
  system := .boot word cfg diag pairing
  managed := ⟨none, none⟩

def Managing.step (s : Managing) (m : Move) : Managing where
  system := s.system.step m
  managed :=
    { begun := (s.system.begins m).or s.managed.begun
      returned := (s.system.returns m).or s.managed.returned }

def Managing.run (s : Managing) (moves : List Move) : Managing := moves.foldl Managing.step s

/-- The manage task whose scenario is in progress, or has been `do_manage_finish` and the task has yet to
clear `ui_manage_f`. -/
def Task.in_hand : Task → Option TaskKind
  | ⟨.ui_manage_start_task, .running _⟩ => some .ui_manage_start_task
  | ⟨.ui_manage_finish_task, .running _⟩ | ⟨.ui_manage_finish_task, .returned⟩ => some .ui_manage_finish_task
  | _ => none

/-- The moves that keep the manage mode in order: the two scenarios do not overlap, `do_manage_start` returns
while `ui_manage_f` is set, and `do_manage_finish` succeeds. -/
structure System.orderly (s : System) (m : Move) : Prop where
  apart : ∀ kind ∈ s.begins m, ∀ t ∈ s.tasks, ∀ other ∈ t.in_hand, other = kind
  marked : ∀ e ∈ s.returns m, e.1 = .ui_manage_start_task → s.flag .ui_manage_f = true
  succeeds : ∀ e ∈ s.returns m, e.1 = .ui_manage_finish_task → e.2 = 0

instance (s : System) (m : Move) : Decidable (s.orderly m) :=
  decidable_of_iff
    ((∀ kind ∈ s.begins m, ∀ t ∈ s.tasks, ∀ other ∈ t.in_hand, other = kind) ∧
      (∀ e ∈ s.returns m, e.1 = .ui_manage_start_task → s.flag .ui_manage_f = true) ∧
      ∀ e ∈ s.returns m, e.1 = .ui_manage_finish_task → e.2 = 0)
    ⟨fun ⟨h₁, h₂, h₃⟩ => ⟨h₁, h₂, h₃⟩, fun ⟨h₁, h₂, h₃⟩ => ⟨h₁, h₂, h₃⟩⟩

/-- With `ui_manage_f` clear and no scenario in progress, the last manage scenario was a `do_manage_finish`
that succeeded; and so it was when `check_run_flag` admits a clean. -/
structure Managing.flag_agrees (s : Managing) : Prop where
  stopped : s.system.flag .ui_manage_f = false → (∀ t ∈ s.system.tasks, t.active = false) →
    (∀ kind ∈ s.managed.begun, kind = .ui_manage_finish_task) ∧
      ∀ e ∈ s.managed.returned, e = (.ui_manage_finish_task, 0)
  admitted : s.system.ui_pc = .checking .UI_CLEAN_CMD [(.ui_manage_f, false)] →
    s.system.ui_step.ui_pc = .checking .UI_CLEAN_CMD [] →
    ∀ e ∈ s.managed.returned, e = (.ui_manage_finish_task, 0)

/-- The invariant: one manage scenario at most is in hand, and `ui_manage_f` stays set until a
`do_manage_finish` that has succeeded is the last one. -/
structure Managing.Agrees (s : Managing) : Prop where
  apart : ∀ t ∈ s.system.tasks, ∀ u ∈ s.system.tasks, t.in_hand = some .ui_manage_start_task →
    u.in_hand ≠ some .ui_manage_finish_task
  finishing : ∀ t ∈ s.system.tasks, t.in_hand = some .ui_manage_finish_task →
    s.managed.begun = some .ui_manage_finish_task
  succeeded : ⟨.ui_manage_finish_task, .returned⟩ ∈ s.system.tasks →
    s.managed.returned = some (.ui_manage_finish_task, 0)
  returned : s.system.flag .ui_manage_f = false → ∀ e ∈ s.managed.returned, e = (.ui_manage_finish_task, 0)
  begun : s.system.flag .ui_manage_f = false →
    (∀ t ∈ s.system.tasks, t.in_hand ≠ some .ui_manage_start_task) →
    ∀ kind ∈ s.managed.begun, kind = .ui_manage_finish_task

section Tasks

variable {t : Task} {kind : TaskKind}

theorem Task.active_of_starting (h : t.in_hand = some .ui_manage_start_task) : t.active = true := by
  obtain ⟨kind, phase⟩ := t
  cases kind with
  | ui_manage_start_task =>
    cases phase with
    | running code => rfl
    | _ => cases h
  | ui_manage_finish_task =>
    cases phase with
    | _ => cases h
  | _ => cases h

theorem manages_cases (h : kind.manages = true) :
    kind = .ui_manage_start_task ∨ kind = .ui_manage_finish_task := by
  cases kind with
  | ui_manage_start_task => exact .inl rfl
  | ui_manage_finish_task => exact .inr rfl
  | _ => cases h

theorem in_hand_of_manages {code : Code Int} (h : kind.manages = true) :
    Task.in_hand ⟨kind, .running code⟩ = some kind := by
  obtain rfl | rfl := manages_cases h
  · rfl
  · rfl

theorem in_hand_of_not_manages {phase : Phase} (h : kind.manages = false) :
    Task.in_hand ⟨kind, phase⟩ = none := by
  cases kind with
  | ui_manage_start_task => cases h
  | ui_manage_finish_task => cases h
  | _ => rfl

theorem in_hand_idle {phase : Phase} (h : phase = .created ∨ phase = .clearing ∨ phase = .deleted) :
    Task.in_hand ⟨kind, phase⟩ = none := by
  obtain rfl | rfl | rfl := h
  · cases kind <;> rfl
  · cases kind <;> rfl
  · cases kind <;> rfl

theorem run_flag_ne_manage (kind : TaskKind) : kind.run_flag ≠ some .ui_manage_f := by
  cases kind with
  | _ => nofun

end Tasks

/-- `ui_manage_f` is cleared by the tasks only. -/
theorem step_manage_flag {s : System} {m : Move} (hm : ∀ i, m ≠ .task i)
    (h : (s.step m).flag .ui_manage_f = false) :
    s.flag .ui_manage_f = false := by
  cases m with
  | ui =>
    change s.ui_step.flag .ui_manage_f = false at h
    unfold System.ui_step at h
    split at h
    · split at h <;> exact h
    · exact h
    · exact h
    · exact h
    · exact absurd h (by simp [System.setFlag])
  | proximity weight weight_again =>
    change (s.proximity_step weight weight_again).flag .ui_manage_f = false at h
    unfold System.proximity_step System.proximity_act at h
    split at h
    case h_4 =>
      simp only at h
      split_ifs at h <;> exact h
    case h_6 => split at h <;> exact h
    all_goals exact h
  | loadcell weight now =>
    change (s.loadcell_step weight now).flag .ui_manage_f = false at h
    unfold System.loadcell_step System.send_ui_cmd_msg at h
    simp only at h
    split_ifs at h <;> exact h
  | key e =>
    change (s.key_step e).flag .ui_manage_f = false at h
    unfold System.key_step System.send_ui_cmd_msg at h
    split at h
    · split_ifs at h <;> exact h
    · simp only at h
      split_ifs at h <;> exact h
    · split at h <;> exact h
  | uart c =>
    change (s.uart_step c).flag .ui_manage_f = false at h
    unfold System.uart_step at h
    split at h
    · cases c with
      | letter send => cases send <;> exact h
      | _ => exact h
    · exact h
    · exact h
    · split at h <;> exact h
  | task i => exact absurd rfl (hm i)
  | sense e => exact h

variable {s s' : Managing} {t : Task} {kind : TaskKind} {i : Nat}

/-- A step that brings no manage scenario in hand leaves them apart. -/
theorem Managing.Agrees.apart_of_in_hand (h : s.Agrees)
    (hhand : ∀ u ∈ s'.system.tasks, ∀ k, u.in_hand = some k → ∃ t ∈ s.system.tasks, t.in_hand = some k) :
    ∀ t ∈ s'.system.tasks, ∀ u ∈ s'.system.tasks, t.in_hand = some .ui_manage_start_task →
      u.in_hand ≠ some .ui_manage_finish_task := by
  intro t ht u hu hstarting hfinishing
  obtain ⟨t', ht', hstarting'⟩ := hhand t ht _ hstarting
  obtain ⟨u', hu', hfinishing'⟩ := hhand u hu _ hfinishing
  exact h.apart t' ht' u' hu' hstarting' hfinishing'

/-- What brings nothing in hand keeps what holds of a finish under way. -/
theorem Managing.Agrees.finishing_of_in_hand (h : s.Agrees)
    (hhand : ∀ u ∈ s'.system.tasks, ∀ k, u.in_hand = some k → ∃ t ∈ s.system.tasks, t.in_hand = some k)
    (hbegun : s'.managed.begun = s.managed.begun) :
    ∀ t ∈ s'.system.tasks, t.in_hand = some .ui_manage_finish_task →
      s'.managed.begun = some .ui_manage_finish_task := by
  intro t ht hfinishing
  obtain ⟨t', ht', hfinishing'⟩ := hhand t ht _ hfinishing
  rw [hbegun]
  exact h.finishing t' ht' hfinishing'

/-- A step that brings no manage scenario in hand and takes no start out of it. -/
theorem Managing.Agrees.quiet (h : s.Agrees)
    (hhand : ∀ u ∈ s'.system.tasks, ∀ k, u.in_hand = some k → ∃ t ∈ s.system.tasks, t.in_hand = some k)
    (hback : ⟨.ui_manage_finish_task, .returned⟩ ∈ s'.system.tasks →
      ⟨.ui_manage_finish_task, .returned⟩ ∈ s.system.tasks)
    (hstart : ∀ t ∈ s.system.tasks, t.in_hand = some .ui_manage_start_task →
      ∃ u ∈ s'.system.tasks, u.in_hand = some .ui_manage_start_task)
    (hflag : s'.system.flag .ui_manage_f = false → s.system.flag .ui_manage_f = false)
    (hmanaged : s'.managed = s.managed) : s'.Agrees := by
  refine ⟨h.apart_of_in_hand hhand, h.finishing_of_in_hand hhand (by rw [hmanaged]), ?_, ?_, ?_⟩
  · intro hreturned
    rw [hmanaged]
    exact h.succeeded (hback hreturned)
  · intro hclear
    rw [hmanaged]
    exact h.returned (hflag hclear)
  · intro hclear hnone
    rw [hmanaged]
    refine h.begun (hflag hclear) fun t ht hstarting => ?_
    obtain ⟨u, hu, hstarting'⟩ := hstart t ht hstarting
    exact hnone u hu hstarting'

theorem mem_with_created {s : System} {m : Move} {u : Task} :
    u ∈ s.with_created m ↔ u ∈ s.tasks ∨ ∃ kind, s.creates m = some kind ∧ u = ⟨kind, .created⟩ := by
  unfold System.with_created
  cases s.creates m with
  | none => simp
  | some kind => simp

/-- Only the steps of the scenarios matter to the manage mode. -/
theorem Managing.Agrees.other {m : Move} (h : s.Agrees) (hm : ∀ i, m ≠ .task i) : (s.step m).Agrees := by
  have htasks : (s.step m).system.tasks = s.system.with_created m := step_tasks hm
  have hmanaged : (s.step m).managed = s.managed := by
    cases m with
    | task i => exact absurd rfl (hm i)
    | _ => rfl
  refine h.quiet (fun u hu k hhand => ?_) (fun hback => ?_) (fun t ht hstarting => ?_)
    (step_manage_flag hm) hmanaged
  · rw [htasks] at hu
    obtain hold | ⟨kind, -, rfl⟩ := mem_with_created.mp hu
    · exact ⟨u, hold, hhand⟩
    · rw [in_hand_idle (.inl rfl)] at hhand
      cases hhand
  · rw [htasks] at hback
    obtain hold | ⟨kind, -, hnew⟩ := mem_with_created.mp hback
    · exact hold
    · cases hnew
  · refine ⟨t, ?_, hstarting⟩
    rw [htasks]
    exact mem_with_created.mpr (.inl ht)

/-- The tasks after the step of one of them. -/
theorem mem_task_step {s : System} (hget : s.tasks[i]? = some t) {u : Task} (hu : u ∈ (s.task_step i).tasks) :
    u ∈ s.tasks ∨ u = t.next s.world := by
  rw [task_step_tasks hget] at hu
  exact List.mem_or_eq_of_mem_set hu

theorem next_mem {s : System} (hget : s.tasks[i]? = some t) : t.next s.world ∈ (s.task_step i).tasks := by
  obtain ⟨hi, -⟩ := List.getElem?_eq_some_iff.mp hget
  rw [task_step_tasks hget]
  exact List.mem_set hi _

theorem mem_of_task_step {s : System} (hget : s.tasks[i]? = some t) {u : Task} (hu : u ∈ s.tasks) :
    u = t ∨ u ∈ (s.task_step i).tasks := by
  obtain ⟨j, hj⟩ := List.getElem?_of_mem hu
  by_cases hij : i = j
  · subst hij
    exact .inl (Option.some.inj (hj.symm.trans hget))
  · refine .inr (List.mem_of_getElem? (i := j) ?_)
    rw [task_step_get hget, if_neg hij]
    exact hj

/-- Of the steps of a task one clears `ui_manage_f`, and none sets it. -/
theorem task_step_manage_flag {s : System} (hget : s.tasks[i]? = some t)
    (hclear : t.kind = .ui_manage_finish_task → t.phase ≠ .returned) :
    (s.task_step i).flag .ui_manage_f = s.flag .ui_manage_f := by
  obtain ⟨kind, phase⟩ := t
  have hrun (v : Bool) : (s.setRunFlag kind v).flag .ui_manage_f = s.flag .ui_manage_f := by
    rw [setRunFlag_flag, if_neg (run_flag_ne_manage kind)]
  unfold System.task_step
  rw [hget]
  cases phase with
  | created => exact hrun true
  | running code =>
    cases hresult : code.result with
    | none =>
      simp only [hresult]
      rfl
    | some r =>
      simp only [hresult]
      rfl
  | returned =>
    simp only [if_neg fun hkind => hclear hkind rfl]
    rfl
  | clearing => exact hrun false
  | deleted => rfl

/-- A step of a task that is neither the begin nor the return of a manage scenario nor the clear of the flag. -/
theorem Managing.Agrees.passing (h : s.Agrees) (hget : s.system.tasks[i]? = some t)
    (hhand : (t.next s.system.world).in_hand = t.in_hand)
    (hback : t.kind = .ui_manage_finish_task → (t.next s.system.world).phase ≠ .returned)
    (hclears : t.kind = .ui_manage_finish_task → t.phase ≠ .returned)
    (hmanaged : (s.step (.task i)).managed = s.managed) : (s.step (.task i)).Agrees := by
  have ht : t ∈ s.system.tasks := List.mem_of_getElem? hget
  refine h.quiet (fun u hu k hk => ?_) (fun hreturned => ?_) (fun u hu hstarting => ?_)
    (fun hclear => ?_) hmanaged
  · obtain hold | rfl := mem_task_step hget hu
    · exact ⟨u, hold, hk⟩
    · exact ⟨t, ht, hhand.symm.trans hk⟩
  · obtain hold | hnew := mem_task_step hget hreturned
    · exact hold
    · obtain ⟨hkind, hphase⟩ := Task.mk.inj hnew
      exact absurd hphase.symm (hback hkind.symm)
  · obtain rfl | hmem := mem_of_task_step hget hu
    · exact ⟨_, next_mem hget, hhand.trans hstarting⟩
    · exact ⟨u, hmem, hstarting⟩
  · exact (task_step_manage_flag hget hclears).symm.trans hclear

/-- A manage scenario begins, with no other one in hand. -/
theorem Managing.Agrees.begins (h : s.Agrees) (hget : s.system.tasks[i]? = some ⟨kind, .created⟩)
    (hkind : kind.manages = true) (hok : s.system.orderly (.task i)) : (s.step (.task i)).Agrees := by
  have hbegins : s.system.begins (.task i) = some kind := by simp [System.begins, hget, hkind]
  have hreturns : s.system.returns (.task i) = none := by simp [System.returns, hget]
  have hbegun : (s.step (.task i)).managed.begun = some kind := by simp [Managing.step, hbegins]
  have hreturned : (s.step (.task i)).managed.returned = s.managed.returned := by simp [Managing.step, hreturns]
  have hflag : (s.step (.task i)).system.flag .ui_manage_f = s.system.flag .ui_manage_f :=
    task_step_manage_flag hget nofun
  have hnew : Task.in_hand (Task.next ⟨kind, .created⟩ s.system.world) = some kind := in_hand_of_manages hkind
  have hall (u : Task) (hu : u ∈ (s.step (.task i)).system.tasks) (k : TaskKind) (hk : u.in_hand = some k) :
      k = kind := by
    obtain hold | rfl := mem_task_step hget hu
    · exact hok.apart kind hbegins u hold k hk
    · exact Option.some.inj (hk.symm.trans hnew)
  constructor
  · intro t ht u hu hstarting hfinishing
    cases (hall t ht _ hstarting).trans (hall u hu _ hfinishing).symm
  · intro t ht hfinishing
    rw [hbegun, hall t ht _ hfinishing]
  · intro hback
    rw [hreturned]
    obtain hold | hnext := mem_task_step hget hback
    · exact h.succeeded hold
    · cases hnext
  · intro hclear
    rw [hreturned]
    exact h.returned (hflag.symm.trans hclear)
  · intro _ hnone k hk
    obtain rfl : k = kind := Option.some.inj (hk.symm.trans hbegun)
    obtain rfl | rfl := manages_cases hkind
    · exact absurd hnew (hnone _ (next_mem hget))
    · rfl

/-- A manage scenario returns. -/
theorem Managing.Agrees.returns {code : Code Int} {r : Int} (h : s.Agrees)
    (hget : s.system.tasks[i]? = some ⟨kind, .running code⟩) (hresult : code.result = some r)
    (hkind : kind.manages = true) (hok : s.system.orderly (.task i)) : (s.step (.task i)).Agrees := by
  have ht : ⟨kind, .running code⟩ ∈ s.system.tasks := List.mem_of_getElem? hget
  have hbegins : s.system.begins (.task i) = none := by simp [System.begins, hget]
  have hreturns : s.system.returns (.task i) = some (kind, r) := by simp [System.returns, hget, hkind, hresult]
  have hbegun : (s.step (.task i)).managed.begun = s.managed.begun := by simp [Managing.step, hbegins]
  have hreturned : (s.step (.task i)).managed.returned = some (kind, r) := by simp [Managing.step, hreturns]
  have hflag : (s.step (.task i)).system.flag .ui_manage_f = s.system.flag .ui_manage_f :=
    task_step_manage_flag hget nofun
  have hnext : Task.next ⟨kind, .running code⟩ s.system.world = ⟨kind, .returned⟩ := by
    simp [Task.next, Phase.next, hresult]
  have hmanage := manages_cases hkind
  -- of the start nothing is left in hand, of the finish the clear of the flag
  have hhand (u : Task) (hu : u ∈ (s.step (.task i)).system.tasks) (k : TaskKind) (hk : u.in_hand = some k) :
      ∃ t ∈ s.system.tasks, t.in_hand = some k := by
    obtain hold | rfl := mem_task_step hget hu
    · exact ⟨u, hold, hk⟩
    · rw [hnext] at hk
      obtain rfl | rfl := hmanage
      · cases hk
      · exact ⟨_, ht, hk⟩
  -- with the flag clear it was the finish that returned
  have hsucceeded (hclear : s.system.flag .ui_manage_f = false) : kind = .ui_manage_finish_task ∧ r = 0 := by
    obtain rfl | rfl := hmanage
    · have hset := hok.marked _ hreturns rfl
      rw [hclear] at hset
      cases hset
    · exact ⟨rfl, hok.succeeds _ hreturns rfl⟩
  refine ⟨h.apart_of_in_hand hhand, h.finishing_of_in_hand hhand hbegun, ?_, ?_, ?_⟩
  · intro hback
    rw [hreturned]
    obtain rfl | rfl := hmanage
    · obtain hold | hnew := mem_task_step hget hback
      · exact absurd rfl (h.apart _ ht _ hold rfl)
      · rw [hnext] at hnew
        cases hnew
    · obtain rfl : r = 0 := hok.succeeds _ hreturns rfl
      rfl
  · intro hclear e he
    obtain ⟨rfl, rfl⟩ := hsucceeded (hflag.symm.trans hclear)
    exact Option.some.inj (he.symm.trans hreturned)
  · intro hclear hnone
    obtain ⟨rfl, -⟩ := hsucceeded (hflag.symm.trans hclear)
    rw [hbegun]
    refine h.begun (hflag.symm.trans hclear) fun u hu hstarting => ?_
    obtain rfl | hmem := mem_of_task_step hget hu
    · cases hstarting
    · exact hnone u hmem hstarting

/-- `ui_manage_finish_task` clears the flag. -/
theorem Managing.Agrees.clears (h : s.Agrees)
    (hget : s.system.tasks[i]? = some ⟨.ui_manage_finish_task, .returned⟩) :
    (s.step (.task i)).Agrees := by
  have ht : ⟨.ui_manage_finish_task, .returned⟩ ∈ s.system.tasks := List.mem_of_getElem? hget
  have hmanaged : (s.step (.task i)).managed = s.managed := by
    simp [Managing.step, System.begins, System.returns, hget]
  have hhand (u : Task) (hu : u ∈ (s.step (.task i)).system.tasks) (k : TaskKind) (hk : u.in_hand = some k) :
      ∃ t ∈ s.system.tasks, t.in_hand = some k := by
    obtain hold | rfl := mem_task_step hget hu
    · exact ⟨u, hold, hk⟩
    · cases hk
  refine ⟨h.apart_of_in_hand hhand, h.finishing_of_in_hand hhand (by rw [hmanaged]), ?_, ?_, ?_⟩
  · intro _
    rw [hmanaged]
    exact h.succeeded ht
  · intro _ e he
    rw [hmanaged, h.succeeded ht] at he
    exact (Option.some.inj he).symm
  · intro _ _ k hk
    rw [hmanaged, h.finishing _ ht rfl] at hk
    exact (Option.some.inj hk).symm

/-- A task that begins keeps the mode in order. -/
theorem Managing.Agrees.created (h : s.Agrees) (hget : s.system.tasks[i]? = some ⟨kind, .created⟩)
    (hok : s.system.orderly (.task i)) : (s.step (.task i)).Agrees := by
  cases hkind : kind.manages with
  | true => exact h.begins hget hkind hok
  | false =>
    refine h.passing hget ?_ (by simp [Task.next, Phase.next]) (by simp)
      (by simp [Managing.step, System.begins, System.returns, hget, hkind])
    exact (in_hand_of_not_manages hkind).trans (in_hand_of_not_manages hkind).symm

/-- A step of a scenario on its way keeps the mode in order. -/
theorem Managing.Agrees.running {code : Code Int} (h : s.Agrees)
    (hget : s.system.tasks[i]? = some ⟨kind, .running code⟩) (hok : s.system.orderly (.task i)) :
    (s.step (.task i)).Agrees := by
  cases hresult : code.result with
  | none =>
    have hnext : Task.next ⟨kind, .running code⟩ s.system.world =
        ⟨kind, .running (code.advance Act.perform s.system.world).1⟩ := by
      simp [Task.next, Phase.next, hresult]
    refine h.passing hget ?_ (by simp [hnext]) (by simp)
      (by simp [Managing.step, System.begins, System.returns, hget, hresult])
    rw [hnext]
    cases kind with
    | _ => rfl
  | some r =>
    cases hkind : kind.manages with
    | true => exact h.returns hget hresult hkind hok
    | false =>
      have hnext : Task.next ⟨kind, .running code⟩ s.system.world = ⟨kind, .returned⟩ := by
        simp [Task.next, Phase.next, hresult]
      refine h.passing hget ?_ ?_ (by simp)
        (by simp [Managing.step, System.begins, System.returns, hget, hkind])
      · rw [hnext]
        exact (in_hand_of_not_manages hkind).trans (in_hand_of_not_manages hkind).symm
      · rintro rfl
        cases hkind

/-- So does a step of any task. -/
theorem Managing.Agrees.task_step (i : Nat) (h : s.Agrees) (hok : s.system.orderly (.task i)) :
    (s.step (.task i)).Agrees := by
  cases hget : s.system.tasks[i]? with
  | none =>
    have hsame : s.step (.task i) = s := by
      simp [Managing.step, System.step, System.begins, System.returns, task_step_none hget, hget]
    rw [hsame]
    exact h
  | some t =>
    obtain ⟨kind, phase⟩ := t
    cases phase with
    | created => exact h.created hget hok
    | running code => exact h.running hget hok
    | returned =>
      by_cases hfinish : kind = .ui_manage_finish_task
      · subst hfinish
        exact h.clears hget
      · refine h.passing hget ?_ (fun hkind => absurd hkind hfinish) (fun hkind => absurd hkind hfinish)
          (by simp [Managing.step, System.begins, System.returns, hget])
        cases kind with
        | ui_manage_finish_task => exact absurd rfl hfinish
        | _ => rfl
    | clearing =>
      refine h.passing hget ?_ (by simp [Task.next, Phase.next]) (by simp)
        (by simp [Managing.step, System.begins, System.returns, hget])
      exact (in_hand_idle (.inr (.inr rfl))).trans (in_hand_idle (.inr (.inl rfl))).symm
    | deleted =>
      exact h.passing hget rfl (by simp [Task.next, Phase.next]) (by simp)
        (by simp [Managing.step, System.begins, System.returns, hget])

/-- And so does every move. -/
theorem Managing.Agrees.step (s : Managing) (m : Move) (h : s.Agrees) (hok : s.system.orderly m) :
    (s.step m).Agrees := by
  cases m with
  | task i => exact h.task_step i hok
  | _ => exact h.other nofun

private theorem boot_agrees (word : PtWord) (cfg : ProximityConfig) (diag pairing : Bool) :
    (Managing.boot word cfg diag pairing).Agrees where
  apart := nofun
  finishing := nofun
  succeeded := nofun
  returned _ := nofun
  begun _ _ := nofun

/-- The invariant says that the flag agrees with the mode. -/
theorem Managing.Agrees.flag_agrees (h : s.Agrees) : s.flag_agrees where
  stopped hclear hstopped := by
    refine ⟨h.begun hclear fun t ht hstarting => ?_, h.returned hclear⟩
    cases (Task.active_of_starting hstarting).symm.trans (hstopped t ht)
  admitted hpc hadmits := by
    refine h.returned ?_
    by_contra hset
    unfold System.ui_step at hadmits
    simp [hpc, hset] at hadmits

/-- In every run that keeps the manage mode in order `ui_manage_f` agrees with it: once the flag is
clear and nothing is in progress, and where a clean is admitted, the last manage scenario, if there
was one, was a finish that has succeeded. -/
theorem manage_flag_agrees (word : PtWord) (cfg : ProximityConfig) (diag pairing : Bool) (moves : List Move)
    (hok : Along Managing.step (fun s => s.system.orderly) (Managing.boot word cfg diag pairing) moves) :
    ((Managing.boot word cfg diag pairing).run moves).flag_agrees := by
  have hinvariant : ((Managing.boot word cfg diag pairing).run moves).Agrees :=
    hok.invariant Managing.Agrees.step (boot_agrees word cfg diag pairing)
  exact hinvariant.flag_agrees

/-- A key given once the system is ready, until its command has been taken by `ui_task`. -/
def command_by_key (e : KeyEvent) : List Move := [.key e, .key e] ++ List.replicate 12 .ui

/-- The manage mode is started with the emergency stop of the console set, and its scenario fails. -/
def stopped_start : List Move :=
  List.replicate 132 (.proximity 0 0) ++ List.replicate 8 (.uart .Z) ++ command_by_key .change_3s ++
    List.replicate 80 (.task 0)

/-- Then the stop is cleared, and the manage mode finished with the covers closed. -/
def finish_after_stop : List Move :=
  stopped_start ++ [.uart (.letter none)] ++ command_by_key .change_click ++ List.replicate 80 (.task 1)

theorem finish_after_stop_agrees :
    ((Managing.boot (PT_BIT_SCP_IN ||| PT_BIT_MCOVER_CLOSE) ⟨1500, 10⟩ false false).run
        finish_after_stop).managed.returned = some (.ui_manage_finish_task, 0) ∧
      ((Managing.boot (PT_BIT_SCP_IN ||| PT_BIT_MCOVER_CLOSE) ⟨1500, 10⟩ false false).run
        finish_after_stop).flag_agrees :=
  ⟨by decide +kernel, manage_flag_agrees _ ⟨1500, 10⟩ false false finish_after_stop (by decide +kernel)⟩

/-- The same without the clear: the finish fails as well. -/
def finish_under_stop : List Move :=
  stopped_start ++ command_by_key .change_click ++ List.replicate 80 (.task 1)

theorem failed_finish_clears_flag :
    ¬ ∀ (word : PtWord) (cfg : ProximityConfig) (diag pairing : Bool) (moves : List Move),
    ((Managing.boot word cfg diag pairing).run moves).flag_agrees := by
  intro hall
  have hclear : ((Managing.boot 0 ⟨1500, 10⟩ false false).run finish_under_stop).system.flag .ui_manage_f =
      false := by
    decide +kernel
  have hstopped : ∀ t ∈ ((Managing.boot 0 ⟨1500, 10⟩ false false).run finish_under_stop).system.tasks,
      t.active = false := by
    decide +kernel
  have hfailed : ((Managing.boot 0 ⟨1500, 10⟩ false false).run finish_under_stop).managed.returned =
      some (.ui_manage_finish_task, -1) := by
    decide +kernel
  obtain ⟨-, hreturned⟩ := (hall 0 ⟨1500, 10⟩ false false finish_under_stop).stopped hclear hstopped
  cases hreturned _ hfailed

end catbox.firmware
