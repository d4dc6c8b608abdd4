import CatLitterBox.Firmware.Step
import CatLitterBox.Temporal.Run

open catbox.sensor catbox.motor catbox.loadcell catbox.ui program temporal

namespace catbox.firmware

/-- The task is in its scenario. -/
def Task.active (t : Task) : Bool :=
  match t.phase with
  | .running _ => t.kind.scenario.isSome
  | _ => false

/-- The task is in its scenario or has yet to enter it. -/
def Task.live (t : Task) : Bool :=
  match t.phase with
  | .created | .running _ => t.kind.scenario.isSome
  | _ => false

/-- The flag by which the other tasks can see a scenario of this kind. -/
def TaskKind.scenario_flag (kind : TaskKind) : Option RunFlag := kind.scenario.bind fun _ => kind.run_flag

/-- The flag that a scenario task sets and clears. -/
def Task.owns (t : Task) : Option RunFlag :=
  match t.phase with
  | .deleted => none
  | _ => t.kind.scenario_flag

/-- The flag that a scenario task has set and not yet cleared. -/
def Task.shows (t : Task) : Option RunFlag :=
  match t.phase with
  | .created | .deleted => none
  | _ => t.kind.scenario_flag

def System.recovering (s : System) : Bool :=
  match s.proximity_pc with
  | .recovering _ => true
  | _ => false

/-- The scenarios that are active: those of the tasks, and the recovery at boot as `none`. -/
def System.active (s : System) : Option Nat → Prop
  | none => s.recovering = true
  | some i => ∃ t, s.tasks[i]? = some t ∧ t.active = true

/-- At most one scenario is active. -/
def System.one_active (s : System) : Prop := ∀ x y, s.active x → s.active y → x = y

/-- The scenarios that are active or have yet to become it. -/
def System.live (s : System) : Option Nat → Prop
  | none => s.recovering = true
  | some i => ∃ t, s.tasks[i]? = some t ∧ t.live = true

/-- The flags that `ui_task` has yet to read before it creates a scenario task. -/
def System.ui_rest (s : System) : Option (List (RunFlag × Bool)) :=
  match s.ui_pc with
  | .checking cmd rest => if cmd.task.scenario.isSome then some rest else none
  | .create cmd => if cmd.task.scenario.isSome then some [] else none
  | _ => none

/-- The flags that `proximity_task` has yet to read before it creates `ui_clean_task`. -/
def System.proximity_rest (s : System) : Option (List (RunFlag × Bool)) :=
  match s.proximity_pc with
  | .checking rest => if s.proximity.hardened then some (rest.map (·, false)) else none
  | .act false => if s.proximity.hardened then some [] else none
  | _ => none

/-- No scenario is on its way. -/
def System.none_live (s : System) : Prop := s.recovering = false ∧ ∀ t ∈ s.tasks, t.live = false

/-- Every scenario on its way can be seen by its flag. -/
def System.all_shown (s : System) : Prop :=
  s.recovering = false ∧ ∀ t ∈ s.tasks, t.live = true → t.shows.isSome = true

instance (s : System) : Decidable s.none_live := inferInstanceAs (Decidable (_ ∧ _))

instance (s : System) : Decidable s.all_shown := inferInstanceAs (Decidable (_ ∧ _))

/-- `ui_task` takes a scenario command from its queue. -/
def System.ui_begins (s : System) : Bool :=
  match s.ui_pc, s.ui_cmd_msg with
  | .receive, cmd :: _ => cmd.task.scenario.isSome
  | _, _ => false

/-- `ui_task` creates a scenario task. -/
def System.ui_creates (s : System) : Bool :=
  match s.ui_pc with
  | .create cmd => cmd.task.scenario.isSome
  | _ => false

/-- `proximity_task` begins the turn that starts a clean. -/
def System.proximity_begins (s : System) : Bool :=
  match s.proximity_pc with
  | .turn => s.proximity.hardened
  | _ => false

/-- `proximity_task` creates `ui_clean_task`. -/
def System.proximity_creates (s : System) : Bool :=
  match s.proximity_pc with
  | .act false => s.proximity.hardened
  | _ => false

/-- `proximity_task` starts the recovery at boot. -/
def System.proximity_recovers (s : System) : Bool :=
  match s.proximity_pc with
  | .boot_check => boot_unaligned s.world.pt_value
  | _ => false

/-- The console creates a scenario task. -/
def System.uart_creates (s : System) : Bool :=
  match s.uart_pc with
  | .creating kind => kind.scenario.isSome
  | _ => false

/-- The moves that respect the other starters. A task that reads the flags begins to when
they show every scenario on its way, and what does not read them starts nothing unless no
scenario is on its way. No task starts a scenario while another one is between its first
look at the flags and its own start. -/
def System.excludes (s : System) : Move → Prop
  | .ui => (s.ui_begins = true → s.all_shown) ∧ (s.ui_creates = true → s.proximity_rest = none)
  | .proximity _ _ =>
    (s.proximity_begins = true → s.all_shown) ∧ (s.proximity_creates = true → s.ui_rest = none) ∧
      (s.proximity_recovers = true → s.none_live ∧ s.ui_rest = none)
  | .uart _ => s.uart_creates = true → s.none_live ∧ s.ui_rest = none ∧ s.proximity_rest = none
  | _ => True

instance (s : System) : (m : Move) → Decidable (s.excludes m)
  | .ui => inferInstanceAs (Decidable (_ ∧ _))
  | .proximity _ _ => inferInstanceAs (Decidable (_ ∧ _))
  | .uart _ => inferInstanceAs (Decidable (_ → _))
  | .loadcell _ _ | .key _ | .task _ | .sense _ => .isTrue trivial

/-- No scenario is on its way that the flags of `rest` do not show. -/
def System.Awaits (s : System) (rest : List (RunFlag × Bool)) : Prop :=
  s.recovering = false ∧ ∀ t ∈ s.tasks, t.live = true ∨ t.owns.isSome = true →
    ∃ f, t.shows = some f ∧ (f, false) ∈ rest

/-- The invariant: one scenario at most is on its way, what has set a flag finds it set, and
a starter that is past some of its flags has been shown nothing by them. -/
structure System.Exclusive (s : System) : Prop where
  unique : ∀ x y, s.live x → s.live y → x = y
  distinct : ∀ (i j : Nat) (t u : Task) (f : RunFlag), s.tasks[i]? = some t → s.tasks[j]? = some u →
    t.owns = some f → u.owns = some f → i = j
  shown : ∀ (i : Nat) (t : Task) (f : RunFlag), s.tasks[i]? = some t → t.shows = some f → s.flag f = true
  ui_waits : ∀ rest, s.ui_rest = some rest → s.Awaits rest
  proximity_waits : ∀ rest, s.proximity_rest = some rest → s.Awaits rest
  console : ∀ kind, s.uart_pc = .creating kind → kind.run_flag = none

section Tasks

variable {t : Task} {f : RunFlag}

theorem Task.live_of_active (h : t.active = true) : t.live = true := by
  obtain ⟨kind, phase⟩ := t
  cases phase with
  | running code => exact h
  | _ => cases h

theorem Task.owns_of_shows (h : t.shows = some f) : t.owns = some f := by
  obtain ⟨kind, phase⟩ := t
  cases phase with
  | created => cases h
  | deleted => cases h
  | _ => exact h

theorem Task.scenario_flag_of_owns (h : t.owns = some f) : t.kind.scenario_flag = some f := by
  obtain ⟨kind, phase⟩ := t
  cases phase with
  | deleted => cases h
  | _ => exact h

/-- A task that owns a flag and does not show it has yet to run. -/
theorem Task.shows_or_live_of_owns (h : t.owns = some f) : t.shows = some f ∨ t.live = true := by
  obtain ⟨kind, phase⟩ := t
  cases phase with
  | created =>
    obtain ⟨c, hscenario, -⟩ := Option.bind_eq_some_iff.mp h
    exact .inr (by simp [Task.live, hscenario])
  | deleted => cases h
  | _ => exact .inl h

theorem run_flag_of_scenario_flag {kind : TaskKind} (h : kind.scenario_flag = some f) :
    kind.run_flag = some f := by
  obtain ⟨c, -, hflag⟩ := Option.bind_eq_some_iff.mp h
  exact hflag

/-- Both lists of checks read the flag of every scenario task. -/
theorem scenario_flag_read {kind : TaskKind} (h : kind.scenario_flag = some f) :
    (∀ cmd : UiCmd, (f, false) ∈ cmd.guards) ∧ f ∈ check_operating := by
  have hflag : f = .clean_task_run ∨ f = .manage_finish_task_run ∨ f = .manage_start_task_run := by
    cases kind with
    | _ => cases h <;> simp
  obtain rfl | rfl | rfl := hflag
  · exact ⟨fun cmd => by cases cmd <;> decide, by decide⟩
  · exact ⟨fun cmd => by cases cmd <;> decide, by decide⟩
  · exact ⟨fun cmd => by cases cmd <;> decide, by decide⟩

theorem scenario_flag_ne_manage {kind : TaskKind} (h : kind.scenario_flag = some f) : f ≠ .ui_manage_f := by
  cases kind with
  | _ => cases h <;> simp

/-- The task after a step of its own. -/
def Task.next (t : Task) (world : World) : Task := ⟨t.kind, t.phase.next t.kind world⟩

theorem Task.live_of_next {world : World} (h : (t.next world).live = true) : t.live = true := by
  obtain ⟨kind, phase⟩ := t
  cases phase with
  | created => exact h
  | running code =>
    unfold Task.next Task.live Phase.next at h
    unfold Task.live
    by_cases hresult : code.result.isSome = true
    · simp [hresult] at h
    · simpa [hresult] using h
  | _ => cases h

theorem Task.owns_of_next {world : World} (h : (t.next world).owns = some f) : t.owns = some f := by
  obtain ⟨kind, phase⟩ := t
  cases phase with
  | deleted => cases h
  | clearing => cases h
  | _ =>
    have hflag : kind.scenario_flag = some f := Task.scenario_flag_of_owns h
    exact hflag

theorem Task.shows_next {world : World} (h : t.shows = some f) (hrest : (t.next world).phase ≠ .deleted) :
    (t.next world).shows = some f := by
  obtain ⟨kind, phase⟩ := t
  cases phase with
  | created => cases h
  | running code =>
    have hflag : kind.scenario_flag = some f := h
    unfold Task.next Task.shows Phase.next
    by_cases hresult : code.result.isSome = true
    · simpa [hresult] using hflag
    · simpa [hresult] using hflag
  | returned => exact h
  | clearing => exact absurd rfl hrest
  | deleted => cases h

end Tasks

variable {s s' : System} {rest : List (RunFlag × Bool)}

/-- A step that brings no scenario on its way, and hides none. -/
structure Quiet (s s' : System) : Prop where
  recovering : s'.recovering = true → s.recovering = true
  origin : ∀ (i : Nat) (t' : Task), s'.tasks[i]? = some t' → t'.live = true ∨ t'.owns.isSome = true →
    ∃ t, s.tasks[i]? = some t ∧ (t'.live = true → t.live = true) ∧ (∀ f, t'.owns = some f → t.owns = some f) ∧
      ∀ f, t.shows = some f → t'.shows = some f

theorem Quiet.of_same (htasks : s'.tasks = s.tasks)
    (hrecovering : s'.recovering = true → s.recovering = true) :
    Quiet s s' := by
  refine ⟨hrecovering, ?_⟩
  intro i t hget _
  rw [htasks] at hget
  exact ⟨t, hget, id, fun _ => id, fun _ => id⟩

/-- A list with a new task has the old ones in it, and the new one at its end. -/
theorem created_get {tasks : List Task} {kind : TaskKind} {i : Nat} {t : Task}
    (h : (tasks ++ [⟨kind, .created⟩])[i]? = some t) :
    tasks[i]? = some t ∨ i = tasks.length ∧ t = ⟨kind, .created⟩ := by
  obtain hlt | hge := Nat.lt_or_ge i tasks.length
  · rw [List.getElem?_append_left hlt] at h
    exact .inl h
  · rw [List.getElem?_append_right hge] at h
    obtain ⟨hzero, heq⟩ := List.getElem?_eq_some_iff.mp h
    have hindex : i - tasks.length = 0 := by simpa using hzero
    refine .inr ⟨by omega, ?_⟩
    simpa [hindex] using heq.symm

theorem Quiet.of_created {kind : TaskKind} (hkind : kind.scenario = none)
    (htasks : s'.tasks = s.tasks ++ [⟨kind, .created⟩])
    (hrecovering : s'.recovering = true → s.recovering = true) :
    Quiet s s' := by
  refine ⟨hrecovering, ?_⟩
  intro i t hget hpresent
  rw [htasks] at hget
  obtain hold | ⟨-, rfl⟩ := created_get hget
  · exact ⟨t, hold, id, fun _ => id, fun _ => id⟩
  · obtain hlive | howns := hpresent
    · simp [Task.live, hkind] at hlive
    · simp [Task.owns, TaskKind.scenario_flag, hkind] at howns

theorem Quiet.of_next {i : Nat} {t : Task} {world : World} (hget : s.tasks[i]? = some t)
    (htasks : s'.tasks = s.tasks.set i (t.next world))
    (hrecovering : s'.recovering = true → s.recovering = true) :
    Quiet s s' := by
  refine ⟨hrecovering, ?_⟩
  intro j u hu hpresent
  rw [htasks, List.getElem?_set] at hu
  by_cases hij : i = j
  · subst hij
    obtain ⟨hi, -⟩ := List.getElem?_eq_some_iff.mp hget
    rw [if_pos rfl, if_pos hi] at hu
    obtain rfl : t.next world = u := Option.some.inj hu
    have hrest : (t.next world).phase ≠ .deleted := by
      intro hdeleted
      unfold Task.live Task.owns at hpresent
      rw [hdeleted] at hpresent
      simp at hpresent
    exact ⟨t, hget, Task.live_of_next, fun _ => Task.owns_of_next, fun _ hshows =>
      Task.shows_next hshows hrest⟩
  · rw [if_neg hij] at hu
    exact ⟨u, hu, id, fun _ => id, fun _ => id⟩

/-- Where a starter may go on, it may still do so after a step that starts nothing. -/
theorem System.Awaits.quiet (h : s.Awaits rest) (hq : Quiet s s') : s'.Awaits rest := by
  obtain ⟨hrecovering, hall⟩ := h
  constructor
  · exact eq_false_of_ne_true fun htrue => by simp [hq.recovering htrue] at hrecovering
  · intro t' ht' hpresent
    obtain ⟨i, hget'⟩ := List.getElem?_of_mem ht'
    obtain ⟨t, hget, hlive, howns, hshows⟩ := hq.origin i t' hget' hpresent
    have hbefore : t.live = true ∨ t.owns.isSome = true := by
      obtain hlive' | howns' := hpresent
      · exact .inl (hlive hlive')
      · obtain ⟨f, hf⟩ := Option.isSome_iff_exists.mp howns'
        exact .inr (by rw [howns f hf]; rfl)
    obtain ⟨f, hf, hmem⟩ := hall t (List.mem_of_getElem? hget) hbefore
    exact ⟨f, hshows f hf, hmem⟩

/-- A scenario that all flags show is shown by the checks. -/
theorem System.all_shown.awaits (h : s.all_shown)
    (hread : ∀ (kind : TaskKind) f, kind.scenario_flag = some f → (f, false) ∈ rest) : s.Awaits rest := by
  obtain ⟨hrecovering, hall⟩ := h
  refine ⟨hrecovering, ?_⟩
  intro t ht hpresent
  have hshows : ∃ f, t.shows = some f := by
    obtain hlive | howns := hpresent
    · exact Option.isSome_iff_exists.mp (hall t ht hlive)
    · obtain ⟨f, hf⟩ := Option.isSome_iff_exists.mp howns
      obtain hshows | hlive := Task.shows_or_live_of_owns hf
      · exact ⟨f, hshows⟩
      · exact Option.isSome_iff_exists.mp (hall t ht hlive)
  obtain ⟨f, hf⟩ := hshows
  exact ⟨f, hf, hread t.kind f (Task.scenario_flag_of_owns (Task.owns_of_shows hf))⟩

/-- A flag read as false shows nothing. -/
theorem System.Exclusive.read {f : RunFlag} {v : Bool} (h : s.Exclusive) (hawaits : s.Awaits ((f, v) :: rest))
    (hflag : s.flag f = v) : s.Awaits rest := by
  obtain ⟨hrecovering, hall⟩ := hawaits
  refine ⟨hrecovering, ?_⟩
  intro t ht hpresent
  obtain ⟨g, hg, hmem⟩ := hall t ht hpresent
  refine ⟨g, hg, ?_⟩
  obtain heq | hrest := List.mem_cons.mp hmem
  · obtain ⟨i, hget⟩ := List.getElem?_of_mem ht
    have hset : s.flag g = true := h.shown i t g hget hg
    obtain ⟨rfl, rfl⟩ := Prod.mk.inj heq
    rw [hset] at hflag
    cases hflag
  · exact hrest

/-- Behind the last check no scenario is on its way and no flag is owned. -/
theorem System.Awaits.none_live (h : s.Awaits []) : s.none_live ∧ ∀ t ∈ s.tasks, t.owns = none := by
  obtain ⟨hrecovering, hall⟩ := h
  have habsent (t : Task) (ht : t ∈ s.tasks) : ¬ (t.live = true ∨ t.owns.isSome = true) := by
    intro hpresent
    obtain ⟨f, -, hmem⟩ := hall t ht hpresent
    cases hmem
  refine ⟨⟨hrecovering, ?_⟩, ?_⟩
  · intro t ht
    exact eq_false_of_ne_true fun hlive => habsent t ht (.inl hlive)
  · intro t ht
    cases howns : t.owns with
    | none => rfl
    | some f => exact absurd (.inr (by rw [howns]; rfl)) (habsent t ht)

/-- A quiet step keeps the invariant, if each starter still knows what it has read. -/
theorem System.Exclusive.quiet (h : s.Exclusive) (hq : Quiet s s')
    (hshown : ∀ (i : Nat) (t : Task) f, s'.tasks[i]? = some t → t.shows = some f → s'.flag f = true)
    (hui : ∀ rest, s'.ui_rest = some rest → s.Awaits rest)
    (hproximity : ∀ rest, s'.proximity_rest = some rest → s.Awaits rest)
    (hconsole : ∀ kind, s'.uart_pc = .creating kind → kind.run_flag = none) : s'.Exclusive where
  unique x y hx hy := by
    have hlive (z : Option Nat) (hz : s'.live z) : s.live z := by
      cases z with
      | none => exact hq.recovering hz
      | some i =>
        obtain ⟨t', hget', hlive'⟩ := hz
        obtain ⟨t, hget, hlive, -⟩ := hq.origin i t' hget' (.inl hlive')
        exact ⟨t, hget, hlive hlive'⟩
    exact h.unique x y (hlive x hx) (hlive y hy)
  distinct i j t' u' f hi hj ht' hu' := by
    obtain ⟨t, hget, -, howns, -⟩ := hq.origin i t' hi (.inr (by rw [ht']; rfl))
    obtain ⟨u, hget', -, howns', -⟩ := hq.origin j u' hj (.inr (by rw [hu']; rfl))
    exact h.distinct i j t u f hget hget' (howns f ht') (howns' f hu')
  shown := hshown
  ui_waits rest hrest := (hui rest hrest).quiet hq
  proximity_waits rest hrest := (hproximity rest hrest).quiet hq
  console := hconsole

/-- A scenario task created when none is on its way, and when no starter is past a check. -/
theorem System.Exclusive.created {kind : TaskKind} (h : s.Exclusive) (hnone : s.none_live)
    (hfree : ∀ f, kind.scenario_flag = some f → ∀ t ∈ s.tasks, t.owns ≠ some f)
    (htasks : s'.tasks = s.tasks ++ [⟨kind, .created⟩]) (hrecovering : s'.recovering = false)
    (hflag : s'.flag = s.flag)
    (hui : s'.ui_rest = none) (hproximity : s'.proximity_rest = none)
    (hconsole : ∀ kind, s'.uart_pc = .creating kind → kind.run_flag = none) : s'.Exclusive := by
  have hget (i : Nat) (t : Task) (hi : s'.tasks[i]? = some t) :
      s.tasks[i]? = some t ∨ i = s.tasks.length ∧ t = ⟨kind, .created⟩ := by
    rw [htasks] at hi
    exact created_get hi
  have hlast (x : Option Nat) (hx : s'.live x) : x = some s.tasks.length := by
    cases x with
    | none => cases hrecovering.symm.trans hx
    | some i =>
      obtain ⟨t, hi, hlive⟩ := hx
      obtain hold | ⟨rfl, -⟩ := hget i t hi
      · cases (hnone.2 t (List.mem_of_getElem? hold)).symm.trans hlive
      · rfl
  constructor
  · intro x y hx hy
    rw [hlast x hx, hlast y hy]
  · intro i j t u f hi hj ht hu
    obtain hi' | ⟨hi', rfl⟩ := hget i t hi
    · obtain hj' | ⟨hj', rfl⟩ := hget j u hj
      · exact h.distinct i j t u f hi' hj' ht hu
      · exact absurd ht (hfree f hu t (List.mem_of_getElem? hi'))
    · obtain hj' | ⟨hj', rfl⟩ := hget j u hj
      · exact absurd hu (hfree f ht u (List.mem_of_getElem? hj'))
      · omega
  · intro i t f hi hshows
    obtain hi' | ⟨-, rfl⟩ := hget i t hi
    · rw [hflag]
      exact h.shown i t f hi' hshows
    · cases hshows
  · intro rest hrest
    cases hui.symm.trans hrest
  · intro rest hrest
    cases hproximity.symm.trans hrest
  · exact hconsole

/-- A new task is not shown yet. -/
theorem System.Exclusive.shown_created {kind : TaskKind} (h : s.Exclusive) (i : Nat) (t : Task) (f : RunFlag)
    (hget : (s.tasks ++ [⟨kind, .created⟩])[i]? = some t) (hshows : t.shows = some f) : s.flag f = true := by
  obtain hold | ⟨-, rfl⟩ := created_get hget
  · exact h.shown i t f hold hshows
  · cases hshows

/-- The recovery at boot, begun when no scenario is on its way. -/
theorem System.Exclusive.recovers (h : s.Exclusive) (hnone : s.none_live) (hui : s.ui_rest = none) :
    System.Exclusive { s with proximity_pc := .recovering boot_recovery } := by
  have hlast (x : Option Nat) (hx : System.live { s with proximity_pc := .recovering boot_recovery } x) :
      x = none := by
    cases x with
    | none => rfl
    | some i =>
      obtain ⟨t, hget, hlive⟩ := hx
      cases (hnone.2 t (List.mem_of_getElem? hget)).symm.trans hlive
  constructor
  · intro x y hx hy
    rw [hlast x hx, hlast y hy]
  · exact h.distinct
  · exact h.shown
  · intro rest hrest
    cases hui.symm.trans hrest
  · nofun
  · exact h.console

/-- A step of what neither starts nor runs scenarios. -/
theorem System.Exclusive.frame (h : s.Exclusive) (htasks : s'.tasks = s.tasks) (hflag : s'.flag = s.flag)
    (hui : s'.ui_pc = s.ui_pc) (hpc : s'.proximity_pc = s.proximity_pc)
    (hproximity : s'.proximity = s.proximity)
    (huart : s'.uart_pc = s.uart_pc) : s'.Exclusive := by
  have hrecovering : s'.recovering = s.recovering := by
    unfold System.recovering
    rw [hpc]
  apply h.quiet (.of_same htasks (by rw [hrecovering]; exact id))
  · rw [htasks, hflag]
    exact h.shown
  · unfold System.ui_rest
    rw [hui]
    exact h.ui_waits
  · unfold System.proximity_rest
    rw [hpc, hproximity]
    exact h.proximity_waits
  · rw [huart]
    exact h.console

/-- A turn of the UI task keeps one scenario at most on its way, if it respects the others. -/
theorem System.Exclusive.ui_step (h : s.Exclusive) (hok : s.excludes .ui) : s.ui_step.Exclusive := by
  obtain ⟨hbegins, hcreates⟩ := hok
  unfold System.ui_step
  cases hpc : s.ui_pc with
  | receive =>
    cases hqueue : s.ui_cmd_msg with
    | nil => exact h
    | cons cmd queue =>
      refine h.quiet (.of_same rfl id) h.shown ?_ h.proximity_waits h.console
      intro rest hrest
      simp only [System.ui_rest] at hrest
      split_ifs at hrest with hscenario
      obtain rfl := Option.some.inj hrest
      have hshown : s.all_shown := hbegins (by simp [System.ui_begins, hpc, hqueue, hscenario])
      exact hshown.awaits fun kind f hf => (scenario_flag_read hf).1 cmd
  | checking cmd rest =>
    cases rest with
    | nil =>
      refine h.quiet (.of_same rfl id) h.shown ?_ h.proximity_waits h.console
      intro rest hrest
      apply h.ui_waits rest
      simpa [System.ui_rest, hpc] using hrest
    | cons g rest =>
      obtain ⟨f, v⟩ := g
      by_cases hflag : s.flag f = v
      · simp only [if_pos hflag]
        refine h.quiet (.of_same rfl id) h.shown ?_ h.proximity_waits h.console
        intro rest' hrest
        simp only [System.ui_rest] at hrest
        split_ifs at hrest with hscenario
        obtain rfl := Option.some.inj hrest
        have hawaits : s.Awaits ((f, v) :: rest) := h.ui_waits _ (by simp [System.ui_rest, hpc, hscenario])
        exact h.read hawaits hflag
      · simp only [if_neg hflag]
        exact h.quiet (.of_same rfl id) h.shown nofun h.proximity_waits h.console
  | create cmd =>
    have hleaves (t : System) (ht : t.ui_pc = if cmd = .UI_MANAGE_START_CMD then .mark else .receive) :
        t.ui_rest = none := by
      unfold System.ui_rest
      rw [ht]
      split_ifs <;> rfl
    by_cases hscenario : cmd.task.scenario.isSome = true
    · have hawaits : s.Awaits [] := h.ui_waits [] (by simp [System.ui_rest, hpc, hscenario])
      obtain ⟨hnone, hfree⟩ := hawaits.none_live
      have hproximity : s.proximity_rest = none := hcreates (by simp [System.ui_creates, hpc, hscenario])
      refine h.created hnone ?_ rfl hnone.1 rfl (hleaves _ rfl) hproximity h.console
      intro f _ t ht
      rw [hfree t ht]
      simp
    · have hkind : cmd.task.scenario = none := by simpa using hscenario
      refine h.quiet (.of_created hkind rfl id) h.shown_created ?_ h.proximity_waits h.console
      intro rest hrest
      cases (hleaves _ rfl).symm.trans hrest
  | mark =>
    refine h.quiet (.of_same rfl id) ?_ nofun h.proximity_waits h.console
    intro i t f hi hshows
    have hset : s.flag f = true := h.shown i t f hi hshows
    simp only [System.setFlag, Function.update_apply]
    split_ifs
    · rfl
    · exact hset

private theorem proximity_act_frame (operating : Bool) (weight weight_again : ℚ) :
    (s.proximity_act operating weight weight_again).flag = s.flag ∧
      (s.proximity_act operating weight weight_again).ui_rest = s.ui_rest ∧
      (s.proximity_act operating weight weight_again).uart_pc = s.uart_pc ∧
      (s.proximity_act operating weight weight_again).recovering = false ∧
      (s.proximity_act operating weight weight_again).proximity_rest = none := by
  unfold System.proximity_act
  simp only
  split_ifs <;> exact ⟨rfl, rfl, rfl, rfl, rfl⟩

/-- So does a turn of the proximity task that is past its tests. -/
theorem System.Exclusive.proximity_act {operating : Bool} (weight weight_again : ℚ) (h : s.Exclusive)
    (hpc : s.proximity_pc = .act operating)
    (hok : s.proximity_creates = true → s.ui_rest = none) :
    (s.proximity_act operating weight weight_again).Exclusive := by
  obtain ⟨hflag, hui, huart, hrecovering, hleaves⟩ :=
    proximity_act_frame (s := s) operating weight weight_again
  have htasks : (s.proximity_act operating weight weight_again).tasks =
      s.with_created (.proximity weight weight_again) := by
    have hstep := proximity_step_tasks (s := s) weight weight_again
    unfold System.proximity_step at hstep
    simpa only [hpc] using hstep
  by_cases hcreates : operating = false ∧ s.proximity.hardened
  · obtain ⟨rfl, hhardened⟩ := hcreates
    have hawaits : s.Awaits [] := h.proximity_waits [] (by simp [System.proximity_rest, hpc, hhardened])
    obtain ⟨hnone, hfree⟩ := hawaits.none_live
    have hrest : s.ui_rest = none := hok (by simp [System.proximity_creates, hpc, hhardened])
    have hadded : s.with_created (.proximity weight weight_again) =
        s.tasks ++ [⟨.ui_clean_task, .created⟩] := by
      simp [System.with_created, System.creates, hpc, hhardened]
    refine h.created hnone ?_ (htasks.trans hadded) hrecovering hflag (hui.trans hrest) hleaves ?_
    · intro f _ t ht
      rw [hfree t ht]
      simp
    · rw [huart]
      exact h.console
  · have hsame : s.with_created (.proximity weight weight_again) = s.tasks := by
      unfold System.with_created System.creates
      rw [hpc]
      cases operating with
      | true => simp
      | false =>
        have hhardened : ¬ s.proximity.hardened := fun hh => hcreates ⟨rfl, hh⟩
        simp [hhardened]
    have hq : Quiet s (s.proximity_act operating weight weight_again) := by
      refine .of_same (htasks.trans hsame) ?_
      rw [hrecovering]
      nofun
    apply h.quiet hq
    · rw [htasks, hsame, hflag]
      exact h.shown
    · rw [hui]
      exact h.ui_waits
    · rw [hleaves]
      nofun
    · rw [huart]
      exact h.console

/-- So does each of its turns. -/
theorem System.Exclusive.proximity_step (weight weight_again : ℚ) (h : s.Exclusive)
    (hok : s.excludes (.proximity weight weight_again)) :
    (s.proximity_step weight weight_again).Exclusive := by
  obtain ⟨hbegins, hcreates, hrecovers⟩ := hok
  unfold System.proximity_step
  cases hpc : s.proximity_pc with
  | turn =>
    refine h.quiet (.of_same rfl nofun) h.shown h.ui_waits ?_ h.console
    intro rest hrest
    simp only [System.proximity_rest] at hrest
    split_ifs at hrest with hhardened
    obtain rfl := Option.some.inj hrest
    have hshown : s.all_shown := hbegins (by simp [System.proximity_begins, hpc, hhardened])
    exact hshown.awaits fun kind f hf => List.mem_map_of_mem (scenario_flag_read hf).2
  | checking rest =>
    cases rest with
    | nil =>
      refine h.quiet (.of_same rfl nofun) h.shown h.ui_waits ?_ h.console
      intro rest hrest
      apply h.proximity_waits rest
      simpa [System.proximity_rest, hpc] using hrest
    | cons f rest =>
      by_cases hflag : s.flag f = true
      · simp only [if_pos hflag]
        exact h.quiet (.of_same rfl nofun) h.shown h.ui_waits nofun h.console
      · simp only [if_neg hflag]
        refine h.quiet (.of_same rfl nofun) h.shown h.ui_waits ?_ h.console
        intro rest' hrest
        simp only [System.proximity_rest] at hrest
        split_ifs at hrest with hhardened
        obtain rfl := Option.some.inj hrest
        have hawaits : s.Awaits ((f, false) :: rest.map (·, false)) :=
          h.proximity_waits _ (by simp [System.proximity_rest, hpc, hhardened])
        exact h.read hawaits (eq_false_of_ne_true hflag)
  | act operating => exact h.proximity_act weight weight_again hpc hcreates
  | boot_check =>
    by_cases hunaligned : boot_unaligned s.world.pt_value = true
    · obtain ⟨hnone, hui⟩ := hrecovers (by simp [System.proximity_recovers, hpc, hunaligned])
      simp only [if_pos hunaligned]
      exact h.recovers hnone hui
    · simp only [if_neg hunaligned]
      exact h.quiet (.of_same rfl nofun) h.shown h.ui_waits nofun h.console
  | recovering code =>
    have hbefore : s.recovering = true := by simp [System.recovering, hpc]
    cases hresult : code.result with
    | none =>
      simp only [hresult]
      exact h.quiet (.of_same rfl fun _ => hbefore) h.shown h.ui_waits nofun h.console
    | some r =>
      simp only [hresult]
      exact h.quiet (.of_same rfl nofun) h.shown h.ui_waits nofun h.console

/-- So does a key: it asks, but starts nothing. -/
theorem System.Exclusive.key_step (e : KeyEvent) (h : s.Exclusive) : (s.key_step e).Exclusive := by
  unfold System.key_step System.send_ui_cmd_msg
  split
  · split_ifs
    · exact h.frame rfl rfl rfl rfl rfl rfl
    · exact h
  · split_ifs
    · exact h.frame rfl rfl rfl rfl rfl rfl
    · exact h.frame rfl rfl rfl rfl rfl rfl
  · split
    · exact h.frame rfl rfl rfl rfl rfl rfl
    · exact h.frame rfl rfl rfl rfl rfl rfl

/-- So does the load cell task. -/
theorem System.Exclusive.loadcell_step (weight : ℚ) (now : Int) (h : s.Exclusive) :
    (s.loadcell_step weight now).Exclusive := by
  unfold System.loadcell_step System.send_ui_cmd_msg
  simp only
  split_ifs
  · exact h.frame rfl rfl rfl rfl rfl rfl
  · exact h.frame rfl rfl rfl rfl rfl rfl
  · exact h.frame rfl rfl rfl rfl rfl rfl

/-- A step of the console that creates nothing yet. -/
theorem System.Exclusive.console_frame (h : s.Exclusive) (htasks : s'.tasks = s.tasks)
    (hflag : s'.flag = s.flag)
    (hui : s'.ui_rest = s.ui_rest) (hrecovering : s'.recovering = s.recovering)
    (hproximity : s'.proximity_rest = s.proximity_rest)
    (hconsole : ∀ kind, s'.uart_pc = .creating kind → kind.run_flag = none) : s'.Exclusive := by
  refine h.quiet (.of_same htasks (by rw [hrecovering]; exact id)) ?_ ?_ ?_ hconsole
  · rw [htasks, hflag]
    exact h.shown
  · rw [hui]
    exact h.ui_waits
  · rw [hproximity]
    exact h.proximity_waits

/-- So does what a command of the console writes. -/
theorem System.Exclusive.command (c : Command) (h : s.Exclusive) : (s.command c).Exclusive := by
  cases c with
  | J =>
    refine h.console_frame rfl rfl rfl rfl rfl ?_
    rintro kind ⟨⟩
    rfl
  | S =>
    refine h.console_frame rfl rfl rfl rfl rfl ?_
    rintro kind ⟨⟩
    rfl
  | W => exact h.console_frame rfl rfl rfl rfl rfl nofun
  | Z => exact h.console_frame rfl rfl rfl rfl rfl nofun
  | letter send => cases send with
    | none => exact h.frame rfl rfl rfl rfl rfl rfl
    | some m => exact h.frame rfl rfl rfl rfl rfl rfl
  | direct mt msg => exact h.frame rfl rfl rfl rfl rfl rfl

/-- So does a command, if it respects the others. -/
theorem System.Exclusive.uart_step (c : Command) (h : s.Exclusive) (hok : s.excludes (.uart c)) :
    (s.uart_step c).Exclusive := by
  unfold System.uart_step
  cases hpc : s.uart_pc with
  | read => exact h.command c
  | test_running =>
    refine h.console_frame rfl rfl rfl rfl rfl ?_
    intro kind hkind
    simp only at hkind
    split_ifs at hkind
    cases hkind
    rfl
  | creating kind =>
    have hflag : kind.run_flag = none := h.console kind hpc
    by_cases hscenario : kind.scenario.isSome = true
    · obtain ⟨hnone, hui, hproximity⟩ := hok (by simp [System.uart_creates, hpc, hscenario])
      refine h.created hnone ?_ rfl hnone.1 rfl hui hproximity nofun
      intro f hf
      cases hflag.symm.trans (run_flag_of_scenario_flag hf)
    · have hkind : kind.scenario = none := by simpa using hscenario
      exact h.quiet (.of_created hkind rfl id) h.shown_created h.ui_waits h.proximity_waits nofun
  | executing code =>
    cases hresult : code.result with
    | none =>
      simp only [hresult]
      exact h.console_frame rfl rfl rfl rfl rfl nofun
    | some r =>
      simp only [hresult]
      exact h.console_frame rfl rfl rfl rfl rfl nofun

/-- A task writes no run flag but its own. -/
theorem setRunFlag_flag (kind : TaskKind) (v : Bool) (f : RunFlag) :
    (s.setRunFlag kind v).flag f = if kind.run_flag = some f then v else s.flag f := by
  unfold System.setRunFlag
  cases hflag : kind.run_flag with
  | none => simp
  | some g =>
    simp only [System.setFlag, Function.update_apply, Option.some.injEq]
    by_cases hf : f = g
    · simp [hf]
    · rw [if_neg hf, if_neg fun hg => hf hg.symm]

/-- A step of one task leaves the others where they are. -/
theorem task_step_get {i : Nat} {t : Task} (hget : s.tasks[i]? = some t) (j : Nat) :
    (s.task_step i).tasks[j]? = if i = j then some (t.next s.world) else s.tasks[j]? := by
  obtain ⟨hi, -⟩ := List.getElem?_eq_some_iff.mp hget
  rw [task_step_tasks hget, List.getElem?_set]
  by_cases hij : i = j
  · subst hij
    rw [if_pos rfl, if_pos hi, if_pos rfl]
    rfl
  · rw [if_neg hij, if_neg hij]

/-- A step of a task: its flag is set before it is shown, and cleared by its only owner. -/
theorem System.Exclusive.task_step_shown {i : Nat} {t : Task} (h : s.Exclusive) (hget : s.tasks[i]? = some t)
    (j : Nat) (u : Task) (f : RunFlag) (hu : (s.task_step i).tasks[j]? = some u) (hshows : u.shows = some f) :
    (s.task_step i).flag f = true := by
  have hwhere : i ≠ j ∧ s.tasks[j]? = some u ∨ u = t.next s.world := by
    rw [task_step_get hget] at hu
    split_ifs at hu with hij
    · exact .inr (Option.some.inj hu).symm
    · exact .inl ⟨hij, hu⟩
  have hkind : u.kind.scenario_flag = some f := Task.scenario_flag_of_owns (Task.owns_of_shows hshows)
  obtain ⟨kind, phase⟩ := t
  unfold System.task_step
  rw [hget]
  cases phase with
  | created =>
    change (s.setRunFlag kind true).flag f = true
    rw [setRunFlag_flag]
    split_ifs with hf
    · rfl
    · obtain ⟨-, hold⟩ | rfl := hwhere
      · exact h.shown j u f hold hshows
      · exact absurd (run_flag_of_scenario_flag hkind) hf
  | running code =>
    have hbefore : s.flag f = true := by
      obtain ⟨-, hold⟩ | rfl := hwhere
      · exact h.shown j u f hold hshows
      · exact h.shown i _ f hget hkind
    cases hresult : code.result with
    | none =>
      simp only [hresult]
      exact hbefore
    | some r =>
      simp only [hresult]
      exact hbefore
  | returned =>
    have hbefore : s.flag f = true := by
      obtain ⟨-, hold⟩ | rfl := hwhere
      · exact h.shown j u f hold hshows
      · exact h.shown i _ f hget hkind
    have hmanage : f ≠ .ui_manage_f := scenario_flag_ne_manage hkind
    simp only [System.setPhase]
    split_ifs
    · simpa [System.setFlag, Function.update_apply, hmanage] using hbefore
    · exact hbefore
  | clearing =>
    obtain ⟨hij, hold⟩ | rfl := hwhere
    · change (s.setRunFlag kind false).flag f = true
      rw [setRunFlag_flag]
      split_ifs with hf
      · obtain rfl : u.kind = kind := TaskKind.run_flag_injective (run_flag_of_scenario_flag hkind) hf
        exact absurd (h.distinct i j _ u f hget hold hkind (Task.owns_of_shows hshows)) hij
      · exact h.shown j u f hold hshows
    · cases hshows
  | deleted =>
    obtain ⟨-, hold⟩ | rfl := hwhere
    · exact h.shown j u f hold hshows
    · cases hshows

private theorem task_step_frame (i : Nat) :
    (s.task_step i).ui_rest = s.ui_rest ∧ (s.task_step i).recovering = s.recovering ∧
      (s.task_step i).proximity_rest = s.proximity_rest ∧ (s.task_step i).uart_pc = s.uart_pc := by
  have hflag (kind : TaskKind) (v : Bool) (phase : Phase) :
      ((s.setRunFlag kind v).setPhase i kind phase).ui_rest = s.ui_rest ∧
      ((s.setRunFlag kind v).setPhase i kind phase).recovering = s.recovering ∧
      ((s.setRunFlag kind v).setPhase i kind phase).proximity_rest = s.proximity_rest ∧
      ((s.setRunFlag kind v).setPhase i kind phase).uart_pc = s.uart_pc := by
    unfold System.setRunFlag
    split <;> exact ⟨rfl, rfl, rfl, rfl⟩
  unfold System.task_step
  split
  · exact ⟨rfl, rfl, rfl, rfl⟩
  · exact hflag _ _ _
  · split <;> exact ⟨rfl, rfl, rfl, rfl⟩
  · split_ifs <;> exact ⟨rfl, rfl, rfl, rfl⟩
  · exact hflag _ _ _
  · exact ⟨rfl, rfl, rfl, rfl⟩

/-- A step of a scenario keeps one at most on its way. -/
theorem System.Exclusive.task_step (i : Nat) (h : s.Exclusive) : (s.task_step i).Exclusive := by
  cases hget : s.tasks[i]? with
  | none =>
    rw [task_step_none hget]
    exact h
  | some t =>
    obtain ⟨hui, hrecovering, hproximity, huart⟩ := task_step_frame (s := s) i
    have hq : Quiet s (s.task_step i) := .of_next hget (task_step_tasks hget) (by rw [hrecovering]; exact id)
    apply h.quiet hq (h.task_step_shown hget)
    · rw [hui]
      exact h.ui_waits
    · rw [hproximity]
      exact h.proximity_waits
    · rw [huart]
      exact h.console

/-- Every move that respects the other starters keeps the exclusion. -/
theorem System.Exclusive.step (s : System) (m : Move) (h : s.Exclusive) (hok : s.excludes m) :
    (s.step m).Exclusive := by
  cases m with
  | ui => exact h.ui_step hok
  | proximity weight weight_again => exact h.proximity_step weight weight_again hok
  | loadcell weight now => exact h.loadcell_step weight now
  | key e => exact h.key_step e
  | uart c => exact h.uart_step c hok
  | task i => exact h.task_step i
  | sense e => exact h.frame rfl rfl rfl rfl rfl rfl

private theorem boot_exclusive (word : PtWord) (cfg : ProximityConfig) (diag pairing : Bool) :
    (System.boot word cfg diag pairing).Exclusive := by
  have hnone (x : Option Nat) (hx : (System.boot word cfg diag pairing).live x) : False := by
    cases x with
    | none => cases hx
    | some i =>
      obtain ⟨t, hget, -⟩ := hx
      cases hget
  constructor
  · intro x _ hx _
    exact (hnone x hx).elim
  · intro i j t u f hget
    cases hget
  · intro i t f hget
    cases hget
  · nofun
  · nofun
  · nofun

/-- The invariant says that one scenario at most is on its way. -/
theorem System.Exclusive.one_active (h : s.Exclusive) : s.one_active := by
  have hlive (z : Option Nat) (hz : s.active z) : s.live z := by
    cases z with
    | none => exact hz
    | some i =>
      obtain ⟨t, hget, hactive⟩ := hz
      exact ⟨t, hget, Task.live_of_active hactive⟩
  intro x y hx hy
  exact h.unique x y (hlive x hx) (hlive y hy)

/-- In every run whose moves respect the other starters at most one scenario is active. The tests of
the starters are not atomic with what they start, so this is about every interleaving of the tasks,
with a scenario between its creation and its first step counted as well as one that has begun. -/
theorem scenarios_exclude (word : PtWord) (cfg : ProximityConfig) (diag pairing : Bool) (moves : List Move)
    (hok : Along System.step System.excludes (System.boot word cfg diag pairing) moves) :
    ((System.boot word cfg diag pairing).run moves).one_active := by
  have hinvariant : ((System.boot word cfg diag pairing).run moves).Exclusive :=
    hok.invariant System.Exclusive.step (boot_exclusive word cfg diag pairing)
  exact hinvariant.one_active

/-- A visit, the UI_CLEAN_CMD of the load-cell FSM after it, and the start of the clean. -/
def visit_clean : List Move :=
  List.replicate 30 (.loadcell 0 0) ++ [.loadcell 2000 0, .loadcell 0 1000000, .loadcell 0 181000000] ++
    List.replicate 10 .ui ++ [.task 0]

theorem visit_clean_excludes : ((System.boot 0 ⟨1500, 10⟩ false false).run visit_clean).active (some 0) ∧
    ((System.boot 0 ⟨1500, 10⟩ false false).run visit_clean).one_active := by
  have hactive : ∃ t ∈ ((System.boot 0 ⟨1500, 10⟩ false false).run visit_clean).tasks[0]?,
      t.active = true := by
    decide +kernel
  exact ⟨hactive, scenarios_exclude 0 ⟨1500, 10⟩ false false visit_clean (by decide +kernel)⟩

/-- The console command J, given again while the clean it started is active. -/
def console_cleans : List Move := [.uart .J, .uart .J, .task 0, .uart .J, .uart .J, .task 1]

theorem console_cleans_overlap :
    ¬ ∀ (word : PtWord) (cfg : ProximityConfig) (diag pairing : Bool) (moves : List Move),
    ((System.boot word cfg diag pairing).run moves).one_active := by
  intro hall
  have hfirst : ∃ t ∈ ((System.boot 0 ⟨1500, 10⟩ false false).run console_cleans).tasks[0]?,
      t.active = true := by
    decide +kernel
  have hsecond : ∃ t ∈ ((System.boot 0 ⟨1500, 10⟩ false false).run console_cleans).tasks[1]?,
      t.active = true := by
    decide +kernel
  cases hall 0 ⟨1500, 10⟩ false false console_cleans (some 0) (some 1) hfirst hsecond

end catbox.firmware
