import CatLitterBox.Firmware.Step
import CatLitterBox.Temporal.Run

open catbox.sensor catbox.motor catbox.loadcell catbox.ui temporal

namespace catbox.loadcell

/-- The call lets the cat enter: it is not frozen and resets nothing, and in IDLE or
WAIT_CLEAN it takes a sample at or above the baseline plus the entry threshold. -/
structure CatFsm.enters (s : CatFsm) (c : Call) : Prop where
  thawed : c.frozen = false
  kept : s.g_prev_clean_running = false
  waits : s.g_cat_state = .CAT_STATE_WAIT_CLEAN ∨
    s.g_cat_state = .CAT_STATE_IDLE ∧ ¬ c.current_weight ≤ s.g_baseline_weight - CAT_ENTRY_THRESHOLD_G
  entry : (s.push c.current_weight).entry c.current_weight

instance (s : CatFsm) (c : Call) : Decidable (s.enters c) :=
  decidable_of_iff (c.frozen = false ∧ s.g_prev_clean_running = false ∧
      (s.g_cat_state = .CAT_STATE_WAIT_CLEAN ∨
        s.g_cat_state = .CAT_STATE_IDLE ∧ ¬ c.current_weight ≤ s.g_baseline_weight - CAT_ENTRY_THRESHOLD_G) ∧
      (s.push c.current_weight).entry c.current_weight)
    ⟨fun ⟨h₁, h₂, h₃, h₄⟩ => ⟨h₁, h₂, h₃, h₄⟩, fun ⟨h₁, h₂, h₃, h₄⟩ => ⟨h₁, h₂, h₃, h₄⟩⟩

variable {s : CatFsm} {c : Call}

private theorem fsm_switch_occupied_iff (h : s.g_cat_state ≠ .CAT_STATE_OCCUPIED) :
    (fsm_switch s c).1.g_cat_state = .CAT_STATE_OCCUPIED ↔
      (s.g_cat_state = .CAT_STATE_WAIT_CLEAN ∨
        s.g_cat_state = .CAT_STATE_IDLE ∧ ¬ c.current_weight ≤ s.g_baseline_weight - CAT_ENTRY_THRESHOLD_G) ∧
      (s.push c.current_weight).entry c.current_weight := by
  unfold fsm_switch
  cases hstate : s.g_cat_state with
  | CAT_STATE_INIT =>
    have hkept : (s.push c.current_weight).g_cat_state = .CAT_STATE_INIT := hstate
    simp only
    split_ifs <;> simp [hkept]
  | CAT_STATE_IDLE =>
    have hkept : (s.push c.current_weight).g_cat_state = .CAT_STATE_IDLE := hstate
    simp only
    split_ifs with hleft hentry
    · simp [hleft, reset_cat_ring_buffer]
    · simp [hleft, hentry]
    · simp [hentry, hkept]
  | CAT_STATE_OCCUPIED => exact absurd hstate h
  | CAT_STATE_WAIT_CLEAN =>
    have hkept : (s.push c.current_weight).g_cat_state = .CAT_STATE_WAIT_CLEAN := hstate
    simp only
    split_ifs with hentry helapsed
    · simp [hentry]
    · simp [hentry]
    · simp [hentry, hkept]

/-- A call comes to OCCUPIED exactly by an entry of the cat. -/
theorem process_occupied_iff (h : s.g_cat_state ≠ .CAT_STATE_OCCUPIED) :
    (process_cat_detection_fsm s c).1.g_cat_state = .CAT_STATE_OCCUPIED ↔ s.enters c := by
  have hreset : (fsm_reset s c).g_cat_state ≠ .CAT_STATE_OCCUPIED := by
    obtain hsame | hinit := fsm_reset_state (s := s) (c := c)
    · rwa [hsame]
    · rw [hinit]
      simp
  unfold process_cat_detection_fsm
  by_cases hfrozen : c.frozen = true
  · rw [if_pos hfrozen]
    constructor
    · intro hoccupied
      exact absurd hoccupied hreset
    · intro henters
      rw [henters.thawed] at hfrozen
      cases hfrozen
  · have hthawed : c.frozen = false := eq_false_of_ne_true hfrozen
    have hstopped : c.clean_running = false := by
      unfold Call.frozen at hthawed
      simp only [Bool.or_eq_false_iff] at hthawed
      exact hthawed.1.1
    rw [if_neg hfrozen, fsm_switch_occupied_iff hreset]
    cases hprev : s.g_prev_clean_running with
    | true =>
      have hinit : (fsm_reset s c).g_cat_state = .CAT_STATE_INIT := by
        unfold fsm_reset
        rw [hprev, hstopped]
        rfl
      rw [hinit]
      constructor
      · rintro ⟨hwaits | ⟨hidle, -⟩, -⟩
        · cases hwaits
        · cases hidle
      · intro henters
        cases hprev.symm.trans henters.kept
    | false =>
      have hsame : fsm_reset s c = { s with g_prev_clean_running := c.clean_running } := by
        unfold fsm_reset
        rw [hprev]
        rfl
      rw [hsame]
      constructor
      · rintro ⟨hwaits, hentry⟩
        exact ⟨hthawed, hprev, hwaits, hentry⟩
      · intro henters
        exact ⟨henters.waits, henters.entry⟩

end catbox.loadcell

namespace catbox.firmware

/-- A task that calls `do_clean` in its next step. -/
def Task.about_to_clean (t : Task) : Bool :=
  match t.phase with
  | .created => t.kind.scenario = some .do_clean
  | _ => false

def System.clean_pending (s : System) : Prop := ∃ t ∈ s.tasks, t.about_to_clean = true

instance (s : System) : Decidable s.clean_pending := inferInstanceAs (Decidable (∃ t ∈ s.tasks, _))

/-- What the load-cell FSM is given in a move. -/
def System.sampled (s : System) : Move → Option Call
  | .loadcell weight now => some (s.call weight now)
  | _ => none

/-- The moves that spare the cat: a task for `do_clean` is not created in OCCUPIED, and
the cat does not enter between the creation of such a task and its first step. -/
structure System.spares_cat (s : System) (m : Move) : Prop where
  created : ∀ kind ∈ s.creates m, kind.scenario = some .do_clean → s.fsm.g_cat_state ≠ .CAT_STATE_OCCUPIED
  entered : s.clean_pending → ∀ c ∈ s.sampled m, ¬ s.fsm.enters c

instance (s : System) (m : Move) : Decidable (s.spares_cat m) :=
  decidable_of_iff
    ((∀ kind ∈ s.creates m, kind.scenario = some .do_clean → s.fsm.g_cat_state ≠ .CAT_STATE_OCCUPIED) ∧
      (s.clean_pending → ∀ c ∈ s.sampled m, ¬ s.fsm.enters c))
    ⟨fun ⟨h₁, h₂⟩ => ⟨h₁, h₂⟩, fun ⟨h₁, h₂⟩ => ⟨h₁, h₂⟩⟩

variable {s : System} {m : Move}

/-- No task for `do_clean` is pending while the cat is on board. -/
def System.cat_spared (s : System) : Prop := s.clean_pending → s.fsm.g_cat_state ≠ .CAT_STATE_OCCUPIED

theorem about_to_clean_iff {t : Task} :
    t.about_to_clean = true ↔ t.phase = .created ∧ t.kind.scenario = some .do_clean := by
  obtain ⟨kind, phase⟩ := t
  cases phase with
  | created => simp [Task.about_to_clean]
  | _ => simp [Task.about_to_clean]

/-- A clean can start exactly when one is pending. -/
theorem starts_clean_iff : (∃ m, s.starts_clean m) ↔ s.clean_pending := by
  constructor
  · rintro ⟨m, hstarts⟩
    cases m with
    | task i =>
      obtain ⟨kind, hget, hscenario⟩ := hstarts
      exact ⟨⟨kind, .created⟩, List.mem_of_getElem? hget, about_to_clean_iff.mpr ⟨rfl, hscenario⟩⟩
    | _ => exact hstarts.elim
  · rintro ⟨⟨kind, phase⟩, ht, habout⟩
    obtain ⟨hphase, hscenario⟩ := about_to_clean_iff.mp habout
    obtain rfl : phase = .created := hphase
    obtain ⟨i, hget⟩ := List.getElem?_of_mem ht
    exact ⟨.task i, kind, hget, hscenario⟩

private theorem next_ne_created {kind : TaskKind} {world : World} {phase : Phase} :
    phase.next kind world ≠ .created := by
  unfold Phase.next
  split
  · nofun
  · split_ifs <;> nofun
  all_goals nofun

/-- A step of a task leaves no other clean pending than were pending before. -/
theorem clean_pending_of_task_step {i : Nat} (h : (s.task_step i).clean_pending) : s.clean_pending := by
  cases hget : s.tasks[i]? with
  | none =>
    rw [task_step_none hget] at h
    exact h
  | some t =>
    obtain ⟨u, hu, habout⟩ := h
    rw [task_step_tasks hget] at hu
    obtain hold | rfl := List.mem_or_eq_of_mem_set hu
    · exact ⟨u, hold, habout⟩
    · exact absurd (about_to_clean_iff.mp habout).1 next_ne_created

/-- A clean is pending after a move if one was before, or the move created its task. -/
theorem clean_pending_iff (hm : ∀ i, m ≠ .task i) :
    (s.step m).clean_pending ↔ s.clean_pending ∨ ∃ kind ∈ s.creates m, kind.scenario = some .do_clean := by
  unfold System.clean_pending
  rw [step_tasks hm]
  unfold System.with_created
  simp [List.mem_append, or_and_right, exists_or, Task.about_to_clean]

private theorem spares_cat_iff_of_sample (weight : ℚ) (now : Int) (h : s.cat_spared) :
    s.spares_cat (.loadcell weight now) ↔ (s.loadcell_step weight now).cat_spared := by
  have hsame : (s.loadcell_step weight now).clean_pending ↔ s.clean_pending := by
    unfold System.clean_pending
    rw [loadcell_step_tasks]
  unfold System.cat_spared
  rw [hsame, loadcell_step_fsm]
  constructor
  · intro hspares hpending hoccupied
    have henters : s.fsm.enters (s.call weight now) := (process_occupied_iff (h hpending)).mp hoccupied
    exact hspares.entered hpending _ rfl henters
  · intro hspared
    refine ⟨nofun, ?_⟩
    rintro hpending c ⟨⟩ henters
    exact hspared hpending ((process_occupied_iff (h hpending)).mpr henters)

private theorem spares_cat_iff_of_other (hm : ∀ i, m ≠ .task i) (hsample : ∀ weight now, m ≠ .loadcell weight now)
    (h : s.cat_spared) : s.spares_cat m ↔ (s.step m).cat_spared := by
  unfold System.cat_spared
  rw [clean_pending_iff hm, step_fsm hsample]
  constructor
  · rintro hspares (hpending | ⟨kind, hcreates, hscenario⟩)
    · exact h hpending
    · exact hspares.created kind hcreates hscenario
  · intro hspared
    constructor
    · intro kind hcreates hscenario
      exact hspared (.inr ⟨kind, hcreates, hscenario⟩)
    · intro _ c hc
      cases m with
      | loadcell weight now => exact absurd rfl (hsample weight now)
      | _ => cases hc

/-- A move keeps the cat spared exactly if it is one of those that spare it. -/
theorem spares_cat_iff (h : s.cat_spared) : s.spares_cat m ↔ (s.step m).cat_spared := by
  cases m with
  | task i =>
    constructor
    · intro _ hpending
      have hsame : (s.step (.task i)).fsm = s.fsm := task_step_fsm i
      rw [hsame]
      exact h (clean_pending_of_task_step hpending)
    · intro _
      constructor
      · nofun
      · intro _ c hc
        cases hc
  | loadcell weight now => exact spares_cat_iff_of_sample weight now h
  | ui | proximity | key | uart | sense => exact spares_cat_iff_of_other nofun nofun h

/-- A run never comes to a state in OCCUPIED from which `do_clean` is started, exactly if each of
its moves spares the cat: no task for a clean is created in OCCUPIED, and the cat does not enter
between the creation of one and its first step. -/
theorem clean_spares_cat_iff (word : PtWord) (cfg : ProximityConfig) (diag pairing : Bool)
    (moves : List Move) :
    (∀ past, past <+: moves → ∀ m, ((System.boot word cfg diag pairing).run past).starts_clean m →
      ((System.boot word cfg diag pairing).run past).fsm.g_cat_state ≠ .CAT_STATE_OCCUPIED) ↔
    Along System.step System.spares_cat (System.boot word cfg diag pairing) moves := by
  have hboot : (System.boot word cfg diag pairing).cat_spared := by
    rintro ⟨t, ht, -⟩
    cases ht
  rw [along_iff (I := System.cat_spared) (fun s m hs => spares_cat_iff hs) hboot]
  constructor
  · intro hall past hpast hpending
    obtain ⟨m, hstarts⟩ := starts_clean_iff.mpr hpending
    exact hall past hpast m hstarts
  · intro hall past hpast m hstarts
    exact hall past hpast (starts_clean_iff.mp ⟨m, hstarts⟩)

/-- Samples of an empty box, one with the cat in it, and the console command J. -/
def console_clean : List Move := List.replicate 30 (.loadcell 0 0) ++ [.loadcell 2000 0, .uart .J, .uart .Z]

/-- The console starts a clean with the cat on board. -/
theorem console_cleans_with_cat : ¬ ∀ (word : PtWord) (cfg : ProximityConfig) (diag pairing : Bool)
    (moves : List Move) (m : Move), ((System.boot word cfg diag pairing).run moves).starts_clean m →
      ((System.boot word cfg diag pairing).run moves).fsm.g_cat_state ≠ .CAT_STATE_OCCUPIED := by
  intro hall
  have hpending : ((System.boot 0 ⟨1500, 10⟩ false false).run console_clean).clean_pending := by
    decide +kernel
  obtain ⟨m, hstarts⟩ := starts_clean_iff.mpr hpending
  exact hall 0 ⟨1500, 10⟩ false false console_clean m hstarts (by decide +kernel)

end catbox.firmware
