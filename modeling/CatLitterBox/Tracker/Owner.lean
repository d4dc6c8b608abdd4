import CatLitterBox.Temporal.Run
import CatLitterBox.Tracker.Table

open text temporal

namespace catbox.tracker

/-- The sightings so far, and what each has come to. -/
abbrev History := List (TrackerID × Outcome)

/-- The variables, with the sightings that have led to them. -/
structure Observed where
  vars : Variables
  history : History

def Observed.start : Observed := ⟨Variables.start, []⟩

def Observed.step (s : Observed) (event : Event) : Observed where
  vars := s.vars.step event
  history := match event with
    | .sighting id malloc => s.history ++ [(id, (Tracker_In_ID s.vars.Tracker_Device id.text malloc).2)]
    | _ => s.history

/-- The slot has been allocated for the ID. -/
def History.Belongs (history : History) (i : Fin TRACKER_DEVICE_MAX) (id : TrackerID) : Prop :=
  (id, .registered i) ∈ history

/-- Each ID has one slot, which its sightings refresh, and different IDs refresh different slots. -/
structure History.Unique (history : History) : Prop where
  one_slot : ∀ id i j, history.Belongs i id → history.Belongs j id → i = j
  refreshes : ∀ past id outcome rest, history = past ++ (id, outcome) :: rest →
    ∀ i, History.Belongs past i id → outcome = .refreshed i
  separate : ∀ id id' i, (id, .refreshed i) ∈ history → (id', .refreshed i) ∈ history → id = id'

/-- A sighting keeps each ID with its slot. -/
theorem History.Unique.append {history : History} (h : history.Unique) {id : TrackerID} {outcome : Outcome}
    (hrefresh : ∀ i, history.Belongs i id → outcome = .refreshed i)
    (hother : ∀ id' i, outcome = .refreshed i → (id', .refreshed i) ∈ history → id = id') :
    History.Unique (history ++ [(id, outcome)]) where
  one_slot := by
    intro id' i j hi hj
    rcases List.mem_append.mp hi with hi_old | hi_new <;> rcases List.mem_append.mp hj with hj_old | hj_new
    · exact h.one_slot id' i j hi_old hj_old
    · obtain ⟨rfl, rfl⟩ := Prod.mk.inj (List.mem_singleton.mp hj_new)
      cases hrefresh i hi_old
    · obtain ⟨rfl, rfl⟩ := Prod.mk.inj (List.mem_singleton.mp hi_new)
      cases hrefresh j hj_old
    · obtain ⟨rfl, rfl⟩ := Prod.mk.inj (List.mem_singleton.mp hi_new)
      exact (Outcome.registered.inj (Prod.mk.inj (List.mem_singleton.mp hj_new)).2).symm
  refreshes := by
    intro past id' outcome' rest hsplit i hi
    obtain rfl | ⟨before, last, rfl⟩ := List.eq_nil_or_concat rest
    · obtain ⟨rfl, hlast⟩ := List.append_inj' hsplit rfl
      obtain ⟨rfl, rfl⟩ := Prod.mk.inj (List.singleton_inj.mp hlast)
      exact hrefresh i hi
    · rw [List.concat_eq_append, ← List.cons_append, ← List.append_assoc] at hsplit
      exact h.refreshes past id' outcome' before (List.append_inj' hsplit rfl).1 i hi
  separate := by
    intro id₁ id₂ i h₁ h₂
    rcases List.mem_append.mp h₁ with hold₁ | hnew₁ <;> rcases List.mem_append.mp h₂ with hold₂ | hnew₂
    · exact h.separate id₁ id₂ i hold₁ hold₂
    · obtain ⟨rfl, rfl⟩ := Prod.mk.inj (List.mem_singleton.mp hnew₂)
      exact (hother id₁ i rfl hold₁).symm
    · obtain ⟨rfl, rfl⟩ := Prod.mk.inj (List.mem_singleton.mp hnew₁)
      exact hother id₂ i rfl hold₂
    · obtain ⟨rfl, -⟩ := Prod.mk.inj (List.mem_singleton.mp hnew₁)
      exact (Prod.mk.inj (List.mem_singleton.mp hnew₂)).1.symm

/-- A sighting of an ID with a slot is of one that the slot holds completely. -/
def Observed.Holdable (s : Observed) : Event → Prop
  | .sighting id _ => (∃ i, s.history.Belongs i id) → id.text.length ≤ 31
  | _ => True

/-- The names in the table are those of the history. -/
structure Observed.Recorded (s : Observed) : Prop where
  belongs : ∀ id i, s.history.Belongs i id →
    (∃ dev, s.vars.Tracker_Device i = some dev ∧ dev.name = id.text.take 31) ∧
      ∀ k < i, ∃ dev, s.vars.Tracker_Device k = some dev ∧ dev.name ≠ id.text
  refreshed : ∀ id i, (id, .refreshed i) ∈ s.history →
    ∃ dev, s.vars.Tracker_Device i = some dev ∧ dev.name = id.text

/-- A table in which the devices of another one have their places and names. -/
def Table.Keeps (table table' : Table) : Prop :=
  ∀ i dev, table i = some dev → ∃ dev', table' i = some dev' ∧ dev'.name = dev.name

theorem step_keeps (v : Variables) (event : Event) :
    Table.Keeps v.Tracker_Device (v.step event).Tracker_Device := by
  intro i dev hdev
  cases event with
  | sighting id malloc =>
    rcases Tracker_In_ID_cases v.Tracker_Device id.text malloc with
      ⟨j, other, hj, -, -, hrun⟩ | ⟨-, ⟨j, hj, -, hrun⟩ | hrun | hrun⟩
    · simp only [Variables.step, hrun]
      by_cases hij : i = j
      · subst hij
        obtain rfl : other = dev := Option.some.inj (hj.symm.trans hdev)
        exact ⟨_, Function.update_self .., name_refresh other⟩
      · exact ⟨dev, (Function.update_of_ne hij ..).trans hdev, rfl⟩
    · simp only [Variables.step, hrun]
      have hij : i ≠ j := by
        rintro rfl
        cases hj.symm.trans hdev
      exact ⟨dev, (Function.update_of_ne hij ..).trans hdev, rfl⟩
    · simp only [Variables.step, hrun]
      exact ⟨dev, hdev, rfl⟩
    · simp only [Variables.step, hrun]
      exact ⟨dev, hdev, rfl⟩
  | tick motion_data_time =>
    refine ⟨dev.capture, ?_, name_capture dev⟩
    simp only [Variables.step, vTrackerCaptureTask_table, hdev, Option.map_some]
  | motion_timer status => exact ⟨dev, hdev, rfl⟩

/-- What a sighting has come to, and the devices afterwards. -/
theorem sighting_outcome (v : Variables) (id : TrackerID) (malloc : Bool) :
    (∀ i, (Tracker_In_ID v.Tracker_Device id.text malloc).2 = .refreshed i →
      ∃ dev, (v.step (.sighting id malloc)).Tracker_Device i = some dev ∧ dev.name = id.text) ∧
    ∀ i, (Tracker_In_ID v.Tracker_Device id.text malloc).2 = .registered i →
      (∃ dev, (v.step (.sighting id malloc)).Tracker_Device i = some dev ∧ dev.name = id.text.take 31) ∧
        ∀ k < i, ∃ dev, (v.step (.sighting id malloc)).Tracker_Device k = some dev ∧ dev.name ≠ id.text := by
  rcases Tracker_In_ID_cases v.Tracker_Device id.text malloc with
    ⟨j, dev, hj, hname, -, hrun⟩ | ⟨habsent, ⟨j, -, hfirst, hrun⟩ | hrun | hrun⟩
  · simp only [Variables.step, hrun]
    constructor
    · rintro i ⟨rfl⟩
      exact ⟨_, Function.update_self .., hname⟩
    · intro i hi
      cases hi
  · simp only [Variables.step, hrun]
    constructor
    · intro i hi
      cases hi
    · rintro i ⟨rfl⟩
      refine ⟨⟨_, Function.update_self .., name_new id⟩, ?_⟩
      intro k hk
      obtain ⟨dev, hdev⟩ := Option.ne_none_iff_exists'.mp (hfirst k hk)
      exact ⟨dev, (Function.update_of_ne hk.ne ..).trans hdev, habsent k dev hdev⟩
  · rw [hrun]
    constructor <;> (intro i hi; cases hi)
  · rw [hrun]
    constructor <;> (intro i hi; cases hi)

theorem Observed.start_recorded : Observed.start.Recorded :=
  ⟨fun _ _ h => absurd h List.not_mem_nil, fun _ _ h => absurd h List.not_mem_nil⟩

/-- Nothing has been seen. -/
theorem History.Unique.nil : History.Unique [] where
  one_slot _ _ _ h := absurd h List.not_mem_nil
  refreshes _ _ _ _ h := absurd h.symm (by simp)
  separate _ _ _ h := absurd h List.not_mem_nil

/-- Whatever happens, the table records what has happened. -/
theorem Observed.Recorded.step {s : Observed} (h : s.Recorded) (event : Event) : (s.step event).Recorded := by
  have hkeeps := step_keeps s.vars event
  have hbelongs : ∀ id i, s.history.Belongs i id →
      (∃ dev, (s.step event).vars.Tracker_Device i = some dev ∧ dev.name = id.text.take 31) ∧
        ∀ k < i, ∃ dev, (s.step event).vars.Tracker_Device k = some dev ∧ dev.name ≠ id.text := by
    intro id i hi
    obtain ⟨⟨dev, hdev, hname⟩, hbefore⟩ := h.belongs id i hi
    obtain ⟨dev', hdev', hname'⟩ := hkeeps i dev hdev
    refine ⟨⟨dev', hdev', hname'.trans hname⟩, ?_⟩
    intro k hk
    obtain ⟨other, hother, hne⟩ := hbefore k hk
    obtain ⟨other', hother', hsame⟩ := hkeeps k other hother
    exact ⟨other', hother', hsame ▸ hne⟩
  have hrefreshed : ∀ id i, (id, .refreshed i) ∈ s.history →
      ∃ dev, (s.step event).vars.Tracker_Device i = some dev ∧ dev.name = id.text := by
    intro id i hi
    obtain ⟨dev, hdev, hname⟩ := h.refreshed id i hi
    obtain ⟨dev', hdev', hname'⟩ := hkeeps i dev hdev
    exact ⟨dev', hdev', hname'.trans hname⟩
  cases event with
  | sighting id malloc =>
    obtain ⟨hnow, hnew⟩ := sighting_outcome s.vars id malloc
    constructor
    · intro id' i hi
      rcases List.mem_append.mp hi with hi | hi
      · exact hbelongs id' i hi
      · obtain ⟨rfl, houtcome⟩ := Prod.mk.inj (List.mem_singleton.mp hi)
        exact hnew i houtcome.symm
    · intro id' i hi
      rcases List.mem_append.mp hi with hi | hi
      · exact hrefreshed id' i hi
      · obtain ⟨rfl, houtcome⟩ := Prod.mk.inj (List.mem_singleton.mp hi)
        exact hnow i houtcome.symm
  | tick motion_data_time => exact ⟨hbelongs, hrefreshed⟩
  | motion_timer status => exact ⟨hbelongs, hrefreshed⟩

/-- An ID with a slot is recognised exactly if the slot holds it completely. -/
theorem Observed.Recorded.refreshed_iff {s : Observed} (h : s.Recorded) {id : TrackerID}
    {i : Fin TRACKER_DEVICE_MAX}
    (hi : s.history.Belongs i id) (malloc : Bool) :
    (Tracker_In_ID s.vars.Tracker_Device id.text malloc).2 = .refreshed i ↔ id.text.length ≤ 31 := by
  obtain ⟨⟨dev, hdev, hname⟩, hbefore⟩ := h.belongs id i hi
  constructor
  · intro houtcome
    obtain ⟨dev', hdev', hname'⟩ := (sighting_outcome s.vars id malloc).1 i houtcome
    obtain ⟨kept, hkept, hsame⟩ := step_keeps s.vars (.sighting id malloc) i dev hdev
    obtain rfl : kept = dev' := Option.some.inj (hkept.symm.trans hdev')
    have htext : id.text = id.text.take 31 := hname'.symm.trans (hsame.trans hname)
    rw [htext]
    exact List.length_take_le ..
  · intro hlength
    rw [List.take_of_length_le hlength] at hname
    rw [Tracker_In_ID_present hdev hname]
    intro k hk other hother
    obtain ⟨dev', hdev', hne⟩ := hbefore k hk
    obtain rfl : dev' = other := Option.some.inj (hdev'.symm.trans hother)
    exact hne

/-- A step keeps the table unique exactly if it is of no longer ID that has a slot already. -/
theorem Observed.Recorded.holdable_iff {s : Observed} (h : s.Recorded)
    (hunique : s.history.Unique) (event : Event) :
    s.Holdable event ↔ (s.step event).history.Unique := by
  cases event with
  | sighting id malloc =>
    let outcome := (Tracker_In_ID s.vars.Tracker_Device id.text malloc).2
    have hhistory : (s.step (.sighting id malloc)).history = s.history ++ [(id, outcome)] := rfl
    rw [hhistory]
    constructor
    · intro hholdable
      have hrefresh : ∀ i, s.history.Belongs i id → outcome = .refreshed i := by
        intro i hi
        exact (h.refreshed_iff hi malloc).mpr (hholdable ⟨i, hi⟩)
      refine hunique.append hrefresh ?_
      intro id' i houtcome hi
      obtain ⟨dev, hdev, hname⟩ := (h.step (.sighting id malloc)).refreshed id i
        (List.mem_append_right _ (List.mem_singleton.mpr (congrArg (id, ·) houtcome.symm)))
      obtain ⟨dev', hdev', hname'⟩ := (h.step (.sighting id malloc)).refreshed id' i (List.mem_append_left _ hi)
      obtain rfl : dev = dev' := Option.some.inj (hdev.symm.trans hdev')
      exact TrackerID.ext (hname.symm.trans hname')
    · rintro hnext ⟨i, hi⟩
      exact (h.refreshed_iff hi malloc).mp (hnext.refreshes s.history id outcome [] rfl i hi)
  | tick motion_data_time => exact ⟨fun _ => hunique, fun _ => trivial⟩
  | motion_timer status => exact ⟨fun _ => hunique, fun _ => trivial⟩

/-- The table is unique throughout a run exactly if no ID of more than 31 characters is sighted again
once it has been given a slot. -/
theorem tracker_table_unique_iff (events : List Event) :
    (∀ past, past <+: events → (past.foldl Observed.step .start).history.Unique) ↔
      Along Observed.step Observed.Holdable .start events := by
  refine (along_iff_of_invariant (J := Observed.Recorded) (I := fun s => s.history.Unique)
    (fun s event h => h.step event) ?_ Observed.start_recorded History.Unique.nil).symm
  intro s event hrecorded hunique
  exact hrecorded.holdable_iff hunique event

/-- An ID of 32 characters. -/
def longID : TrackerID := ⟨List.replicate 32 65, by decide, by decide, by decide⟩

/-- An ID of 32 characters that is sighted twice has two slots. -/
theorem long_id_has_two_slots : ¬ ∀ events : List Event, ∀ past, past <+: events →
    (past.foldl Observed.step .start).history.Unique := by
  intro hall
  have hunique := hall [.sighting longID true, .sighting longID true] _ List.prefix_rfl
  have hhistory : ([.sighting longID true, .sighting longID true].foldl Observed.step .start).history =
      [(longID, .registered 0), (longID, .registered 1)] := rfl
  rw [hhistory] at hunique
  have hsame := hunique.one_slot longID 0 1 (by simp [History.Belongs]) (by simp [History.Belongs])
  exact absurd hsame (by decide)

end catbox.tracker
