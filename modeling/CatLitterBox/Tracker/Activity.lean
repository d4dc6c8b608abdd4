import CatLitterBox.Tracker.Table
import Mathlib.Data.List.Induction

open text

namespace catbox.tracker

def Event.Sights (event : Event) (name : Bytes) : Bool :=
  match event with
  | .sighting id _ => id.text = name
  | _ => false

def Event.ticks : Event → Nat
  | .tick _ => 1
  | _ => 0

/-- How many turns of the capture task there have been since the last sighting of an ID. -/
def ticksSince (name : Bytes) (past : List Event) : Nat :=
  past.foldl (fun ticks event => if event.Sights name then 0 else ticks + event.ticks) 0

theorem ticksSince_append (name : Bytes) (past : List Event) (event : Event) :
    ticksSince name (past ++ [event]) = if event.Sights name then 0 else ticksSince name
    past + event.ticks := by
  unfold ticksSince
  rw [List.foldl_append]
  rfl

/-- What a device says about the time since its last sighting. -/
def Tracker_Device_t.Timed (dev : Tracker_Device_t) (ticks : Nat) : Prop :=
  if ticks < 50 then dev.Enable ≠ 0 ∧ dev.Disable_Time.toNat = 100 * ticks else dev.Enable = 0

/-- The IDs in the table are different, and each device is enabled by the time since its sighting. -/
structure Variables.Current (v : Variables) (past : List Event) : Prop where
  distinct : ∀ i j dev other, v.Tracker_Device i = some dev → v.Tracker_Device j = some other →
    dev.name = other.name → i = j
  sighted : ∀ i dev, v.Tracker_Device i = some dev → ∃ event ∈ past, event.Sights dev.name
  timed : ∀ i dev, v.Tracker_Device i = some dev → dev.Timed (ticksSince dev.name past)

/-- An ID that the array of a device holds completely. -/
def Event.Short : Event → Prop
  | .sighting id _ => id.text.length ≤ 31
  | _ => True

theorem Tracker_Device_t.Timed.enabled_iff {dev : Tracker_Device_t} {ticks : Nat} (h : dev.Timed ticks) :
    dev.Enable ≠ 0 ↔ ticks < 50 := by
  unfold Tracker_Device_t.Timed at h
  split at h
  · next hlt => exact iff_of_true h.1 hlt
  · next hge => exact iff_of_false (not_not_intro h) hge

/-- A turn of the capture task ages a device by one tick. -/
theorem Tracker_Device_t.Timed.capture {dev : Tracker_Device_t} {ticks : Nat} (h : dev.Timed ticks) :
    dev.capture.Timed (ticks + 1) := by
  unfold Tracker_Device_t.Timed at h ⊢
  unfold Tracker_Device_t.capture
  by_cases hlt : ticks < 50
  · rw [if_pos hlt] at h
    obtain ⟨henable, htime⟩ := h
    have haged : (dev.Disable_Time + 100).toNat = 100 * (ticks + 1) := by
      rw [UInt32.toNat_add, htime]
      change (100 * ticks + 100) % 2 ^ 32 = _
      omega
    have hexpired : dev.Disable_Time + 100 ≥ 5000 ↔ ¬ ticks + 1 < 50 := by
      rw [ge_iff_le, UInt32.le_iff_toNat_le, haged]
      change 5000 ≤ _ ↔ _
      omega
    rw [if_pos henable]
    by_cases hnext : ticks + 1 < 50
    · rw [if_pos hnext, if_neg (hexpired.not_left.mpr hnext)]
      exact ⟨henable, haged⟩
    · rw [if_neg hnext, if_pos (hexpired.mpr hnext)]
      rfl
  · rw [if_neg hlt] at h
    rw [if_neg (by omega), if_neg (not_not_intro h)]
    exact h

theorem Tracker_Device_t.refresh_timed (dev : Tracker_Device_t) : dev.refresh.Timed 0 :=
  ⟨(by decide : (1 : UInt32) ≠ 0), rfl⟩

theorem Tracker_Device_t.new_timed (Tracker_ID : Bytes) : (Tracker_Device_t.new Tracker_ID).Timed 0 :=
  ⟨(by decide : (1 : UInt32) ≠ 0), rfl⟩

theorem Variables.start_current : Variables.start.Current [] where
  distinct := by
    intro i j dev other hdev
    cases hdev
  sighted := by
    intro i dev hdev
    cases hdev
  timed := by
    intro i dev hdev
    cases hdev

/-- A sighting changes no device of another ID. -/
theorem sighting_others (v : Variables) (id : TrackerID) (malloc : Bool) {i : Fin TRACKER_DEVICE_MAX}
    {dev : Tracker_Device_t} (hdev : v.Tracker_Device i = some dev) (hname : dev.name ≠ id.text) :
    (v.step (.sighting id malloc)).Tracker_Device i = some dev := by
  have hne : ∀ j other, v.Tracker_Device j = some other → other.name = id.text → i ≠ j := by
    rintro j other hother hsame rfl
    obtain rfl : dev = other := Option.some.inj (hdev.symm.trans hother)
    exact hname hsame
  rcases Tracker_In_ID_cases v.Tracker_Device id.text malloc with
    ⟨j, other, hj, hsame, -, hrun⟩ | ⟨-, ⟨j, hj, -, hrun⟩ | hrun | hrun⟩
  · simp only [Variables.step, hrun]
    exact (Function.update_of_ne (hne j other hj hsame) ..).trans hdev
  · have hij : i ≠ j := by
      rintro rfl
      cases hj.symm.trans hdev
    simp only [Variables.step, hrun]
    exact (Function.update_of_ne hij ..).trans hdev
  · simpa only [Variables.step, hrun] using hdev
  · simpa only [Variables.step, hrun] using hdev

/-- After the sighting of an ID that fits, one device at most has it, which starts its time again. -/
theorem Variables.Current.sighting_devices {v : Variables} {past : List Event}
    (h : v.Current past) {id : TrackerID}
    (hshort : id.text.length ≤ 31) (malloc : Bool) :
    ∃ i, ∀ j dev, (v.step (.sighting id malloc)).Tracker_Device j = some dev →
      v.Tracker_Device j = some dev ∧ dev.name ≠ id.text ∨ j = i ∧ dev.name = id.text ∧ dev.Timed 0 := by
  rcases Tracker_In_ID_cases v.Tracker_Device id.text malloc with
    ⟨i, known, hi, hname, -, hrun⟩ | ⟨habsent, ⟨i, hi, -, hrun⟩ | hrun | hrun⟩
  · simp only [Variables.step, hrun]
    refine ⟨i, ?_⟩
    intro j dev hdev
    by_cases hij : j = i
    · subst hij
      obtain rfl : known.refresh = dev := by simpa using hdev
      exact .inr ⟨rfl, hname, known.refresh_timed⟩
    · rw [Function.update_of_ne hij] at hdev
      exact .inl ⟨hdev, fun hsame => hij (h.distinct j i dev known hdev hi (hsame.trans hname.symm))⟩
  · simp only [Variables.step, hrun]
    refine ⟨i, ?_⟩
    intro j dev hdev
    by_cases hij : j = i
    · subst hij
      obtain rfl : Tracker_Device_t.new id.text = dev := by simpa using hdev
      exact .inr ⟨rfl, (name_new id).trans (List.take_of_length_le hshort), Tracker_Device_t.new_timed id.text⟩
    · rw [Function.update_of_ne hij] at hdev
      exact .inl ⟨hdev, habsent j dev hdev⟩
  · simp only [Variables.step, hrun]
    exact ⟨⟨0, by decide⟩, fun j dev hdev => .inl ⟨hdev, habsent j dev hdev⟩⟩
  · simp only [Variables.step, hrun]
    exact ⟨⟨0, by decide⟩, fun j dev hdev => .inl ⟨hdev, habsent j dev hdev⟩⟩

/-- A sighting starts the time of its device again. -/
theorem Variables.Current.sighting {v : Variables} {past : List Event} (h : v.Current past)
    {id : TrackerID} {malloc : Bool}
    (hshort : (Event.sighting id malloc).Short) :
    (v.step (.sighting id malloc)).Current (past ++ [.sighting id malloc]) := by
  obtain ⟨i, hdevices⟩ := h.sighting_devices hshort malloc
  constructor
  · intro j k dev other hdev hother hsame
    rcases hdevices j dev hdev with ⟨hold, hne⟩ | ⟨rfl, hname, -⟩ <;>
      rcases hdevices k other hother with ⟨hold', hne'⟩ | ⟨rfl, hname', -⟩
    · exact h.distinct j k dev other hold hold' hsame
    · exact absurd (hsame.trans hname') hne
    · exact absurd (hsame.symm.trans hname) hne'
    · rfl
  · intro j dev hdev
    rcases hdevices j dev hdev with ⟨hold, -⟩ | ⟨-, hname, -⟩
    · obtain ⟨event, hevent, hsights⟩ := h.sighted j dev hold
      exact ⟨event, List.mem_append_left _ hevent, hsights⟩
    · exact ⟨_, List.mem_append_right _ List.mem_cons_self, by simpa [Event.Sights] using hname.symm⟩
  · intro j dev hdev
    rw [ticksSince_append]
    rcases hdevices j dev hdev with ⟨hold, hne⟩ | ⟨-, hname, htimed⟩
    · rw [if_neg (by simpa [Event.Sights] using Ne.symm hne)]
      exact h.timed j dev hold
    · rw [if_pos (by simpa [Event.Sights] using hname.symm)]
      exact htimed

/-- A tick of the capture task counts for every device. -/
theorem Variables.Current.tick {v : Variables} {past : List Event} (h : v.Current past)
    (motion_data_time : UInt32) :
    (v.step (.tick motion_data_time)).Current (past ++ [.tick motion_data_time]) := by
  have hdevices : ∀ i dev', (v.step (.tick motion_data_time)).Tracker_Device i = some dev' →
      ∃ dev, v.Tracker_Device i = some dev ∧ dev.capture = dev' := by
    intro i dev' hdev'
    simp only [Variables.step, vTrackerCaptureTask_table] at hdev'
    exact Option.map_eq_some_iff.mp hdev'
  constructor
  · intro i j dev' other' hdev' hother' hsame
    obtain ⟨dev, hdev, rfl⟩ := hdevices i dev' hdev'
    obtain ⟨other, hother, rfl⟩ := hdevices j other' hother'
    rw [name_capture, name_capture] at hsame
    exact h.distinct i j dev other hdev hother hsame
  · intro i dev' hdev'
    obtain ⟨dev, hdev, rfl⟩ := hdevices i dev' hdev'
    obtain ⟨event, hevent, hsights⟩ := h.sighted i dev hdev
    exact ⟨event, List.mem_append_left _ hevent, by rwa [name_capture]⟩
  · intro i dev' hdev'
    obtain ⟨dev, hdev, rfl⟩ := hdevices i dev' hdev'
    rw [ticksSince_append, if_neg (by simp [Event.Sights]), name_capture]
    exact (h.timed i dev hdev).capture

/-- Each step keeps the devices up to date. -/
theorem Variables.Current.step {v : Variables} {past : List Event} (h : v.Current past) {event : Event}
    (hshort : event.Short) : (v.step event).Current (past ++ [event]) := by
  cases event with
  | sighting id malloc => exact h.sighting hshort
  | tick motion_data_time => exact h.tick motion_data_time
  | motion_timer status =>
    refine ⟨h.distinct, ?_, ?_⟩
    · intro i dev hdev
      obtain ⟨event, hevent, hsights⟩ := h.sighted i dev hdev
      exact ⟨event, List.mem_append_left _ hevent, hsights⟩
    · intro i dev hdev
      rw [ticksSince_append, if_neg (by simp [Event.Sights])]
      exact h.timed i dev hdev

/-- Along a run with IDs that fit, the devices are up to date. -/
theorem run_current {events : List Event} (hshort : ∀ event ∈ events, event.Short) :
    (events.foldl Variables.step .start).Current events := by
  induction events using List.reverseRecOn with
  | nil => exact Variables.start_current
  | append_singleton events event ih =>
    rw [List.foldl_append]
    have hpast := ih fun event hevent => hshort event (List.mem_append_left _ hevent)
    exact hpast.step (hshort event (List.mem_append_right _ List.mem_cons_self))

private theorem GetTracker_Id_active_iff (table : Table) :
    GetTracker_Id_active table = true ↔ ∃ i dev, table i = some dev ∧ dev.Enable ≠ 0 := by
  simp [GetTracker_Id_active, Option.any_eq_true]

/-- After every step, a tracker is enabled as long as fewer than 50 turns of the capture task have
passed since its last sighting; `GetTracker_Id_active` says whether there is one; and the next step
does to each device what its own ID and its own time demand. -/
theorem tracker_activity_window {events : List Event} (hshort : ∀ event ∈ events, event.Short)
    {past : List Event} (hpast : past <+: events) :
    let v := past.foldl Variables.step .start
    (∀ i dev, v.Tracker_Device i = some dev →
        (∃ event ∈ past, event.Sights dev.name) ∧ (dev.Enable ≠ 0 ↔ ticksSince dev.name past < 50)) ∧
      (GetTracker_Id_active v.Tracker_Device = true ↔
        ∃ i dev, v.Tracker_Device i = some dev ∧ ticksSince dev.name past < 50) ∧
      (∀ id malloc i dev, v.Tracker_Device i = some dev → dev.name ≠ id.text →
        (v.step (.sighting id malloc)).Tracker_Device i = some dev) ∧
      ∀ motion_data_time,
        (v.step (.tick motion_data_time)).Tracker_Device = fun i =>
          (v.Tracker_Device i).map Tracker_Device_t.capture := by
  intro v
  have hcurrent : v.Current past := run_current fun event hevent => hshort event (hpast.subset hevent)
  have henabled : ∀ i dev, v.Tracker_Device i = some dev → (dev.Enable ≠ 0 ↔ ticksSince dev.name past < 50) :=
    fun i dev hdev => (hcurrent.timed i dev hdev).enabled_iff
  refine ⟨fun i dev hdev => ⟨hcurrent.sighted i dev hdev, henabled i dev hdev⟩, ?_,
    fun id malloc i dev hdev hname => sighting_others v id malloc hdev hname,
    fun motion_data_time => vTrackerCaptureTask_table motion_data_time v⟩
  rw [GetTracker_Id_active_iff]
  constructor
  · rintro ⟨i, dev, hdev, henable⟩
    exact ⟨i, dev, hdev, (henabled i dev hdev).mp henable⟩
  · rintro ⟨i, dev, hdev, hticks⟩
    exact ⟨i, dev, hdev, (henabled i dev hdev).mpr hticks⟩

/-- An ID of three characters. -/
def shortID : TrackerID := ⟨[87, 84, 49], by decide, by decide, by decide⟩

theorem tracker_active_after_tick :
    GetTracker_Id_active
      ([Event.sighting shortID true, .tick 1800].foldl Variables.step .start).Tracker_Device = true := by
  have hshort : ∀ event ∈ [Event.sighting shortID true, .tick 1800], event.Short := by
    simp [Event.Short, shortID]
  exact (tracker_activity_window hshort List.prefix_rfl).2.1.mpr ⟨0, _, rfl, by decide⟩

end catbox.tracker
