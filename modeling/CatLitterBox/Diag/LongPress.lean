import CatLitterBox.Diag.Keyscan

namespace catbox.diag

/-- The events of a long press. -/
inductive LongPress where
  | after_3s
  | after_5s
  | after_10s
deriving DecidableEq

instance : Fintype LongPress where
  elems := {.after_3s, .after_5s, .after_10s}
  complete := by
    intro event
    cases event <;> decide

def LongPress.all : List LongPress := [.after_3s, .after_5s, .after_10s]

def LongPress.time : LongPress → Int
  | .after_3s => TIME_THRES_3S
  | .after_5s => TIME_THRES_5S
  | .after_10s => TIME_THRES_10S

/-- The threshold of the event is the last one that is over after `duration`. -/
def LongPress.Within (event : LongPress) (duration : Int) : Prop :=
  event.time ≤ duration ∧ ∀ longer : LongPress, event.time < longer.time → duration < longer.time

instance (event : LongPress) (duration : Int) : Decidable (event.Within duration) := by
  unfold LongPress.Within
  infer_instance

def KeyState.triggered (state : KeyState) : LongPress → Bool
  | .after_3s => state.event_triggered_3s
  | .after_5s => state.event_triggered_5s
  | .after_10s => state.event_triggered_10s

def KeyState.raise (state : KeyState) : LongPress → KeyState
  | .after_3s => { state with event_triggered_3s := true }
  | .after_5s => { state with event_triggered_5s := true }
  | .after_10s => { state with event_triggered_10s := true }

/-- The event that a scan raises which finds the key still down: the longest that is due. -/
def KeyState.next_event (state : KeyState) (duration : Int) : Option LongPress :=
  if TIME_THRES_10S ≤ duration ∧ !state.event_triggered_10s then some .after_10s
  else if TIME_THRES_5S ≤ duration ∧ !state.event_triggered_5s then some .after_5s
  else if TIME_THRES_3S ≤ duration ∧ !state.event_triggered_3s then some .after_3s
  else none

variable {state : KeyState} {event longer : LongPress} {duration : Int}

theorem LongPress.mem_all (event : LongPress) : event ∈ LongPress.all := by
  cases event <;> decide

theorem LongPress.time_le (event : LongPress) : TIME_THRES_3S ≤ event.time := by
  cases event <;> decide

/-- The thresholds are different. -/
theorem LongPress.eq_of_time (h : event.time = longer.time) : event = longer := by
  cases event <;> cases longer <;> first | rfl | exact absurd h (by decide)

/-- Of all thresholds that are over, the one of an event that is due at its time is the greatest. -/
theorem LongPress.Within.le (h : event.Within duration) (hle : longer.time ≤ duration) :
    longer.time ≤ event.time := by
  by_contra hnot
  have hlater := h.2 longer (by omega)
  omega

/-- Only one event at a time has the longest threshold that is over. -/
theorem LongPress.Within.eq (h : event.Within duration) (hlonger : longer.Within duration) :
    event = longer := by
  apply eq_of_time
  have hle := h.le hlonger.1
  have hge := hlonger.le h.1
  omega

/-- Where some threshold is over, one of them is the longest. -/
theorem exists_within (h : event.time ≤ duration) : ∃ longer : LongPress, longer.Within duration := by
  have hlong := event.time_le
  by_cases h10 : TIME_THRES_10S ≤ duration
  · refine ⟨.after_10s, h10, ?_⟩
    intro longer hlonger
    cases longer <;> exact absurd hlonger (by decide)
  by_cases h5 : TIME_THRES_5S ≤ duration
  · refine ⟨.after_5s, h5, ?_⟩
    intro longer hlonger
    cases longer with
    | after_10s => exact Int.not_le.mp h10
    | after_5s => exact absurd hlonger (by decide)
    | after_3s => exact absurd hlonger (by decide)
  refine ⟨.after_3s, hlong.trans h, ?_⟩
  intro longer hlonger
  cases longer with
  | after_10s => exact Int.not_le.mp h10
  | after_5s => exact Int.not_le.mp h5
  | after_3s => exact absurd hlonger (by decide)

@[simp] theorem KeyState.raise_is_pressed (state : KeyState) (event : LongPress) :
    (state.raise event).is_pressed = state.is_pressed := by
  cases event <;> rfl

@[simp] theorem KeyState.raise_press_start_time (state : KeyState) (event : LongPress) :
    (state.raise event).press_start_time = state.press_start_time := by
  cases event <;> rfl

/-- Raising an event triggers that one and no other. -/
theorem KeyState.triggered_raise (state : KeyState) (event other : LongPress) :
    (state.raise event).triggered other = (state.triggered other || decide (other = event)) := by
  cases event <;> cases other <;> simp [raise, triggered]

/-- An event is raised where its threshold is over, it has not been raised, and all longer ones
that are due have been. -/
theorem KeyState.next_event_eq_some (h : state.next_event duration = some event) :
    event.time ≤ duration ∧ ¬ state.triggered event = true ∧
      ∀ longer : LongPress, event.time < longer.time → longer.time ≤ duration →
        state.triggered longer = true := by
  unfold next_event at h
  split_ifs at h with h10 h5 h3
  · obtain rfl := Option.some.inj h
    refine ⟨h10.1, by simpa [triggered] using h10.2, ?_⟩
    intro longer hlonger
    cases longer <;> exact absurd hlonger (by decide)
  · obtain rfl := Option.some.inj h
    refine ⟨h5.1, by simpa [triggered] using h5.2, ?_⟩
    intro longer hlonger hdue
    cases longer with
    | after_10s => simpa [triggered, LongPress.time] using mt (And.intro hdue) h10
    | after_5s => exact absurd hlonger (by decide)
    | after_3s => exact absurd hlonger (by decide)
  · obtain rfl := Option.some.inj h
    refine ⟨h3.1, by simpa [triggered] using h3.2, ?_⟩
    intro longer hlonger hdue
    cases longer with
    | after_10s => simpa [triggered, LongPress.time] using mt (And.intro hdue) h10
    | after_5s => simpa [triggered, LongPress.time] using mt (And.intro hdue) h5
    | after_3s => exact absurd hlonger (by decide)

/-- Nothing is raised where all events that are due have been. -/
theorem KeyState.next_event_eq_none (h : state.next_event duration = none) (hdue : event.time ≤ duration) :
    state.triggered event = true := by
  unfold next_event at h
  split_ifs at h with h10 h5 h3
  cases event with
  | after_10s => simpa [triggered, LongPress.time] using mt (And.intro hdue) h10
  | after_5s => simpa [triggered, LongPress.time] using mt (And.intro hdue) h5
  | after_3s => simpa [triggered, LongPress.time] using mt (And.intro hdue) h3

section

variable {keys : Keys} {i j : Key} {r : Reading}

/-- Holding a key raises the event that is due, if there is one. -/
theorem key_held_fst (keys : Keys) (i : Key) (duration : Int) : (key_held keys i duration).1 =
    Function.update keys i (((keys i).next_event duration).elim (keys i) (keys i).raise) := by
  unfold key_held KeyState.next_event
  by_cases h10 : TIME_THRES_10S ≤ duration ∧ !(keys i).event_triggered_10s
  · rw [if_pos h10, if_pos h10]
    rfl
  rw [if_neg h10, if_neg h10]
  by_cases h5 : TIME_THRES_5S ≤ duration ∧ !(keys i).event_triggered_5s
  · rw [if_pos h5, if_pos h5]
    rfl
  rw [if_neg h5, if_neg h5]
  by_cases h3 : TIME_THRES_3S ≤ duration ∧ !(keys i).event_triggered_3s
  · rw [if_pos h3, if_pos h3]
    rfl
  rw [if_neg h3, if_neg h3]
  exact (Function.update_eq_self i keys).symm

/-- The factory command is sent where the 10 s event makes CLEAN and CHANGE both have it. -/
theorem factory_mem_key_held : .send_ui_cmd_msg .UI_FACTORY_CMD ∈ (key_held keys i duration).2 ↔
    (keys i).next_event duration = some .after_10s ∧
      ((key_held keys i duration).1 .KEY_CHANGE).event_triggered_10s = true ∧
      ((key_held keys i duration).1 .KEY_CLEAN).event_triggered_10s = true := by
  unfold key_held KeyState.next_event
  by_cases h10 : TIME_THRES_10S ≤ duration ∧ !(keys i).event_triggered_10s
  · simp only [if_pos h10]
    split_ifs with hboth
    · simpa using hboth
    · simpa using hboth
  simp only [if_neg h10]
  split_ifs <;> simp

theorem Key.forall_iff {P : Key → Prop} : (∀ i, P i) ↔ P .KEY_CLEAN ∧ P .KEY_CHANGE ∧ P .KEY_SET := by
  constructor
  · intro h
    exact ⟨h _, h _, h _⟩
  · rintro ⟨hclean, hchange, hset⟩ i
    cases i with
    | KEY_CLEAN => exact hclean
    | KEY_CHANGE => exact hchange
    | KEY_SET => exact hset

/-- A click asks for one thing where the key has been pressed alone, which is not the factory
command, and for nothing otherwise. -/
theorem key_click_cases (keys : Keys) (i : Key) (r : Reading) :
    ((∀ j ≠ i, (keys j).is_pressed = false) ∧
        ∃ effect, key_click keys i r = [effect] ∧ effect ≠ .send_ui_cmd_msg .UI_FACTORY_CMD) ∨
      (¬ ∀ j ≠ i, (keys j).is_pressed = false) ∧ key_click keys i r = [] := by
  rw [Key.forall_iff]
  cases i with
  | KEY_CLEAN =>
    unfold key_click
    split_ifs <;> simp_all
  | KEY_CHANGE =>
    unfold key_click
    split_ifs <;> simp_all
  | KEY_SET =>
    unfold key_click
    split_ifs <;> simp_all

/-- A click never asks for the factory reset. -/
theorem factory_not_mem_key_click : .send_ui_cmd_msg .UI_FACTORY_CMD ∉ key_click keys i r := by
  obtain ⟨-, effect, heq, hne⟩ | ⟨-, heq⟩ := key_click_cases keys i r
  · rw [heq, List.mem_singleton]
    exact hne.symm
  · rw [heq]
    exact List.not_mem_nil

/-- A click counts only while no other key is down. -/
theorem key_click_ne_nil : key_click keys i r ≠ [] ↔ ∀ j ≠ i, (keys j).is_pressed = false := by
  obtain ⟨halone, effect, heq, -⟩ | ⟨hother, heq⟩ := key_click_cases keys i r
  · exact iff_of_true (by simp [heq]) halone
  · exact iff_of_false (by simp [heq]) hother

/-- The scan of a key leaves the others alone. -/
theorem key_polling_of_ne (hj : j ≠ i) : (key_polling keys i r).1 j = keys j := by
  unfold key_polling
  cases r.current_level with
  | false =>
    cases (keys i).is_pressed with
    | false => rfl
    | true => exact Function.update_of_ne hj _ _
  | true =>
    cases (keys i).is_pressed with
    | false => exact Function.update_of_ne hj _ _
    | true =>
      cases r.g_is_system_ready with
      | false => rfl
      | true =>
        simp only [Bool.not_true, Bool.false_eq_true, if_true, if_false, key_held_fst]
        exact Function.update_of_ne hj _ _

end

end catbox.diag
