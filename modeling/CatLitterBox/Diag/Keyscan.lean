import CatLitterBox.Firmware.Tasks
import Mathlib.Data.Fintype.Basic

open catbox.firmware

namespace catbox.diag

/-- The pins of `keys`, in the order of the array. -/
inductive Key where
  | KEY_CLEAN
  | KEY_CHANGE
  | KEY_SET
deriving DecidableEq, Repr

instance : Fintype Key where
  elems := {.KEY_CLEAN, .KEY_CHANGE, .KEY_SET}
  complete := by
    intro i
    cases i <;> decide

/-- The commands of `DIAG_CMD_T` that something sends. -/
inductive DiagCmd where
  | DIAG_NEXT_STEP_CMD
  | DIAG_NEXT_FUNC_CMD
deriving DecidableEq, Repr

instance : Fintype DiagCmd where
  elems := {.DIAG_NEXT_STEP_CMD, .DIAG_NEXT_FUNC_CMD}
  complete := by
    intro cmd
    cases cmd <;> decide

/-- `key_state_t`, with the times in milliseconds. -/
structure KeyState where
  is_pressed : Bool
  press_start_time : Int
  event_triggered_3s : Bool
  event_triggered_5s : Bool
  event_triggered_10s : Bool
deriving DecidableEq

def KeyState.init : KeyState where
  is_pressed := false
  press_start_time := 0
  event_triggered_3s := false
  event_triggered_5s := false
  event_triggered_10s := false

abbrev Keys := Key → KeyState

/-- What the scan of one key asks the other modules for. -/
inductive KeyEffect where
  | send_ui_cmd_msg (cmd : UiCmd)
  | send_diag_cmd_msg (cmd : DiagCmd)
  | toggle_clean_pause
deriving DecidableEq

/-- What the scan of one key reads besides `keys`: its level, the time of the pass, and what
`g_is_system_ready`, `get_status_diag` and `is_clean_running` answer. -/
structure Reading where
  current_level : Bool
  current_time : Int
  g_is_system_ready : Bool
  status_diag : Bool
  clean_running : Bool

def TIME_THRES_3S : Int := 3000
def TIME_THRES_5S : Int := 5000
def TIME_THRES_10S : Int := 10000

def KeyState.pressed (current_time : Int) : KeyState where
  is_pressed := true
  press_start_time := current_time
  event_triggered_3s := false
  event_triggered_5s := false
  event_triggered_10s := false

def KeyState.released (s : KeyState) : KeyState where
  is_pressed := false
  press_start_time := s.press_start_time
  event_triggered_3s := false
  event_triggered_5s := false
  event_triggered_10s := false

/-- A key that is still down: the events of a long press. -/
def key_held (keys : Keys) (i : Key) (duration : Int) : Keys × List KeyEffect :=
  if TIME_THRES_10S ≤ duration ∧ !(keys i).event_triggered_10s then
    let keys' := Function.update keys i { keys i with event_triggered_10s := true }
    (keys', if (keys' .KEY_CHANGE).event_triggered_10s ∧ (keys' .KEY_CLEAN).event_triggered_10s then
      [.send_ui_cmd_msg .UI_FACTORY_CMD] else [])
  else if TIME_THRES_5S ≤ duration ∧ !(keys i).event_triggered_5s then
    (Function.update keys i { keys i with event_triggered_5s := true },
      if i = .KEY_SET ∧ !(keys .KEY_CLEAN).is_pressed ∧ !(keys .KEY_CHANGE).is_pressed then
        [.send_ui_cmd_msg .UI_PAIRING_CMD] else [])
  else if TIME_THRES_3S ≤ duration ∧ !(keys i).event_triggered_3s then
    (Function.update keys i { keys i with event_triggered_3s := true },
      if i = .KEY_CHANGE ∧ !(keys .KEY_CLEAN).is_pressed ∧ !(keys .KEY_SET).is_pressed then
        [.send_ui_cmd_msg .UI_MANAGE_START_CMD] else [])
  else (keys, [])

/-- A key that was let go before any event of a long press: a click. -/
def key_click (keys : Keys) (i : Key) (r : Reading) : List KeyEffect :=
  match i with
  | .KEY_CLEAN =>
    if !(keys .KEY_CHANGE).is_pressed ∧ !(keys .KEY_SET).is_pressed then
      if r.status_diag then [.send_diag_cmd_msg .DIAG_NEXT_STEP_CMD]
      else if r.clean_running then [.toggle_clean_pause]
      else [.send_ui_cmd_msg .UI_CLEAN_CMD]
    else []
  | .KEY_CHANGE =>
    if !(keys .KEY_CLEAN).is_pressed ∧ !(keys .KEY_SET).is_pressed then
      if r.status_diag then [.send_diag_cmd_msg .DIAG_NEXT_FUNC_CMD]
      else [.send_ui_cmd_msg .UI_MANAGE_FINISH_CMD]
    else []
  | .KEY_SET =>
    if !(keys .KEY_CLEAN).is_pressed ∧ !(keys .KEY_CHANGE).is_pressed then
      [.send_ui_cmd_msg .UI_TARE_ZERO_CMD]
    else []

/-- The body of the loop over `keys` in `key_polling_task`. -/
def key_polling (keys : Keys) (i : Key) (r : Reading) : Keys × List KeyEffect :=
  if r.current_level then
    if !(keys i).is_pressed then (Function.update keys i (.pressed r.current_time), [])
    else if !r.g_is_system_ready then (keys, [])
    else key_held keys i (r.current_time - (keys i).press_start_time)
  else if (keys i).is_pressed then
    (Function.update keys i (keys i).released,
      if !r.g_is_system_ready then []
      else if !(keys i).event_triggered_10s ∧ !(keys i).event_triggered_5s ∧ !(keys i).event_triggered_3s then
        key_click keys i r
      else [])
  else (keys, [])

/-- The request of a click in the diagnosis. -/
def Key.request : Key → Option DiagCmd
  | .KEY_CLEAN => some .DIAG_NEXT_STEP_CMD
  | .KEY_CHANGE => some .DIAG_NEXT_FUNC_CMD
  | .KEY_SET => none

/-- Whoever is pressed was pressed in the past, and an event of a long press was triggered
no earlier than after 3 s. -/
def Timed (keys : Keys) (current_time : Int) : Prop :=
  ∀ i, (keys i).is_pressed → (keys i).press_start_time ≤ current_time ∧
    ((keys i).event_triggered_3s ∨ (keys i).event_triggered_5s ∨ (keys i).event_triggered_10s →
      TIME_THRES_3S ≤ current_time - (keys i).press_start_time)

variable {keys : Keys} {i : Key} {r : Reading} {current_time : Int} {cmd : DiagCmd}

/-- What was pressed in the past stays so. -/
theorem Timed.later (h : Timed keys current_time) {later : Int} (hle : current_time ≤ later) :
    Timed keys later := by
  intro i hpressed
  obtain ⟨hstart, hevent⟩ := h i hpressed
  constructor
  · omega
  · intro htriggered
    have hlong := hevent htriggered
    omega

/-- A key may change to a state that meets the bounds itself. -/
private theorem Timed.update (h : Timed keys current_time) {state : KeyState}
    (hstate : state.is_pressed → state.press_start_time ≤ current_time ∧
      (state.event_triggered_3s ∨ state.event_triggered_5s ∨ state.event_triggered_10s →
        TIME_THRES_3S ≤ current_time - state.press_start_time)) :
    Timed (Function.update keys i state) current_time := by
  intro j
  by_cases hj : j = i
  · subst hj
    rw [Function.update_self]
    exact hstate
  · rw [Function.update_of_ne hj]
    exact h j

private theorem key_held_timed (h : Timed keys current_time) (hpressed : (keys i).is_pressed) :
    Timed (key_held keys i (current_time - (keys i).press_start_time)).1 current_time := by
  have hstart := (h i hpressed).1
  unfold key_held
  by_cases h10 : TIME_THRES_10S ≤ current_time - (keys i).press_start_time ∧ !(keys i).event_triggered_10s
  · rw [if_pos h10]
    apply h.update
    intro _
    simp only [TIME_THRES_10S, TIME_THRES_3S] at *
    omega
  rw [if_neg h10]
  by_cases h5 : TIME_THRES_5S ≤ current_time - (keys i).press_start_time ∧ !(keys i).event_triggered_5s
  · rw [if_pos h5]
    apply h.update
    intro _
    simp only [TIME_THRES_5S, TIME_THRES_3S] at *
    omega
  rw [if_neg h5]
  by_cases h3 : TIME_THRES_3S ≤ current_time - (keys i).press_start_time ∧ !(keys i).event_triggered_3s
  · rw [if_pos h3]
    apply h.update
    intro _
    exact ⟨hstart, fun _ => h3.1⟩
  rw [if_neg h3]
  exact h

/-- A scan records no time that is still to come. -/
theorem key_polling_timed (h : Timed keys r.current_time) : Timed (key_polling keys i r).1 r.current_time := by
  unfold key_polling
  cases hdown : r.current_level with
  | true =>
    cases hpressed : (keys i).is_pressed with
    | false =>
      apply h.update
      intro _
      simp [KeyState.pressed]
    | true =>
      cases r.g_is_system_ready with
      | false => exact h
      | true => exact key_held_timed h hpressed
  | false =>
    cases hpressed : (keys i).is_pressed with
    | false => exact h
    | true =>
      apply h.update
      intro hreleased
      simp [KeyState.released] at hreleased

/-- While the key is down and the press is short, the scan asks for nothing. -/
theorem key_polling_down (hdown : r.current_level)
    (hshort : (keys i).is_pressed → r.current_time - (keys i).press_start_time < TIME_THRES_3S) :
    (key_polling keys i r).2 = [] := by
  unfold key_polling
  rw [if_pos hdown]
  split_ifs with hfresh hblocked
  · rfl
  · rfl
  · have htime := hshort (by simpa using hfresh)
    simp only [TIME_THRES_3S] at htime
    unfold key_held
    rw [if_neg, if_neg, if_neg]
    · simp only [TIME_THRES_3S]
      omega
    · simp only [TIME_THRES_5S]
      omega
    · simp only [TIME_THRES_10S]
      omega

/-- The end of a short press is a click where the system is ready, and nothing else. -/
theorem key_polling_released (h : Timed keys r.current_time) (hup : r.current_level = false)
    (hpressed : (keys i).is_pressed)
    (hshort : r.current_time - (keys i).press_start_time < TIME_THRES_3S) :
    (key_polling keys i r).2 = if r.g_is_system_ready then key_click keys i r else [] := by
  have hevents : ¬ ((keys i).event_triggered_3s ∨ (keys i).event_triggered_5s ∨
      (keys i).event_triggered_10s) := by
    intro htriggered
    have hlong := (h i hpressed).2 htriggered
    omega
  simp only [not_or, Bool.not_eq_true] at hevents
  obtain ⟨h3, h5, h10⟩ := hevents
  cases hready : r.g_is_system_ready with
  | false => simp [key_polling, hup, hpressed, hready]
  | true => simp [key_polling, hup, hpressed, hready, h3, h5, h10]

/-- In the diagnosis, the click of a key that is pressed alone is its request. -/
theorem key_click_request (hcmd : i.request = some cmd) (hdiag : r.status_diag)
    (halone : ∀ j ≠ i, (keys j).is_pressed = false) : key_click keys i r = [.send_diag_cmd_msg cmd] := by
  cases i with
  | KEY_CLEAN =>
    obtain rfl := Option.some.inj hcmd
    simp [key_click, hdiag, halone .KEY_CHANGE (by decide), halone .KEY_SET (by decide)]
  | KEY_CHANGE =>
    obtain rfl := Option.some.inj hcmd
    simp [key_click, hdiag, halone .KEY_CLEAN (by decide), halone .KEY_SET (by decide)]
  | KEY_SET => simp [Key.request] at hcmd

end catbox.diag
