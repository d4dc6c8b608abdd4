import CatLitterBox.Diag.Keyscan
import CatLitterBox.Ui.Proximity

open catbox.ui

namespace catbox.diag

/-- The next call of `app_main`, which has found CLEAN held. -/
inductive AppMain where
  | keyscan_init
  | diag_init
  | set_status_diag
  | finished
deriving DecidableEq, Repr

/-- A boot into the diagnosis, from the return of `ui_init` on. -/
structure System where
  app_main : AppMain
  keys : Keys
  current_time : Int
  /-- The keys that the pass of `key_polling_task` has still to scan. -/
  pass : List Key
  proximity : Proximity
  /-- What `check_operating` has answered to the turn of `proximity_task` under way. -/
  operating : Option Bool
  diag_status_f : Bool
  diag_cmd_msg : Option (List DiagCmd)
  /-- `diag_process_task` has entered its first mode. -/
  first_mode : Bool

def System.boot : System where
  app_main := .keyscan_init
  keys := fun _ => .init
  current_time := 0
  pass := []
  proximity := .init
  operating := none
  diag_status_f := false
  diag_cmd_msg := none
  first_mode := false

/-- A step of one of the tasks. -/
inductive Move where
  | app_main
  | check_operating (another_task : Bool)
  | proximity_task (weight weight_again : ℚ)
  | poll (elapsed : Nat)
  | scan (current_level clean_running : Bool)
  | diag_cmd_task
  | diag_process_task

/-- The length that `diag_init` gives to `diag_cmd_msg`. -/
def diag_queue_length : Nat := 10

/-- `send_diag_cmd_msg`, for a queue that stays full while the sender waits. -/
def send_diag_cmd_msg (queue : Option (List DiagCmd)) (cmd : DiagCmd) : Option (List DiagCmd) :=
  queue.map fun waiting => if waiting.length < diag_queue_length then waiting ++ [cmd] else waiting

def KeyEffect.run (queue : Option (List DiagCmd)) : KeyEffect → Option (List DiagCmd)
  | .send_diag_cmd_msg cmd => diag.send_diag_cmd_msg queue cmd
  | .send_ui_cmd_msg _ => queue
  | .toggle_clean_pause => queue

def System.reading (s : System) (current_level clean_running : Bool) : Reading where
  current_level := current_level
  current_time := s.current_time
  g_is_system_ready := s.proximity.g_is_system_ready
  status_diag := s.diag_status_f
  clean_running := clean_running

def System.app_main_step (s : System) : System :=
  match s.app_main with
  | .keyscan_init => { s with app_main := .diag_init }
  | .diag_init => { s with app_main := .set_status_diag, diag_cmd_msg := some [] }
  | .set_status_diag => { s with app_main := .finished, diag_status_f := true }
  | .finished => s

def System.scan (s : System) (current_level clean_running : Bool) : System :=
  match s.pass with
  | [] => s
  | i :: pass =>
    let (keys, effects) := key_polling s.keys i (s.reading current_level clean_running)
    { s with keys := keys, pass := pass, diag_cmd_msg := effects.foldl KeyEffect.run s.diag_cmd_msg }

/-- A move that is not possible changes nothing. -/
def apply (cfg : ProximityConfig) (s : System) : Move → System
  | .app_main => s.app_main_step
  | .check_operating another_task =>
    if s.operating = none then { s with operating := some (another_task || s.diag_status_f) } else s
  | .proximity_task weight weight_again =>
    match s.operating with
    | none => s
    | some operating =>
      { s with proximity := (proximity_turn cfg s.proximity ⟨operating, weight, weight_again⟩).1, operating := none }
  | .poll elapsed =>
    if s.pass = [] ∧ s.app_main ≠ .keyscan_init then
      { s with current_time := s.current_time + elapsed, pass := [.KEY_CLEAN, .KEY_CHANGE, .KEY_SET] }
    else s
  | .scan current_level clean_running => s.scan current_level clean_running
  | .diag_cmd_task => { s with diag_cmd_msg := s.diag_cmd_msg.map List.tail }
  | .diag_process_task => if s.diag_cmd_msg.isSome then { s with first_mode := true } else s

/-- What holds in every state of a diagnosis boot. -/
structure System.Sound (s : System) : Prop where
  timed : Timed s.keys s.current_time
  queue : s.diag_status_f ∨ s.app_main = .set_status_diag → s.diag_cmd_msg.isSome

/-- The diagnosis has begun before the system was ready, and no turn of `proximity_task`
is under way that `check_operating` has let through. -/
structure System.Shut (s : System) : Prop where
  diagnosis : s.diag_status_f
  blocked : s.proximity.g_is_system_ready = false
  idle : s.operating ≠ some false

variable {cfg : ProximityConfig} {s : System}

/-- A diagnosis boot starts in a sound state. -/
theorem boot_sound : System.boot.Sound where
  timed := by
    intro i hpressed
    simp [System.boot, KeyState.init] at hpressed
  queue := by
    intro h
    simp [System.boot] at h

private theorem send_diag_cmd_msg_isSome (queue : Option (List DiagCmd)) (cmd : DiagCmd) :
    (send_diag_cmd_msg queue cmd).isSome = queue.isSome := Option.isSome_map

private theorem run_isSome (queue : Option (List DiagCmd)) (effects : List KeyEffect) :
    (effects.foldl KeyEffect.run queue).isSome = queue.isSome := by
  induction effects generalizing queue with
  | nil => rfl
  | cons effect effects ih =>
    rw [List.foldl_cons, ih]
    cases effect with
    | send_diag_cmd_msg cmd => exact send_diag_cmd_msg_isSome queue cmd
    | send_ui_cmd_msg => rfl
    | toggle_clean_pause => rfl

/-- Every move keeps the state sound. -/
theorem apply_sound (h : s.Sound) (m : Move) : (apply cfg s m).Sound := by
  cases m with
  | app_main =>
    unfold apply System.app_main_step
    cases hpc : s.app_main with
    | keyscan_init =>
      constructor
      · exact h.timed
      · intro hq
        exact h.queue (.inl (by simpa using hq))
    | diag_init => exact ⟨h.timed, fun _ => rfl⟩
    | set_status_diag => exact ⟨h.timed, fun _ => h.queue (.inr hpc)⟩
    | finished => exact h
  | check_operating another_task =>
    simp only [apply]
    split_ifs with hidle
    · exact ⟨h.timed, h.queue⟩
    · exact h
  | proximity_task weight weight_again =>
    unfold apply
    cases s.operating with
    | none => exact h
    | some operating => exact ⟨h.timed, h.queue⟩
  | poll elapsed =>
    simp only [apply]
    split_ifs with hpass
    · exact ⟨h.timed.later (by simp), h.queue⟩
    · exact h
  | scan current_level clean_running =>
    unfold apply System.scan
    cases s.pass with
    | nil => exact h
    | cons i pass =>
      constructor
      · exact key_polling_timed (r := s.reading current_level clean_running) h.timed
      · intro hq
        rw [run_isSome]
        exact h.queue hq
  | diag_cmd_task =>
    constructor
    · exact h.timed
    · intro hq
      change (s.diag_cmd_msg.map List.tail).isSome
      rw [Option.isSome_map]
      exact h.queue hq
  | diag_process_task =>
    simp only [apply]
    split_ifs with hcreated
    · exact ⟨h.timed, h.queue⟩
    · exact h

/-- And once the diagnosis has begun in time, every move keeps the other tasks out. -/
theorem apply_shut (h : s.Shut) (m : Move) : (apply cfg s m).Shut := by
  obtain ⟨hdiag, hblocked, hidle⟩ := h
  cases m with
  | app_main =>
    unfold apply System.app_main_step
    cases s.app_main with
    | keyscan_init => exact ⟨hdiag, hblocked, hidle⟩
    | diag_init => exact ⟨hdiag, hblocked, hidle⟩
    | set_status_diag => exact ⟨rfl, hblocked, hidle⟩
    | finished => exact ⟨hdiag, hblocked, hidle⟩
  | check_operating another_task =>
    simp only [apply]
    split_ifs with hfree
    · exact ⟨hdiag, hblocked, by simp [hdiag]⟩
    · exact ⟨hdiag, hblocked, hidle⟩
  | proximity_task weight weight_again =>
    unfold apply
    cases hoperating : s.operating with
    | none => exact ⟨hdiag, hblocked, hidle⟩
    | some operating =>
      have htrue : operating = true := by
        cases operating with
        | true => rfl
        | false => exact absurd hoperating hidle
      refine ⟨hdiag, ?_, by simp⟩
      simp [proximity_turn, htrue, hblocked]
  | poll elapsed =>
    simp only [apply]
    split_ifs with hpass
    · exact ⟨hdiag, hblocked, hidle⟩
    · exact ⟨hdiag, hblocked, hidle⟩
  | scan current_level clean_running =>
    unfold apply System.scan
    cases s.pass with
    | nil => exact ⟨hdiag, hblocked, hidle⟩
    | cons i pass => exact ⟨hdiag, hblocked, hidle⟩
  | diag_cmd_task => exact ⟨hdiag, hblocked, hidle⟩
  | diag_process_task =>
    simp only [apply]
    split_ifs with hcreated
    · exact ⟨hdiag, hblocked, hidle⟩
    · exact ⟨hdiag, hblocked, hidle⟩

end catbox.diag
