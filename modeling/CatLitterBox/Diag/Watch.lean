import CatLitterBox.Diag.LongPress

namespace catbox.diag

/-- One pass of `key_polling_task` over the keys: the time since the pass before, and what the
scan of each key reads besides. -/
structure Pass where
  elapsed : Nat
  current_level : Key → Bool
  g_is_system_ready : Key → Bool
  status_diag : Key → Bool
  clean_running : Key → Bool

/-- The scan of one key, `elapsed` after the scan before. -/
structure KeyScan where
  key : Key
  elapsed : Nat
  current_level : Bool
  g_is_system_ready : Bool
  status_diag : Bool
  clean_running : Bool

def Pass.scan (pass : Pass) (key : Key) (elapsed : Nat) : KeyScan where
  key := key
  elapsed := elapsed
  current_level := pass.current_level key
  g_is_system_ready := pass.g_is_system_ready key
  status_diag := pass.status_diag key
  clean_running := pass.clean_running key

/-- All keys of a pass are scanned with the time that was read at its begin. -/
def Pass.scans (pass : Pass) : List KeyScan :=
  [pass.scan .KEY_CLEAN pass.elapsed, pass.scan .KEY_CHANGE 0, pass.scan .KEY_SET 0]

/-- A press as it is seen from outside: since when the key is down, the events raised so far,
and how long the key had been down at each scan that found it still down and the system ready. -/
structure Press where
  start : Int
  raised : List LongPress
  held : List Int

/-- A scan of the press has come between the threshold of the event and the next one. -/
def Press.Scanned (p : Press) (event : LongPress) : Prop :=
  ∃ duration ∈ p.held, event.Within duration

/-- The keys with a record of the presses that last, and of whether the factory command has been
sent while CLEAN and CHANGE have been down together. -/
structure Watch where
  keys : Keys
  current_time : Int
  press : Key → Option Press
  factory : Bool

def Watch.start : Watch where
  keys := fun _ => .init
  current_time := 0
  press := fun _ => none
  factory := false

def Watch.now (s : Watch) (m : KeyScan) : Int := s.current_time + m.elapsed

def Watch.reading (s : Watch) (m : KeyScan) : Reading where
  current_level := m.current_level
  current_time := s.now m
  g_is_system_ready := m.g_is_system_ready
  status_diag := m.status_diag
  clean_running := m.clean_running

def Watch.next_keys (s : Watch) (m : KeyScan) : Keys := (key_polling s.keys m.key (s.reading m)).1

def Watch.effects (s : Watch) (m : KeyScan) : List KeyEffect := (key_polling s.keys m.key (s.reading m)).2

/-- The scan raises the event of its key. -/
def Watch.raises (s : Watch) (m : KeyScan) (event : LongPress) : Bool :=
  !(s.keys m.key).triggered event && (s.next_keys m m.key).triggered event

/-- The press of the scanned key after the scan. -/
def Watch.next_press (s : Watch) (m : KeyScan) : Option Press :=
  if m.current_level then
    match s.press m.key with
    | none => some ⟨s.now m, [], []⟩
    | some p => some {
        start := p.start
        raised := p.raised ++ LongPress.all.filter (s.raises m)
        held := if m.g_is_system_ready then p.held ++ [s.now m - p.start] else p.held }
  else none

def Watch.scan (s : Watch) (m : KeyScan) : Watch where
  keys := s.next_keys m
  current_time := s.now m
  press := Function.update s.press m.key (s.next_press m)
  factory := decide (.send_ui_cmd_msg .UI_FACTORY_CMD ∈ s.effects m) ||
    (s.factory && (Function.update s.press m.key (s.next_press m) .KEY_CLEAN).isSome &&
      (Function.update s.press m.key (s.next_press m) .KEY_CHANGE).isSome)

/-- The record of a press agrees with the state of its key: exactly the events are raised for which
a scan has come in time. -/
structure Press.Recorded (p : Press) (state : KeyState) (current_time : Int) : Prop where
  pressed : state.is_pressed = true
  start : state.press_start_time = p.start
  raised : ∀ event, event ∈ p.raised ↔ state.triggered event = true
  held : ∀ event, state.triggered event = true ↔ p.Scanned event
  past : ∀ duration ∈ p.held, duration ≤ current_time - p.start

/-- A key without a press. -/
structure KeyState.Up (state : KeyState) : Prop where
  pressed : state.is_pressed = false
  raised : ∀ event, state.triggered event = false

structure Watch.Recorded (s : Watch) : Prop where
  up : ∀ i, s.press i = none → (s.keys i).Up
  down : ∀ i p, s.press i = some p → p.Recorded (s.keys i) s.current_time
  factory : s.factory = true ↔
    (s.keys .KEY_CLEAN).event_triggered_10s = true ∧ (s.keys .KEY_CHANGE).event_triggered_10s = true

variable {s : Watch} {m : KeyScan} {p : Press} {state : KeyState} {event : LongPress}

theorem released_up (state : KeyState) : state.released.Up where
  pressed := rfl
  raised := by
    intro event
    cases event <;> rfl

/-- A key that has just been pressed has raised nothing yet. -/
theorem pressed_recorded (current_time : Int) :
    (Press.mk current_time [] []).Recorded (.pressed current_time) current_time where
  pressed := rfl
  start := rfl
  raised := by
    intro event
    cases event <;> simp [KeyState.triggered, KeyState.pressed]
  held := by
    intro event
    cases event <;> simp [KeyState.triggered, KeyState.pressed, Press.Scanned]
  past := by
    intro duration hduration
    simp at hduration

/-- A scan of another key is no matter to this one. -/
theorem next_keys_of_ne {j : Key} (hj : j ≠ m.key) : s.next_keys m j = s.keys j := key_polling_of_ne hj

/-- What the scan of a key leaves of its state. -/
theorem next_keys_eq (h : s.Recorded) : (m.current_level = false ∧ (s.next_keys m m.key).Up) ∨
    (m.current_level = true ∧ s.press m.key = none ∧ s.next_keys m m.key = .pressed (s.now m)) ∨
    ∃ p, m.current_level = true ∧ s.press m.key = some p ∧
      ((m.g_is_system_ready = false ∧ s.next_keys m m.key = s.keys m.key) ∨
        m.g_is_system_ready = true ∧ s.next_keys m m.key =
          ((s.keys m.key).next_event (s.now m - p.start)).elim (s.keys m.key) (s.keys m.key).raise) := by
  unfold Watch.next_keys key_polling
  cases hlevel : m.current_level with
  | false =>
    left
    cases hpress : s.press m.key with
    | none =>
      have hup := h.up _ hpress
      simpa [Watch.reading, hlevel, hup.pressed] using hup
    | some p =>
      have hdown := h.down _ _ hpress
      simpa [Watch.reading, hlevel, hdown.pressed] using released_up (s.keys m.key)
  | true =>
    right
    cases hpress : s.press m.key with
    | none =>
      left
      have hup := h.up _ hpress
      simp [Watch.reading, hlevel, hup.pressed]
    | some p =>
      right
      have hdown := h.down _ _ hpress
      refine ⟨p, rfl, rfl, ?_⟩
      cases hready : m.g_is_system_ready with
      | false => simp [Watch.reading, hlevel, hdown.pressed, hready]
      | true => simp [Watch.reading, hlevel, hdown.pressed, hready, hdown.start, key_held_fst]

/-- An event is raised by the scan that finds the key still down, the system ready and the threshold
over. -/
theorem raises_iff (h : s.Recorded) : s.raises m event = true ↔ ∃ p ∈ s.press m.key,
    m.current_level = true ∧ m.g_is_system_ready = true ∧
      (s.keys m.key).next_event (s.now m - p.start) = some event := by
  unfold Watch.raises
  obtain ⟨hlevel, hup⟩ | ⟨hlevel, hpress, hkeys⟩ | ⟨p, hlevel, hpress, hheld⟩ := next_keys_eq (m := m) h
  · simp [hlevel, hup.raised]
  · have hnone : (KeyState.pressed (s.now m)).triggered event = false := by
      cases event <;> rfl
    simp [hpress, hkeys, hnone]
  obtain ⟨hready, hkeys⟩ | ⟨hready, hkeys⟩ := hheld
  · simp [hready, hkeys]
  simp only [hkeys, hlevel, hpress, hready, Option.mem_def, Option.some.injEq, true_and, exists_eq_left']
  cases hnext : (s.keys m.key).next_event (s.now m - p.start) with
  | none => simp
  | some due =>
    have huntriggered := (KeyState.next_event_eq_some hnext).2.1
    simp only [Option.elim_some, KeyState.triggered_raise, Bool.and_eq_true, Bool.not_eq_eq_eq_not,
      Bool.not_true, Bool.or_eq_true, decide_eq_true_eq, Option.some.injEq]
    constructor
    · rintro ⟨hbefore, hafter | rfl⟩
      · exact absurd hafter (by simp [hbefore])
      · rfl
    · rintro rfl
      exact ⟨Bool.eq_false_iff.mpr huntriggered, .inr rfl⟩

section

variable {current_time : Int}

/-- The record of a press still fits as time goes on. -/
theorem Press.Recorded.later (h : p.Recorded state current_time) {now : Int} (hle : current_time ≤ now) :
    p.Recorded state now where
  pressed := h.pressed
  start := h.start
  raised := h.raised
  held := h.held
  past := by
    intro duration hduration
    have hpast := h.past duration hduration
    omega

/-- The event that is raised next comes in order exactly where it is the last one due. -/
theorem Press.Recorded.within_iff (h : p.Recorded state current_time)
    (hnext : state.next_event (current_time - p.start) = some event) :
    (∀ before ∈ p.raised, before.time < event.time) ↔ event.Within (current_time - p.start) := by
  obtain ⟨hdue, huntriggered, hlonger⟩ := KeyState.next_event_eq_some hnext
  constructor
  · intro horder
    obtain ⟨last, hlast⟩ := exists_within hdue
    have hle := hlast.le hdue
    have heq : event.time = last.time := by
      by_contra hne
      have hraised := (h.raised last).mpr (hlonger last (by omega) hlast.1)
      have hlt := horder last hraised
      omega
    rwa [LongPress.eq_of_time heq]
  · intro hwithin before hbefore
    have htriggered := (h.raised before).mp hbefore
    obtain ⟨duration, hduration, hbeforeWithin⟩ := (h.held before).mp htriggered
    have hpast := h.past duration hduration
    have hstart := hbeforeWithin.1
    have hle := hwithin.le (show before.time ≤ _ by omega)
    have hne : before.time ≠ event.time := by
      intro heq
      obtain rfl := LongPress.eq_of_time heq
      exact huntriggered htriggered
    omega

/-- The events are raised in order exactly where the scans have come past the lower thresholds in time. -/
theorem Press.Recorded.in_order_iff (h : p.Recorded state current_time) :
    (∀ event, state.next_event (current_time - p.start) = some event →
        ∀ before ∈ p.raised, before.time < event.time) ↔
      ∀ event : LongPress, event.Within (current_time - p.start) → p.Scanned event →
        ∀ before : LongPress, before.time < event.time → p.Scanned before := by
  constructor
  · intro horder event hwithin hscanned before hbefore
    have hdue := hwithin.1
    cases hnext : state.next_event (current_time - p.start) with
    | none => exact (h.held before).mp (KeyState.next_event_eq_none hnext (by omega))
    | some next =>
      have hnextWithin := (h.within_iff hnext).mp (horder next hnext)
      obtain rfl := hnextWithin.eq hwithin
      have huntriggered := (KeyState.next_event_eq_some hnext).2.1
      exact absurd ((h.held next).mpr hscanned) huntriggered
  · intro hscans event hnext
    rw [h.within_iff hnext]
    obtain ⟨hdue, huntriggered, hlonger⟩ := KeyState.next_event_eq_some hnext
    obtain ⟨last, hlast⟩ := exists_within hdue
    have hle := hlast.le hdue
    by_cases heq : event.time = last.time
    · rwa [LongPress.eq_of_time heq]
    -- the last event due has been raised, so that a scan has come past each lower threshold
    have hscanned := (h.held last).mp (hlonger last (by omega) hlast.1)
    have hbefore := (h.held event).mpr (hscans last hlast hscanned event (by omega))
    exact absurd hbefore huntriggered

end

/-- The clock of the scans does not go back. -/
theorem Watch.now_le (s : Watch) (m : KeyScan) : s.current_time ≤ s.now m := by
  unfold now
  omega

/-- A key is up exactly when no press of it is on record. -/
theorem Watch.Recorded.is_pressed_iff (h : s.Recorded) (i : Key) :
    (s.keys i).is_pressed = false ↔ s.press i = none := by
  cases hpress : s.press i with
  | none => simp [(h.up i hpress).pressed]
  | some p => simp [(h.down i p hpress).pressed]

/-- A key that has an event is pressed. -/
theorem Watch.Recorded.exists_press (h : s.Recorded) {i : Key} (event : LongPress)
    (htriggered : (s.keys i).triggered event = true) : ∃ p ∈ s.press i, p.Scanned event := by
  cases hpress : s.press i with
  | none => simp [(h.up i hpress).raised] at htriggered
  | some p => exact ⟨p, rfl, ((h.down i p hpress).held event).mp htriggered⟩

end catbox.diag
