import CatLitterBox.Diag.Watch
import CatLitterBox.Temporal.Run

open temporal

namespace catbox.diag

/-- What the scan of a key may do: nothing is sent while the system is not ready; an event is raised in
a press that has lasted as long and has raised only events with lower thresholds before; a press whose
end asks for something has been shorter than 3 s; and the factory command is sent once while CLEAN and
CHANGE are down together. -/
structure WellFormed (s : Watch) (m : KeyScan) : Prop where
  quiet : m.g_is_system_ready = false → s.effects m = []
  raised : ∀ event, s.raises m event → ∃ p ∈ s.press m.key, event.time ≤ s.now m - p.start ∧
    ∀ before ∈ p.raised, before.time < event.time
  click : m.current_level = false → s.effects m ≠ [] → ∃ p ∈ s.press m.key, s.now m - p.start < TIME_THRES_3S
  factory : .send_ui_cmd_msg .UI_FACTORY_CMD ∈ s.effects m → s.factory = false

/-- The system was ready at the scans that matter. A scan that comes past the same last threshold as
one before has had one past each lower threshold before it; where a press of at least 3 s of one key
alone ends with the system ready, one of its scans has come after 3 s; and where CLEAN and CHANGE are
both down and have been scanned after 10 s, SET is not scanned after 10 s for the first time. -/
structure Attended (s : Watch) (m : KeyScan) : Prop where
  order : ∀ p ∈ s.press m.key, m.current_level → m.g_is_system_ready →
    ∀ event, event.Within (s.now m - p.start) → p.Scanned event →
      ∀ before : LongPress, before.time < event.time → p.Scanned before
  click : ∀ p ∈ s.press m.key, m.current_level = false → m.g_is_system_ready →
    (∀ j ≠ m.key, s.press j = none) → TIME_THRES_3S ≤ s.now m - p.start → ∃ event, p.Scanned event
  factory : ∀ p ∈ s.press m.key, m.key = .KEY_SET → m.current_level → m.g_is_system_ready →
    TIME_THRES_10S ≤ s.now m - p.start → (∃ clean ∈ s.press .KEY_CLEAN, clean.Scanned .after_10s) →
      (∃ change ∈ s.press .KEY_CHANGE, change.Scanned .after_10s) → p.Scanned .after_10s

variable {s : Watch} {m : KeyScan} {p : Press} {event : LongPress}

/-- The events of a press come in the order of their thresholds exactly if no scan was missed. -/
theorem raised_iff_order (h : s.Recorded) :
    (∀ event, s.raises m event → ∃ p ∈ s.press m.key, event.time ≤ s.now m - p.start ∧
      ∀ before ∈ p.raised, before.time < event.time) ↔
    ∀ p ∈ s.press m.key, m.current_level → m.g_is_system_ready →
      ∀ event : LongPress, event.Within (s.now m - p.start) → p.Scanned event →
        ∀ before : LongPress, before.time < event.time → p.Scanned before := by
  constructor
  · intro hraised p hpress hlevel hready
    have hdown := (h.down _ p hpress).later (s.now_le m)
    apply hdown.in_order_iff.mp
    intro event hnext
    obtain ⟨same, hsame, -, horder⟩ := hraised event ((raises_iff h).mpr ⟨p, hpress, hlevel, hready, hnext⟩)
    obtain rfl := Option.mem_unique hsame hpress
    exact horder
  · intro horder event hraises
    obtain ⟨p, hpress, hlevel, hready, hnext⟩ := (raises_iff h).mp hraises
    have hdown := (h.down _ p hpress).later (s.now_le m)
    exact ⟨p, hpress, (KeyState.next_event_eq_some hnext).1,
      hdown.in_order_iff.mpr (horder p hpress hlevel hready) event hnext⟩

/-- The end of a press asks for something where the system is ready, none of its scans has come
after 3 s, and the key has been pressed alone. -/
theorem click_iff (h : s.Recorded) (hlevel : m.current_level = false) : s.effects m ≠ [] ↔
    ∃ p ∈ s.press m.key, m.g_is_system_ready = true ∧ (∀ j ≠ m.key, s.press j = none) ∧
      ¬ ∃ event, p.Scanned event := by
  cases hpress : s.press m.key with
  | none =>
    have hup := (h.up _ hpress).pressed
    simp [Watch.effects, key_polling, Watch.reading, hlevel, hup]
  | some p =>
    have hdown := h.down _ _ hpress
    have hevents : (∀ event, (s.keys m.key).triggered event = false) ↔ ¬ ∃ event, p.Scanned event := by
      rw [not_exists]
      exact forall_congr' fun event => by rw [← hdown.held event, Bool.not_eq_true]
    have halone : (∀ j ≠ m.key, (s.keys j).is_pressed = false) ↔ ∀ j ≠ m.key, s.press j = none :=
      forall₂_congr fun j _ => h.is_pressed_iff j
    have hflags : (!(s.keys m.key).event_triggered_10s ∧ !(s.keys m.key).event_triggered_5s ∧
        !(s.keys m.key).event_triggered_3s) ↔ ∀ event, (s.keys m.key).triggered event = false := by
      constructor
      · intro hnone event
        cases event <;> simp_all [KeyState.triggered]
      · intro hnone
        simpa using ⟨hnone .after_10s, hnone .after_5s, hnone .after_3s⟩
    simp only [Watch.effects, key_polling, Watch.reading, hlevel, hdown.pressed, Bool.false_eq_true, if_false,
      if_true, Option.mem_def, Option.some.injEq, exists_eq_left']
    cases hready : m.g_is_system_ready with
    | false => simp
    | true =>
      simp only [Bool.not_true, Bool.false_eq_true, if_false, true_and, ← halone, ← hevents]
      by_cases hclick : !(s.keys m.key).event_triggered_10s ∧ !(s.keys m.key).event_triggered_5s ∧
          !(s.keys m.key).event_triggered_3s
      · rw [if_pos hclick, key_click_ne_nil]
        exact (and_iff_left (hflags.mp hclick)).symm
      · rw [if_neg hclick]
        simp [mt hflags.mpr hclick]

/-- A short press clicks, and a long one does not, exactly if the long one has been noticed. -/
theorem click_iff_attended (h : s.Recorded) :
    (m.current_level = false → s.effects m ≠ [] → ∃ p ∈ s.press m.key, s.now m - p.start < TIME_THRES_3S) ↔
    ∀ p ∈ s.press m.key, m.current_level = false → m.g_is_system_ready → (∀ j ≠ m.key, s.press j = none) →
      TIME_THRES_3S ≤ s.now m - p.start → ∃ event, p.Scanned event := by
  constructor
  · intro hclick p hpress hlevel hready halone hlong
    by_contra hnone
    have heffects := (click_iff h hlevel).mpr ⟨p, hpress, hready, halone, hnone⟩
    obtain ⟨same, hsame, hshort⟩ := hclick hlevel heffects
    obtain rfl := Option.mem_unique hsame hpress
    omega
  · intro hscans hlevel heffects
    obtain ⟨p, hpress, hready, halone, hnone⟩ := (click_iff h hlevel).mp heffects
    refine ⟨p, hpress, ?_⟩
    by_contra hlong
    exact hnone (hscans p hpress hlevel hready halone (by omega))

/-- The factory command is sent where a 10 s event leaves CLEAN and CHANGE both with one. -/
theorem factory_mem_iff (h : s.Recorded) : .send_ui_cmd_msg .UI_FACTORY_CMD ∈ s.effects m ↔
    s.raises m .after_10s = true ∧ (s.next_keys m .KEY_CHANGE).event_triggered_10s = true ∧
      (s.next_keys m .KEY_CLEAN).event_triggered_10s = true := by
  rw [raises_iff h]
  unfold Watch.effects Watch.next_keys key_polling
  cases hlevel : m.current_level with
  | false =>
    simp only [Watch.reading, hlevel, Bool.false_eq_true, if_false, false_and, and_false, exists_false,
      iff_false]
    split_ifs
    · exact List.not_mem_nil
    · exact factory_not_mem_key_click
    · exact List.not_mem_nil
    · exact List.not_mem_nil
  | true =>
    cases hpress : s.press m.key with
    | none => simp [Watch.reading, hlevel, (h.up _ hpress).pressed]
    | some p =>
      have hdown := h.down _ _ hpress
      cases hready : m.g_is_system_ready with
      | false => simp [Watch.reading, hlevel, hdown.pressed, hready]
      | true =>
        simp only [Watch.reading, hlevel, hdown.pressed, hready, hdown.start, Bool.not_true,
          Bool.false_eq_true, if_false, if_true, Option.mem_def, Option.some.injEq, true_and, exists_eq_left']
        exact factory_mem_key_held

/-- A factory reset is asked for once exactly if the other two keys have been scanned in time. -/
theorem factory_iff_attended (h : s.Recorded) :
    (.send_ui_cmd_msg .UI_FACTORY_CMD ∈ s.effects m → s.factory = false) ↔
    ∀ p ∈ s.press m.key, m.key = .KEY_SET → m.current_level → m.g_is_system_ready →
      TIME_THRES_10S ≤ s.now m - p.start → (∃ clean ∈ s.press .KEY_CLEAN, clean.Scanned .after_10s) →
        (∃ change ∈ s.press .KEY_CHANGE, change.Scanned .after_10s) → p.Scanned .after_10s := by
  rw [factory_mem_iff h]
  constructor
  · intro honce p hpress hkey hlevel hready hlong hcleanHeld hchangeHeld
    obtain ⟨clean, hclean, hcleanScanned⟩ := hcleanHeld
    obtain ⟨change, hchange, hchangeScanned⟩ := hchangeHeld
    by_contra hnot
    have huntriggered : (s.keys m.key).event_triggered_10s = false :=
      Bool.eq_false_iff.mpr (mt ((h.down _ p hpress).held .after_10s).mp hnot)
    have hnext : (s.keys m.key).next_event (s.now m - p.start) = some .after_10s :=
      if_pos ⟨hlong, by simp [huntriggered]⟩
    have hCLEAN := ((h.down _ clean hclean).held .after_10s).mpr hcleanScanned
    have hCHANGE := ((h.down _ change hchange).held .after_10s).mpr hchangeScanned
    have hfactory := honce ⟨(raises_iff h).mpr ⟨p, hpress, hlevel, hready, hnext⟩,
      by rwa [next_keys_of_ne (by simp [hkey])], by rwa [next_keys_of_ne (by simp [hkey])]⟩
    rw [h.factory.mpr ⟨hCLEAN, hCHANGE⟩] at hfactory
    cases hfactory
  · rintro hattended ⟨hraises, -, -⟩
    by_contra hfactory
    obtain ⟨hCLEAN, hCHANGE⟩ := h.factory.mp (Bool.not_eq_false _ ▸ hfactory)
    obtain ⟨p, hpress, hlevel, hready, hnext⟩ := (raises_iff h).mp hraises
    obtain ⟨hlong, huntriggered, -⟩ := KeyState.next_event_eq_some hnext
    have hkey : m.key = .KEY_SET := by
      cases hkey : m.key with
      | KEY_CLEAN => simp [hkey, KeyState.triggered, hCLEAN] at huntriggered
      | KEY_CHANGE => simp [hkey, KeyState.triggered, hCHANGE] at huntriggered
      | KEY_SET => rfl
    have hscanned := hattended p hpress hkey hlevel hready hlong (h.exists_press .after_10s hCLEAN)
      (h.exists_press .after_10s hCHANGE)
    exact huntriggered (((h.down _ p hpress).held .after_10s).mpr hscanned)

private theorem effects_not_ready (s : Watch) (hready : m.g_is_system_ready = false) : s.effects m = [] := by
  unfold Watch.effects key_polling
  simp only [Watch.reading, hready, Bool.not_false, if_true]
  split_ifs <;> rfl

theorem wellFormed_iff_attended (h : s.Recorded) : WellFormed s m ↔ Attended s m := by
  constructor
  · intro hm
    exact ⟨(raised_iff_order h).mp hm.raised, (click_iff_attended h).mp hm.click,
      (factory_iff_attended h).mp hm.factory⟩
  · intro hm
    exact ⟨effects_not_ready s, (raised_iff_order h).mpr hm.order, (click_iff_attended h).mpr hm.click,
      (factory_iff_attended h).mpr hm.factory⟩

/-- An event stays as long as its key is down. -/
theorem triggered_kept (h : s.Recorded) (hlevel : m.current_level = true) {i : Key}
    (htriggered : (s.keys i).triggered event = true) : (s.next_keys m i).triggered event = true := by
  by_cases hi : i = m.key
  · subst hi
    obtain ⟨hup, -⟩ | ⟨-, hpress, -⟩ | ⟨p, -, -, hheld⟩ := next_keys_eq (m := m) h
    · simp [hlevel] at hup
    · simp [(h.up _ hpress).raised] at htriggered
    · obtain ⟨-, hkeys⟩ | ⟨-, hkeys⟩ := hheld
      · rwa [hkeys]
      · rw [hkeys]
        cases (s.keys m.key).next_event (s.now m - p.start) with
        | none => exact htriggered
        | some due =>
          simp [KeyState.triggered_raise, htriggered]
  · rwa [next_keys_of_ne hi]

/-- After the scan, the record has the events that the key has. -/
theorem mem_raised_iff (event : LongPress) (h : s.Recorded) (hlevel : m.current_level = true)
    (hpress : s.press m.key = some p) :
    event ∈ p.raised ++ LongPress.all.filter (s.raises m) ↔ (s.next_keys m m.key).triggered event = true := by
  rw [List.mem_append, List.mem_filter, (h.down _ _ hpress).raised event, and_iff_right event.mem_all]
  constructor
  · rintro (hbefore | hraises)
    · exact triggered_kept h hlevel hbefore
    · unfold Watch.raises at hraises
      exact (Bool.and_eq_true_iff.mp hraises).2
  · intro hafter
    cases hbefore : (s.keys m.key).triggered event with
    | true => exact .inl rfl
    | false =>
      right
      simp [Watch.raises, hbefore, hafter]

/-- A scan in order raises the last event that is due, if it has not been raised. -/
theorem triggered_iff_scanned (h : s.Recorded) (hm : WellFormed s m) (hpress : s.press m.key = some p)
    (hlevel : m.current_level = true) (hready : m.g_is_system_ready = true) :
    (((s.keys m.key).next_event (s.now m - p.start)).elim (s.keys m.key) (s.keys m.key).raise).triggered event =
        true ↔ p.Scanned event ∨ event.Within (s.now m - p.start) := by
  have hdown := (h.down _ p hpress).later (s.now_le m)
  rw [← hdown.held event]
  cases hnext : (s.keys m.key).next_event (s.now m - p.start) with
  | none =>
    constructor
    · exact .inl
    · rintro (htriggered | hwithin)
      · exact htriggered
      · exact KeyState.next_event_eq_none hnext hwithin.1
  | some due =>
    have hwithin : due.Within (s.now m - p.start) := by
      rw [← hdown.within_iff hnext]
      obtain ⟨same, hsame, -, horder⟩ := hm.raised due ((raises_iff h).mpr ⟨p, hpress, hlevel, hready, hnext⟩)
      obtain rfl := Option.mem_unique hsame hpress
      exact horder
    simp only [Option.elim_some, KeyState.triggered_raise, Bool.or_eq_true, decide_eq_true_eq]
    apply or_congr_right
    constructor
    · rintro rfl
      exact hwithin
    · intro hlast
      exact hlast.eq hwithin

theorem next_press_recorded (h : s.Recorded) (hm : WellFormed s m) {after : Press}
    (hafter : s.next_press m = some after) : after.Recorded (s.next_keys m m.key) (s.now m) := by
  unfold Watch.next_press at hafter
  obtain ⟨hlevel, -⟩ | ⟨hlevel, hpress, hkeys⟩ | ⟨p, hlevel, hpress, hheld⟩ := next_keys_eq (m := m) h
  · simp [hlevel] at hafter
  · simp only [hlevel, hpress, if_true, Option.some.injEq] at hafter
    subst hafter
    rw [hkeys]
    exact pressed_recorded (s.now m)
  have hdown := (h.down _ p hpress).later (s.now_le m)
  have hraised (event : LongPress) := mem_raised_iff event h hlevel hpress
  obtain ⟨hready, hkeys⟩ | ⟨hready, hkeys⟩ := hheld
  · simp only [hlevel, hpress, hready, Bool.false_eq_true, if_true, if_false, Option.some.injEq] at hafter
    subst hafter
    exact { pressed := by rw [hkeys]; exact hdown.pressed
            start := by rw [hkeys]; exact hdown.start
            raised := hraised
            held := by rw [hkeys]; exact hdown.held
            past := hdown.past }
  · simp only [hlevel, hpress, hready, if_true, Option.some.injEq] at hafter
    subst hafter
    refine ⟨?_, ?_, hraised, ?_, ?_⟩
    · rw [hkeys]
      cases (s.keys m.key).next_event (s.now m - p.start) with
      | none => exact hdown.pressed
      | some due => simpa using hdown.pressed
    · rw [hkeys]
      cases (s.keys m.key).next_event (s.now m - p.start) with
      | none => exact hdown.start
      | some due => simpa using hdown.start
    · intro event
      rw [hkeys, triggered_iff_scanned h hm hpress hlevel hready]
      simp [Press.Scanned, or_and_right, exists_or]
    · intro duration hduration
      obtain hbefore | hnow := List.mem_append.mp hduration
      · exact hdown.past duration hbefore
      · rw [List.mem_singleton.mp hnow]

theorem next_keys_up (h : s.Recorded) (hnone : s.next_press m = none) : (s.next_keys m m.key).Up := by
  unfold Watch.next_press at hnone
  obtain ⟨-, hup⟩ | ⟨hlevel, hpress, -⟩ | ⟨p, hlevel, hpress, -⟩ := next_keys_eq (m := m) h
  · exact hup
  · simp [hlevel, hpress] at hnone
  · simp [hlevel, hpress] at hnone

theorem scan_press_self (s : Watch) (m : KeyScan) : (s.scan m).press m.key = s.next_press m :=
  Function.update_self _ _ _

theorem scan_press_of_ne {i : Key} (hi : i ≠ m.key) : (s.scan m).press i = s.press i :=
  Function.update_of_ne hi _ _

theorem scan_up (h : s.Recorded) {i : Key} (hnone : (s.scan m).press i = none) : (s.next_keys m i).Up := by
  by_cases hi : i = m.key
  · subst hi
    apply next_keys_up h
    rwa [scan_press_self] at hnone
  · rw [next_keys_of_ne hi]
    apply h.up
    rwa [scan_press_of_ne hi] at hnone

/-- A key that has an event is down after the scan exactly where it keeps the event. -/
theorem scan_press_isSome_iff (event : LongPress) (h : s.Recorded) {i : Key}
    (htriggered : (s.keys i).triggered event = true) :
    ((s.scan m).press i).isSome ↔ (s.next_keys m i).triggered event = true := by
  constructor
  · intro hsome
    by_cases hi : i = m.key
    · subst hi
      apply triggered_kept h _ htriggered
      by_contra hlevel
      simp [Watch.scan, Watch.next_press, hlevel] at hsome
    · rwa [next_keys_of_ne hi]
  · intro hkept
    by_contra hnone
    have hup := scan_up h (Option.not_isSome_iff_eq_none.mp hnone)
    rw [hup.raised] at hkept
    cases hkept

/-- The factory command has been sent in the joint hold exactly where CLEAN and CHANGE both have
the 10 s event. -/
theorem scan_factory_iff (h : s.Recorded) : (s.scan m).factory = true ↔
    (s.next_keys m .KEY_CLEAN).event_triggered_10s = true ∧
      (s.next_keys m .KEY_CHANGE).event_triggered_10s = true := by
  have hscan : (s.scan m).factory = true ↔ .send_ui_cmd_msg .UI_FACTORY_CMD ∈ s.effects m ∨
      (s.factory = true ∧ ((s.scan m).press .KEY_CLEAN).isSome) ∧ ((s.scan m).press .KEY_CHANGE).isSome := by
    simp only [Watch.scan, Bool.or_eq_true, Bool.and_eq_true, decide_eq_true_eq]
  rw [hscan, factory_mem_iff h]
  constructor
  · rintro (⟨-, hchange, hclean⟩ | ⟨⟨hfactory, hclean⟩, hchange⟩)
    · exact ⟨hclean, hchange⟩
    · obtain ⟨hcleanBefore, hchangeBefore⟩ := h.factory.mp hfactory
      exact ⟨(scan_press_isSome_iff .after_10s h hcleanBefore).mp hclean,
        (scan_press_isSome_iff .after_10s h hchangeBefore).mp hchange⟩
  · rintro ⟨hclean, hchange⟩
    cases hraises : s.raises m .after_10s with
    | true => exact .inl ⟨rfl, hchange, hclean⟩
    | false =>
      -- no key has got a 10 s event, so that both have had theirs before
      have hbefore (i : Key) (hafter : (s.next_keys m i).event_triggered_10s = true) :
          (s.keys i).event_triggered_10s = true := by
        by_cases hi : i = m.key
        · subst hi
          by_contra hnot
          simp [Watch.raises, KeyState.triggered, hnot, hafter] at hraises
        · rwa [next_keys_of_ne hi] at hafter
      have hcleanBefore := hbefore .KEY_CLEAN hclean
      have hchangeBefore := hbefore .KEY_CHANGE hchange
      exact .inr ⟨⟨h.factory.mpr ⟨hcleanBefore, hchangeBefore⟩,
        (scan_press_isSome_iff .after_10s h hcleanBefore).mpr hclean⟩,
        (scan_press_isSome_iff .after_10s h hchangeBefore).mpr hchange⟩

private theorem scan_recorded (h : s.Recorded) (hm : WellFormed s m) : (s.scan m).Recorded where
  up := fun _ hnone => scan_up h hnone
  down := by
    intro i p hpress
    by_cases hi : i = m.key
    · subst hi
      apply next_press_recorded h hm
      rwa [scan_press_self] at hpress
    · rw [scan_press_of_ne hi] at hpress
      change p.Recorded (s.next_keys m i) (s.now m)
      rw [next_keys_of_ne hi]
      exact (h.down i p hpress).later (s.now_le m)
  factory := scan_factory_iff h

/-- At the start no key is down and nothing is recorded. -/
theorem start_recorded : Watch.start.Recorded where
  up := by
    intro i _
    refine ⟨rfl, fun event => ?_⟩
    cases event <;> rfl
  down := by
    intro i p hpress
    cases hpress
  factory := by decide

/-- The presses of the keys are well formed exactly where the system was ready at the scans
that matter. -/
theorem presses_well_formed_iff (passes : List Pass) :
    Along Watch.scan WellFormed .start (passes.flatMap Pass.scans) ↔
      Along Watch.scan Attended .start (passes.flatMap Pass.scans) :=
  along_congr (I := Watch.Recorded) (fun _ _ h hm => scan_recorded h hm)
    (fun _ _ h => wellFormed_iff_attended h) start_recorded

instance (s : Watch) (m : KeyScan) : Decidable (WellFormed s m) :=
  decidable_of_iff
    ((m.g_is_system_ready = false → s.effects m = []) ∧
      (∀ event, s.raises m event → ∃ p ∈ s.press m.key, event.time ≤ s.now m - p.start ∧
        ∀ before ∈ p.raised, before.time < event.time) ∧
      (m.current_level = false → s.effects m ≠ [] → ∃ p ∈ s.press m.key, s.now m - p.start < TIME_THRES_3S) ∧
      (.send_ui_cmd_msg .UI_FACTORY_CMD ∈ s.effects m → s.factory = false))
    ⟨fun ⟨quiet, raised, click, factory⟩ => ⟨quiet, raised, click, factory⟩,
      fun ⟨quiet, raised, click, factory⟩ => ⟨quiet, raised, click, factory⟩⟩

/-- A pass, `elapsed` after the one before, in which CLEAN alone is down. -/
def clean_down (elapsed : Nat) (ready : Bool) : Pass where
  elapsed := elapsed
  current_level := fun key => decide (key = .KEY_CLEAN)
  g_is_system_ready := fun _ => ready
  status_diag := fun _ => false
  clean_running := fun _ => false

/-- The system gets ready when CLEAN has been down for 10 s: its 10 s event is raised first, and the
5 s event 20 ms later. -/
theorem late_ready_out_of_order :
    ¬ ∀ passes : List Pass, Along Watch.scan WellFormed .start (passes.flatMap Pass.scans) := by
  intro h
  exact absurd (h [clean_down 20 false, clean_down 10000 true, clean_down 20 true]) (by decide)

end catbox.diag
