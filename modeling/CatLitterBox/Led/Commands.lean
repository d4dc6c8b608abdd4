import CatLitterBox.Led.Process
import CatLitterBox.Memory.Cell
import CatLitterBox.Program.Rely

open program temporal memory Relation

namespace catbox.led

/-- What `led_process_task` works on: `led_mode`, of which it is recorded where it comes from, the strip, and
the
clock. -/
structure Led where
  led_mode : Cell Mode
  strip : Rgbw
  now : Int

def Led.boot : Led := ⟨.boot .LED_IDLE_MODE, ⟨0, 0, 0, 0⟩, 0⟩

def Led.perform : (a : Action) → Led → a.Answer × Led
  | .led_mode, l => (l.led_mode.value, { l with led_mode := l.led_mode.load })
  | .set_led_opmode mode, l => ((), { l with led_mode := l.led_mode.store mode })
  | .led_strip_refresh color, l => ((), { l with strip := color })
  | .led_strip_clear, l => ((), { l with strip := ⟨0, 0, 0, 0⟩ })
  | .esp_timer_get_time, l => (l.now, l)
  | .vTaskDelay _, l => ((), l)

/-- What happens between the actions of `led_process_task`: `led_task` takes a message from its queue, and
time passes. -/
inductive Change where
  | message (cmd : UInt32)
  | time (now : Int)

def Led.change (l : Led) : Change → Led
  | .message cmd =>
    match led_task cmd with
    | some mode => { l with led_mode := l.led_mode.set mode }
    | none => l
  | .time now => { l with now }

abbrev System : Type 1 := Shared Action Action.Answer Empty Led

def System.boot : System := ⟨led_process_task, .boot⟩

/-- The mode that follows a mode in its pattern. -/
def successor : Mode → Option Mode
  | .LED_IDLE_MODE => none
  | .LED_NORMAL_MODE => some .LED_IDLE_MODE
  | .LED_INITOK_MODE => some .LED_INITOK_MODE_1
  | .LED_INITOK_MODE_1 => some .LED_INITOK_MODE_2
  | .LED_INITOK_MODE_2 => some .LED_IDLE_MODE
  | .LED_PAIRING_MODE => some .LED_PAIRING_MODE_1
  | .LED_PAIRING_MODE_1 => some .LED_PAIRING_MODE_2
  | .LED_PAIRING_MODE_2 => some .LED_PAIRING_MODE
  | .LED_UNLOCK_MODE => some .LED_LOCK_MODE_1
  | .LED_UNLOCK_MODE_1 => some .LED_LOCK_MODE_2
  | .LED_UNLOCK_MODE_2 => some .LED_UNLOCK_MODE_3
  | .LED_UNLOCK_MODE_3 => some .LED_UNLOCK_MODE_4
  | .LED_UNLOCK_MODE_4 => some .LED_IDLE_MODE
  | .LED_LOCK_MODE => some .LED_LOCK_MODE_1
  | .LED_LOCK_MODE_1 => some .LED_LOCK_MODE_2
  | .LED_LOCK_MODE_2 => some .LED_IDLE_MODE
  | .LED_INVALID_MODE => some .LED_INVALID_MODE_1
  | .LED_INVALID_MODE_1 => some .LED_INVALID_MODE_2
  | .LED_INVALID_MODE_2 => some .LED_INVALID_MODE_3
  | .LED_INVALID_MODE_3 => some .LED_INVALID_MODE_4
  | .LED_INVALID_MODE_4 => some .LED_IDLE_MODE
  | .LED_INUSE_MODE => some .LED_IDLE_MODE
  | .LED_CLEANING_MODE => some .LED_CLEANING_MODE_1
  | .LED_CLEANING_MODE_1 => none
  | .LED_MANAGE_MODE => some .LED_MANAGE_MODE_1
  | .LED_MANAGE_MODE_1 => none
  | .LED_BINFULL_MODE => some .LED_IDLE_MODE
  | .LED_ERROR_MODE => some .LED_ERROR_MODE_1
  | .LED_ERROR_MODE_1 => some .LED_ERROR_MODE_2
  | .LED_ERROR_MODE_2 => some .LED_ERROR_MODE
  | .LED_QCMODE_MODE => some .LED_QCMODE_MODE_1
  | .LED_QCMODE_MODE_1 => some .LED_QCMODE_MODE_2
  | .LED_QCMODE_MODE_2 => some .LED_QCMODE_MODE
  | .LED_QCQUIT_MODE => some .LED_QCQUIT_MODE_1
  | .LED_QCQUIT_MODE_1 => some .LED_QCQUIT_MODE_2
  | .LED_QCQUIT_MODE_2 => some .LED_QCQUIT_MODE_3
  | .LED_QCQUIT_MODE_3 => some .LED_QCQUIT_MODE_4
  | .LED_QCQUIT_MODE_4 => some .LED_QCQUIT_MODE_5
  | .LED_QCQUIT_MODE_5 => some .LED_IDLE_MODE
  | .LED_PAUSE_MODE => some .LED_PAUSE_MODE_1
  | .LED_PAUSE_MODE_1 => some .LED_PAUSE_MODE_2
  | .LED_PAUSE_MODE_2 => some .LED_PAUSE_MODE

/-- A mode follows another in its pattern. -/
def Follows (mode next : Mode) : Prop := successor mode = some next

/-- No command has set a mode since `led_process_task` has read the mode whose successor it writes. -/
def Undisturbed : Action → Led → Prop
  | .set_led_opmode _, l => l.led_mode.overtaken = false
  | _, _ => True

/-- The actions of a case: a mode that is written is the successor of the case's. -/
def InCase (mode : Mode) : Action → Prop
  | .led_mode => False
  | .set_led_opmode next => Follows mode next
  | _ => True

variable {mode next : Mode} {s : Static}

theorem every_act {p : Action → Prop} {a : Action} (ha : p a) : (act a).Every p := Program.every_perform ha

theorem leave_every (hnext : Follows mode next) : (leave next s).Every (InCase mode) :=
  Program.every_bind (every_act hnext) fun _ => trivial

theorem shown_every {color : Code Unit} (hcolor : color.Every (InCase mode)) (hnext : Follows mode next) :
    (shown color next s).Every (InCase mode) := by
  refine Program.every_bind hcolor fun _ => ?_
  exact Program.every_bind (every_act trivial) fun _ => leave_every hnext

theorem lit_every {color : Code Unit} (hcolor : color.Every (InCase mode)) (hnext : Follows mode next) :
    (lit color next s).Every (InCase mode) :=
  Program.every_bind hcolor fun _ => leave_every hnext

theorem waiting_every {ms : Int} {after : Static → Code Static} (hafter : ∀ s, (after s).Every (InCase mode)) :
    (waiting ms after s).Every (InCase mode) :=
  Program.every_bind (every_act trivial) fun _ => Program.every_ite (hafter _) trivial

theorem led_animation_every {animation color : Nat} : (led_animation animation color s).Every
    (InCase mode) := by
  refine Program.every_ite trivial ?_
  exact Program.every_bind (every_act trivial) fun _ => trivial

private theorem animated_every {color : Nat} (hnext : Follows mode next) :
    (animated color next s).Every (InCase mode) := by
  refine Program.every_bind led_animation_every fun s => ?_
  exact Program.every_bind led_animation_every fun s => leave_every hnext

/-- Each case of `led_process_task` writes nothing but the successor of its mode. -/
theorem led_pattern_every : (led_pattern mode s).Every (InCase mode) := by
  have hrgbw (n : Nat) : (led_full_rgbw n).Every (InCase mode) := every_act trivial
  have hcolor (n value : Nat) : (led_full_rgbw_color n value).Every (InCase mode) := every_act trivial
  have hoff : led_full_off.Every (InCase mode) := every_act trivial
  cases mode with
  | LED_IDLE_MODE => trivial
  | LED_CLEANING_MODE_1 | LED_MANAGE_MODE_1 => exact led_animation_every
  | LED_CLEANING_MODE | LED_MANAGE_MODE => exact animated_every rfl
  | LED_NORMAL_MODE | LED_INUSE_MODE | LED_BINFULL_MODE => exact lit_every (hrgbw _) rfl
  | LED_QCQUIT_MODE_5 => exact waiting_every fun _ => lit_every (hrgbw _) rfl
  | LED_PAUSE_MODE => exact shown_every (hcolor _ _) rfl
  | LED_INITOK_MODE | LED_PAIRING_MODE | LED_UNLOCK_MODE | LED_LOCK_MODE | LED_INVALID_MODE | LED_ERROR_MODE
  | LED_QCMODE_MODE | LED_QCQUIT_MODE => exact shown_every (hrgbw _) rfl
  | LED_PAIRING_MODE_1 | LED_UNLOCK_MODE_2 | LED_INVALID_MODE_2 | LED_QCQUIT_MODE_2 | LED_QCQUIT_MODE_4 =>
    exact waiting_every fun _ => shown_every (hrgbw _) rfl
  | LED_INITOK_MODE_1 | LED_UNLOCK_MODE_1 | LED_UNLOCK_MODE_3 | LED_LOCK_MODE_1 | LED_INVALID_MODE_1
  | LED_INVALID_MODE_3 | LED_ERROR_MODE_1 | LED_QCMODE_MODE_1 | LED_QCQUIT_MODE_1 | LED_QCQUIT_MODE_3
  | LED_PAUSE_MODE_1 => exact waiting_every fun _ => shown_every hoff rfl
  | LED_INITOK_MODE_2 | LED_PAIRING_MODE_2 | LED_UNLOCK_MODE_4 | LED_LOCK_MODE_2 | LED_INVALID_MODE_4
  | LED_ERROR_MODE_2 | LED_QCMODE_MODE_2 | LED_PAUSE_MODE_2 => exact waiting_every fun _ => leave_every rfl

/-- The specification whose state is the mode that was read last: its successor may be written. -/
def pattern_spec : Spec Action Action.Answer Mode where
  allow
    | .set_led_opmode next, mode => Follows mode next
    | _, _ => True
  trans
    | .led_mode, _, answer, t => t = answer
    | _, mode, _, t => t = mode

private theorem inCase_allowed {a : Action} (ha : InCase mode a) : pattern_spec.allow a mode := by
  cases a with
  | led_mode => exact ha.elim
  | set_led_opmode next => exact ha
  | _ => trivial

private theorem inCase_trans {a : Action} {answer : a.Answer} {t : Mode} (ha : InCase mode a)
    (htrans : pattern_spec.trans a mode answer t) : t = mode := by
  cases a with
  | led_mode => exact ha.elim
  | _ => exact htrans

private theorem wp_led_process_task : led_process_task.wp pattern_spec (fun _ _ => True) mode := by
  refine Program.wp_repeated (fun _ _ => True) trivial fun s before _ => ?_
  refine Program.wp_perform_bind trivial fun (mode : Mode) t hread => ?_
  obtain rfl : t = mode := hread
  refine Program.wp_seq (Program.wp_mono (P := fun _ u => u = t) ?_
    (Program.wp_of_every led_pattern_every ?_ ?_ rfl))
  · rintro s _ rfl
    exact Program.wp_perform_bind trivial fun _ _ _ => trivial
  · rintro a _ ha rfl
    exact inCase_allowed ha
  · rintro a _ answer u ha rfl htrans
    exact inCase_trans ha htrans

/-- What is left of `led_process_task` writes only successors of the mode that it has read last, and what is
recorded of the mode fits together. -/
structure System.Traced (c : System) : Prop where
  code : c.code.wp pattern_spec (fun _ _ => True) c.state.led_mode.loaded
  cell : c.state.led_mode.Sound Follows

theorem boot_traced : System.boot.Traced := ⟨wp_led_process_task, Cell.sound_boot⟩

theorem perform_trans {a : Action} {l : Led} :
    pattern_spec.trans a l.led_mode.loaded (l.perform a).1 (l.perform a).2.led_mode.loaded := by
  cases a with
  | _ => rfl

/-- An action that loads a mode and stores a successor of it keeps what is recorded about them. -/
theorem perform_sound {a : Action} {l : Led} (h : l.led_mode.Sound Follows)
    (hallow : pattern_spec.allow a l.led_mode.loaded) : (l.perform a).2.led_mode.Sound Follows := by
  cases a with
  | led_mode => exact h.load
  | set_led_opmode next => exact h.store hallow
  | _ => exact h

/-- `led_task` takes a message upon which it sets a mode. -/
def Takes : Turn Change → Prop
  | .change (.message cmd) => led_task cmd ≠ none
  | _ => False

theorem change_cases (l : Led) (e : Change) :
    Takes (.change e) ∧ (∃ mode, (l.change e).led_mode = l.led_mode.set mode) ∨
      ¬ Takes (.change e) ∧ (l.change e).led_mode = l.led_mode := by
  cases e with
  | message cmd =>
    simp only [Takes, Led.change]
    cases led_task cmd with
    | none => exact .inr ⟨fun hnot => hnot rfl, rfl⟩
    | some mode => exact .inl ⟨nofun, mode, rfl⟩
  | time now => exact .inr ⟨id, rfl⟩

theorem change_sound {l : Led} (h : l.led_mode.Sound Follows) (e : Change) :
    (l.change e).led_mode.Sound Follows := by
  obtain ⟨-, mode, hset⟩ | ⟨-, hkept⟩ := change_cases l e
  · rw [hset]
    exact h.set
  · rwa [hkept]

private theorem change_loaded (l : Led) (e : Change) : (l.change e).led_mode.loaded = l.led_mode.loaded := by
  obtain ⟨-, mode, hset⟩ | ⟨-, hkept⟩ := change_cases l e
  · rw [hset]
    rfl
  · rw [hkept]

theorem change_current {l : Led} (hcurrent : l.led_mode.Current)
    (e : Change) : (l.change e).led_mode.Current := by
  obtain ⟨-, mode, hset⟩ | ⟨-, hkept⟩ := change_cases l e
  · rw [hset]
    exact Cell.current_set
  · rwa [hkept]

/-- A turn of the task or of its environment keeps the code right and the record sound. -/
theorem move_traced {c : System} (h : c.Traced) (turn : Turn Change) :
    System.Traced (c.move Led.perform Led.change turn) where
  code := Shared.wp_move (V := fun l : Led => l.led_mode.loaded)
    (fun _ _ => perform_trans) change_loaded h.code turn
  cell := Shared.keep_move (I := fun l : Led => l.led_mode.Sound Follows) h.cell
    (fun _ hnext => perform_sound h.cell (Program.wp_next h.code hnext)) (change_sound h.cell) turn

private theorem undisturbed_iff_current {a : Action} {l : Led} (h : l.led_mode.Sound Follows)
    (hcurrent : l.led_mode.Current) :
    Undisturbed a l ↔ (l.perform a).2.led_mode.Current := by
  cases a with
  | set_led_opmode next => exact (h.current_store_iff hcurrent).symm
  | _ => exact iff_of_true trivial hcurrent

theorem permits_iff_current {c : System} (h : c.Traced)
    (hcurrent : c.state.led_mode.Current) (turn : Turn Change) :
    c.permits Undisturbed (fun _ _ => True) turn ↔
      (c.move Led.perform Led.change turn).state.led_mode.Current :=
  Shared.permits_iff (I := fun l : Led => l.led_mode.Current) hcurrent
    (fun _ _ => undisturbed_iff_current h.cell hcurrent)
    (fun e => iff_of_true trivial (change_current hcurrent e)) turn

theorem run_traced (turns : List (Turn Change)) :
    System.Traced (System.boot.run Led.perform Led.change turns) :=
  (along_of_forall (fun _ _ => trivial) turns System.boot : Along _ (fun _ _ => True) _ turns).invariant
    (I := System.Traced) (fun _ turn h _ => move_traced h turn) boot_traced

/-- `led_process_task` reads the mode. -/
def System.Reads (c : System) : Turn Change → Prop
  | .own => c.code.next = some .led_mode
  | .change _ => False

/-- `led_process_task` is about to write a mode. -/
def System.Writes (c : System) : Prop := ∃ mode, c.code.next = some (.set_led_opmode mode)

/-- A command is taken between the reading of a mode and the writing of its successor. -/
def Interposed (turns : List (Turn Change)) : Prop :=
  ∃ past command between rest, turns = past ++ command :: between ++ .own :: rest ∧ Takes command ∧
    Along (Shared.move Led.perform Led.change) (fun c turn => ¬ System.Reads c turn)
      (System.boot.run Led.perform Led.change (past ++ [command])) between ∧
    System.Writes (System.boot.run Led.perform Led.change (past ++ command :: between))

private theorem perform_overtaken_iff {a : Action} {l : Led} :
    (l.perform a).2.led_mode.overtaken = true ↔ l.led_mode.overtaken = true ∧ a ≠ .led_mode := by
  cases a with
  | led_mode => exact iff_of_false nofun fun h => h.2 rfl
  | _ => exact (and_iff_left nofun).symm

private theorem change_overtaken_iff {l : Led} {e : Change} :
    (l.change e).led_mode.overtaken = true ↔ Takes (.change e) ∨ l.led_mode.overtaken = true := by
  obtain ⟨htakes, mode, hset⟩ | ⟨hnot, hkept⟩ := change_cases l e
  · rw [hset]
    exact iff_of_true rfl (.inl htakes)
  · rw [hkept, or_iff_right hnot]

private theorem move_overtaken_iff (c : System) (turn : Turn Change) :
    (c.move Led.perform Led.change turn).state.led_mode.overtaken = true ↔
      Takes turn ∨ c.state.led_mode.overtaken = true ∧ ¬ c.Reads turn := by
  cases turn with
  | own =>
    change (c.code.advance Led.perform c.state).2.led_mode.overtaken = true ↔ False ∨ _ ∧
      ¬ c.code.next = some .led_mode
    rw [false_or]
    cases hnext : c.code.next with
    | none =>
      rw [Program.advance_of_none hnext]
      exact (and_iff_left nofun).symm
    | some a =>
      rw [Program.advance_of_next hnext, perform_overtaken_iff, Option.some_inj]
  | change e =>
    refine change_overtaken_iff.trans (or_congr_right (and_iff_left id).symm)

/-- A command has been taken since the mode was read. -/
theorem overtaken_iff (turns : List (Turn Change)) :
    (System.boot.run Led.perform Led.change turns).state.led_mode.overtaken = true ↔
      ∃ past command between, turns = past ++ command :: between ∧ Takes command ∧
        Along (Shared.move Led.perform Led.change) (fun c turn => ¬ System.Reads c turn)
          (System.boot.run Led.perform Led.change (past ++ [command])) between := by
  have hiff := since_iff (P := fun c : System => c.state.led_mode.overtaken = true) move_overtaken_iff
    (s := System.boot) nofun turns
  simp only [Shared.run, List.foldl_append, List.foldl_cons, List.foldl_nil]
  exact hiff

private theorem not_undisturbed_iff {a : Action} {l : Led} :
    ¬ Undisturbed a l ↔ (∃ mode, a = .set_led_opmode mode) ∧ l.led_mode.overtaken = true := by
  cases a with
  | set_led_opmode next =>
    change ¬ l.led_mode.overtaken = false ↔ _
    simp
  | _ => simp [Undisturbed]

/-- What is not permitted is a store over a mode that another task has set meanwhile. -/
theorem not_permits_iff (c : System) (turn : Turn Change) :
    ¬ c.permits Undisturbed (fun _ _ => True) turn ↔
      turn = .own ∧ c.Writes ∧ c.state.led_mode.overtaken = true := by
  cases turn with
  | own =>
    change ¬ (∀ a ∈ c.code.next, Undisturbed a c.state) ↔ _
    rw [System.Writes]
    cases hnext : c.code.next with
    | none => simp
    | some a =>
      have hiff := not_undisturbed_iff (a := a) (l := c.state)
      simpa using hiff
  | change e => exact iff_of_false (fun hnot => hnot trivial) nofun

private theorem interposed_iff (turns : List (Turn Change)) : Interposed turns ↔
    ¬ Along (Shared.move Led.perform Led.change)
    (Shared.permits Undisturbed fun _ _ => True) System.boot turns := by
  rw [not_along_iff]
  constructor
  · rintro ⟨past, command, between, rest, rfl, htakes, hsince, hwrites⟩
    refine ⟨past ++ command :: between, .own, rest, rfl, (not_permits_iff _ _).mpr ⟨rfl, hwrites, ?_⟩⟩
    exact (overtaken_iff _).mpr ⟨past, command, between, rfl, htakes, hsince⟩
  · rintro ⟨before, turn, rest, rfl, hnot⟩
    obtain ⟨rfl, hwrites, hovertaken⟩ := (not_permits_iff _ _).mp hnot
    obtain ⟨past, command, between, rfl, htakes, hsince⟩ := (overtaken_iff _).mp hovertaken
    exact ⟨past, command, between, rest, rfl, htakes, hsince, hwrites⟩

/-- The mode comes from the command that was taken last: it is the mode set upon it, or one that its pattern
has led to. -/
def Obeyed (mode : Cell Mode) : Prop := mode.Current ∧ ReflTransGen Follows mode.base mode.value

/-- In every interleaving of `led_task` with `led_process_task`: the mode always comes from the latest command
if and only if no command is taken between the reading of a mode and the writing of its successor. -/
theorem led_commands_obeyed_iff (turns : List (Turn Change)) :
    (∀ past, past <+: turns → Obeyed (System.boot.run Led.perform Led.change past).state.led_mode) ↔
      ¬ Interposed turns := by
  rw [interposed_iff, not_not,
    along_iff_of_invariant (J := System.Traced) (I := fun c => c.state.led_mode.Current)
    (fun _ turn h => move_traced h turn) (fun _ turn h hcurrent => permits_iff_current h hcurrent turn)
    boot_traced rfl]
  constructor
  · exact fun hobeyed past hpast => (hobeyed past hpast).1
  · intro hcurrent past hpast
    exact ⟨hcurrent past hpast, (run_traced past).cell.value (hcurrent past hpast)⟩

/-- The command that reports an error comes when `led_process_task` has shown the light of the normal mode. -/
def error_while_lit : List (Turn Change) :=
  [.change (.message 0), .own, .own, .own, .change (.message 10), .own]

/-- The error is not shown, and no pattern is left to show it. -/
theorem error_command_lost :
    (System.boot.run Led.perform Led.change error_while_lit).state.led_mode.base = .LED_ERROR_MODE ∧
    (System.boot.run Led.perform Led.change error_while_lit).state.led_mode.value = .LED_IDLE_MODE ∧
    ¬ ∀ turns past, past <+: turns → Obeyed (System.boot.run Led.perform Led.change past).state.led_mode := by
  refine ⟨rfl, rfl, fun hall => ?_⟩
  exact absurd (hall error_while_lit error_while_lit List.prefix_rfl).1 (by decide)

end catbox.led
