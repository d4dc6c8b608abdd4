import CatLitterBox.Diag.Keyscan
import CatLitterBox.Motor.Types
import CatLitterBox.Temporal.Fair
import CatLitterBox.Temporal.Since

open catbox.motor temporal

namespace catbox.diag

/-- The modes of `diag_process_task`. -/
inductive DiagMode where
  | DIAG_SENSOR_RF_MODE
  | DIAG_PLATE_MODE
  | DIAG_SCPINOUT_MODE
  | DIAG_SCPSPIN_MODE
  | DIAG_WASTE_MODE
deriving DecidableEq, Repr

/-- The next statement of `diag_process_task`. -/
inductive Place where
  | start_diag_mode
  /-- The test and the clearing of `diag_next_step_f`. -/
  | test_next_step
  | clear_next_step
  /-- The test of `diag_next_func_f`, and what follows when it is set: the call of `next_diag_func`,
  its execution, and the clearing of the flag. -/
  | test_next_func
  | call_next_func
  | next_diag_func
  | clear_next_func
  /-- The rest of the loop's body. -/
  | rest
  | finish_diag_mode
  | system_reset
deriving DecidableEq, Repr

/-- The variables of the two tasks. -/
structure Modes where
  diag_next_step_f : Bool
  diag_next_func_f : Bool
  diag_func : Int
  /-- The modes that have not been left yet, the current one first. -/
  modes : List DiagMode
  place : Place
  /-- What `next_diag_func` has sent to the motors, the latest first. -/
  sent : List Message

/-- `diag_process_task` has entered its first mode. -/
def Modes.start : Modes where
  diag_next_step_f := false
  diag_next_func_f := false
  diag_func := 0
  modes := [.DIAG_SENSOR_RF_MODE, .DIAG_PLATE_MODE, .DIAG_SCPINOUT_MODE, .DIAG_SCPSPIN_MODE, .DIAG_WASTE_MODE]
  place := .start_diag_mode
  sent := []

def diag_message (cmd : MotorCmd) (angle : Nat) (direction : Direction) (timeout : Nat) : Message :=
  ⟨cmd, angle, direction, timeout, some 0, some false⟩

/-- The two sides of a test by turns, beginning with 0. -/
def wrap_diag_func (diag_func : Int) : Int := if 2 ≤ diag_func then 0 else diag_func

/-- A message to one side or to the other, unless the motor is there already. -/
def side_message (diag_func pt : Int) (position : Bool) (to_side : Direction → Message) : List Message :=
  if diag_func = 0 then if position ∧ pt = 1 then [] else [to_side .FORWARD]
  else if diag_func = 1 then if position ∧ pt = -1 then [] else [to_side .REVERSE]
  else []

/-- `next_diag_func`, when `pt_check` answers `pt`: the new `diag_func`, and what is sent. -/
def next_diag_func (mode : DiagMode) (diag_func pt : Int) : Int × List Message :=
  match mode with
  | .DIAG_SENSOR_RF_MODE => (diag_func, [])
  | .DIAG_PLATE_MODE =>
    (wrap_diag_func diag_func,
      side_message (wrap_diag_func diag_func) pt false fun side => diag_message .PLATE_CMD 0 side 0)
  | .DIAG_SCPINOUT_MODE =>
    (wrap_diag_func diag_func,
      side_message (wrap_diag_func diag_func) pt true fun side => diag_message .SCP_INOUT_CMD 0 side 10000)
  | .DIAG_SCPSPIN_MODE =>
    (wrap_diag_func diag_func,
      side_message (wrap_diag_func diag_func) pt false fun side => diag_message .SCP_SPIN_CMD 360 side 15000)
  | .DIAG_WASTE_MODE =>
    (wrap_diag_func diag_func,
      side_message (wrap_diag_func diag_func) pt true fun side => diag_message .WASTE_COVER_CMD 0 side 15000)

/-- A step of one of the tasks: of `diag_process_task`, for which `pt_check` would answer `pt`, or
the receipt of a command by `diag_cmd_task`, which sets its flag. -/
inductive ModeMove where
  | diag_process_task (pt : Int)
  | diag_cmd_task (cmd : DiagCmd)
deriving DecidableEq

/-- A step of `diag_process_task`. -/
def Modes.process (s : Modes) (pt : Int) : Modes :=
  match s.place with
  | .start_diag_mode => { s with diag_func := 0, place := .test_next_step }
  | .test_next_step => { s with place := if s.diag_next_step_f then .clear_next_step else .test_next_func }
  | .clear_next_step =>
    { s with diag_next_step_f := false, modes := s.modes.tail, place := .finish_diag_mode }
  | .test_next_func => { s with place := if s.diag_next_func_f then .call_next_func else .rest }
  | .call_next_func => { s with diag_func := s.diag_func + 1, place := .next_diag_func }
  | .next_diag_func =>
    match s.modes with
    | [] => s
    | mode :: _ =>
      let (diag_func, messages) := diag.next_diag_func mode s.diag_func pt
      { s with diag_func, sent := messages ++ s.sent, place := .clear_next_func }
  | .clear_next_func => { s with diag_next_func_f := false, place := .rest }
  | .rest => { s with place := .test_next_step }
  | .finish_diag_mode =>
    { s with diag_func := 0, place := if s.modes = [] then .system_reset else .start_diag_mode }
  | .system_reset => s

def Modes.step (s : Modes) : ModeMove → Modes
  | .diag_process_task pt => s.process pt
  | .diag_cmd_task .DIAG_NEXT_STEP_CMD => { s with diag_next_step_f := true }
  | .diag_cmd_task .DIAG_NEXT_FUNC_CMD => { s with diag_next_func_f := true }

/-- A mode has been entered and not been left. -/
def Modes.active (s : Modes) : Bool := s.place ≠ .finish_diag_mode && s.place ≠ .system_reset

/-- `next_diag_func` is being executed, or has returned and the flag is still to be cleared. -/
def Modes.in_func (s : Modes) : Bool := s.place = .next_diag_func || s.place = .clear_next_func

/-- An interleaving of the tasks in which `diag_process_task` goes on for ever. -/
structure Interleaving where
  moves : Nat → ModeMove
  fair : ∀ n, ∃ m, n ≤ m ∧ ∃ pt, moves m = .diag_process_task pt

namespace Interleaving

variable (r : Interleaving)

def state (n : Nat) : Modes := states Modes.step Modes.start r.moves n

def received (cmd : DiagCmd) (n : Nat) : Prop := r.moves n = .diag_cmd_task cmd

/-- `diag_process_task` moves on from this place. -/
def passes (place : Place) (n : Nat) : Prop :=
  (r.state n).place = place ∧ ∃ pt, r.moves n = .diag_process_task pt

/-- An execution of `next_diag_func` begins. -/
abbrev begins (n : Nat) : Prop := r.passes .call_next_func n

/-- A mode is left. -/
abbrev leaves (n : Nat) : Prop := r.passes .clear_next_step n

/-- The step request received at `n` ends the mode that is left at `l`: its flag has been set since. -/
def ends (n l : Nat) : Prop :=
  r.received .DIAG_NEXT_STEP_CMD n ∧ n < l ∧ r.leaves l ∧ ∀ k, n < k → k ≤ l →
    (r.state k).diag_next_step_f = true

/-- No request is lost. -/
structure Honoured : Prop where
  func : ∀ n, r.received .DIAG_NEXT_FUNC_CMD n → (r.state n).active = true →
    ∃ l, n < l ∧ (r.state l).modes = (r.state n).modes ∧ (r.begins l ∨ ∃ k, r.ends k l)
  step : ∀ n, r.received .DIAG_NEXT_STEP_CMD n → (r.state n).diag_next_step_f = false → ∃! l, r.ends n l

/-- After a moment, in the same mode, a step request has been received or is still waiting, or a
function request is received while `next_diag_func` is not being executed. -/
def repaired (n : Nat) : Prop :=
  (r.state n).diag_next_step_f = true ∨
    ∃ m, n < m ∧ (r.state m).modes = (r.state n).modes ∧ (r.state m).active = true ∧
      (r.received .DIAG_NEXT_STEP_CMD m ∨ r.received .DIAG_NEXT_FUNC_CMD m ∧ (r.state m).in_func = false)

/-- Function requests that are received during `next_diag_func` are repaired, and step requests are
received before the last mode is left. -/
structure Timely : Prop where
  func : ∀ n, r.received .DIAG_NEXT_FUNC_CMD n → (r.state n).in_func = true → r.repaired n
  step : ∀ n, r.received .DIAG_NEXT_STEP_CMD n → (r.state n).diag_next_step_f = false → (r.state n).modes ≠ []

end Interleaving

/-- What holds in every state of a run. -/
structure Modes.Sound (s : Modes) : Prop where
  leaving : s.place = .clear_next_step → s.diag_next_step_f = true
  current : s.active = true → s.modes ≠ []
  reset : s.place = .system_reset → s.modes = []

theorem start_sound : Modes.start.Sound := ⟨nofun, by decide, nofun⟩

/-- Every move keeps what holds between the flags and the mode. -/
theorem Modes.Sound.step {s : Modes} (h : s.Sound) (m : ModeMove) : (s.step m).Sound := by
  obtain ⟨hleaving, hcurrent, hreset⟩ := h
  cases m with
  | diag_cmd_task cmd =>
    cases cmd with
    | DIAG_NEXT_STEP_CMD => exact ⟨fun _ => rfl, hcurrent, hreset⟩
    | DIAG_NEXT_FUNC_CMD => exact ⟨hleaving, hcurrent, hreset⟩
  | diag_process_task pt =>
    cases hplace : s.place with
    | system_reset =>
      rw [Modes.step, Modes.process, hplace]
      exact ⟨hleaving, hcurrent, hreset⟩
    | finish_diag_mode =>
      by_cases hmodes : s.modes = []
      · constructor <;> simp [Modes.step, Modes.process, hplace, hmodes, Modes.active]
      · constructor <;> simp [Modes.step, Modes.process, hplace, hmodes, Modes.active]
    | clear_next_step => constructor <;> simp [Modes.step, Modes.process, hplace, Modes.active]
    | test_next_step =>
      have hmodes : s.modes ≠ [] := hcurrent (by simp [Modes.active, hplace])
      cases hflag : s.diag_next_step_f with
      | false => constructor <;> simp [Modes.step, Modes.process, hplace, hflag, hmodes]
      | true => constructor <;> simp [Modes.step, Modes.process, hplace, hflag, hmodes]
    | test_next_func =>
      have hmodes : s.modes ≠ [] := hcurrent (by simp [Modes.active, hplace])
      cases hflag : s.diag_next_func_f with
      | false => constructor <;> simp [Modes.step, Modes.process, hplace, hflag, hmodes]
      | true => constructor <;> simp [Modes.step, Modes.process, hplace, hflag, hmodes]
    | next_diag_func =>
      have hmodes : s.modes ≠ [] := hcurrent (by simp [Modes.active, hplace])
      obtain ⟨mode, others, hcons⟩ := List.exists_cons_of_ne_nil hmodes
      constructor <;> simp [Modes.step, Modes.process, hplace, hcons]
    | _ =>
      have hmodes : s.modes ≠ [] := hcurrent (by simp [Modes.active, hplace])
      constructor <;> simp [Modes.step, Modes.process, hplace, hmodes]

/-- How far `diag_process_task` is from leaving a mode once `diag_next_step_f` is set. -/
def Place.to_leave : Place → Nat
  | .clear_next_step => 0
  | .test_next_step => 1
  | .rest => 2
  | .clear_next_func => 3
  | .next_diag_func => 4
  | .call_next_func => 5
  | .test_next_func => 6
  | .start_diag_mode => 7
  | .finish_diag_mode => 8
  | .system_reset => 9

/-- How far it is from a call of `next_diag_func` once `diag_next_func_f` is set. -/
def Place.to_call : Place → Nat
  | .test_next_func => 1
  | .test_next_step => 2
  | .start_diag_mode | .rest => 3
  | _ => 0

/-- A step request brings `diag_process_task` closer to leaving a mode. -/
theorem Modes.Sound.toward_leave {s : Modes} {ms : List DiagMode} (h : s.Sound) (hf : s.diag_next_step_f = true)
    (hms : s.modes = ms) (hne : ms ≠ []) (m : ModeMove) :
    (s.place = .clear_next_step ∧ ∃ pt, m = .diag_process_task pt) ∨
      ((s.step m).diag_next_step_f = true ∧ (s.step m).modes = ms) ∧
      (s.step m).place.to_leave ≤ s.place.to_leave ∧
      ((∃ pt, m = .diag_process_task pt) → (s.step m).place.to_leave < s.place.to_leave) := by
  cases m with
  | diag_cmd_task cmd =>
    right
    cases cmd with
    | DIAG_NEXT_STEP_CMD => exact ⟨⟨rfl, hms⟩, le_rfl, nofun⟩
    | DIAG_NEXT_FUNC_CMD => exact ⟨⟨hf, hms⟩, le_rfl, nofun⟩
  | diag_process_task pt =>
    cases hplace : s.place with
    | clear_next_step => exact .inl ⟨rfl, pt, rfl⟩
    | system_reset => exact absurd (hms ▸ h.reset hplace) hne
    | next_diag_func =>
      right
      obtain ⟨mode, others, hcons⟩ := List.exists_cons_of_ne_nil hne
      simp [Modes.step, Modes.process, hplace, Place.to_leave, hf, hms, hcons]
    | test_next_func =>
      right
      cases hfunc : s.diag_next_func_f with
      | false => simp [Modes.step, Modes.process, hplace, Place.to_leave, hf, hms, hfunc]
      | true => simp [Modes.step, Modes.process, hplace, Place.to_leave, hf, hms, hfunc]
    | _ =>
      right
      simp [Modes.step, Modes.process, hplace, Place.to_leave, hf, hms, hne]

/-- A function request that has not met `next_diag_func` brings its call closer, or the mode is left. -/
theorem Modes.toward_call {s : Modes} {ms : List DiagMode} (hf : s.diag_next_func_f = true)
    (hactive : s.active = true) (hfunc : s.in_func = false) (hms : s.modes = ms) (m : ModeMove) :
    ((s.place = .call_next_func ∨ s.place = .clear_next_step) ∧ ∃ pt, m = .diag_process_task pt) ∨
      ((s.step m).diag_next_func_f = true ∧ (s.step m).active = true ∧ (s.step m).in_func = false ∧
        (s.step m).modes = ms) ∧
      (s.step m).place.to_call ≤ s.place.to_call ∧
      ((∃ pt, m = .diag_process_task pt) → (s.step m).place.to_call < s.place.to_call) := by
  cases m with
  | diag_cmd_task cmd =>
    right
    cases cmd with
    | DIAG_NEXT_STEP_CMD => exact ⟨⟨hf, hactive, hfunc, hms⟩, le_rfl, nofun⟩
    | DIAG_NEXT_FUNC_CMD => exact ⟨⟨rfl, hactive, hfunc, hms⟩, le_rfl, nofun⟩
  | diag_process_task pt =>
    cases hplace : s.place with
    | call_next_func => exact .inl ⟨.inl rfl, pt, rfl⟩
    | clear_next_step => exact .inl ⟨.inr rfl, pt, rfl⟩
    | next_diag_func => simp [Modes.in_func, hplace] at hfunc
    | clear_next_func => simp [Modes.in_func, hplace] at hfunc
    | finish_diag_mode => simp [Modes.active, hplace] at hactive
    | system_reset => simp [Modes.active, hplace] at hactive
    | test_next_step =>
      right
      cases hstep : s.diag_next_step_f with
      | false => simp [Modes.step, Modes.process, hplace, Place.to_call, Modes.active,
          Modes.in_func, hf, hms, hstep]
      | true => simp [Modes.step, Modes.process, hplace, Place.to_call, Modes.active,
          Modes.in_func, hf, hms, hstep]
    | _ =>
      right
      simp [Modes.step, Modes.process, hplace, Place.to_call, Modes.active, Modes.in_func, hf, hms]

/-- The mode goes on without a request: neither flag is set, or that of the function will be cleared. -/
def Modes.Idle (s : Modes) (ms : List DiagMode) : Prop :=
  s.modes = ms ∧ s.diag_next_step_f = false ∧ s.active = true ∧ s.place ≠ .clear_next_step ∧
    (s.in_func = true ∨ s.diag_next_func_f = false ∧ s.place ≠ .call_next_func)

/-- A mode without a request goes on without one. -/
theorem Modes.Idle.process {s : Modes} {ms : List DiagMode} (h : s.Idle ms) (hs : s.Sound) (pt : Int) :
    (s.process pt).Idle ms := by
  obtain ⟨hms, hstep, hactive, hleave, hfunc⟩ := h
  cases hplace : s.place with
  | clear_next_step => exact absurd hplace hleave
  | finish_diag_mode => simp [Modes.active, hplace] at hactive
  | system_reset => simp [Modes.active, hplace] at hactive
  | call_next_func => simp [Modes.in_func, hplace] at hfunc
  | next_diag_func =>
    obtain ⟨mode, others, hcons⟩ := List.exists_cons_of_ne_nil (hs.current hactive)
    simp [Modes.Idle, Modes.process, hplace, Modes.active, Modes.in_func, ← hms, hcons, hstep]
  | clear_next_func => simp [Modes.Idle, Modes.process, hplace, Modes.active, Modes.in_func, hms, hstep]
  | _ =>
    have hflag : s.diag_next_func_f = false := by simpa [Modes.in_func, hplace] using hfunc
    simp [Modes.Idle, Modes.process, hplace, Modes.active, Modes.in_func, hms, hstep, hflag]

theorem Modes.flag_of_step {s : Modes} {m : ModeMove} (h : (s.step m).diag_next_step_f = true) :
    m = .diag_cmd_task .DIAG_NEXT_STEP_CMD ∨ s.diag_next_step_f = true := by
  cases m with
  | diag_cmd_task cmd =>
    cases cmd with
    | DIAG_NEXT_STEP_CMD => exact .inl rfl
    | DIAG_NEXT_FUNC_CMD => exact .inr h
  | diag_process_task pt =>
    right
    simp only [Modes.step, Modes.process] at h
    split at h
    · exact h
    · exact h
    · cases h
    · exact h
    · exact h
    · split at h <;> exact h
    all_goals exact h

theorem Modes.modes_nil_step {s : Modes} (h : s.modes = []) (m : ModeMove) : (s.step m).modes = [] := by
  cases m with
  | diag_cmd_task cmd => cases cmd <;> exact h
  | diag_process_task pt =>
    simp only [Modes.step, Modes.process]
    split
    · exact h
    · exact h
    · rw [h]
      rfl
    · exact h
    · exact h
    · split
      · exact h
      · next hcons => exact absurd (h.symm.trans hcons) nofun
    all_goals exact h

namespace Interleaving

variable {r : Interleaving}

/-- At each turn of the loop the flags and the mode fit together. -/
theorem sound (n : Nat) : (r.state n).Sound :=
  states_invariant start_sound (fun _ m h => h.step m) n

theorem state_succ (n : Nat) : r.state (n + 1) = (r.state n).step (r.moves n) := rfl

theorem state_of_received {cmd : DiagCmd} {n : Nat} (h : r.received cmd n) :
    r.state (n + 1) = (r.state n).step (.diag_cmd_task cmd) := by
  rw [state_succ, h]

/-- A step request that is waiting ends the current mode. -/
theorem leads_to_leave {n : Nat} (hflag : (r.state n).diag_next_step_f = true) (hne : (r.state n).modes ≠ []) :
    Leads (fun k => (r.state k).diag_next_step_f = true ∧
      (r.state k).modes = (r.state n).modes) r.leaves n := by
  refine leads_of_rank (fun k => (r.state k).place.to_leave) r.fair ?_ ⟨hflag, rfl⟩
  rintro k ⟨hk, hms⟩
  exact (sound k).toward_leave hk hms hne (r.moves k)

/-- A function request that is waiting leads to a call of `next_diag_func` in the current mode, or to
its end. -/
theorem leads_to_call {n : Nat} (hflag : (r.state n).diag_next_func_f = true)
    (hactive : (r.state n).active = true)
    (hfunc : (r.state n).in_func = false) :
    ∃ l, n ≤ l ∧ (r.state l).modes = (r.state n).modes ∧ (r.begins l ∨ r.leaves l) := by
  have hleads : Leads (fun k => (r.state k).diag_next_func_f = true ∧ (r.state k).active = true ∧
      (r.state k).in_func = false ∧ (r.state k).modes = (r.state n).modes)
      (fun k => ((r.state k).place = .call_next_func ∨ (r.state k).place = .clear_next_step) ∧
        ∃ pt, r.moves k = .diag_process_task pt) n := by
    refine leads_of_rank (fun k => (r.state k).place.to_call) r.fair ?_ ⟨hflag, hactive, hfunc, rfl⟩
    rintro k ⟨hk, ha, hi, hms⟩
    exact Modes.toward_call hk ha hi hms (r.moves k)
  obtain ⟨l, hl, ⟨hplace, hmove⟩, hkept⟩ := hleads
  refine ⟨l, hl, (hkept l hl le_rfl).2.2.2, ?_⟩
  exact hplace.imp (fun h => ⟨h, hmove⟩) (fun h => ⟨h, hmove⟩)

/-- A mode is left by a step request. -/
theorem exists_ends {l : Nat} (h : r.leaves l) : ∃ k, r.ends k l := by
  have hflag : (r.state l).diag_next_step_f = true := (sound l).leaving h.1
  have hsince : Since (r.received .DIAG_NEXT_STEP_CMD) (fun n => (r.state n).diag_next_step_f = true) l :=
    since_of_step (P := fun n => (r.state n).diag_next_step_f = true) nofun
      (fun n hn => (Modes.flag_of_step hn).imp id fun hbefore => ⟨hbefore, hbefore⟩) l hflag
  obtain ⟨k, hk, hreceived, hkept⟩ := hsince
  refine ⟨k, hreceived, hk, h, ?_⟩
  intro j hj hle
  rcases Nat.eq_or_lt_of_le hle with rfl | hlt
  · exact hflag
  · exact hkept j hj hlt

/-- A request that is consumed ends no later mode. -/
theorem ends_le {n l l' : Nat} (h : r.ends n l) (h' : r.ends n l') : l' ≤ l := by
  by_contra hlater
  obtain ⟨-, hl, ⟨hplace, pt, hmove⟩, -⟩ := h
  have hset : (r.state (l + 1)).diag_next_step_f = true := h'.2.2.2 (l + 1) (by omega) (by omega)
  rw [state_succ, hmove, Modes.step, Modes.process, hplace] at hset
  cases hset

/-- A step request that finds its flag clear, and a mode to end, ends exactly one. -/
theorem existsUnique_ends {n : Nat} (h : r.received .DIAG_NEXT_STEP_CMD n) (hne : (r.state n).modes ≠ []) :
    ∃! l, r.ends n l := by
  have hnext := state_of_received h
  have hmodes : (r.state (n + 1)).modes = (r.state n).modes := by
    rw [hnext]
    rfl
  obtain ⟨l, hl, hleaves, hkept⟩ := leads_to_leave (r := r) (n := n + 1) (by rw [hnext]; rfl) (hmodes ▸ hne)
  have hends : r.ends n l := ⟨h, hl, hleaves, fun k hk hle => (hkept k hk hle).1⟩
  refine ⟨l, hends, ?_⟩
  intro l' hl'
  exact le_antisymm (ends_le hends hl') (ends_le hl' hends)

/-- What a waiting step request comes to in the mode in which it waits. -/
theorem left_of_flag {n : Nat} (hflag : (r.state n).diag_next_step_f = true)
    (hactive : (r.state n).active = true) :
    ∃ l, n ≤ l ∧ (r.state l).modes = (r.state n).modes ∧ (r.begins l ∨ ∃ k, r.ends k l) := by
  obtain ⟨l, hl, hleaves, hkept⟩ := leads_to_leave hflag ((sound n).current hactive)
  exact ⟨l, hl, (hkept l hl le_rfl).2, .inr (exists_ends hleaves)⟩

private theorem called_of_flag {n : Nat} (hflag : (r.state n).diag_next_func_f = true)
    (hactive : (r.state n).active = true)
    (hfunc : (r.state n).in_func = false) :
    ∃ l, n ≤ l ∧ (r.state l).modes = (r.state n).modes ∧ (r.begins l ∨ ∃ k, r.ends k l) := by
  obtain ⟨l, hl, hms, hevent⟩ := leads_to_call hflag hactive hfunc
  exact ⟨l, hl, hms, hevent.imp_right exists_ends⟩

/-- A request that is received in a mode, not during `next_diag_func` if it is for a function. -/
theorem answered {cmd : DiagCmd} {n : Nat} (h : r.received cmd n) (hactive : (r.state n).active = true)
    (hfunc : cmd = .DIAG_NEXT_FUNC_CMD → (r.state n).in_func = false) :
    ∃ l, n < l ∧ (r.state l).modes = (r.state n).modes ∧ (r.begins l ∨ ∃ k, r.ends k l) := by
  have hnext := state_of_received h
  cases cmd with
  | DIAG_NEXT_STEP_CMD =>
    have hleft := left_of_flag (r := r) (n := n + 1) (by rw [hnext]; rfl) (by rw [hnext]; exact hactive)
    rw [hnext] at hleft
    exact hleft
  | DIAG_NEXT_FUNC_CMD =>
    have hcalled := called_of_flag (r := r) (n := n + 1) (by rw [hnext]; rfl) (by rw [hnext]; exact hactive)
      (by rw [hnext]; exact hfunc rfl)
    rw [hnext] at hcalled
    exact hcalled

/-- A request for the next function that is repaired is answered: `next_diag_func` begins, or a step
request ends the mode. -/
theorem repaired.answered {n : Nat} (h : r.repaired n) (hreceived : r.received .DIAG_NEXT_FUNC_CMD n)
    (hactive : (r.state n).active = true) :
    ∃ l, n < l ∧ (r.state l).modes = (r.state n).modes ∧ (r.begins l ∨ ∃ k, r.ends k l) := by
  rcases h with hflag | ⟨m, hm, hms, hactive', hagain⟩
  · have hnext := state_of_received hreceived
    have hleft := left_of_flag (r := r) (n := n + 1) (by rw [hnext]; exact hflag) (by rw [hnext]; exact hactive)
    rw [hnext] at hleft
    exact hleft
  · rw [← hms]
    have hlater : ∃ l, m < l ∧ (r.state l).modes = (r.state m).modes ∧ (r.begins l ∨ ∃ k, r.ends k l) := by
      rcases hagain with hstep | ⟨hfunc, hout⟩
      · exact Interleaving.answered hstep hactive' nofun
      · exact Interleaving.answered hfunc hactive' fun _ => hout
    obtain ⟨l, hl, hrest⟩ := hlater
    exact ⟨l, hm.trans hl, hrest⟩

theorem active_of_in_func {s : Modes} (h : s.in_func = true) : s.active = true := by
  cases hplace : s.place <;> simp_all [Modes.in_func, Modes.active]

/-- A function request that is received during `next_diag_func` and not repaired leaves no trace. -/
theorem idle_of_not_repaired {n : Nat} (hreceived : r.received .DIAG_NEXT_FUNC_CMD n)
    (hfunc : (r.state n).in_func = true) (h : ¬ r.repaired n) {l : Nat} (hl : n + 1 ≤ l) :
    (r.state l).Idle (r.state n).modes := by
  obtain ⟨hflag, hnone⟩ := not_or.mp h
  induction l, hl using Nat.le_induction with
  | base =>
    rw [state_of_received hreceived]
    have hactive := active_of_in_func hfunc
    have hplace : (r.state n).place ≠ .clear_next_step := by
      intro hclear
      simp [Modes.in_func, hclear] at hfunc
    exact ⟨rfl, Bool.eq_false_of_not_eq_true hflag, hactive, hplace, .inl hfunc⟩
  | succ k hk ih =>
    rw [state_succ]
    cases hmove : r.moves k with
    | diag_process_task pt => exact ih.process (sound k) pt
    | diag_cmd_task cmd =>
      obtain ⟨hms, hstep, hactive, hleave, hout⟩ := ih
      cases cmd with
      | DIAG_NEXT_STEP_CMD => exact absurd ⟨k, hk, hms, hactive, .inl hmove⟩ hnone
      | DIAG_NEXT_FUNC_CMD =>
        rcases hout with hin | ⟨hclear, hcall⟩
        · exact ⟨hms, hstep, hactive, hleave, .inl hin⟩
        · cases hin : (r.state k).in_func with
          | true => exact ⟨hms, hstep, hactive, hleave, .inl hin⟩
          | false => exact absurd ⟨k, hk, hms, hactive, .inr ⟨hmove, hin⟩⟩ hnone

/-- A request that meets a function, and is not repaired, is never answered. -/
theorem not_answered {n : Nat} (hreceived : r.received .DIAG_NEXT_FUNC_CMD n)
    (hfunc : (r.state n).in_func = true) (h : ¬ r.repaired n) {l : Nat} (hl : n < l) :
    ¬ (r.begins l ∨ ∃ k, r.ends k l) := by
  obtain ⟨-, -, -, hleave, hout⟩ := idle_of_not_repaired hreceived hfunc h hl
  rintro (⟨hplace, -⟩ | ⟨k, -, -, ⟨hplace, -⟩, -⟩)
  · rcases hout with hin | ⟨-, hcall⟩
    · simp [Modes.in_func, hplace] at hin
    · exact hcall hplace
  · exact hleave hplace

private theorem modes_nil {n l : Nat} (h : (r.state n).modes = []) (hl : n ≤ l) : (r.state l).modes = [] := by
  induction l, hl using Nat.le_induction with
  | base => exact h
  | succ k _ ih => exact Modes.modes_nil_step ih (r.moves k)

/-- No request is lost exactly if every function request that meets `next_diag_func` is repaired, and
no step request comes after the last mode. -/
theorem honoured_iff_timely (r : Interleaving) : r.Honoured ↔ r.Timely := by
  constructor
  · intro h
    constructor
    · intro n hreceived hfunc
      by_contra hlost
      obtain ⟨l, hl, -, hevent⟩ := h.func n hreceived (active_of_in_func hfunc)
      exact not_answered hreceived hfunc hlost hl hevent
    · intro n hreceived hclear hnil
      obtain ⟨l, ⟨-, hl, ⟨hplace, -⟩, -⟩, -⟩ := h.step n hreceived hclear
      have hactive : (r.state l).active = true := by simp [Modes.active, hplace]
      exact (sound l).current hactive (modes_nil hnil hl.le)
  · intro h
    constructor
    · intro n hreceived hactive
      cases hfunc : (r.state n).in_func with
      | true => exact (h.func n hreceived hfunc).answered hreceived hactive
      | false => exact answered hreceived hactive fun _ => hfunc
    · intro n hreceived hclear
      exact existsUnique_ends hreceived (h.step n hreceived hclear)

/-- A function request at the first moment of the execution that an earlier one has started, and
nothing else. -/
def swallowed : Interleaving where
  moves n :=
    if n = 0 ∨ n = 5 then .diag_cmd_task .DIAG_NEXT_FUNC_CMD else .diag_process_task 0
  fair n := ⟨n + 6, by omega, 0, if_neg (by omega)⟩

/-- The request is cleared together with the one before it. -/
theorem swallowed_not_honoured : ¬ ∀ r : Interleaving, r.Honoured := by
  intro hall
  have hreceived : swallowed.received .DIAG_NEXT_FUNC_CMD 5 := rfl
  have hfunc : (swallowed.state 5).in_func = true := by decide
  have hlost : ¬ swallowed.repaired 5 := by
    rintro (hflag | ⟨m, hm, -, -, hagain⟩)
    · revert hflag
      decide
    · have hmove : swallowed.moves m = .diag_process_task 0 := if_neg (by omega)
      rcases hagain with hstep | ⟨hagain, -⟩
      · exact absurd (hmove.symm.trans hstep) nofun
      · exact absurd (hmove.symm.trans hagain) nofun
  obtain ⟨l, hl, -, hevent⟩ := (hall swallowed).func 5 hreceived (active_of_in_func hfunc)
  exact not_answered hreceived hfunc hlost hl hevent

end Interleaving

end catbox.diag
