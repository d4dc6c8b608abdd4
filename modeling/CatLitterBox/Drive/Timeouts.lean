import CatLitterBox.Drive.Dc
import CatLitterBox.Drive.Spin

open catbox.motor catbox.sensor

namespace catbox.drive

/-- The same turn with another timeout in its message. -/
def Turn.retime (f : DriveMessage → UInt32) (t : Turn) : Turn :=
  { t with msg := t.msg.map fun msg => { msg with timeout := f msg } }

def StepMove.retime (f : DriveMessage → UInt32) : StepMove → StepMove
  | .turn t => .turn (t.retime f)
  | .timer => .timer

/-- The turn brings no newer command: its message, if it has one, has another command. -/
def Turn.silent (cmds : List DriveCmd) (t : Turn) : Prop := ∀ msg, t.msg = some msg → msg.cmd ∉ cmds

def StepMove.silent (cmds : List DriveCmd) : StepMove → Prop
  | .turn t => t.silent cmds
  | .timer => True

/-- The turn finds the waste cover at the end that it runs to. -/
def StepMove.atLimit (dir : Bool) : StepMove → Prop
  | .turn t => AtLimit .WASTE_COVER_MOTOR t.word dir
  | .timer => False

instance (dir : Bool) : DecidablePred (StepMove.atLimit dir)
  | .turn t => inferInstanceAs (Decidable (AtLimit .WASTE_COVER_MOTOR t.word dir))
  | .timer => inferInstanceAs (Decidable False)

variable {m : DcMotor} {w : WasteMotor} {s : SpinMotor} {dir : Bool} {DEG_TO_STEPS : UInt32 → UInt32}

/-- No task reads the timeout. -/
theorem scpinout_retime (f : DriveMessage → UInt32) (turns : List Turn) (m : DcMotor) :
    (turns.map (Turn.retime f)).foldl scpinout_cmd_task m = turns.foldl scpinout_cmd_task m := by
  have hturn (m : DcMotor) (t : Turn) : scpinout_cmd_task m (t.retime f) = scpinout_cmd_task m t := by
    obtain ⟨msg, word⟩ := t
    cases msg with
    | none => rfl
    | some msg => rfl
  simp only [List.foldl_map, hturn]

theorem waste_retime (f : DriveMessage → UInt32) (moves : List StepMove) (w : WasteMotor) :
    (moves.map (StepMove.retime f)).foldl WasteMotor.apply w = moves.foldl WasteMotor.apply w := by
  have hmove (w : WasteMotor) (move : StepMove) : w.apply (move.retime f) = w.apply move := by
    obtain ⟨_ | msg, word⟩ | _ := move
    · rfl
    · rfl
    · rfl
  simp only [List.foldl_map, hmove]

theorem spin_retime (f : DriveMessage → UInt32) (moves : List StepMove) (s : SpinMotor) :
    (moves.map (StepMove.retime f)).foldl (SpinMotor.apply DEG_TO_STEPS) s =
      moves.foldl (SpinMotor.apply DEG_TO_STEPS) s := by
  have hmove (s : SpinMotor) (move : StepMove) :
      s.apply DEG_TO_STEPS (move.retime f) = s.apply DEG_TO_STEPS move := by
    obtain ⟨_ | msg, word⟩ | _ := move
    · rfl
    · rfl
    · rfl
  simp only [List.foldl_map, hmove]

/-- A silent turn does nothing but check the limits. -/
theorem scpinout_silent (h : m.Consistent) {t : Turn} (hsilent : t.silent [.SCP_INOUT_CMD]) :
    (scpinout_cmd_task m t).Consistent ∧
      (scpinout_cmd_task m t).driving = checked .SCPINOUT_MOTOR t.word m.driving := by
  obtain ⟨hconsistent, hdriving⟩ := dc_cmd_task_spec scpinout_moves h t
  have hkeep : scpinout.commanded m.driving t.msg = m.driving := by
    unfold DcDriver.commanded
    cases hmsg : t.msg with
    | none => rfl
    | some msg =>
      have hcmd : msg.cmd ≠ scpinout.cmd := List.ne_of_not_mem_cons (hsilent msg hmsg)
      simp only [hcmd, if_false]
  rw [hkeep] at hdriving
  exact ⟨hconsistent, hdriving⟩

/-- Without a newer command a scoop that rests goes on resting. -/
theorem scpinout_rests (h : m.Consistent) (hrest : m.driving = none) {later : List Turn}
    (hsilent : ∀ t ∈ later, t.silent [.SCP_INOUT_CMD]) : (later.foldl scpinout_cmd_task m).driving = none := by
  have hinv : (later.foldl scpinout_cmd_task m).Consistent ∧
      (later.foldl scpinout_cmd_task m).driving = none := by
    refine List.foldlRecOn (motive := fun m : DcMotor => m.Consistent ∧ m.driving = none) later _ ⟨h, hrest⟩ ?_
    rintro m ⟨hm, hnone⟩ t ht
    obtain ⟨hconsistent, hdriving⟩ := scpinout_silent hm (hsilent t ht)
    rw [hnone, checked_none] at hdriving
    exact ⟨hconsistent, hdriving⟩
  exact hinv.2

/-- Without a newer command the scoop runs until `pt_check` reports the end that it runs to. -/
theorem scpinout_runs (h : m.Consistent) (hd : m.driving = some dir) {later : List Turn}
    (hsilent : ∀ t ∈ later, t.silent [.SCP_INOUT_CMD]) :
    (later.foldl scpinout_cmd_task m).driving =
      if ∃ t ∈ later, AtLimit .SCPINOUT_MOTOR t.word dir then none else some dir := by
  induction later generalizing m with
  | nil => simpa using hd
  | cons t later ih =>
    have hlater := fun u hu => hsilent u (List.mem_cons_of_mem _ hu)
    obtain ⟨hconsistent, hdriving⟩ := scpinout_silent h (hsilent t List.mem_cons_self)
    rw [hd, checked_some] at hdriving
    rw [List.foldl_cons]
    by_cases hlimit : AtLimit .SCPINOUT_MOTOR t.word dir
    · rw [if_pos hlimit] at hdriving
      rw [scpinout_rests hconsistent hdriving hlater, if_pos ⟨t, List.mem_cons_self, hlimit⟩]
    · rw [if_neg hlimit] at hdriving
      rw [ih hconsistent hdriving hlater]
      simp [hlimit]

private theorem waste_receive_silent {t : Turn}
    (hsilent : t.silent [.WASTE_COVER_CMD, .WASTE_STEP_CMD]) : waste_receive w t.msg = w := by
  unfold waste_receive
  cases hmsg : t.msg with
  | none => rfl
  | some msg =>
    have hcmd := hsilent msg hmsg
    have hnone : waste_steps msg = none := by
      unfold waste_steps
      split
      · simp_all
      · simp_all
      · rfl
    simp only [hnone]

/-- A silent turn leaves the waste cover as it is, or stops it at its limit. -/
theorem waste_silent (h : w.Consistent) {t : Turn}
    (hsilent : t.silent [.WASTE_COVER_CMD, .WASTE_STEP_CMD]) :
    (w.apply (.turn t)).Consistent ∧
      (w.apply (.turn t)).driving = checked .WASTE_COVER_MOTOR t.word w.driving ∧
      (w.apply (.turn t) = w ∨ (w.apply (.turn t)).driving = none) := by
  obtain ⟨hstopped, hnone⟩ := waste_stop_spec w
  obtain ⟨hchecked, hcases⟩ := limit_check_spec .WASTE_COVER_MOTOR h.driving hnone t.word
  have happly : w.apply (.turn t) = limit_check WasteMotor.waste_motor_run WasteMotor.waste_motor_dir
      waste_motor_stop .WASTE_COVER_MOTOR w t.word := by
    change limit_check _ _ _ _ (waste_receive w t.msg) t.word = _
    rw [waste_receive_silent hsilent]
  rw [happly]
  obtain hkeep | hstop := hcases
  · refine ⟨?_, hchecked, .inl hkeep⟩
    rw [hkeep]
    exact h
  · refine ⟨?_, hchecked, .inr ?_⟩
    · rw [hstop]
      exact hstopped
    · rw [hstop]
      exact hnone

/-- Without a newer command a waste cover that rests goes on resting. -/
theorem waste_rests (h : w.Consistent) (hrest : w.driving = none) {later : List StepMove}
    (hsilent : ∀ move ∈ later, move.silent [.WASTE_COVER_CMD, .WASTE_STEP_CMD]) :
    (later.foldl WasteMotor.apply w).driving = none := by
  have hinv : (later.foldl WasteMotor.apply w).Consistent ∧
      (later.foldl WasteMotor.apply w).driving = none := by
    refine List.foldlRecOn (motive := fun w : WasteMotor => w.Consistent ∧
      w.driving = none) later _ ⟨h, hrest⟩ ?_
    rintro w ⟨hw, hnone⟩ move hmove
    cases move with
    | turn t =>
      obtain ⟨hconsistent, hdriving, -⟩ := waste_silent hw (hsilent _ hmove)
      rw [hnone, checked_none] at hdriving
      exact ⟨hconsistent, hdriving⟩
    | timer =>
      obtain ⟨hconsistent, hdriving, -⟩ := waste_timer_spec hw
      rw [hnone, ite_self] at hdriving
      exact ⟨hconsistent, hdriving⟩
  exact hinv.2

theorem WasteMotor.Consistent.steps_pos (h : w.Consistent) (hd : w.driving = some dir) :
    0 < w.waste_motor_steps := by
  have hdriving := h.driving
  rw [hd] at hdriving
  split_ifs at hdriving with hrun
  exact h.steps hrun

/-- Without a newer command the waste cover runs until it is at the end that it runs to, or has
no steps left. -/
theorem waste_runs (h : w.Consistent) (hd : w.driving = some dir) {later : List StepMove}
    (hsilent : ∀ move ∈ later, move.silent [.WASTE_COVER_CMD, .WASTE_STEP_CMD]) :
    (later.foldl WasteMotor.apply w).driving =
      if (∃ move ∈ later, move.atLimit dir) ∨ w.waste_motor_steps ≤ later.count .timer then none
      else some dir := by
  induction later generalizing w with
  | nil =>
    have hpos := h.steps_pos hd
    simp [hd]
    omega
  | cons move later ih =>
    have hlater := fun u hu => hsilent u (List.mem_cons_of_mem _ hu)
    rw [List.foldl_cons]
    cases move with
    | turn t =>
      obtain ⟨hconsistent, hdriving, hcases⟩ := waste_silent h (hsilent (.turn t) List.mem_cons_self)
      rw [hd, checked_some] at hdriving
      by_cases hlimit : AtLimit .WASTE_COVER_MOTOR t.word dir
      · have hhit : ∃ move ∈ StepMove.turn t :: later, move.atLimit dir :=
          ⟨_, List.mem_cons_self, hlimit⟩
        rw [if_pos hlimit] at hdriving
        rw [waste_rests hconsistent hdriving hlater, if_pos (.inl hhit)]
      · rw [if_neg hlimit] at hdriving
        obtain hkeep | hnone := hcases
        · have hnot : ¬ (StepMove.turn t).atLimit dir := hlimit
          rw [ih hconsistent hdriving hlater, hkeep]
          simp [hnot]
        · rw [hnone] at hdriving
          cases hdriving
    | timer =>
      obtain ⟨hconsistent, hdriving, hsteps⟩ := waste_timer_spec h
      have hnot : ¬ StepMove.timer.atLimit dir := id
      by_cases hlast : w.waste_motor_steps ≤ 1
      · rw [if_pos hlast] at hdriving
        rw [waste_rests hconsistent hdriving hlater, if_pos]
        right
        rw [List.count_cons_self]
        omega
      · rw [if_neg hlast, hd] at hdriving
        rw [ih hconsistent hdriving hlater, hsteps (by simp [hd]), List.count_cons_self]
        have hcount : w.waste_motor_steps - 1 ≤ (later.count .timer : Int) ↔
            w.waste_motor_steps ≤ ((later.count .timer + 1 : Nat) : Int) := by omega
        simp only [hcount, List.mem_cons, exists_eq_or_imp, hnot, false_or]

/-- A silent turn changes the period at most. -/
theorem spin_silent (DEG_TO_STEPS : UInt32 → UInt32) {t : Turn}
    (hsilent : t.silent [.SCP_SPIN_CMD, .SCP_SPIN_STEP_CMD]) :
    ∃ period, s.apply DEG_TO_STEPS (.turn t) = scpspin_speed s period := by
  change ∃ period, spin_receive DEG_TO_STEPS s t.msg = scpspin_speed s period
  unfold spin_receive
  cases hmsg : t.msg with
  | none => exact ⟨s.new_spin_period, rfl⟩
  | some msg =>
    have hcmd := hsilent msg hmsg
    simp only
    split
    · simp_all
    · simp_all
    · split_ifs
      · exact ⟨_, rfl⟩
      · exact ⟨_, rfl⟩
    · exact ⟨s.new_spin_period, rfl⟩

/-- Without a newer command a scoop that does not spin goes on resting. -/
theorem spin_rests (h : s.Consistent) (hrest : s.driving = none) {later : List StepMove}
    (hsilent : ∀ move ∈ later, move.silent [.SCP_SPIN_CMD, .SCP_SPIN_STEP_CMD]) :
    (later.foldl (SpinMotor.apply DEG_TO_STEPS) s).driving = none := by
  have hinv : (later.foldl (SpinMotor.apply DEG_TO_STEPS) s).Consistent ∧
      (later.foldl (SpinMotor.apply DEG_TO_STEPS) s).driving = none := by
    refine List.foldlRecOn (motive := fun s : SpinMotor => s.Consistent ∧
      s.driving = none) later _ ⟨h, hrest⟩ ?_
    rintro s ⟨hs, hnone⟩ move hmove
    cases move with
    | turn t =>
      obtain ⟨period, hturn⟩ := spin_silent DEG_TO_STEPS (s := s) (hsilent (.turn t) hmove)
      rw [hturn]
      exact ⟨hs, hnone⟩
    | timer =>
      obtain ⟨hconsistent, hdriving, -⟩ := spin_timer_spec DEG_TO_STEPS hs
      rw [hnone, ite_self] at hdriving
      exact ⟨hconsistent, hdriving⟩
  exact hinv.2

/-- Without a newer command the scoop spins until its steps are done. A move of no steps takes
one period. -/
theorem spin_runs (h : s.Consistent) (hd : s.driving = some dir) {later : List StepMove}
    (hsilent : ∀ move ∈ later, move.silent [.SCP_SPIN_CMD, .SCP_SPIN_STEP_CMD]) :
    (later.foldl (SpinMotor.apply DEG_TO_STEPS) s).driving =
      if max 1 (s.scpspin_steps - s.scpspin_cnt) ≤ later.count .timer then none else some dir := by
  induction later generalizing s with
  | nil =>
    have hpos : ¬ max 1 (s.scpspin_steps - s.scpspin_cnt) ≤ 0 := by omega
    rw [List.count_nil, if_neg hpos]
    exact hd
  | cons move later ih =>
    have hlater := fun u hu => hsilent u (List.mem_cons_of_mem _ hu)
    rw [List.foldl_cons]
    cases move with
    | turn t =>
      obtain ⟨period, hturn⟩ := spin_silent DEG_TO_STEPS (s := s)
        (hsilent (.turn t) List.mem_cons_self)
      have hconsistent : (scpspin_speed s period).Consistent := h
      rw [hturn, List.count_cons_of_ne (by simp)]
      exact ih hconsistent hd hlater
    | timer =>
      obtain ⟨hconsistent, hdriving, hcount⟩ := spin_timer_spec DEG_TO_STEPS h
      rw [List.count_cons_self]
      by_cases hlast : s.scpspin_steps ≤ s.scpspin_cnt + 1
      · rw [if_pos hlast] at hdriving
        rw [spin_rests hconsistent hdriving hlater, if_pos (by omega)]
      · obtain ⟨hcnt, hsteps⟩ := hcount (by simp [hd]) (by omega)
        rw [if_neg hlast, hd] at hdriving
        rw [ih hconsistent hdriving hlater, hcnt, hsteps]
        have hless : max 1 (s.scpspin_steps - (s.scpspin_cnt + 1)) ≤ later.count .timer ↔
            max 1 (s.scpspin_steps - s.scpspin_cnt) ≤ later.count .timer + 1 := by omega
        simp only [hless]

/-- The timeouts of the commands change nothing in the three tasks. -/
def TimeoutsUnread (DEG_TO_STEPS : UInt32 → UInt32) : Prop :=
  ∀ f : DriveMessage → UInt32,
    (∀ (turns : List Turn) m, (turns.map (Turn.retime f)).foldl scpinout_cmd_task m =
      turns.foldl scpinout_cmd_task m) ∧
      (∀ (moves : List StepMove) w, (moves.map (StepMove.retime f)).foldl WasteMotor.apply w =
        moves.foldl WasteMotor.apply w) ∧
      ∀ (moves : List StepMove) s, (moves.map (StepMove.retime f)).foldl (SpinMotor.apply DEG_TO_STEPS) s =
        moves.foldl (SpinMotor.apply DEG_TO_STEPS) s

/-- A scoop that is driven runs, without a newer command, until `pt_check` reports the end that
it runs to. -/
def ScoopRunsToLimit : Prop :=
  ∀ (before later : List Turn) (dir : Bool), (before.foldl scpinout_cmd_task .boot).driving = some dir →
    (∀ t ∈ later, t.silent [.SCP_INOUT_CMD]) →
    ((before ++ later).foldl scpinout_cmd_task .boot).driving =
      if ∃ t ∈ later, AtLimit .SCPINOUT_MOTOR t.word dir then none else some dir

/-- The way that a direction turns a motor. -/
def turning : Direction → Drive
  | .FORWARD => some true
  | .REVERSE => some false
  | .STOP => none

/-- A waste cover that is told to move runs, without a newer command, until `pt_check` reports
the end that it runs to, and for as many events of its timer as it has steps at most. -/
def WasteRunsItsSteps : Prop :=
  ∀ (before later : List StepMove) (msg : DriveMessage) (word : PtWord) (steps : Int) (dir : Bool),
    waste_steps msg = some steps → 0 < steps → turning msg.direction = some dir →
    (∀ move ∈ later, move.silent [.WASTE_COVER_CMD, .WASTE_STEP_CMD]) →
    ((before ++ .turn ⟨some msg, word⟩ :: later).foldl WasteMotor.apply .boot).driving =
      if AtLimit .WASTE_COVER_MOTOR word dir ∨ (∃ move ∈ later, move.atLimit dir) ∨
        steps ≤ later.count .timer then none else some dir

/-- A scoop that is told to spin does, without a newer command, for exactly as many periods of
its timer as it has steps, and for one at least. -/
def SpinRunsItsSteps (DEG_TO_STEPS : UInt32 → UInt32) : Prop :=
  ∀ (always_on : Bool) (before later : List StepMove) (msg : DriveMessage) (word : PtWord) (steps : Nat)
    (dir : Bool), spin_steps DEG_TO_STEPS msg = some steps → turning msg.direction = some dir →
    (∀ move ∈ later, move.silent [.SCP_SPIN_CMD, .SCP_SPIN_STEP_CMD]) →
    ((before ++ .turn ⟨some msg, word⟩ :: later).foldl (SpinMotor.apply DEG_TO_STEPS)
      (.boot always_on)).driving = if max 1 steps ≤ later.count .timer then none else some dir

theorem scoop_runs_to_limit : ScoopRunsToLimit := by
  intro before later dir hd hsilent
  have hconsistent : (before.foldl scpinout_cmd_task .boot).Consistent :=
    List.foldlRecOn before scpinout_cmd_task boot_consistent
      fun m hm t _ => (dc_cmd_task_spec scpinout_moves hm t).1
  rw [List.foldl_append]
  exact scpinout_runs hconsistent hd hsilent

private theorem waste_command_turning {steps : Int} {direction : Direction} (h : turning direction = some dir) :
    waste_command w steps direction = waste_motor_move w steps dir := by
  cases direction with
  | FORWARD =>
    cases h
    rfl
  | REVERSE =>
    cases h
    rfl
  | STOP => cases h

theorem waste_runs_its_steps : WasteRunsItsSteps := by
  intro before later msg word steps dir hsteps hpos hdir hsilent
  have hconsistent : (before.foldl WasteMotor.apply .boot).Consistent :=
    List.foldlRecOn before WasteMotor.apply waste_boot_consistent fun w hw m _ => (waste_apply_spec hw m).1
  rw [List.foldl_append, List.foldl_cons]
  generalize before.foldl WasteMotor.apply .boot = w at hconsistent
  have hreceive : waste_receive w (some msg) = waste_motor_move w steps dir := by
    unfold waste_receive
    simp only [hsteps]
    exact waste_command_turning hdir
  obtain ⟨hmoved, hdriving⟩ := waste_move_spec hconsistent steps dir
  rw [if_neg (by omega)] at hdriving
  obtain ⟨hnext, -⟩ := waste_motor_cmd_task_spec hconsistent ⟨some msg, word⟩
  obtain ⟨hlimits, hcases⟩ := limit_check_spec .WASTE_COVER_MOTOR hmoved.driving
    (waste_stop_spec (waste_motor_move w steps dir)).2 word
  change (later.foldl WasteMotor.apply (waste_motor_cmd_task w ⟨some msg, word⟩)).driving = _
  have htask : waste_motor_cmd_task w ⟨some msg, word⟩ = limit_check WasteMotor.waste_motor_run
      WasteMotor.waste_motor_dir waste_motor_stop .WASTE_COVER_MOTOR (waste_motor_move w steps dir) word := by
    unfold waste_motor_cmd_task
    rw [hreceive]
  rw [hdriving, checked_some] at hlimits
  rw [htask] at hnext ⊢
  by_cases hlimit : AtLimit .WASTE_COVER_MOTOR word dir
  · rw [if_pos hlimit] at hlimits
    rw [waste_rests hnext hlimits hsilent, if_pos (.inl hlimit)]
  · rw [if_neg hlimit] at hlimits
    have hsteps' : (waste_motor_move w steps dir).waste_motor_steps = steps := by
      unfold waste_motor_move
      rw [if_neg (by omega)]
    obtain hkeep | hstop := hcases
    · rw [waste_runs hnext hlimits hsilent, hkeep, hsteps']
      simp only [hlimit, false_or]
    · rw [hstop, (waste_stop_spec _).2] at hlimits
      cases hlimits

private theorem spin_receive_move {msg : DriveMessage} {steps : Nat} (hsteps : spin_steps DEG_TO_STEPS msg = some steps)
    (hdir : turning msg.direction = some dir) :
    spin_receive DEG_TO_STEPS s (some msg) = scpspin_move s steps dir := by
  obtain ⟨cmd, angle, direction, timeout⟩ := msg
  cases direction with
  | STOP => cases hdir
  | FORWARD =>
    cases hdir
    cases cmd with
    | SCP_SPIN_CMD =>
      cases hsteps
      rfl
    | SCP_SPIN_STEP_CMD =>
      cases hsteps
      rfl
    | _ => cases hsteps
  | REVERSE =>
    cases hdir
    cases cmd with
    | SCP_SPIN_CMD =>
      cases hsteps
      rfl
    | SCP_SPIN_STEP_CMD =>
      cases hsteps
      rfl
    | _ => cases hsteps

private theorem spin_runs_its_steps (DEG_TO_STEPS : UInt32 → UInt32) : SpinRunsItsSteps DEG_TO_STEPS := by
  intro always_on before later msg word steps dir hsteps hdir hsilent
  have hconsistent : (before.foldl (SpinMotor.apply DEG_TO_STEPS) (.boot always_on)).Consistent := by
    refine List.foldlRecOn before (SpinMotor.apply DEG_TO_STEPS) (spin_boot_consistent always_on) ?_
    intro s hs m _
    cases m with
    | turn t => exact spin_receive_consistent hs t.msg
    | timer => exact (spin_timer_spec _ hs).1
  rw [List.foldl_append, List.foldl_cons]
  generalize before.foldl (SpinMotor.apply DEG_TO_STEPS) (.boot always_on) = s at hconsistent
  have hmove : s.apply DEG_TO_STEPS (.turn ⟨some msg, word⟩) = scpspin_move s steps dir := by
    exact spin_receive_move hsteps hdir
  rw [hmove]
  exact spin_runs ⟨rfl, fun _ => rfl⟩ rfl hsilent

/-- The three tasks do not look at the timeouts of their commands: with any other ones they do the
same. What ends a drive is the limit of the scoop, or that the steps of the other two motors have
been counted. -/
theorem drives_end_without_timeouts (DEG_TO_STEPS : UInt32 → UInt32) :
    TimeoutsUnread DEG_TO_STEPS ∧ ScoopRunsToLimit ∧ WasteRunsItsSteps ∧ SpinRunsItsSteps DEG_TO_STEPS :=
  ⟨fun f => ⟨scpinout_retime f, waste_retime f, spin_retime f⟩, scoop_runs_to_limit, waste_runs_its_steps,
    spin_runs_its_steps DEG_TO_STEPS⟩

/-- The scoop is told to move out for 10 s. No switch closes: it is driven still after 10.1 s,
as an iteration that receives no message takes 10 ms. -/
theorem scoop_outruns_its_timeout :
    ¬ ∀ (msg : DriveMessage) (later : List Turn), msg.cmd = .SCP_INOUT_CMD → msg.direction ≠ .STOP →
      msg.timeout ≠ 0 → (∀ t ∈ later, t.msg = none) → msg.timeout.toNat + 10 < 10 * later.length →
      ((⟨some msg, 0⟩ :: later).foldl scpinout_cmd_task .boot).driving = none := by
  intro h
  let msg : DriveMessage := ⟨.SCP_INOUT_CMD, 30, .FORWARD, 10000⟩
  have hstop := h msg (List.replicate 1010 ⟨none, 0⟩) rfl nofun (by decide)
    (fun t ht => by rw [List.eq_of_mem_replicate ht]) (by rw [List.length_replicate]; decide)
  have hruns := scoop_runs_to_limit [⟨some msg, 0⟩] (List.replicate 1010 ⟨none, 0⟩) true (by decide) (by
    intro t ht
    rw [List.eq_of_mem_replicate ht]
    exact nofun)
  have hopen : ¬ ∃ t ∈ List.replicate 1010 (⟨none, 0⟩ : Turn), AtLimit .SCPINOUT_MOTOR t.word true := by
    rintro ⟨t, ht, hlimit⟩
    rw [List.eq_of_mem_replicate ht] at hlimit
    exact absurd hlimit (by decide)
  rw [if_neg hopen, List.singleton_append, hstop] at hruns
  cases hruns

end catbox.drive
