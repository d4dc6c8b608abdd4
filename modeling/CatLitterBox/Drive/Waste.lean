import CatLitterBox.Drive.Limits

open catbox.motor catbox.sensor

namespace catbox.drive

def WASTE_TARGET_STEPS : Int := 1020 + 100

/-- The levels of the two coil pins in each phase. -/
def phase_table : Fin 4 → Bool × Bool
  | 0 => (true, false)
  | 1 => (true, true)
  | 2 => (false, true)
  | 3 => (false, false)

/-- The variables of the waste cover's driver and its outputs. The timer is `none` before it
has been created, and says then whether it is started. -/
structure WasteMotor where
  waste_motor_steps : Int
  waste_motor_phase : Fin 4
  waste_motor_dir : Bool
  waste_motor_run : Bool
  waste_motor_timer : Option Bool
  waste_en : Bool
  waste_pwm : Bool × Bool
deriving DecidableEq

/-- After `step_motor_init`. -/
def WasteMotor.boot : WasteMotor := ⟨0, 0, false, false, none, false, (false, false)⟩

def waste_motor_stop (w : WasteMotor) : WasteMotor :=
  { w with
    waste_motor_run := false
    waste_motor_timer := w.waste_motor_timer.map fun _ => false
    waste_pwm := (false, false)
    waste_en := false
    waste_motor_steps := 0 }

def waste_motor_timer_callback (w : WasteMotor) : WasteMotor :=
  if !w.waste_motor_run then w
  else
    let w := { w with waste_pwm := phase_table w.waste_motor_phase, waste_motor_steps := w.waste_motor_steps - 1 }
    let w :=
      if w.waste_motor_steps ≤ 0 then
        { w with waste_motor_run := false, waste_motor_timer := some false, waste_en := false }
      else w
    if w.waste_motor_dir then { w with waste_motor_phase := w.waste_motor_phase + 1 }
    else { w with waste_motor_phase := w.waste_motor_phase - 1 }

/-- The timer calls back every 12 ms. -/
def waste_motor_move (w : WasteMotor) (steps : Int) (dir : Bool) : WasteMotor :=
  if steps ≤ 0 then w
  else
    { w with
      waste_motor_steps := steps
      waste_motor_dir := dir
      waste_motor_phase := 0
      waste_motor_run := true
      waste_en := true
      waste_motor_timer := some true }

def waste_command (w : WasteMotor) (steps : Int) : Direction → WasteMotor
  | .FORWARD => waste_motor_move w steps true
  | .REVERSE => waste_motor_move w steps false
  | .STOP => waste_motor_stop w

/-- The steps that a message asks for, if it is one for the waste cover. -/
def waste_steps (msg : DriveMessage) : Option Int :=
  match msg.cmd with
  | .WASTE_COVER_CMD => some WASTE_TARGET_STEPS
  | .WASTE_STEP_CMD => some msg.angle.toInt32.toInt
  | _ => none

def waste_receive (w : WasteMotor) : Option DriveMessage → WasteMotor
  | some msg =>
    match waste_steps msg with
    | some steps => waste_command w steps msg.direction
    | none => w
  | none => w

/-- One iteration of the loop. -/
def waste_motor_cmd_task (w : WasteMotor) (t : Turn) : WasteMotor :=
  limit_check WasteMotor.waste_motor_run WasteMotor.waste_motor_dir waste_motor_stop .WASTE_COVER_MOTOR
    (waste_receive w t.msg) t.word

/-- What happens to a step motor: an iteration of its task, or an event of its timer. -/
inductive StepMove where
  | turn (t : Turn)
  | timer
deriving DecidableEq

/-- A timer that is not started has no events. -/
def WasteMotor.apply (w : WasteMotor) : StepMove → WasteMotor
  | .turn t => waste_motor_cmd_task w t
  | .timer => if w.waste_motor_timer = some true then waste_motor_timer_callback w else w

/-- Which way the motor is driven: it is enabled, and its timer steps it. -/
def WasteMotor.driving (w : WasteMotor) : Drive :=
  if w.waste_en ∧ w.waste_motor_timer = some true then some w.waste_motor_dir else none

/-- The run flag says what the outputs do, and a motor that runs has steps to go. -/
structure WasteMotor.Consistent (w : WasteMotor) : Prop where
  driving : w.driving = if w.waste_motor_run then some w.waste_motor_dir else none
  steps : w.waste_motor_run = true → 0 < w.waste_motor_steps

/-- Where a message leads. A move of no steps is not one. -/
def waste_commanded (d : Drive) : Option DriveMessage → Drive
  | some msg =>
    match waste_steps msg, msg.direction with
    | none, _ => d
    | some _, .STOP => none
    | some steps, .FORWARD => if steps ≤ 0 then d else some true
    | some steps, .REVERSE => if steps ≤ 0 then d else some false
  | none => d

variable {w : WasteMotor}

/-- At boot the flag of the waste motor says that it stands. -/
theorem waste_boot_consistent : WasteMotor.boot.Consistent := ⟨rfl, nofun⟩

/-- A stop leaves the motor without a drive. -/
theorem waste_stop_spec (w : WasteMotor) :
    (waste_motor_stop w).Consistent ∧ (waste_motor_stop w).driving = none := by
  have hdriving : (waste_motor_stop w).driving = none := by simp [waste_motor_stop, WasteMotor.driving]
  exact ⟨⟨hdriving, nofun⟩, hdriving⟩

/-- A move sets the drive, unless there are no steps to go. -/
theorem waste_move_spec (h : w.Consistent) (steps : Int) (dir : Bool) :
    (waste_motor_move w steps dir).Consistent ∧
      (waste_motor_move w steps dir).driving = if steps ≤ 0 then w.driving else some dir := by
  unfold waste_motor_move
  by_cases hsteps : steps ≤ 0
  · rw [if_pos hsteps, if_pos hsteps]
    exact ⟨h, rfl⟩
  · rw [if_neg hsteps, if_neg hsteps]
    refine ⟨⟨by simp [WasteMotor.driving], fun _ => ?_⟩, by simp [WasteMotor.driving]⟩
    simp only
    omega

private theorem waste_receive_spec (h : w.Consistent) (msg : Option DriveMessage) :
    (waste_receive w msg).Consistent ∧ (waste_receive w msg).driving = waste_commanded w.driving msg := by
  cases msg with
  | none => exact ⟨h, rfl⟩
  | some msg =>
    unfold waste_receive waste_commanded
    simp only
    cases waste_steps msg with
    | none => exact ⟨h, rfl⟩
    | some steps =>
      cases msg.direction with
      | FORWARD => exact waste_move_spec h steps true
      | REVERSE => exact waste_move_spec h steps false
      | STOP => exact waste_stop_spec w

/-- An iteration drives the motor as the message says, if the limits allow it. -/
theorem waste_motor_cmd_task_spec (h : w.Consistent) (t : Turn) :
    (waste_motor_cmd_task w t).Consistent ∧
      (waste_motor_cmd_task w t).driving =
        checked .WASTE_COVER_MOTOR t.word (waste_commanded w.driving t.msg) := by
  obtain ⟨hreceived, hdriving⟩ := waste_receive_spec h t.msg
  obtain ⟨hstopped, hnone⟩ := waste_stop_spec (waste_receive w t.msg)
  obtain ⟨hchecked, hcases⟩ := limit_check_spec .WASTE_COVER_MOTOR hreceived.driving hnone t.word
  rw [hdriving] at hchecked
  refine ⟨?_, hchecked⟩
  unfold waste_motor_cmd_task
  obtain hkeep | hstop := hcases
  · rw [hkeep]
    exact hreceived
  · rw [hstop]
    exact hstopped

/-- An event of the timer takes one step, and the last one stops the motor. -/
theorem waste_timer_spec (h : w.Consistent) :
    (w.apply .timer).Consistent ∧
      (w.apply .timer).driving = (if w.waste_motor_steps ≤ 1 then none else w.driving) ∧
      (w.driving ≠ none → (w.apply .timer).waste_motor_steps = w.waste_motor_steps - 1) := by
  have hdriving := h.driving
  cases hrun : w.waste_motor_run with
  | false =>
    rw [hrun] at hdriving
    have hsame : w.apply .timer = w := by
      unfold WasteMotor.apply waste_motor_timer_callback
      simp [hrun]
    simp only [Bool.false_eq_true, if_false] at hdriving
    rw [hsame, hdriving]
    exact ⟨h, by simp, fun hne => absurd rfl hne⟩
  | true =>
    rw [hrun, if_pos rfl] at hdriving
    have hactive : w.waste_en = true ∧ w.waste_motor_timer = some true := by
      unfold WasteMotor.driving at hdriving
      split_ifs at hdriving with hactive
      exact hactive
    obtain ⟨hen, htimer⟩ := hactive
    unfold WasteMotor.apply waste_motor_timer_callback
    simp only [htimer, hrun, if_true, Bool.not_true, Bool.false_eq_true, if_false, hdriving]
    by_cases hlast : w.waste_motor_steps ≤ 1
    · have hzero : w.waste_motor_steps - 1 ≤ 0 := by omega
      simp only [hlast, hzero, if_true]
      cases hdir : w.waste_motor_dir with
      | true => exact ⟨⟨by simp [WasteMotor.driving], nofun⟩, by simp [WasteMotor.driving], fun _ => by simp⟩
      | false => exact ⟨⟨by simp [WasteMotor.driving], nofun⟩, by simp [WasteMotor.driving], fun _ => by simp⟩
    · have hmore : ¬ w.waste_motor_steps - 1 ≤ 0 := by omega
      have hpos : 0 < w.waste_motor_steps - 1 := by omega
      simp only [hlast, hmore, if_false]
      cases hdir : w.waste_motor_dir with
      | true =>
        exact ⟨⟨by simp [WasteMotor.driving, hen], fun _ => by simpa using hpos⟩,
          by simp [WasteMotor.driving, hen], fun _ => by simp⟩
      | false =>
        exact ⟨⟨by simp [WasteMotor.driving, hen], fun _ => by simpa using hpos⟩,
          by simp [WasteMotor.driving, hen], fun _ => by simp⟩

/-- What a move leads to. -/
def waste_next (w : WasteMotor) : StepMove → Drive
  | .turn t => checked .WASTE_COVER_MOTOR t.word (waste_commanded w.driving t.msg)
  | .timer => if w.waste_motor_steps ≤ 1 then none else w.driving

/-- The drive of the waste motor is the one of the abstract machine after every move. -/
theorem waste_apply_spec (h : w.Consistent) (m : StepMove) :
    (w.apply m).Consistent ∧ (w.apply m).driving = waste_next w m := by
  cases m with
  | turn t => exact waste_motor_cmd_task_spec h t
  | timer =>
    obtain ⟨hconsistent, hdriving, -⟩ := waste_timer_spec h
    exact ⟨hconsistent, hdriving⟩

end catbox.drive
