import CatLitterBox.Drive.Waste

open catbox.motor

namespace catbox.drive

def SCP_SPIN_SPEED_STEP : UInt32 := 100

/-- The variables of the scoop spin's driver, whether its PWM timer is started, and its
outputs. `spin_mt_always_on` is the flag of `motor.c` that keeps the driver enabled. -/
structure SpinMotor where
  scpspin_cnt : Nat
  scpspin_steps : Nat
  scpspin_motor_dir : Bool
  scpspin_motor_run : Bool
  new_spin_period : UInt32
  mcpwm_timer : Bool
  drv_en : Bool
  drv_dir : Bool
  spin_mt_always_on : Bool
deriving DecidableEq

/-- After `step_motor_init`. -/
def SpinMotor.boot (always_on : Bool) : SpinMotor := ⟨0, 0, false, false, 2000, false, false, true, always_on⟩

/-- The timer is stopped, and the driver disabled unless it is to stay enabled. -/
def SpinMotor.halt (s : SpinMotor) : SpinMotor :=
  { s with mcpwm_timer := false, drv_en := s.drv_en && s.spin_mt_always_on, scpspin_motor_run := false }

def mcpwm_timer_full_cb (s : SpinMotor) : SpinMotor :=
  if s.scpspin_motor_run then
    let s := { s with scpspin_cnt := s.scpspin_cnt + 1 }
    if s.scpspin_cnt ≥ s.scpspin_steps then s.halt else s
  else s

/-- The wait of up to 10 ms for the callback to end the motion is left out: the flag is cleared
after it in any case. -/
def scpspin_stop (s : SpinMotor) : SpinMotor :=
  if !s.scpspin_motor_run then s else { s.halt with scpspin_cnt := 0, scpspin_steps := 0 }

/-- What the PWM driver makes of a period that it rejects is left out. -/
def scpspin_speed (s : SpinMotor) (period : UInt32) : SpinMotor := { s with new_spin_period := period }

def scpspin_speed_dir (s : SpinMotor) (dir : Bool) : SpinMotor :=
  scpspin_speed s
    (if dir then s.new_spin_period + SCP_SPIN_SPEED_STEP else s.new_spin_period - SCP_SPIN_SPEED_STEP)

def scpspin_move (s : SpinMotor) (steps : Nat) (direction : Bool) : SpinMotor :=
  { s with
    drv_dir := direction
    scpspin_cnt := 0
    scpspin_steps := steps
    scpspin_motor_run := true
    scpspin_motor_dir := direction
    drv_en := true
    mcpwm_timer := true }

section

-- `DEG_TO_STEPS`, which computes in floating point
variable (DEG_TO_STEPS : UInt32 → UInt32)

/-- The steps that a message moves the scoop by, if it does. -/
def spin_steps (msg : DriveMessage) : Option Nat :=
  match msg.cmd, msg.direction with
  | _, .STOP => none
  | .SCP_SPIN_CMD, _ => some (DEG_TO_STEPS msg.angle).toNat
  | .SCP_SPIN_STEP_CMD, _ => some msg.angle.toNat
  | _, _ => none

def spin_receive (s : SpinMotor) : Option DriveMessage → SpinMotor
  | some msg =>
    match msg.cmd with
    | .SCP_SPIN_CMD =>
      match msg.direction with
      | .FORWARD => scpspin_move s (DEG_TO_STEPS msg.angle).toNat true
      | .REVERSE => scpspin_move s (DEG_TO_STEPS msg.angle).toNat false
      | .STOP => scpspin_stop s
    | .SCP_SPIN_STEP_CMD =>
      match msg.direction with
      | .FORWARD => scpspin_move s msg.angle.toNat true
      | .REVERSE => scpspin_move s msg.angle.toNat false
      | .STOP => s
    | .SCP_SPIN_SPEED_CMD =>
      if msg.angle ≠ 0 then scpspin_speed s msg.angle
      else scpspin_speed_dir s (msg.direction = .FORWARD)
    | _ => s
  | none => s

/-- One iteration of the loop. It reads no sensor. -/
def scpspin_motor_cmd_task (s : SpinMotor) (t : Turn) : SpinMotor := spin_receive DEG_TO_STEPS s t.msg

/-- The callback comes with every full period of a timer that is started. -/
def SpinMotor.apply (s : SpinMotor) : StepMove → SpinMotor
  | .turn t => scpspin_motor_cmd_task DEG_TO_STEPS s t
  | .timer => if s.mcpwm_timer then mcpwm_timer_full_cb s else s

end

/-- Which way the motor is driven: it is enabled, and its timer makes steps. -/
def SpinMotor.driving (s : SpinMotor) : Drive :=
  if s.drv_en ∧ s.mcpwm_timer then some s.drv_dir else none

/-- The run flag says what the outputs do. -/
def SpinMotor.Consistent (s : SpinMotor) : Prop :=
  s.mcpwm_timer = s.scpspin_motor_run ∧ (s.scpspin_motor_run = true → s.drv_en = true)

variable {s : SpinMotor} {DEG_TO_STEPS : UInt32 → UInt32}

/-- At boot the flag of the spin motor says that it stands. -/
theorem spin_boot_consistent (always_on : Bool) : (SpinMotor.boot always_on).Consistent := ⟨rfl, nofun⟩

theorem halt_consistent (s : SpinMotor) : s.halt.Consistent := ⟨rfl, nofun⟩

/-- A message leaves the flag of the spin motor with what the outputs do. -/
theorem spin_receive_consistent (h : s.Consistent) (msg : Option DriveMessage) :
    (spin_receive DEG_TO_STEPS s msg).Consistent := by
  unfold spin_receive
  cases msg with
  | none => exact h
  | some msg =>
    simp only
    split
    · split
      · exact ⟨rfl, fun _ => rfl⟩
      · exact ⟨rfl, fun _ => rfl⟩
      · unfold scpspin_stop
        split_ifs
        · exact h
        · exact ⟨rfl, nofun⟩
    · split
      · exact ⟨rfl, fun _ => rfl⟩
      · exact ⟨rfl, fun _ => rfl⟩
      · exact h
    · split_ifs
      · exact h
      · exact h
    · exact h

/-- The drive of the spin motor can be read from its flag. -/
theorem spin_driving_iff (h : s.Consistent) :
    s.driving = if s.scpspin_motor_run then some s.drv_dir else none := by
  obtain ⟨htimer, hen⟩ := h
  unfold SpinMotor.driving
  rw [htimer]
  cases hrun : s.scpspin_motor_run with
  | true => simp [hen hrun]
  | false => simp

/-- A period counts as one step, and the last one stops the motor. -/
theorem spin_timer_spec (DEG_TO_STEPS : UInt32 → UInt32) (h : s.Consistent) :
    (s.apply DEG_TO_STEPS .timer).Consistent ∧
      (s.apply DEG_TO_STEPS .timer).driving =
        (if s.scpspin_steps ≤ s.scpspin_cnt + 1 then none else s.driving) ∧
      (s.driving ≠ none → s.scpspin_cnt + 1 < s.scpspin_steps →
        (s.apply DEG_TO_STEPS .timer).scpspin_cnt = s.scpspin_cnt + 1 ∧
        (s.apply DEG_TO_STEPS .timer).scpspin_steps = s.scpspin_steps) := by
  have hdriving := spin_driving_iff h
  cases hrun : s.scpspin_motor_run with
  | false =>
    have hsame : s.apply DEG_TO_STEPS .timer = s := by
      change (if s.mcpwm_timer then mcpwm_timer_full_cb s else s) = s
      rw [h.1, hrun]
      rfl
    rw [hrun] at hdriving
    rw [hsame, hdriving]
    exact ⟨h, by simp, fun hne => absurd rfl hne⟩
  | true =>
    have happly : s.apply DEG_TO_STEPS .timer = mcpwm_timer_full_cb s := by
      change (if s.mcpwm_timer then mcpwm_timer_full_cb s else s) = _
      rw [h.1, hrun]
      rfl
    rw [hrun, if_pos rfl] at hdriving
    rw [happly, hdriving]
    by_cases hlast : s.scpspin_steps ≤ s.scpspin_cnt + 1
    · have hend : mcpwm_timer_full_cb s = SpinMotor.halt { s with scpspin_cnt := s.scpspin_cnt + 1 } := by
        unfold mcpwm_timer_full_cb
        rw [if_pos hrun]
        exact if_pos hlast
      rw [hend, if_pos hlast]
      exact ⟨halt_consistent _, by simp [SpinMotor.driving, SpinMotor.halt], fun _ hmore => by omega⟩
    · have hgoes : mcpwm_timer_full_cb s = { s with scpspin_cnt := s.scpspin_cnt + 1 } := by
        unfold mcpwm_timer_full_cb
        rw [if_pos hrun]
        exact if_neg hlast
      have hconsistent : ({ s with scpspin_cnt := s.scpspin_cnt + 1 } : SpinMotor).Consistent := h
      rw [hgoes, if_neg hlast]
      refine ⟨hconsistent, ?_, fun _ _ => ⟨rfl, rfl⟩⟩
      rw [spin_driving_iff hconsistent, if_pos hrun]

end catbox.drive
