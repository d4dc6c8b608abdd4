import CatLitterBox.Drive.Limits

open catbox.motor catbox.sensor

namespace catbox.drive

def MT_FORWARD_DIR : Nat := 0
def MT_REVERSE_DIR : Nat := 1

/-- The outputs of a DC motor, its compare value and its direction pin, and the two flags that
its task keeps. -/
structure DcMotor where
  comparator : Nat
  sel : Nat
  run : Bool
  dir : Bool
deriving DecidableEq, Repr

/-- After `dc_motor_init`. -/
def DcMotor.boot : DcMotor := ⟨0, MT_FORWARD_DIR, false, false⟩

/-- What the tasks of the DC motors differ in. -/
structure DcDriver where
  motor : Motor
  cmd : DriveCmd
  speed : Int

/-- `scp_inout_motor_move` and `main_motor_move`. -/
def motor_move (m : DcMotor) (speed_pct : Int) : DcMotor :=
  let compare_val := speed_pct.natAbs * 400 / 100
  if speed_pct > 0 then { m with comparator := compare_val, sel := MT_FORWARD_DIR }
  else if speed_pct < 0 then { m with comparator := compare_val, sel := MT_REVERSE_DIR }
  else { m with comparator := 0 }

def dc_stop (m : DcMotor) : DcMotor := { motor_move m 0 with run := false }

def dc_command (speed : Int) (m : DcMotor) : Direction → DcMotor
  | .FORWARD => { motor_move m (-speed) with dir := true, run := true }
  | .REVERSE => { motor_move m speed with dir := false, run := true }
  | .STOP => dc_stop m

/-- The message is handled if it has the command of the motor. -/
def dc_receive (d : DcDriver) (m : DcMotor) : Option DriveMessage → DcMotor
  | some msg => if msg.cmd = d.cmd then dc_command d.speed m msg.direction else m
  | none => m

/-- One iteration of the loop. -/
def dc_cmd_task (d : DcDriver) (m : DcMotor) (t : Turn) : DcMotor :=
  limit_check DcMotor.run DcMotor.dir dc_stop d.motor (dc_receive d m t.msg) t.word

def scpinout : DcDriver := ⟨.SCPINOUT_MOTOR, .SCP_INOUT_CMD, 99⟩

def main_cover : DcDriver := ⟨.MAIN_COVER_MOTOR, .MAIN_COVER_CMD, 60⟩

def scpinout_cmd_task : DcMotor → Turn → DcMotor := dc_cmd_task scpinout

def main_cmd_task : DcMotor → Turn → DcMotor := dc_cmd_task main_cover

def plate : DcDriver := ⟨.PLATE_MOTOR, .PLATE_CMD, 99⟩

/-- The plate turns without limits. Its task does nothing until there is a message. -/
def plate_cmd_task (m : DcMotor) (t : Turn) : DcMotor := dc_receive plate m t.msg

/-- Which way the outputs drive the motor: a negative speed leads to the open end. -/
def DcMotor.driving (m : DcMotor) : Drive :=
  if m.comparator = 0 then none else some (m.sel = MT_REVERSE_DIR)

/-- The flags say what the outputs do. -/
def DcMotor.Consistent (m : DcMotor) : Prop := m.driving = if m.run then some m.dir else none

/-- The speed is one that moves the motor. -/
def DcDriver.Moves (d : DcDriver) : Prop := 0 < d.speed ∧ d.speed.natAbs * 400 / 100 ≠ 0

instance (d : DcDriver) : Decidable d.Moves := inferInstanceAs (Decidable (_ ∧ _))

theorem scpinout_moves : scpinout.Moves := by decide

theorem main_cover_moves : main_cover.Moves := by decide

theorem plate_moves : plate.Moves := by decide

/-- Where a message leads. -/
def DcDriver.commanded (d : DcDriver) (drive : Drive) : Option DriveMessage → Drive
  | some msg =>
    if msg.cmd = d.cmd then
      match msg.direction with
      | .FORWARD => some true
      | .REVERSE => some false
      | .STOP => none
    else drive
  | none => drive

variable {d : DcDriver} {m : DcMotor}

theorem boot_consistent : DcMotor.boot.Consistent := rfl

theorem dc_stop_spec (m : DcMotor) : (dc_stop m).Consistent ∧ (dc_stop m).driving = none := by
  simp [dc_stop, motor_move, DcMotor.Consistent, DcMotor.driving]

/-- A message drives the motor as it says. -/
theorem dc_receive_spec (hd : d.Moves) (h : m.Consistent) (msg : Option DriveMessage) :
    (dc_receive d m msg).Consistent ∧ (dc_receive d m msg).driving = d.commanded m.driving msg := by
  obtain ⟨hpos, hduty⟩ := hd
  cases msg with
  | none => exact ⟨h, rfl⟩
  | some msg =>
    unfold dc_receive DcDriver.commanded
    by_cases hcmd : msg.cmd = d.cmd
    · simp only [hcmd, if_true]
      have hneg : ¬ d.speed < 0 := by omega
      cases msg.direction with
      | FORWARD =>
        simp [dc_command, motor_move, hneg, hpos, DcMotor.Consistent, DcMotor.driving, hduty]
      | REVERSE =>
        simp [dc_command, motor_move, hpos, DcMotor.Consistent, DcMotor.driving, hduty, MT_FORWARD_DIR,
          MT_REVERSE_DIR]
      | STOP => exact dc_stop_spec m
    · simp only [hcmd, if_false]
      exact ⟨h, trivial⟩

/-- An iteration drives the motor as the message says, if the limits allow it. -/
theorem dc_cmd_task_spec (hd : d.Moves) (h : m.Consistent) (t : Turn) :
    (dc_cmd_task d m t).Consistent ∧
      (dc_cmd_task d m t).driving = checked d.motor t.word (d.commanded m.driving t.msg) := by
  obtain ⟨hreceived, hdriving⟩ := dc_receive_spec hd h t.msg
  obtain ⟨hstopped, hnone⟩ := dc_stop_spec (dc_receive d m t.msg)
  obtain ⟨hchecked, hcases⟩ := limit_check_spec d.motor hreceived hnone t.word
  rw [hdriving] at hchecked
  refine ⟨?_, hchecked⟩
  unfold dc_cmd_task
  obtain hkeep | hstop := hcases
  · rw [hkeep]
    exact hreceived
  · rw [hstop]
    exact hstopped

end catbox.drive
