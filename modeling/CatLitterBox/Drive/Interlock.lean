import CatLitterBox.Drive.Dc
import CatLitterBox.Drive.Waste

open catbox.motor catbox.sensor temporal

namespace catbox.drive

/-- After every iteration of the task of a DC motor the motor is off the limits that are set
in the word of that iteration. -/
def DcInterlocked (task : DcMotor → Turn → DcMotor) (mt : Motor) (turns : List Turn) : Prop :=
  Along task (fun m t => Interlocked mt t.word (task m t).driving) .boot turns

/-- No iteration finds both bits set while its message, or an earlier one, drives the motor
FORWARD. -/
def DcUncontradicted (task : DcMotor → Turn → DcMotor) (d : DcDriver) (turns : List Turn) : Prop :=
  Along task (fun m t => ¬ Contradicted d.motor t.word (d.commanded m.driving t.msg)) .boot turns

/-- The same of the waste cover, whose timer may call back at any time. -/
def WasteInterlocked (moves : List StepMove) : Prop :=
  Along WasteMotor.apply (fun w m =>
    match m with
    | .turn t => Interlocked .WASTE_COVER_MOTOR t.word (w.apply m).driving
    | .timer => True) .boot moves

def WasteUncontradicted (moves : List StepMove) : Prop :=
  Along WasteMotor.apply (fun w m =>
    match m with
    | .turn t => ¬ Contradicted .WASTE_COVER_MOTOR t.word (waste_commanded w.driving t.msg)
    | .timer => True) .boot moves

/-- A motor with two limit switches is interlocked exactly if no turn finds both of its ends and
drives on. -/
theorem dc_interlocked_iff {d : DcDriver} (hd : d.Moves) (hlimited : Limited d.motor) (turns : List Turn) :
    DcInterlocked (dc_cmd_task d) d.motor turns ↔ DcUncontradicted (dc_cmd_task d) d turns := by
  refine along_congr (I := DcMotor.Consistent) ?_ ?_ boot_consistent
  · intro m t hm _
    exact (dc_cmd_task_spec hd hm t).1
  · intro m t hm
    rw [(dc_cmd_task_spec hd hm t).2]
    exact interlocked_checked_iff hlimited t.word _

private theorem waste_interlocked_iff (moves : List StepMove) :
    WasteInterlocked moves ↔ WasteUncontradicted moves := by
  refine along_congr (I := WasteMotor.Consistent) ?_ ?_ waste_boot_consistent
  · intro w m hw _
    exact (waste_apply_spec hw m).1
  · intro w m hw
    cases m with
    | turn t =>
      simp only
      rw [(waste_apply_spec hw (.turn t)).2]
      exact interlocked_checked_iff limited_waste t.word _
    | timer => exact Iff.rfl

/-- The limit switches stop every motor, whatever the commands and the words, if and only if
no word sets both bits of a motor that is driven FORWARD. -/
theorem limit_interlock_iff (scoop cover : List Turn) (waste : List StepMove) :
    (DcInterlocked scpinout_cmd_task .SCPINOUT_MOTOR scoop ↔
        DcUncontradicted scpinout_cmd_task scpinout scoop) ∧
      (DcInterlocked main_cmd_task .MAIN_COVER_MOTOR cover ↔
        DcUncontradicted main_cmd_task main_cover cover) ∧
      (WasteInterlocked waste ↔ WasteUncontradicted waste) :=
  ⟨dc_interlocked_iff scpinout_moves limited_scpinout scoop,
    dc_interlocked_iff main_cover_moves limited_main cover, waste_interlocked_iff waste⟩

/-- With both its bits set the scoop is driven out, against its limit. -/
theorem contradictory_word_passes :
    ¬ ∀ turns, DcInterlocked scpinout_cmd_task .SCPINOUT_MOTOR turns := by
  intro h
  obtain ⟨hfirst, -⟩ := h [⟨some ⟨.SCP_INOUT_CMD, 30, .FORWARD, 10000⟩, PT_BIT_SCP_OUT ||| PT_BIT_SCP_IN⟩]
  exact absurd hfirst (by decide)

end catbox.drive
