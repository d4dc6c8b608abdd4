import CatLitterBox.Motor.Types
import CatLitterBox.Temporal.Run

open catbox.motor catbox.sensor

namespace catbox.drive

/-- `MOTOR_CMD_T`. -/
inductive DriveCmd where
  | WASTE_COVER_CMD
  | PLATE_CMD
  | SCP_INOUT_CMD
  | SCP_SPIN_CMD
  | MAIN_COVER_CMD
  | SCP_SPIN_STEP_CMD
  | SCP_SPIN_SPEED_CMD
  | WASTE_STEP_CMD
  | EMERGENCY_RESET_CMD
deriving DecidableEq, Repr

/-- The members of `mt_message_t` that the drivers look at, and the timeout. -/
structure DriveMessage where
  cmd : DriveCmd
  angle : UInt32
  direction : Direction
  timeout : UInt32
deriving DecidableEq, Repr

/-- An iteration of a motor task: the message that it receives within 10 ms, if there is one,
and the sensor word that it reads. -/
structure Turn where
  msg : Option DriveMessage
  word : PtWord
deriving DecidableEq

/-- The bit of the open end of a motor that has one. -/
def open_bit : Motor → PtWord
  | .WASTE_COVER_MOTOR => PT_BIT_WASTE_OPEN
  | .MAIN_COVER_MOTOR => PT_BIT_MCOVER_OPEN
  | .SCPINOUT_MOTOR => PT_BIT_SCP_OUT
  | _ => 0

/-- Which way a motor is driven: `true` is FORWARD, toward its open end. -/
abbrev Drive := Option Bool

/-- `pt_check` reports the end that a direction leads to. -/
def AtLimit (mt : Motor) (word : PtWord) (dir : Bool) : Prop :=
  pt_check_word mt word = if dir then 1 else -1

instance (mt : Motor) (word : PtWord) (dir : Bool) : Decidable (AtLimit mt word dir) :=
  inferInstanceAs (Decidable (_ = _))

/-- What the check of the limits makes of a drive. -/
def checked (mt : Motor) (word : PtWord) (d : Drive) : Drive := d.filter (¬ AtLimit mt word ·)

/-- The second part of the loop of a motor task: it stops the motor at the end that it runs to. -/
def limit_check {M : Type} (run dir : M → Bool) (stop : M → M) (mt : Motor) (m : M) (word : PtWord) : M :=
  if run m then
    let pt_status := pt_check_word mt word
    if dir m = true ∧ pt_status = 1 then stop m
    else if dir m = false ∧ pt_status = -1 then stop m
    else m
  else m

/-- The motor is not driven toward a limit whose bit is set. -/
def Interlocked (mt : Motor) (word : PtWord) (d : Drive) : Prop :=
  ¬ (d = some true ∧ word.has (open_bit mt)) ∧ ¬ (d = some false ∧ word.has mt.close_bit)

/-- The motor is driven FORWARD while both its bits are set. -/
def Contradicted (mt : Motor) (word : PtWord) (d : Drive) : Prop :=
  d = some true ∧ word.has (open_bit mt) ∧ word.has mt.close_bit

instance (mt : Motor) (word : PtWord) (d : Drive) : Decidable (Interlocked mt word d) :=
  inferInstanceAs (Decidable (_ ∧ _))

instance (mt : Motor) (word : PtWord) (d : Drive) : Decidable (Contradicted mt word d) :=
  inferInstanceAs (Decidable (_ ∧ _ ∧ _))

/-- A motor with a limit switch at both ends: the closed end is looked at first. -/
def Limited (mt : Motor) : Prop :=
  ∀ word : PtWord, pt_check_word mt word =
    if word.has mt.close_bit then -1 else if word.has (open_bit mt) then 1 else 0

theorem limited_waste : Limited .WASTE_COVER_MOTOR := fun _ => rfl

theorem limited_main : Limited .MAIN_COVER_MOTOR := fun _ => rfl

theorem limited_scpinout : Limited .SCPINOUT_MOTOR := fun _ => rfl

variable {mt : Motor}

theorem checked_none (word : PtWord) : checked mt word none = none := rfl

theorem checked_some (word : PtWord) (dir : Bool) :
    checked mt word (some dir) = if AtLimit mt word dir then none else some dir := by
  unfold checked
  split_ifs with h
  · simp [h]
  · simp [h]

/-- With both bits set, `pt_check` does not report the open end. -/
theorem atLimit_iff (h : Limited mt) (word : PtWord) (dir : Bool) : AtLimit mt word dir ↔
    if dir then word.has (open_bit mt) = true ∧ word.has mt.close_bit = false
    else word.has mt.close_bit = true := by
  unfold AtLimit
  rw [h word]
  cases word.has mt.close_bit with
  | true => cases dir <;> simp
  | false =>
    cases word.has (open_bit mt) with
    | true => cases dir <;> simp
    | false => cases dir <;> simp

/-- The check keeps a motor off its limits unless it is driven FORWARD with both bits set: the
closed end, which it reports then, is not the one that FORWARD leads to. -/
theorem interlocked_checked_iff (h : Limited mt) (word : PtWord) (d : Drive) :
    Interlocked mt word (checked mt word d) ↔ ¬ Contradicted mt word d := by
  unfold Interlocked Contradicted
  cases d with
  | none => simp [checked_none]
  | some dir =>
    rw [checked_some]
    cases dir with
    | true =>
      simp only [atLimit_iff h, if_true]
      cases word.has (open_bit mt) with
      | true =>
        cases word.has mt.close_bit with
        | true => simp
        | false => simp
      | false => simp
    | false =>
      simp only [atLimit_iff h]
      cases word.has mt.close_bit with
      | true => simp
      | false => simp

/-- The loop checks the drive, where its flags say what that is. -/
theorem limit_check_spec {M : Type} (mt : Motor) {run dir : M → Bool} {stop : M → M} {driving : M → Drive} {m : M}
    (h : driving m = if run m then some (dir m) else none) (hstop : driving (stop m) = none) (word : PtWord) :
    driving (limit_check run dir stop mt m word) = checked mt word (driving m) ∧
      (limit_check run dir stop mt m word = m ∨ limit_check run dir stop mt m word = stop m) := by
  unfold limit_check
  cases hrun : run m with
  | false =>
    rw [hrun] at h
    simp only [Bool.false_eq_true, if_false] at h ⊢
    rw [h, checked_none]
    exact ⟨rfl, .inl trivial⟩
  | true =>
    rw [hrun] at h
    simp only [if_true] at h ⊢
    rw [h, checked_some]
    unfold AtLimit
    cases hdir : dir m with
    | true =>
      rw [hdir] at h
      simp only [true_and, Bool.true_eq_false, false_and, if_false, if_true]
      split_ifs
      · exact ⟨hstop, .inr rfl⟩
      · exact ⟨h, .inl rfl⟩
    | false =>
      rw [hdir] at h
      simp only [true_and, Bool.false_eq_true, false_and, if_false]
      split_ifs
      · exact ⟨hstop, .inr rfl⟩
      · exact ⟨h, .inl rfl⟩

end catbox.drive
