import CatLitterBox.Sensor.Frame
import Mathlib.Data.List.GetD

open text catbox.loadcell

namespace catbox.sensor

/-- The text of an SS frame without all of its eight numbers. -/
structure MalformedFrame where
  text : Bytes
  incomplete : (scan_ints 8 text).length < 8

/-- The line of the frame. -/
def MalformedFrame.line (frame : MalformedFrame) : Bytes := ascii "SS: " ++ frame.text

/-- The photo-sensor word, the TOF ring, the sums and weights of the load cells and the cat
detection have the same values. -/
structure SameReadings (s s' : SensorState) : Prop where
  pt_value : s'.pt_value = s.pt_value
  ring : s'.ring = s.ring
  loadcell : s'.loadcell = s.loadcell

/-- The moves that change the readings: a line is dispatched, or other tasks leave some state behind.
Only the parser writes `sensor_enable_f`. -/
inductive SensorMove where
  | line (env : Surroundings) (str : Bytes)
  | others (left : SensorState)

def SensorMove.apply (s : SensorState) : SensorMove → SensorState
  | .line env str => (sensor_line env s str 0).1
  | .others left => { left with sensor_enable_f := s.sensor_enable_f }

variable {s : SensorState} {env : Surroundings} {text : Bytes} {idx : Nat}

/-- No line disables the sensor board. -/
theorem sensor_line_enabled {str : Bytes} (h : s.sensor_enable_f = true) :
    (sensor_line env s str idx).1.sensor_enable_f = true := by
  unfold sensor_line
  cases line_kind str with
  | SS =>
    simp only
    split_ifs
    · exact h
    · exact h
  | ST_OK => rfl
  | ST_FAIL => exact h
  | ER => exact h
  | ST => exact h
  | other => exact h

theorem run_enabled (moves : List SensorMove) :
    (moves.foldl SensorMove.apply .boot).sensor_enable_f = true := by
  have henabled : SensorState.boot.sensor_enable_f = true := rfl
  generalize SensorState.boot = s at henabled ⊢
  induction moves generalizing s with
  | nil => exact henabled
  | cons move moves ih =>
    rw [List.foldl_cons]
    apply ih
    cases move with
    | line env str => exact sensor_line_enabled henabled
    | others left => exact henabled

private theorem line_kind_ss (text : Bytes) : line_kind (ascii "SS: " ++ text) = .SS := by
  have hstart : (ascii "SS: ").isPrefixOf (ascii "SS: " ++ text) = true := by
    rw [List.isPrefixOf_iff_prefix]
    exact List.prefix_append _ _
  unfold line_kind
  rw [if_pos hstart]

/-- An SS line is a frame, unless it has no room in the line buffer. -/
theorem sensor_line_ss (env : Surroundings) (s : SensorState) (text : Bytes) (idx : Nat) :
    (sensor_line env s (ascii "SS: " ++ text) idx).1 =
      if text.length < LINE_SIZE - 4 then sensor_frame env s (values (scan_ints 8 text)) else s := by
  have hdata : (ascii "SS: " ++ text).drop 4 = text := rfl
  unfold sensor_line
  simp only [line_kind_ss, hdata]
  split_ifs
  · rfl
  · rfl

/-- A push moves the index of the ring. -/
theorem tof_proc_moves (tof_value : Int) (ring : TofRing) : tof_proc true tof_value ring ≠ ring := by
  intro heq
  have hidx : ring.idx + 1 = ring.idx := congrArg TofRing.idx heq
  have hval := congrArg Fin.val hidx
  rw [Fin.val_add_one] at hval
  split_ifs at hval with hlast
  · rw [hlast] at hval
    cases hval
  · omega

/-- Every frame changes the readings. -/
theorem sensor_frame_changes (h : s.sensor_enable_f = true) (values : Nat → Int) :
    ¬ SameReadings s (sensor_frame env s values) := by
  intro hsame
  have hring := hsame.ring
  unfold sensor_frame at hring
  rw [h] at hring
  exact tof_proc_moves _ _ hring

/-- Whatever has happened before, a malformed frame leaves the readings as they are exactly if its
line is longer than the 511 characters that the assembly buffer can hold. -/
theorem malformed_frame_without_effect_iff (moves : List SensorMove) (env : Surroundings)
    (frame : MalformedFrame) :
    SameReadings (moves.foldl SensorMove.apply .boot)
        (SensorMove.apply (moves.foldl SensorMove.apply .boot) (.line env frame.line)) ↔
      511 < frame.line.length := by
  have henabled := run_enabled moves
  generalize moves.foldl SensorMove.apply .boot = s at henabled ⊢
  have hlength : frame.line.length = 4 + frame.text.length := List.length_append
  have hline : SensorMove.apply s (.line env frame.line) =
      if frame.text.length < LINE_SIZE - 4 then sensor_frame env s (values (scan_ints 8 frame.text)) else s :=
    sensor_line_ss env s frame.text 0
  rw [hline, hlength]
  by_cases hshort : frame.text.length < LINE_SIZE - 4
  · rw [if_pos hshort]
    constructor
    · intro hsame
      exact absurd hsame (sensor_frame_changes henabled _)
    · intro hlong
      unfold LINE_SIZE at hshort
      omega
  · rw [if_neg hshort]
    constructor
    · intro _
      unfold LINE_SIZE at hshort
      omega
    · intro _
      exact ⟨rfl, rfl, rfl⟩

/-- A frame that is cut after its second number. -/
theorem cut_frame_has_effect : ¬ ∀ (moves : List SensorMove) (env : Surroundings) (frame : MalformedFrame),
    SameReadings (moves.foldl SensorMove.apply .boot)
      (SensorMove.apply (moves.foldl SensorMove.apply .boot) (.line env frame.line)) := by
  intro hall
  have hsame := hall [] ⟨0, false, false, false, true⟩ ⟨ascii "1 2", by decide⟩
  have hidx : (1 : Fin TOF_RING_BUF_SIZE) = 0 := congrArg TofRing.idx hsame.ring
  exact absurd hidx (by decide)

end catbox.sensor
