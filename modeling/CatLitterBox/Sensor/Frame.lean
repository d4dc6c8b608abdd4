import CatLitterBox.LoadCell.Proc
import CatLitterBox.Sensor.Parser
import CatLitterBox.Sensor.Photo
import CatLitterBox.Sensor.Tof
import CatLitterBox.Text.Scan

open text catbox.loadcell

namespace catbox.sensor

/-- The size of the parser's line buffer `str`. -/
abbrev LINE_SIZE : Nat := 512

abbrev MAX_ITEMS : Nat := 10

/-- The size of the parser's array `status`. -/
abbrev STATUS_SIZE : Nat := 32

/-- The commands that a line can cause. -/
inductive SensorMessage where
  | LED_ERROR_CMD
  | UI_CLEAN_CMD
deriving DecidableEq

/-- What the lines of the sensor board change, and the commands that they have caused. -/
structure SensorState where
  sensor_enable_f : Bool
  ring : TofRing
  pt_value : PtWord
  loadcell : LoadCell
  sent : List SensorMessage

/-- The state at boot. -/
def SensorState.boot : SensorState := ⟨true, reset_tof_ring_buffer, 0, .init, []⟩

/-- The kinds of lines, in the order of the tests. -/
inductive LineKind where
  | SS
  | ST_OK
  | ST_FAIL
  | ER
  | ST
  | other
deriving DecidableEq, Repr

def line_kind (str : Bytes) : LineKind :=
  if (ascii "SS: ").isPrefixOf str then .SS
  else if (ascii "ST: OK").isPrefixOf str then .ST_OK
  else if (ascii "ST: FAIL").isPrefixOf str then .ST_FAIL
  else if (ascii "ER: ").isPrefixOf str then .ER
  else if (ascii "ST: ").isPrefixOf str then .ST
  else .other

/-- `sscanf` with some `%d`: the numbers up to the first conversion that fails. -/
def scan_ints : (count : Nat) → Bytes → List Int
  | 0, _ => []
  | count + 1, s =>
    match scan_int s with
    | none => []
    | some (n, rest) => n :: scan_ints count rest

/-- `values`, which is zero where nothing has been converted. -/
def values (scanned : List Int) (i : Nat) : Int := scanned.getD i 0

/-- The photo-sensor word of a frame. -/
def frame_pt (value : Int) : PtWord :=
  BitVec.ofInt 16 value ^^^ (PT_BIT_SCP_SPIN_ST ||| PT_BIT_SCP_SPIN_ED)

/-- What an SS frame does with its numbers. -/
def sensor_frame (env : Surroundings) (s : SensorState) (values : Nat → Int) : SensorState :=
  let (loadcell, clean) := loadcell_proc env s.loadcell values
  { s with
    loadcell
    ring := tof_proc s.sensor_enable_f (values 6) s.ring
    pt_value := frame_pt (values 7)
    sent := if clean then s.sent ++ [.UI_CLEAN_CMD] else s.sent }

/-- The body of the loop of `sensor_data_parser` for a line, and what it adds to
`total_used_chars`. -/
def sensor_line (env : Surroundings) (s : SensorState) (str : Bytes) (idx : Nat) : SensorState × Nat :=
  let data_ptr := str.drop 4
  match line_kind str with
  | .SS =>
    if data_ptr.length < LINE_SIZE - 4 then
      (sensor_frame env s (values (scan_ints 8 data_ptr)), idx) else (s, idx)
  | .ST_OK => ({ s with sensor_enable_f := true }, idx)
  | .ST_FAIL => (s, idx)
  | .ER => ({ s with sent := s.sent ++ [.LED_ERROR_CMD] }, idx)
  | .ST => (s, idx)
  | .other => (s, idx)

/-- The variables of `sensor_data_parser`, and the lines that it has dispatched. -/
structure Parsed where
  state : SensorState
  strs : List Bytes
  total_used_chars : Nat

/-- The loop of `sensor_data_parser`. The n-th line finds the surroundings `env n`. -/
def parser_turns (env : Nat → Surroundings) : (turns : Nat) → Parsed → (ptr : Bytes) → Parsed
  | 0, p, _ => p
  | turns + 1, p, ptr =>
    match get_line ptr ptr.length with
    | none => p
    | some (str, idx) =>
      let (state, used) := sensor_line (env p.strs.length) p.state str idx
      parser_turns env turns ⟨state, p.strs ++ [str], p.total_used_chars + used⟩ (ptr.drop idx)

/-- `sensor_data_parser` on an array that holds its input. -/
def sensorDataParser (env : Nat → Surroundings) (s : SensorState) (input : Bytes) : Parsed :=
  let buf := cstring input
  if buf.length = 0 then ⟨s, [], 0⟩ else parser_turns env buf.length ⟨s, [], 0⟩ buf

/-- The effects of lines that are dispatched one after another, the first as the n-th. -/
def dispatch (env : Nat → Surroundings) : (n : Nat) → SensorState → List Bytes → SensorState
  | _, s, [] => s
  | n, s, str :: strs => dispatch env (n + 1) (sensor_line (env n) s str 0).1 strs

variable {env : Surroundings} {s : SensorState} {str : Bytes} {idx : Nat}

/-- Every line counts with its '\n', whatever its kind, and its effect does not depend on where
it ends in the text. -/
theorem sensor_line_eq : sensor_line env s str idx = ((sensor_line env s str 0).1, idx) := by
  unfold sensor_line
  cases line_kind str with
  | SS =>
    simp only
    split_ifs
    · rfl
    · rfl
  | ST_OK => rfl
  | ST_FAIL => rfl
  | ER => rfl
  | ST => rfl
  | other => rfl

/-- The loop takes the lines of `parser_loop` one by one. -/
theorem parser_turns_eq (env : Nat → Surroundings) (turns : Nat) (p : Parsed) (ptr : Bytes) :
    parser_turns env turns p ptr =
      ⟨dispatch env p.strs.length p.state (parser_loop turns ptr).1, p.strs ++ (parser_loop turns ptr).1,
        p.total_used_chars + (parser_loop turns ptr).2⟩ := by
  induction turns generalizing p ptr with
  | zero =>
    unfold parser_turns parser_loop
    simp [dispatch]
  | succ turns ih =>
    unfold parser_turns parser_loop
    cases get_line ptr ptr.length with
    | none => simp [dispatch]
    | some line =>
      obtain ⟨str, idx⟩ := line
      simp only
      rw [sensor_line_eq, ih]
      simp only [dispatch, List.length_append, List.length_singleton, List.append_assoc, List.singleton_append,
        Nat.add_assoc]

theorem sensor_data_parser_eq (env : Nat → Surroundings) (s : SensorState) (input : Bytes) :
    sensorDataParser env s input =
      ⟨dispatch env 0 s (sensor_data_parse input).1, (sensor_data_parse input).1,
        (sensor_data_parse input).2⟩ := by
  unfold sensorDataParser sensor_data_parse
  simp only
  split_ifs with hempty
  · rfl
  · rw [parser_turns_eq, List.nil_append, Nat.zero_add]
    rfl

/-- An input of the parser: the characters up to the NUL. -/
structure ParserInput where
  text : Bytes
  no_nul : 0 ∉ text
  short : text.length ≤ 511

/-- The lines that a call dispatches. -/
def dispatched (env : Nat → Surroundings) (s : SensorState) (input : Bytes) : List Bytes :=
  (sensorDataParser env s input).strs

/-- The characters that a call uses. -/
def used (env : Nat → Surroundings) (s : SensorState) (input : Bytes) : Nat :=
  (sensorDataParser env s input).total_used_chars

theorem parser_lines (env : Nat → Surroundings) (s : SensorState) {input : Bytes} (h : 0 ∉ input) :
    ∃ rest, Lines 10 input (dispatched env s input) rest ∧ used env s input + rest.length = input.length := by
  unfold dispatched used
  rw [sensor_data_parser_eq]
  have hspec := sensor_data_parse_spec input
  rwa [cstring_of_not_mem h] at hspec

/-- What the parser leaves of a text is its unfinished line. -/
theorem drop_used {input rest : Bytes} {lines : List Bytes} {n : Nat} (hlines : Lines 10 input lines rest)
    (hused : n + rest.length = input.length) : n = (terminated 10 lines).length ∧ input.drop n = rest := by
  have hstream := hlines.stream_eq
  have hlength := congrArg List.length hstream
  rw [List.length_append] at hlength
  have hn : n = (terminated 10 lines).length := by omega
  refine ⟨hn, ?_⟩
  rw [hn, hstream, List.drop_left]

/-- A call on a text behind a cut goes on where the call on the text before it has ended. -/
theorem dispatched_append (env : Nat → Surroundings) (s s' s'' : SensorState) {first more : Bytes}
    (h : 0 ∉ first ++ more) :
    dispatched env s (first ++ more) =
      dispatched env s' first ++ dispatched env s'' (first.drop (used env s' first) ++ more) := by
  rw [List.mem_append, not_or] at h
  obtain ⟨hfirst, hmore⟩ := h
  obtain ⟨rest, hlines, hused⟩ := parser_lines env s' hfirst
  obtain ⟨-, hdrop⟩ := drop_used hlines hused
  have hrest : 0 ∉ rest ++ more := by
    rw [List.mem_append, not_or]
    refine ⟨fun hmem => hfirst ?_, hmore⟩
    rw [← hdrop] at hmem
    exact List.mem_of_mem_drop hmem
  have hwhole : 0 ∉ first ++ more := by
    rw [List.mem_append, not_or]
    exact ⟨hfirst, hmore⟩
  obtain ⟨rest', hlines', -⟩ := parser_lines env s'' hrest
  obtain ⟨last, hall, -⟩ := parser_lines env s hwhole
  rw [hdrop]
  exact (hall.unique (hlines.append hlines')).1

/-- `sensor_data_parser` dispatches the lines of its input in order, and nothing else, each of them
with room in `str`, and returns the number of characters up to the last '\n'; a cut of the input
anywhere leaves the lines the same. -/
theorem sensor_data_parser_lines (env : Nat → Surroundings) (s : SensorState) (input : ParserInput)
    (beyond : Bytes) :
    ∃ lines rest, Lines 10 input.text lines rest ∧ (∀ line ∈ lines, line.length < LINE_SIZE) ∧
      sensorDataParser env s (input.text ++ 0 :: beyond) =
        ⟨dispatch env 0 s lines, lines, (terminated 10 lines).length⟩ ∧
      ∀ i (s' s'' : SensorState), dispatched env s input.text =
        dispatched env s' (input.text.take i) ++
          dispatched env s'' ((input.text.take i).drop (used env s' (input.text.take i)) ++
            input.text.drop i) := by
  obtain ⟨rest, hlines, hused⟩ := sensor_data_parse_spec (input.text ++ 0 :: beyond)
  rw [cstring_of_nul input.no_nul] at hlines hused
  refine ⟨_, rest, hlines, ?_, ?_, ?_⟩
  · intro line hline
    have hlength := hlines.line_length_lt hline
    exact Nat.lt_of_lt_of_le hlength (Nat.le_succ_of_le input.short)
  · rw [sensor_data_parser_eq, (drop_used hlines hused).1]
  · intro i s' s''
    have happend := List.take_append_drop i input.text
    rw [← dispatched_append env s, happend]
    rw [happend]
    exact input.no_nul

example : (sensor_data_parse (ascii "ST: OK\n\nER: 001\nSS: 1")).1 = [ascii "ST: OK", [], ascii "ER: 001"] := by
  decide

end catbox.sensor
