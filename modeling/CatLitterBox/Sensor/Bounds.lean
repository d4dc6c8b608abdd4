import CatLitterBox.Sensor.Frame
import CatLitterBox.Sensor.Framing

open text temporal

namespace catbox.sensor

/-- How far a store of the parser reaches into its array, and the size of the array. -/
structure Store where
  reach : Nat
  size : Nat

def Store.Within (w : Store) : Prop := w.reach ≤ w.size

/-- The word that `%s` finds, however long it is. -/
def first_word (text : Bytes) : Bytes := (skip_space text).takeWhile (!isspace ·)

/-- What `%s` stores: the word and a NUL, or nothing where there is no word. -/
def status_reach (text : Bytes) : Nat := if first_word text = [] then 0 else (first_word text).length + 1

/-- What `sensor_data_parser` stores for a line, besides the variables of the firmware: the line in
`str`, the numbers in `values`, the word in `status`. -/
def line_stores (str : Bytes) : List Store :=
  let data_ptr := str.drop 4
  ⟨str.length, LINE_SIZE⟩ ::
    match line_kind str with
    | .SS => if data_ptr.length < LINE_SIZE - 4 then [⟨(scan_ints 8 data_ptr).length, MAX_ITEMS⟩] else []
    | .ER => if data_ptr.length = 3 then [⟨(scan_ints 1 data_ptr).length, MAX_ITEMS⟩] else []
    | .ST => [⟨status_reach data_ptr, STATUS_SIZE⟩]
    | _ => []

/-- A `memcpy` of the assembler between `data` and `buf`, with the offsets and the count. -/
structure Copy where
  target : Nat
  source : Nat
  count : Int

/-- Both `data` and `buf` have UART_BUF_SIZE bytes. -/
structure Copy.Within (c : Copy) : Prop where
  count : 0 ≤ c.count
  target : c.target + c.count ≤ UART_BUF_SIZE
  source : c.source + c.count ≤ UART_BUF_SIZE

/-- The copy of `Assembler.append`. -/
def Assembler.append_copy (s : Assembler) (data : Bytes) : Copy :=
  if s.idx + data.length ≤ UART_BUF_SIZE then ⟨s.idx, 0, data.length⟩ else ⟨0, 0, data.length⟩

/-- The copies of `Assembler.parse`, from `buf` to `data` and back. -/
def Assembler.parse_copies (s : Assembler) (ret : Nat) : List Copy :=
  if ret > 0 ∧ s.idx ≠ ret then [⟨0, ret, s.idx - ret⟩, ⟨0, 0, s.idx - ret⟩] else []

/-- A read with any bytes: one or more, and no more than the driver has been asked for. -/
structure NoisyRead where
  read : UartRead
  nonempty : 1 ≤ read.data.length
  size : read.data.length ≤ UART_BUF_SIZE

def Assembler.take (s : Assembler) (r : NoisyRead) : Assembler := s.turn r.read

/-- A turn stays within the buffers: the parser gets a buffer with a NUL, and all copies and stores
are within their arrays. -/
structure TurnWithin (s : Assembler) (r : NoisyRead) : Prop where
  nul : 0 ∈ (s.append r.read.data).buf
  append : (s.append_copy r.read.data).Within
  parse : ∀ c ∈ (s.append r.read.data).parse_copies
    (sensor_data_parse ((s.append r.read.data).buf ++ r.read.beyond)).2, c.Within
  stores : ∀ line ∈ (sensor_data_parse ((s.append r.read.data).buf ++ r.read.beyond)).1,
    ∀ w ∈ line_stores line, w.Within

/-- The bytes that wait together with a read, or the read alone where it finds no room. -/
def Assembler.arrived (s : Assembler) (data : Bytes) : Bytes :=
  if s.idx + data.length ≤ UART_BUF_SIZE then s.buf.take s.idx ++ data else data

/-- The line is no status line, or its first word has room in `status`. -/
def ShortStatus (line : Bytes) : Prop :=
  line_kind line = .ST → (first_word (line.drop 4)).length < STATUS_SIZE

/-- The bytes that wait leave room for a NUL or have one, and no status word of their lines is
too long. -/
structure Short (s : Assembler) (r : NoisyRead) : Prop where
  room : (s.arrived r.read.data).length < UART_BUF_SIZE ∨ 0 ∈ s.arrived r.read.data
  status : ∀ lines rest, Lines 10 (cstring (s.arrived r.read.data)) lines rest → ∀ line ∈ lines, ShortStatus line

variable {s : Assembler} {pending : Bytes} {r : NoisyRead} {line : Bytes}

private theorem scan_ints_length (count : Nat) (text : Bytes) : (scan_ints count text).length ≤ count := by
  induction count generalizing text with
  | zero => exact Nat.le_refl 0
  | succ count ih =>
    unfold scan_ints
    cases scan_int text with
    | none => exact Nat.zero_le _
    | some found => exact Nat.succ_le_succ (ih found.2)

private theorem status_within_iff (text : Bytes) :
    status_reach text ≤ STATUS_SIZE ↔ (first_word text).length < STATUS_SIZE := by
  unfold status_reach
  split_ifs with hempty
  · rw [hempty]
    decide
  · exact Iff.rfl

/-- With the line itself within `str`, only the status word can be too long. -/
theorem line_stores_within_iff (h : line.length < LINE_SIZE) :
    (∀ w ∈ line_stores line, w.Within) ↔ ShortStatus line := by
  have hline : (⟨line.length, LINE_SIZE⟩ : Store).Within := Nat.le_of_lt h
  have hnumbers : ∀ count, count ≤ MAX_ITEMS →
      (⟨(scan_ints count (line.drop 4)).length, MAX_ITEMS⟩ : Store).Within :=
    fun count hcount => Nat.le_trans (scan_ints_length _ _) hcount
  unfold line_stores ShortStatus
  rw [List.forall_mem_cons, and_iff_right hline]
  cases line_kind line with
  | SS =>
    simp only [reduceCtorEq, false_implies, iff_true]
    split_ifs
    · rw [List.forall_mem_singleton]
      exact hnumbers 8 (by decide)
    · exact List.forall_mem_nil _
  | ER =>
    simp only [reduceCtorEq, false_implies, iff_true]
    split_ifs
    · rw [List.forall_mem_singleton]
      exact hnumbers 1 (by decide)
    · exact List.forall_mem_nil _
  | ST =>
    simp only [true_implies]
    rw [List.forall_mem_singleton]
    exact status_within_iff _
  | ST_OK => simp
  | ST_FAIL => simp
  | other => simp

theorem Assembler.Holds.arrived_eq (h : s.Holds pending) (data : Bytes) :
    s.arrived data = if pending.length + data.length ≤ UART_BUF_SIZE then pending ++ data else data := by
  have htake : s.buf.take s.idx = pending := by
    rw [h.buf, h.idx]
    exact List.take_left
  unfold Assembler.arrived
  rw [h.idx] at htake ⊢
  rw [htake]

/-- The buffer holds what has arrived when the parser is called. -/
theorem append_holds (h : s.Holds pending) (r : NoisyRead) :
    (s.append r.read.data).Holds (s.arrived r.read.data) := by
  rw [h.arrived_eq]
  split_ifs with hroom
  · exact h.append hroom
  · exact h.discard r.size (Nat.lt_of_not_le hroom)

theorem copy_within {target source : Nat} {count : Int} (h : 0 ≤ count ∧ target + count ≤ UART_BUF_SIZE ∧
    source + count ≤ UART_BUF_SIZE) : (⟨target, source, count⟩ : Copy).Within := ⟨h.1, h.2.1, h.2.2⟩

theorem append_copy_within (s : Assembler) (r : NoisyRead) : (s.append_copy r.read.data).Within := by
  have hsize := r.size
  unfold Assembler.append_copy
  split_ifs with hroom
  · exact copy_within (by omega)
  · exact copy_within (by omega)

/-- With a NUL in the buffer the parser gets the text before it. -/
theorem Assembler.Holds.parser_input (h : s.Holds pending) (hnul : 0 ∈ s.buf) (beyond : Bytes) :
    cstring (s.buf ++ beyond) = cstring pending := by
  rw [cstring_append_of_mem hnul, h.buf, cstring_holding]

/-- The parser then uses no more than the buffer holds. -/
theorem Assembler.Holds.used_le (h : s.Holds pending) (hnul : 0 ∈ s.buf) (beyond : Bytes) :
    (sensor_data_parse (s.buf ++ beyond)).2 ≤ pending.length := by
  obtain ⟨rest, -, hused⟩ := sensor_data_parse_spec (s.buf ++ beyond)
  rw [h.parser_input hnul] at hused
  have hle : (cstring pending).length ≤ pending.length := (List.takeWhile_prefix _).length_le
  omega

private theorem parse_copies_within (h : s.Holds pending) {ret : Nat} (hret : ret ≤ pending.length) :
    ∀ c ∈ s.parse_copies ret, c.Within := by
  have hidx := h.idx
  have hroom := h.room
  unfold Assembler.parse_copies
  split_ifs
  · rw [List.forall_mem_cons, List.forall_mem_singleton]
    constructor
    · exact copy_within (by omega)
    · exact copy_within (by omega)
  · exact List.forall_mem_nil _

/-- The lines of a buffer with a NUL have room in `str`. -/
theorem Assembler.Holds.line_short (h : s.Holds pending) (hnul : 0 ∈ s.buf) {lines : List Bytes} {rest : Bytes}
    (hlines : Lines 10 (cstring pending) lines rest) (hline : line ∈ lines) : line.length < LINE_SIZE := by
  have hlt := hlines.line_length_lt hline
  have hshort := cstring_length_lt hnul
  rw [h.buf, cstring_holding, holding_length h.room] at hshort
  exact Nat.lt_trans hlt hshort

/-- In a turn that begins with any bytes in the buffer, nothing else than a full buffer without NUL
or a long status word leaves the buffers. -/
theorem turn_within_iff (h : s.Holds pending) (r : NoisyRead) : TurnWithin s r ↔ Short s r := by
  have hholds := append_holds h r
  have hnul : 0 ∈ (s.append r.read.data).buf ↔
      (s.arrived r.read.data).length < UART_BUF_SIZE ∨ 0 ∈ s.arrived r.read.data := by
    rw [hholds.buf, zero_mem_holding]
  constructor
  · intro hwithin
    refine ⟨hnul.mp hwithin.nul, ?_⟩
    intro lines rest hlines line hline
    obtain ⟨rest', hparsed, -⟩ := sensor_data_parse_spec ((s.append r.read.data).buf ++ r.read.beyond)
    rw [hholds.parser_input hwithin.nul] at hparsed
    rw [(hlines.unique hparsed).1] at hline
    exact (line_stores_within_iff (hholds.line_short hwithin.nul hparsed hline)).mp (hwithin.stores line hline)
  · intro hshort
    have hbuf := hnul.mpr hshort.room
    obtain ⟨rest, hparsed, -⟩ := sensor_data_parse_spec ((s.append r.read.data).buf ++ r.read.beyond)
    rw [hholds.parser_input hbuf] at hparsed
    constructor
    · exact hbuf
    · exact append_copy_within s r
    · exact parse_copies_within hholds (hholds.used_le hbuf _)
    · intro line hline
      rw [line_stores_within_iff (hholds.line_short hbuf hparsed hline)]
      exact hshort.status _ _ hparsed line hline

/-- A turn within the buffers leaves some bytes in the buffer. -/
theorem turn_within_holds (h : s.Holds pending) (hwithin : TurnWithin s r) : ∃ left, (s.take r).Holds left := by
  have hholds := append_holds h r
  have hparse := hholds.parse (hholds.used_le hwithin.nul r.read.beyond)
  have hpositive : r.read.data.length > 0 := r.nonempty
  unfold Assembler.take Assembler.turn
  rw [h.running, if_neg Bool.false_ne_true, if_pos hpositive]
  exact ⟨_, hparse⟩

/-- Sensor input stays within the buffers exactly if the bytes that wait never fill the buffer without a
NUL and never have a status line whose first word has 32 characters or more. -/
theorem sensor_input_within_iff (reads : List NoisyRead) :
    Along Assembler.take TurnWithin Assembler.start reads ↔ Along Assembler.take Short Assembler.start reads := by
  apply along_congr (I := fun s => ∃ pending, s.Holds pending)
  · rintro s r ⟨pending, hholds⟩ hwithin
    exact turn_within_holds hholds hwithin
  · rintro s r ⟨pending, hholds⟩
    exact turn_within_iff hholds r
  · exact ⟨[], start_holds⟩

/-- A status line whose word has 32 characters, in one read. -/
theorem long_status_overflows : ¬ ∀ reads, Along Assembler.take TurnWithin Assembler.start reads := by
  intro hall
  let line : Bytes := ascii "ST: " ++ List.replicate 32 65
  let r : NoisyRead := ⟨⟨line ++ [10], []⟩, by decide, by decide⟩
  obtain ⟨hwithin, -⟩ := hall [r]
  have hshort := (turn_within_iff start_holds r).mp hwithin
  have hlines : Lines 10 (cstring (Assembler.start.arrived r.read.data)) [line] [] :=
    ⟨by decide +kernel, by decide, List.not_mem_nil⟩
  have hword := hshort.status _ _ hlines line List.mem_cons_self (by decide)
  exact absurd hword (by decide)

end catbox.sensor
