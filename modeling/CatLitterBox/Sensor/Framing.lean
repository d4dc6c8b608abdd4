import CatLitterBox.Sensor.Parser
import CatLitterBox.Temporal.Run

open text temporal

namespace catbox.sensor

def UART_BUF_SIZE : Nat := 512

/-- A result of `uart_read_bytes`, and the bytes of the heap behind `buf` when the parser is
called on it. -/
structure UartRead where
  data : Bytes
  beyond : Bytes

/-- The variables of `uart1_to_uart0_task`, and the lines that its parser has dispatched.
`fault` is set once `memcpy` has been called with a size below zero. -/
structure Assembler where
  buf : Bytes
  idx : Nat
  dispatched : List Bytes
  fault : Bool

def Assembler.start : Assembler := ⟨zeros UART_BUF_SIZE, 0, [], false⟩

/-- The first part of a turn: the read is put behind the pending bytes, or takes their place
where it does not fit. -/
def Assembler.append (s : Assembler) (data : Bytes) : Assembler :=
  if s.idx + data.length ≤ UART_BUF_SIZE then
    { s with buf := memcpy s.buf s.idx data, idx := s.idx + data.length }
  else
    { s with buf := memcpy (zeros UART_BUF_SIZE) 0 data, idx := data.length }

/-- The second part: what the parser has used is removed. -/
def Assembler.parse (s : Assembler) (beyond : Bytes) : Assembler :=
  let (strs, ret) := sensor_data_parse (s.buf ++ beyond)
  let parsed : Assembler := { s with dispatched := s.dispatched ++ strs }
  if ret > 0 then
    if s.idx ≠ ret then
      if s.idx < ret then { parsed with fault := true }
      else
        { parsed with
          buf := memcpy (zeros UART_BUF_SIZE) 0 ((s.buf.drop ret).take (s.idx - ret))
          idx := s.idx - ret }
    else { parsed with buf := zeros UART_BUF_SIZE, idx := 0 }
  else parsed

/-- A turn of `uart1_to_uart0_task`. -/
def Assembler.turn (s : Assembler) (r : UartRead) : Assembler :=
  if s.fault then s
  else if r.data.length > 0 then (s.append r.data).parse r.beyond
  else s

def Assembler.run (reads : List UartRead) : Assembler := reads.foldl Assembler.turn Assembler.start

/-- The read and the pending bytes leave room for a NUL in the buffer, or just fill it and
what lies behind it up to the next NUL has no '\n'. -/
def Fits (s : Assembler) (r : UartRead) : Prop :=
  s.idx + r.data.length < UART_BUF_SIZE ∨ s.idx + r.data.length = UART_BUF_SIZE ∧ 10 ∉ cstring r.beyond

instance (s : Assembler) (r : UartRead) : Decidable (Fits s r) := inferInstanceAs (Decidable (_ ∨ _))

/-- The buffer holds some bytes and is zero behind them. -/
structure Assembler.Holds (s : Assembler) (pending : Bytes) : Prop where
  running : s.fault = false
  buf : s.buf = holding UART_BUF_SIZE pending
  idx : s.idx = pending.length
  room : pending.length ≤ UART_BUF_SIZE

/-- The buffer holds some bytes of a text. -/
structure Assembler.Pending (s : Assembler) (pending : Bytes) : Prop extends s.Holds pending where
  text : 0 ∉ pending

variable {s : Assembler} {pending data beyond : Bytes}

theorem start_holds : Assembler.start.Holds [] := ⟨rfl, (holding_nil _).symm, rfl, Nat.zero_le _⟩

/-- Bytes that are copied into a cleared buffer. -/
theorem memcpy_zeros (h : data.length ≤ UART_BUF_SIZE) :
    memcpy (zeros UART_BUF_SIZE) 0 data = holding UART_BUF_SIZE data := by
  have hroom : ([] : Bytes).length + data.length ≤ UART_BUF_SIZE := by
    rw [List.length_nil, Nat.zero_add]
    exact h
  have hcopy := memcpy_holding hroom
  rwa [List.nil_append, holding_nil] at hcopy

/-- A read that finds room is put behind the pending bytes. -/
theorem Assembler.Holds.append (h : s.Holds pending) (hroom : pending.length + data.length ≤ UART_BUF_SIZE) :
    (s.append data).Holds (pending ++ data) := by
  unfold Assembler.append
  rw [if_pos (by rw [h.idx]; exact hroom)]
  constructor
  · exact h.running
  · simp only
    rw [h.buf, h.idx, memcpy_holding hroom]
  · simp only
    rw [h.idx, List.length_append]
  · rw [List.length_append]
    exact hroom

/-- A read that finds no room takes the place of the pending bytes. -/
theorem Assembler.Holds.discard (h : s.Holds pending) (hsize : data.length ≤ UART_BUF_SIZE)
    (hroom : UART_BUF_SIZE < pending.length + data.length) : (s.append data).Holds data := by
  unfold Assembler.append
  rw [if_neg (by rw [h.idx]; omega)]
  exact ⟨h.running, memcpy_zeros hsize, rfl, hsize⟩

/-- What the parser has used is removed from the buffer, if it is not more than the buffer holds. -/
theorem Assembler.Holds.parse (h : s.Holds pending)
    (hused : (sensor_data_parse (s.buf ++ beyond)).2 ≤ pending.length) :
    (s.parse beyond).Holds (pending.drop (sensor_data_parse (s.buf ++ beyond)).2) := by
  have hidx := h.idx
  have hroom := h.room
  unfold Assembler.parse
  generalize sensor_data_parse (s.buf ++ beyond) = parsed at hused
  obtain ⟨strs, ret⟩ := parsed
  simp only at hused ⊢
  have hlength : (pending.drop ret).length = pending.length - ret := List.length_drop
  split_ifs with hret hne hlt
  · omega
  · have hkept : (s.buf.drop ret).take (s.idx - ret) = pending.drop ret := by
      rw [h.buf]
      unfold holding
      rw [List.drop_append_of_le_length hused, hidx, ← hlength, List.take_left]
    constructor
    · exact h.running
    · simp only [hkept]
      exact memcpy_zeros (by omega)
    · simp only
      omega
    · omega
  · rw [List.drop_eq_nil_of_le (by omega)]
    exact ⟨h.running, (holding_nil _).symm, rfl, Nat.zero_le _⟩
  · have hzero : ret = 0 := by omega
    rw [hzero, List.drop_zero]
    exact ⟨h.running, h.buf, hidx, hroom⟩

theorem parse_dispatched (s : Assembler) (beyond : Bytes) :
    (s.parse beyond).dispatched = s.dispatched ++ (sensor_data_parse (s.buf ++ beyond)).1 := by
  unfold Assembler.parse
  simp only
  split_ifs
  · rfl
  · rfl
  · rfl
  · rfl

theorem start_pending : Assembler.start.Pending [] := ⟨start_holds, by simp⟩

/-- What the parser reads of the buffer: the pending bytes, and the bytes behind the buffer
where they fill it. -/
theorem Assembler.Pending.input (h : s.Pending pending) :
    cstring (s.buf ++ beyond) = pending ++ if pending.length < UART_BUF_SIZE then [] else cstring beyond := by
  rw [h.buf]
  unfold holding zeros
  split_ifs with hroom
  · obtain ⟨n, hn⟩ : ∃ n, UART_BUF_SIZE - pending.length = n + 1 :=
      ⟨UART_BUF_SIZE - pending.length - 1, by omega⟩
    rw [hn, List.replicate_succ, List.append_assoc, List.cons_append, cstring_of_nul h.text, List.append_nil]
  · have hfull : UART_BUF_SIZE - pending.length = 0 := by omega
    rw [hfull, List.replicate_zero, List.append_nil, cstring_append h.text]

/-- What the parser makes of the pending bytes and of those behind a full buffer. -/
theorem Assembler.Pending.parser (h : s.Pending pending) {lines : List Bytes} {rest : Bytes}
    (hlines : Lines 10 pending lines rest) (hroom : pending.length < UART_BUF_SIZE ∨ 10 ∉ cstring beyond) :
    (sensor_data_parse (s.buf ++ beyond)).1 = lines ∧
      (sensor_data_parse (s.buf ++ beyond)).2 + rest.length = pending.length := by
  obtain ⟨left, hleft, hused⟩ := sensor_data_parse_spec (s.buf ++ beyond)
  rw [h.input] at hleft hused
  have hbehind : 10 ∉ if pending.length < UART_BUF_SIZE then [] else cstring beyond := by
    split_ifs with hlt
    · simp
    · exact hroom.resolve_left hlt
  obtain ⟨hsame, rfl⟩ := hleft.unique (hlines.append_rest hbehind)
  refine ⟨hsame, ?_⟩
  rw [List.length_append, List.length_append] at hused
  omega

/-- The parser dispatches the complete lines of the pending bytes and leaves the unfinished
one, unless bytes behind the buffer come into it. -/
theorem parse_pending (h : s.Pending pending) {lines : List Bytes} {rest : Bytes}
    (hlines : Lines 10 pending lines rest)
    (hroom : pending.length < UART_BUF_SIZE ∨ 10 ∉ cstring beyond) :
    (s.parse beyond).Pending rest ∧ (s.parse beyond).dispatched = s.dispatched ++ lines := by
  obtain ⟨hstrs, hused⟩ := h.parser hlines hroom
  have hsplit := hlines.stream_eq
  have hlength := congrArg List.length hsplit
  rw [List.length_append] at hlength
  have hnul : 0 ∉ rest := by
    intro hmem
    apply h.text
    rw [hsplit]
    exact List.mem_append_right _ hmem
  have hparse : (s.parse beyond).Holds _ := h.toHolds.parse (by omega)
  have hrest : pending.drop (sensor_data_parse (s.buf ++ beyond)).2 = rest := by
    rw [show (sensor_data_parse (s.buf ++ beyond)).2 = (terminated 10 lines).length by omega, hsplit,
      List.drop_left]
  rw [hrest] at hparse
  refine ⟨⟨hparse, hnul⟩, ?_⟩
  rw [parse_dispatched, hstrs]

/-- Where a line end lies behind a full buffer, the parser uses more than the buffer holds. -/
theorem parse_fault (h : s.Pending pending) (hfull : pending.length = UART_BUF_SIZE)
    (hbeyond : 10 ∈ cstring beyond) :
    (s.parse beyond).fault = true := by
  obtain ⟨rest, hlines, hused⟩ := sensor_data_parse_spec (s.buf ++ beyond)
  rw [h.input, if_neg (by omega)] at hlines hused
  have hshort : rest.length < (cstring beyond).length := by
    by_contra hlong
    rw [Nat.not_lt] at hlong
    have hsuffix : cstring beyond <:+ rest := by
      refine List.suffix_of_suffix_length_le (List.suffix_append pending _) ?_ hlong
      rw [hlines.stream_eq]
      exact List.suffix_append _ _
    exact hlines.unfinished (hsuffix.mem hbeyond)
  have hidx := h.idx
  rw [List.length_append] at hused
  unfold Assembler.parse
  simp only
  rw [if_pos (by omega), if_pos (by omega), if_pos (by omega)]

theorem append_pending (h : s.Pending pending) (hdata : 0 ∉ data)
    (hroom : pending.length + data.length ≤ UART_BUF_SIZE) :
    (s.append data).Pending (pending ++ data) := by
  refine ⟨h.toHolds.append hroom, ?_⟩
  rw [List.mem_append, not_or]
  exact ⟨h.text, hdata⟩

theorem append_discards (h : s.Pending pending) (hdata : 0 ∉ data) (hsize : data.length ≤ UART_BUF_SIZE)
    (hroom : UART_BUF_SIZE < pending.length + data.length) : (s.append data).Pending data :=
  ⟨h.toHolds.discard hsize hroom, hdata⟩

/-- The reads of the driver: one byte or more, no more than it has been asked for, and no NUL. -/
structure UartRead.Proper (r : UartRead) : Prop where
  nonempty : 1 ≤ r.data.length
  size : r.data.length ≤ UART_BUF_SIZE
  text : 0 ∉ r.data

variable {r : UartRead}

theorem turn_eq (h : s.Pending pending) (hr : r.Proper) : s.turn r = (s.append r.data).parse r.beyond := by
  unfold Assembler.turn
  rw [h.running, if_neg (by simp), if_pos (Nat.lt_of_succ_le hr.nonempty)]

/-- A turn whose read fits dispatches the lines that the read completes. -/
theorem turn_fits (h : s.Pending pending) (hr : r.Proper) (hfits : Fits s r)
    {lines : List Bytes} {rest : Bytes}
    (hlines : Lines 10 (pending ++ r.data) lines rest) :
    (s.turn r).Pending rest ∧ (s.turn r).dispatched = s.dispatched ++ lines := by
  have hidx := h.idx
  have hroom : pending.length + r.data.length ≤ UART_BUF_SIZE := by
    obtain hlt | ⟨heq, -⟩ := hfits
    · omega
    · omega
  have happend := append_pending h hr.text hroom
  have hbeyond : (pending ++ r.data).length < UART_BUF_SIZE ∨ 10 ∉ cstring r.beyond := by
    rw [List.length_append]
    obtain hlt | ⟨-, hbeyond⟩ := hfits
    · exact .inl (by omega)
    · exact .inr hbeyond
  rw [turn_eq h hr]
  obtain ⟨hpending, hdispatched⟩ := parse_pending happend hlines hbeyond
  refine ⟨hpending, hdispatched.trans ?_⟩
  unfold Assembler.append
  split_ifs <;> rfl

/-- A turn whose read does not fit faults, or loses the pending bytes. -/
theorem turn_misses (h : s.Pending pending) (hr : r.Proper) (hmisses : ¬ Fits s r) :
    (s.turn r).fault = true ∨ 0 < pending.length ∧ ∃ lines rest, Lines 10 r.data lines rest ∧
      (s.turn r).Pending rest ∧ (s.turn r).dispatched = s.dispatched ++ lines := by
  have hidx := h.idx
  have hsize := hr.size
  rw [turn_eq h hr]
  by_cases hroom : pending.length + r.data.length ≤ UART_BUF_SIZE
  · left
    unfold Fits at hmisses
    rw [not_or, not_and, not_not] at hmisses
    obtain ⟨hlt, hbeyond⟩ := hmisses
    refine parse_fault (append_pending h hr.text hroom) ?_ (hbeyond (by omega))
    rw [List.length_append]
    omega
  · have hdiscards := append_discards h hr.text hsize (by omega)
    by_cases hbehind : r.data.length < UART_BUF_SIZE ∨ 10 ∉ cstring r.beyond
    · right
      obtain ⟨lines, rest, hlines⟩ := exists_lines 10 r.data
      obtain ⟨hpending, hdispatched⟩ := parse_pending hdiscards hlines hbehind
      refine ⟨by omega, lines, rest, hlines, hpending, hdispatched.trans ?_⟩
      unfold Assembler.append
      split_ifs <;> rfl
    · left
      rw [not_or, not_not] at hbehind
      exact parse_fault hdiscards (by omega) hbehind.2

/-- The stream that the reads cut into pieces. -/
def stream (reads : List UartRead) : Bytes := reads.flatMap UartRead.data

variable {reads : List UartRead}

/-- Reads that fit leave the lines of the stream, whatever the cuts. -/
theorem run_fits (h : s.Pending pending) (hunfinished : 10 ∉ pending) (hreads : ∀ r ∈ reads, r.Proper)
    (hfits : Along Assembler.turn Fits s reads)
    {lines : List Bytes} {rest : Bytes} (hlines : Lines 10 (pending ++ stream reads) lines rest) :
    (reads.foldl Assembler.turn s).Pending rest ∧
    (reads.foldl Assembler.turn s).dispatched = s.dispatched ++ lines := by
  induction reads generalizing s pending lines with
  | nil =>
    rw [stream, List.flatMap_nil, List.append_nil] at hlines
    obtain ⟨rfl, rfl⟩ := hlines.unique (Lines.of_not_mem hunfinished)
    exact ⟨h, (List.append_nil _).symm⟩
  | cons r reads ih =>
    obtain ⟨hr, hrest⟩ := hfits
    obtain ⟨first, left, hfirst⟩ := exists_lines 10 (pending ++ r.data)
    obtain ⟨hpending, hdispatched⟩ := turn_fits h (hreads r List.mem_cons_self) hr hfirst
    obtain ⟨more, last, hmore⟩ := exists_lines 10 (left ++ stream reads)
    have hall := hfirst.append hmore
    rw [List.append_assoc] at hall
    obtain ⟨rfl, rfl⟩ := hlines.unique hall
    obtain ⟨hlast, hlines⟩ := ih hpending hfirst.unfinished
      (fun r hr => hreads r (List.mem_cons_of_mem _ hr)) hrest hmore
    refine ⟨hlast, ?_⟩
    rw [List.foldl_cons, hlines, hdispatched, List.append_assoc]

/-- The bytes that have been dispatched, with their line ends. -/
def Assembler.bytes (s : Assembler) : Nat := (terminated 10 s.dispatched).length

private theorem fault_turn (h : s.fault = true) : s.turn r = s := by
  unfold Assembler.turn
  rw [if_pos h]

private theorem fault_run (h : s.fault = true) : reads.foldl Assembler.turn s = s := by
  induction reads with
  | nil => rfl
  | cons r reads ih => rw [List.foldl_cons, fault_turn h, ih]

/-- A run that does not fault dispatches and keeps no more bytes than it reads, and fewer if a
read has not fitted. -/
theorem run_bytes (h : s.Pending pending) (hreads : ∀ r ∈ reads, r.Proper) :
    (reads.foldl Assembler.turn s).fault = true ∨
      (reads.foldl Assembler.turn s).bytes ≤ s.bytes + pending.length + (stream reads).length ∧
        (¬ Along Assembler.turn Fits s reads →
          (reads.foldl Assembler.turn s).bytes < s.bytes + pending.length + (stream reads).length) := by
  induction reads generalizing s pending with
  | nil =>
    right
    constructor
    · rw [List.foldl_nil]
      omega
    · intro hmisses
      exact absurd trivial hmisses
  | cons r reads ih =>
    have hr := hreads r List.mem_cons_self
    have hreads' : ∀ r ∈ reads, r.Proper := fun r hr => hreads r (List.mem_cons_of_mem _ hr)
    have hstream : (stream (r :: reads)).length = r.data.length + (stream reads).length := by
      rw [stream, List.flatMap_cons, List.length_append]
      rfl
    rw [List.foldl_cons, hstream]
    by_cases hfits : Fits s r
    · obtain ⟨lines, rest, hlines⟩ := exists_lines 10 (pending ++ r.data)
      obtain ⟨hpending, hdispatched⟩ := turn_fits h hr hfits hlines
      have hlength := congrArg List.length hlines.stream_eq
      rw [List.length_append, List.length_append] at hlength
      have hbytes : (s.turn r).bytes = s.bytes + (terminated 10 lines).length := by
        unfold Assembler.bytes
        rw [hdispatched, terminated_append, List.length_append]
      obtain hfault | ⟨hle, hlt⟩ := ih hpending hreads'
      · exact .inl hfault
      · right
        constructor
        · omega
        · intro hmisses
          have hrest : ¬ Along Assembler.turn Fits (s.turn r) reads := fun hrest => hmisses ⟨hfits, hrest⟩
          have := hlt hrest
          omega
    · obtain hfault | ⟨hlost, lines, rest, hlines, hpending, hdispatched⟩ := turn_misses h hr hfits
      · left
        rw [fault_run hfault]
        exact hfault
      · have hlength := congrArg List.length hlines.stream_eq
        rw [List.length_append] at hlength
        have hbytes : (s.turn r).bytes = s.bytes + (terminated 10 lines).length := by
          unfold Assembler.bytes
          rw [hdispatched, terminated_append, List.length_append]
        obtain hfault | ⟨hle, -⟩ := ih hpending hreads'
        · exact .inl hfault
        · right
          constructor
          · omega
          · intro _
            omega

variable {lines : List Bytes}

/-- A run that loses nothing has had room for each read. -/
theorem fits_of_framed (hreads : ∀ r ∈ reads, r.Proper) (hstream : stream reads = terminated 10 lines)
    (hrunning : (Assembler.run reads).fault = false)
    (hdispatched : (Assembler.run reads).dispatched = lines) :
    Along Assembler.turn Fits Assembler.start reads := by
  by_contra hmisses
  have hbytes : (Assembler.run reads).bytes = (stream reads).length := by
    unfold Assembler.bytes
    rw [hdispatched, hstream]
  obtain hfault | ⟨-, hlost⟩ := run_bytes start_pending hreads
  · rw [show (Assembler.run reads).fault = true from hfault] at hrunning
    cases hrunning
  · have hlt := hlost hmisses
    rw [show reads.foldl Assembler.turn Assembler.start = Assembler.run reads from rfl, hbytes] at hlt
    have hstart : Assembler.start.bytes = 0 := rfl
    rw [hstart, List.length_nil] at hlt
    omega

/-- The lines that the task dispatches are those of the stream, and it never writes beyond its
buffer, exactly if every read fits: what waits there leaves room for the read and a NUL, or just for
the read, where no line end lies behind the buffer. -/
theorem framing_iff (lines : List Bytes) (reads : List UartRead) (hlines : ∀ line ∈ lines, 10 ∉ line)
    (hreads : ∀ r ∈ reads, r.Proper) (hstream : stream reads = terminated 10 lines) :
    (Assembler.run reads).fault = false ∧ (Assembler.run reads).dispatched = lines ↔
      Along Assembler.turn Fits Assembler.start reads := by
  constructor
  · rintro ⟨hrunning, hdispatched⟩
    exact fits_of_framed hreads hstream hrunning hdispatched
  · intro hfits
    have hwhole : Lines 10 ([] ++ stream reads) lines [] := by
      rw [List.nil_append, hstream]
      exact ⟨(List.append_nil _).symm, hlines, List.not_mem_nil⟩
    obtain ⟨hpending, hdispatched⟩ := run_fits start_pending List.not_mem_nil hreads hfits hwhole
    exact ⟨hpending.running, hdispatched⟩

/-- A line in two reads, behind a buffer that ends with a '\n' of another block. -/
theorem split_line_framed :
    (Assembler.run [⟨[83], [10]⟩, ⟨[83, 10], [10]⟩]).fault = false ∧
        (Assembler.run [⟨[83], [10]⟩, ⟨[83, 10], [10]⟩]).dispatched = [[83, 83]] ↔
      Along Assembler.turn Fits Assembler.start [⟨[83], [10]⟩, ⟨[83, 10], [10]⟩] := by
  refine framing_iff [[83, 83]] [⟨[83], [10]⟩, ⟨[83, 10], [10]⟩] (by decide) ?_ rfl
  intro r hr
  simp only [List.mem_cons, List.not_mem_nil, or_false] at hr
  obtain rfl | rfl := hr
  · exact ⟨by decide, by decide, by decide⟩
  · exact ⟨by decide, by decide, by decide⟩

/-- A full read behind a pending byte discards it. -/
theorem full_read_discards : ¬ ∀ (lines : List Bytes) (reads : List UartRead),
    (∀ line ∈ lines, 10 ∉ line ∧ 0 ∉ line ∧ line.length ≤ 100) → (∀ r ∈ reads, r.Proper) →
    stream reads = terminated 10 lines →
    (Assembler.run reads).fault = false ∧ (Assembler.run reads).dispatched = lines := by
  intro hall
  let lines : List Bytes := [65] :: List.replicate 511 []
  let reads : List UartRead := [⟨[65], []⟩, ⟨List.replicate 512 10, []⟩]
  have hreads : ∀ r ∈ reads, r.Proper := by
    intro r hr
    simp only [reads, List.mem_cons, List.not_mem_nil, or_false] at hr
    obtain rfl | rfl := hr
    · exact ⟨by decide, by decide, by decide⟩
    · exact ⟨by decide +kernel, by decide +kernel, by decide +kernel⟩
  have hstream : stream reads = terminated 10 lines := by decide +kernel
  obtain ⟨hrunning, hdispatched⟩ := hall lines reads (by decide +kernel) hreads hstream
  have hfits : ¬ Along Assembler.turn Fits Assembler.start reads := by decide +kernel
  exact hfits (fits_of_framed hreads hstream hrunning hdispatched)

end catbox.sensor
