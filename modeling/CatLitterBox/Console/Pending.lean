import CatLitterBox.Console.Parser

open temporal text

namespace catbox.console

/-- The parser with the bytes of the unfinished line for its buffer. -/
def parse (s : Bytes × System) (ch : UInt8) : (Bytes × System) × Option Bytes :=
  let (pending, system) := s
  if system.restarting then (s, none)
  else if ch = DOLLAR then (([], system), none)
  else if pending.length < 127 then
    if ch = CR ∨ ch = LF then
      (([], execute (cstring (pending ++ [ch])) system), executed (cstring (pending ++ [ch])))
    else ((pending ++ [ch], system), none)
  else (([], system), none)

/-- What the abstract parser keeps of a console. -/
def Console.abstract (c : Console) : Bytes × System := (c.parser.pending, c.system)

variable {c c' c'' : Console} {taken taken' : List Popped} {p : Parser}

theorem pending_length (h : p.parse_idx < PARSE_BUF_SIZE) : p.pending.length = p.parse_idx := by
  unfold Parser.pending
  rw [List.length_take, Vector.length_toList]
  omega

/-- A parser at the start of its buffer holds nothing. -/
theorem pending_zero (parse_buf : Vector UInt8 PARSE_BUF_SIZE) : (Parser.mk parse_buf 0).pending = [] :=
  List.take_zero

/-- A byte that is stored behind the others. -/
theorem take_set {l : Bytes} {n : Nat} (h : n < l.length) (ch : UInt8) :
    (l.set n ch).take (n + 1) = l.take n ++ [ch] := by
  rw [List.take_add_one, List.take_set_of_le (Nat.le_refl n), List.getElem?_set_self h]
  rfl

private theorem pending_store (h : p.parse_idx < PARSE_BUF_SIZE) (ch : UInt8) :
    (Parser.mk (p.parse_buf.setIfInBounds p.parse_idx ch) (p.parse_idx + 1)).pending =
      p.pending ++ [ch] := by
  unfold Parser.pending
  rw [Vector.toList_setIfInBounds]
  exact take_set (by rwa [Vector.length_toList]) ch

/-- The string in the buffer after its NUL has been stored. -/
theorem cstring_store (h : p.parse_idx < PARSE_BUF_SIZE - 1) (ch : UInt8) :
    cstring ((p.parse_buf.setIfInBounds p.parse_idx ch).setIfInBounds (p.parse_idx + 1) 0).toList =
      cstring (p.pending ++ [ch]) := by
  have hsize : PARSE_BUF_SIZE = 128 := rfl
  have hlength : p.parse_buf.toList.length = PARSE_BUF_SIZE := Vector.length_toList
  have hstore : (p.parse_buf.toList.set p.parse_idx ch).take (p.parse_idx + 1) = p.pending ++ [ch] :=
    take_set (by omega) ch
  rw [Vector.toList_setIfInBounds, Vector.toList_setIfInBounds, List.set_eq_take_append_cons_drop,
    if_pos (by rw [List.length_set]; omega), hstore]
  exact cstring_nul _ _

/-- One byte, with the buffer and without. -/
theorem parse_char_spec (hidx : c.parser.parse_idx < PARSE_BUF_SIZE) (hrun : c.system.restarting = false)
    (ch : UInt8) :
    (parse_char c ch).1.rx_ring = c.rx_ring ∧ (parse_char c ch).1.parser.parse_idx < PARSE_BUF_SIZE ∧
      (parse_char c ch).2.ch = ch ∧ (parse_char c ch).1.abstract = (parse c.abstract ch).1 ∧
      (parse_char c ch).2.command = (parse c.abstract ch).2 ∧
      ∀ i ∈ (parse_char c ch).2.stores, i < PARSE_BUF_SIZE := by
  have hsize : PARSE_BUF_SIZE = 128 := rfl
  unfold parse_char parse Console.abstract
  simp only [hrun, pending_length hidx, Bool.false_eq_true, if_false]
  by_cases hdollar : ch = DOLLAR
  · simp [hdollar, pending_zero, PARSE_BUF_SIZE]
  by_cases hroom : c.parser.parse_idx < PARSE_BUF_SIZE - 1
  · have hroom' : c.parser.parse_idx < 127 := by omega
    by_cases hend : ch = CR ∨ ch = LF
    · simp only [hdollar, hroom, hroom', hend, if_true, if_false, cstring_store hroom, pending_zero]
      simp only [List.mem_cons, List.not_mem_nil, or_false, forall_eq_or_imp, forall_eq, true_and]
      omega
    · simp only [hdollar, hroom, hroom', hend, if_true, if_false, pending_store hidx]
      simp only [List.mem_cons, List.not_mem_nil, or_false, forall_eq, true_and]
      omega
  · have hroom' : ¬ c.parser.parse_idx < 127 := by omega
    simp [hdollar, hroom', pending_zero, PARSE_BUF_SIZE]

/-- A byte that was popped in the state `s`. -/
structure Entry (s : Bytes × System) (p : Popped) : Prop where
  running : s.2.restarting = false
  command : p.command = (parse s p.ch).2
  stores : ∀ i ∈ p.stores, i < PARSE_BUF_SIZE

/-- What the parser has done to a console while it popped some bytes. -/
structure Parses (c c' : Console) (taken : List Popped) : Prop where
  indexed : c'.Indexed
  abstract : c'.abstract = final parse c.abstract (taken.map (·.ch))
  entry : ∀ before p after, taken = before ++ p :: after →
    Entry (final parse c.abstract (before.map (·.ch))) p

/-- To pop nothing changes nothing. -/
theorem Parses.nil (h : c.Indexed) : Parses c c [] := by
  constructor
  · exact h
  · rfl
  · intro before p after heq
    cases before with
    | nil => cases heq
    | cons _ _ => cases heq

/-- What is popped in two goes is popped one behind the other. -/
theorem Parses.append (h : Parses c c' taken) (h' : Parses c' c'' taken') :
    Parses c c'' (taken ++ taken') := by
  constructor
  · exact h'.indexed
  · rw [h'.abstract, h.abstract, List.map_append, final_append]
  · intro before p after heq
    obtain ⟨later, rfl, hlater⟩ | ⟨later, rfl, hlater⟩ := List.append_eq_append_iff.mp heq
    · rw [List.map_append, final_append, ← h.abstract]
      exact h'.entry later p after hlater
    · cases later with
      | nil =>
        have hentry := h'.entry [] p after hlater.symm
        rw [List.append_nil] at h
        rwa [h.abstract] at hentry
      | cons q later =>
        obtain ⟨rfl, -⟩ := List.cons.inj hlater
        exact h.entry before p later rfl

/-- The parser does not look at the ring buffer. -/
theorem Parses.of_ring {rx_ring : RingBuffer} (h : Parses { c with rx_ring } c' taken) :
    Parses c c' taken := ⟨h.indexed, h.abstract, h.entry⟩

/-- The parser takes one character at a time. -/
theorem parse_char_parses (h : c.Indexed) (hrun : c.system.restarting = false) (ch : UInt8) :
    Parses c (parse_char c ch).1 [(parse_char c ch).2] := by
  obtain ⟨hring, hidx, hch, habstract, hcommand, hstores⟩ := parse_char_spec h.parse_idx hrun ch
  constructor
  · exact ⟨hring ▸ h.rx_ring, hidx⟩
  · rw [habstract, List.map_singleton, hch]
    rfl
  · intro before p after heq
    obtain ⟨rfl, hp⟩ | ⟨rest, -, hrest⟩ := List.cons_eq_append_iff.mp heq
    · obtain ⟨rfl, -⟩ := List.cons.inj hp
      constructor
      · exact hrun
      · rw [hch]
        exact hcommand
      · exact hstores
    · simp at hrest

/-- What the loop pops are the oldest bytes of the buffer, in their order. -/
theorem uart_parser_loop_parses (fuel : Nat) (h : c.Indexed) (hrun : c.system.restarting = false) :
    Parses c (uart_parser_loop fuel c).1 (uart_parser_loop fuel c).2 ∧
      (uart_parser_loop fuel c).2.map (·.ch) ++ (uart_parser_loop fuel c).1.rx_ring.contents =
        c.rx_ring.contents := by
  induction fuel generalizing c with
  | zero => exact ⟨.nil h, rfl⟩
  | succ fuel ih =>
    obtain ⟨hindexed, hcontents, hpop⟩ := pop_contents h.rx_ring
    unfold uart_parser_loop
    cases hring : RingBuffer_Pop c.rx_ring with
    | mk rx_ring byte =>
      rw [hring] at hindexed hcontents hpop
      cases byte with
      | none => exact ⟨.nil h, rfl⟩
      | some ch =>
        have hbytes : c.rx_ring.contents = ch :: rx_ring.contents := by
          simp only at hcontents hpop
          rw [hcontents]
          exact (List.cons_head?_tail hpop.symm).symm
        have hnext : ({ c with rx_ring } : Console).Indexed := ⟨hindexed, h.parse_idx⟩
        have hchar := parse_char_parses hnext hrun ch
        obtain ⟨hkeep, -, hch, -, -⟩ := parse_char_spec hnext.parse_idx hrun ch
        simp only
        split_ifs with hstop
        · refine ⟨hchar.of_ring, ?_⟩
          rw [hbytes, List.map_singleton, hch, hkeep]
          rfl
        · rw [not_or, Bool.not_eq_true] at hstop
          obtain ⟨hparses, hrest⟩ := ih hchar.indexed hstop.2
          refine ⟨hchar.of_ring.append hparses, ?_⟩
          rw [hbytes, List.map_cons, List.cons_append, hrest, hch, hkeep]

/-- Where a buffer was not empty, the loop pops a byte. -/
theorem uart_parse_pops (h : c.Indexed) (hne : c.rx_ring.contents ≠ []) : (uart_parse c).2 ≠ [] := by
  obtain ⟨-, -, hpop⟩ := pop_contents h.rx_ring
  rw [List.head?_eq_some_head hne] at hpop
  unfold uart_parse RX_BUF_SIZE uart_parser_loop
  cases hring : RingBuffer_Pop c.rx_ring with
  | mk rx_ring byte =>
    rw [hring] at hpop
    cases byte with
    | none => cases hpop
    | some ch =>
      simp only
      split_ifs
      · exact List.cons_ne_nil _ _
      · exact List.cons_ne_nil _ _

/-- The loop ends by itself before the fuel does: more of it changes nothing. -/
theorem uart_parser_loop_enough {fuel : Nat} (h : c.Indexed) (hrun : c.system.restarting = false)
    (hfuel : c.rx_ring.contents.length < fuel) :
    uart_parser_loop (fuel + 1) c = uart_parser_loop fuel c := by
  induction fuel generalizing c with
  | zero => omega
  | succ fuel ih =>
    obtain ⟨hindexed, hcontents, hpop⟩ := pop_contents h.rx_ring
    rw [uart_parser_loop, uart_parser_loop]
    cases hring : RingBuffer_Pop c.rx_ring with
    | mk rx_ring byte =>
      rw [hring] at hindexed hcontents hpop
      cases byte with
      | none => rfl
      | some ch =>
        simp only at hcontents hpop ⊢
        have hnext : ({ c with rx_ring } : Console).Indexed := ⟨hindexed, h.parse_idx⟩
        obtain ⟨hkeep, -⟩ := parse_char_spec hnext.parse_idx hrun ch
        split_ifs with hstop
        · rfl
        · rw [not_or, Bool.not_eq_true] at hstop
          have hlength : rx_ring.contents.length + 1 = c.rx_ring.contents.length := by
            rw [← List.cons_head?_tail hpop.symm, ← hcontents, List.length_cons]
          rw [ih (parse_char_parses hnext hrun ch).indexed hstop.2 (by rw [hkeep]; simp only; omega)]

/-- After a reset nothing is read and nothing is popped. -/
theorem uart_process_restarting (h : c.system.restarting = true) (data : Bytes) :
    uart_process c data = (c, ⟨[], []⟩) := by
  unfold uart_process
  rw [if_pos h]

/-- A turn of `uart_process`: what it reads goes behind what the buffer held, as far as there
is room, and what it pops is the front of that. -/
theorem uart_process_parses (h : c.Indexed) (data : Bytes) :
    Parses c (uart_process c data).1 (uart_process c data).2.popped ∧
      (c.system.restarting = false → (uart_process c data).2.data = data ∧
        (uart_process c data).2.popped.map (·.ch) ++ (uart_process c data).1.rx_ring.contents =
          (c.rx_ring.contents ++ data).take 255) := by
  obtain ⟨hpushed, hcontents⟩ := pushes_contents data h.rx_ring
  unfold uart_process
  by_cases hrun : c.system.restarting = true
  · rw [if_pos hrun]
    exact ⟨.nil h, fun hnot => absurd hrun (by simp [hnot])⟩
  · have hfull : ({ c with rx_ring := data.foldl RingBuffer_Push c.rx_ring } : Console).Indexed :=
      ⟨hpushed, h.parse_idx⟩
    rw [if_neg hrun]
    obtain ⟨hparses, hbytes⟩ := uart_parser_loop_parses RX_BUF_SIZE hfull (by simpa using hrun)
    refine ⟨hparses.of_ring, fun _ => ⟨rfl, ?_⟩⟩
    rw [← hcontents]
    exact hbytes

/-- The bytes that the parser has popped, and what it did with them. -/
def popped (c : Console) (reads : List Bytes) : List Popped :=
  (outputs uart_process c reads).flatMap (·.popped)

theorem popped_cons (c : Console) (data : Bytes) (reads : List Bytes) : popped c (data :: reads) =
    (uart_process c data).2.popped ++ popped (uart_process c data).1 reads := rfl

/-- The parser of any run is the abstract one, fed with the bytes that were popped. -/
theorem run_parses (h : c.Indexed) (reads : List Bytes) :
    Parses c (final uart_process c reads) (popped c reads) := by
  induction reads generalizing c with
  | nil => exact .nil h
  | cons data reads ih =>
    have hturn := (uart_process_parses h data).1
    exact hturn.append (ih hturn.indexed)

/-- At boot the write position lies within the receive buffer. -/
theorem boot_indexed (buffer : Vector UInt8 RX_BUF_SIZE) (system : System) :
    (Console.boot buffer system).Indexed := ⟨init_indexed buffer, Nat.zero_lt_succ _⟩

end catbox.console
