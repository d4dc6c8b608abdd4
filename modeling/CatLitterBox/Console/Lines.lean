import CatLitterBox.Console.Pending
import Mathlib.Data.List.DropRight

open temporal text

namespace catbox.console

/-- A CR or LF ends a line. -/
def Ends (ch : UInt8) : Prop := ch = CR ∨ ch = LF

instance (ch : UInt8) : Decidable (Ends ch) := inferInstanceAs (Decidable (_ ∨ _))

/-- The bytes since the start of the stream, the last CR or LF, or the last `$`. -/
def current_line (stream : Bytes) : Bytes := stream.rtakeWhile fun ch => ch ≠ DOLLAR ∧ ¬ Ends ch

/-- What the buffer holds of a line: it is emptied at every 128th byte. -/
def kept (line : Bytes) : Bytes := line.drop (128 * (line.length / 128))

/-- The string that is executed where a byte ends a line. -/
def command_of (line : Bytes) (ch : UInt8) : Option Bytes :=
  if (kept line).length < 127 then executed (cstring (kept line ++ [ch])) else none

/-- A command is the complete text of its line, with the byte that ends it, and fits the
buffer; and the stores are inside it. -/
structure Whole (before : Bytes) (p : Popped) : Prop where
  command : ∀ cmd, p.command = some cmd →
    Ends p.ch ∧ cmd = current_line before ++ [p.ch] ∧ cmd.length ≤ PARSE_BUF_SIZE - 1
  stores : ∀ i ∈ p.stores, i < PARSE_BUF_SIZE

/-- Every command of a run is a whole line. -/
def ExecutesWholeLines (log : List Popped) : Prop :=
  ∀ before p after, log = before ++ p :: after → Whole (before.map (·.ch)) p

/-- Nothing is executed of the line, or all of it is: the byte that ends it is dropped, or
the string begins with a NUL, or the line fits the buffer and has no NUL. -/
def Intact (line : Bytes) : Prop :=
  line.length % 128 = 127 ∨ (kept line).head? = some 0 ∨ line.length < 128 ∧ 0 ∉ line

instance (line : Bytes) : Decidable (Intact line) := inferInstanceAs (Decidable (_ ∨ _ ∨ _))

variable {line stream : Bytes} {ch : UInt8} {cmd : Bytes}

theorem kept_length : (kept line).length = line.length % 128 := by
  unfold kept
  rw [List.length_drop]
  omega

theorem kept_nil : kept [] = [] := rfl

theorem kept_of_short (h : line.length < 128) : kept line = line := by
  unfold kept
  rw [Nat.div_eq_of_lt h]
  rfl

/-- A byte is added to what is kept, or all is dropped with it. -/
theorem kept_append (line : Bytes) (ch : UInt8) :
    kept (line ++ [ch]) = if (kept line).length < 127 then kept line ++ [ch] else [] := by
  rw [kept_length]
  unfold kept
  rw [List.length_append, List.length_singleton]
  split_ifs with hroom
  · have hblocks : (line.length + 1) / 128 = line.length / 128 := by omega
    rw [hblocks, List.drop_append_of_le_length (by omega)]
  · rw [List.drop_eq_nil_of_le]
    rw [List.length_append, List.length_singleton]
    omega

theorem current_line_start (h : ch = DOLLAR ∨ Ends ch) : current_line (stream ++ [ch]) = [] := by
  refine List.rtakeWhile_concat_neg _ _ _ ?_
  obtain rfl | hend := h
  · simp
  · simp [hend]

private theorem current_line_append (hdollar : ch ≠ DOLLAR) (hend : ¬ Ends ch) :
    current_line (stream ++ [ch]) = current_line stream ++ [ch] :=
  List.rtakeWhile_concat_pos _ _ _ (by simp [hdollar, hend])

/-- The bytes that the parser holds are those that are kept of the current line. -/
theorem final_parse (system : System) (stream : Bytes)
    (h : (final parse ([], system) stream).2.restarting = false) :
    (final parse ([], system) stream).1 = kept (current_line stream) := by
  induction stream using List.reverseRecOn with
  | nil => rfl
  | append_singleton stream ch ih =>
    rw [final_append] at h ⊢
    generalize final parse ([], system) stream = s at h ih ⊢
    obtain ⟨pending, system⟩ := s
    have hfinal : final parse (pending, system) [ch] = (parse (pending, system) ch).1 := rfl
    rw [hfinal] at h ⊢
    unfold parse at h ⊢
    by_cases hrun : system.restarting = true
    · simp [hrun] at h
    · simp only at ih
      have hpending := ih (by simpa using hrun)
      subst hpending
      by_cases hdollar : ch = DOLLAR
      · simp [hrun, hdollar, current_line_start, kept_nil]
      by_cases hend : Ends ch
      · rw [current_line_start (.inr hend), kept_nil]
        have hor : ch = CR ∨ ch = LF := hend
        simp only [hrun, hdollar, hor, if_true, if_false, Bool.false_eq_true]
        split_ifs
        · rfl
        · rfl
      · have hor : ¬ (ch = CR ∨ ch = LF) := hend
        rw [current_line_append hdollar hend, kept_append]
        simp only [hrun, hdollar, hor, if_false, Bool.false_eq_true]
        split_ifs
        · rfl
        · rfl

/-- The commands of the parser, by the line that they end. -/
theorem parse_command {system : System} (hrun : system.restarting = false) (line : Bytes) (ch : UInt8) :
    (parse (kept line, system) ch).2 = if Ends ch then command_of line ch else none := by
  unfold parse command_of
  simp only [hrun, Bool.false_eq_true, if_false]
  by_cases hdollar : ch = DOLLAR
  · rw [if_pos hdollar, if_neg]
    rw [hdollar]
    decide
  · rw [if_neg hdollar]
    by_cases hend : Ends ch
    · rw [if_pos hend]
      have hor : ch = CR ∨ ch = LF := hend
      split_ifs
      · rfl
      · rfl
    · rw [if_neg hend]
      have hor : ¬ (ch = CR ∨ ch = LF) := hend
      split_ifs
      · rfl
      · rfl

/-- A line is executed when it is not empty. -/
theorem executed_eq_some_iff {text : Bytes} : executed text = some cmd ↔ text ≠ [] ∧ text = cmd := by
  unfold executed
  split_ifs with hempty
  · simp [hempty]
  · simp [hempty]

/-- What is executed of a line is the line, or nothing, exactly where the line is intact. -/
theorem command_of_whole (hend : Ends ch) :
    (∀ cmd, command_of line ch = some cmd → cmd = line ++ [ch]) ↔ Intact line := by
  have hch : ch ≠ 0 := by
    obtain rfl | rfl := hend
    · decide
    · decide
  unfold command_of Intact
  rw [kept_length]
  by_cases hroom : line.length % 128 < 127
  · rw [if_pos hroom]
    have hswallowed : line.length % 128 ≠ 127 := by omega
    by_cases hnul : (kept line).head? = some 0
    · have hempty : cstring (kept line ++ [ch]) = [] := by
        rw [cstring_eq_nil_iff, List.head?_append, hnul]
        exact .inr rfl
      simp [hempty, executed, hnul]
    · have htext : cstring (kept line ++ [ch]) ≠ [] := by
        rw [Ne, cstring_eq_nil_iff, List.head?_append]
        cases hkept : kept line with
        | nil => simp [hch]
        | cons c rest =>
          rw [hkept] at hnul
          simpa using hnul
      constructor
      · intro hall
        have hwhole := hall _ (executed_eq_some_iff.mpr ⟨htext, rfl⟩)
        have hsize := (List.takeWhile_prefix (l := kept line ++ [ch]) (· ≠ 0)).length_le
        have hlength := congrArg List.length hwhole
        unfold cstring at hlength
        rw [List.length_append, kept_length, List.length_singleton] at hsize
        rw [List.length_append, List.length_singleton] at hlength
        have hshort : line.length < 128 := by omega
        refine .inr (.inr ⟨hshort, ?_⟩)
        rw [kept_of_short hshort] at hwhole
        intro hmem
        have hzero : (0 : UInt8) ∈ cstring (line ++ [ch]) := by
          rw [hwhole]
          exact List.mem_append_left _ hmem
        simpa [cstring] using List.mem_takeWhile_imp hzero
      · rintro (hswallow | hhead | ⟨hshort, hclean⟩) cmd hcmd
        · exact absurd hswallow hswallowed
        · exact absurd hhead hnul
        · obtain ⟨-, rfl⟩ := executed_eq_some_iff.mp hcmd
          rw [kept_of_short hshort]
          refine cstring_of_not_mem ?_
          simp [hclean, Ne.symm hch]
  · rw [if_neg hroom]
    have hswallow : line.length % 128 = 127 := by omega
    simp [hswallow]

/-- The parser executes whole lines only, within its buffer, if and only if every line that
was ended is intact. -/
theorem uart_executes_whole_lines (buffer : Vector UInt8 RX_BUF_SIZE) (system : System) (reads : List Bytes) :
    ExecutesWholeLines (popped (.boot buffer system) reads) ↔
      ∀ before ch after, (popped (.boot buffer system) reads).map (·.ch) = before ++ ch :: after →
        Ends ch → Intact (current_line before) := by
  have hrun := run_parses (boot_indexed buffer system) reads
  have habstract : (Console.boot buffer system).abstract = ([], system) := by
    unfold Console.abstract Console.boot
    rw [pending_zero]
  have hentry (before : List Popped) (p : Popped) (after : List Popped)
      (heq : popped (.boot buffer system) reads = before ++ p :: after) :
      p.command = (if Ends p.ch then command_of (current_line (before.map (·.ch))) p.ch else none) ∧
        ∀ i ∈ p.stores, i < PARSE_BUF_SIZE := by
    obtain ⟨hrunning, hcommand, hstores⟩ := hrun.entry before p after heq
    rw [habstract] at hrunning hcommand
    have hpending := final_parse system _ hrunning
    generalize final parse ([], system) (before.map (·.ch)) = s at hrunning hcommand hpending
    obtain ⟨pending, system'⟩ := s
    simp only at hpending
    subst hpending
    exact ⟨hcommand.trans (parse_command hrunning _ _), hstores⟩
  constructor
  · intro hwhole before ch after heq hend
    obtain ⟨log, rest, hlog, rfl, hrest⟩ := List.map_eq_append_iff.mp heq
    obtain ⟨p, later, rfl, rfl, -⟩ := List.map_eq_cons_iff.mp hrest
    obtain ⟨hcommand, -⟩ := hentry log p later hlog
    rw [if_pos hend] at hcommand
    refine (command_of_whole hend).mp fun cmd hcmd => ?_
    exact ((hwhole log p later hlog).command cmd (hcommand.trans hcmd)).2.1
  · intro hintact before p after heq
    obtain ⟨hcommand, hstores⟩ := hentry before p after heq
    constructor
    · intro cmd hcmd
      rw [hcommand] at hcmd
      split_ifs at hcmd with hend
      have hline := hintact (before.map (·.ch)) p.ch (after.map (·.ch)) (by rw [heq]; simp) hend
      have hcmd' := (command_of_whole hend).mpr hline cmd hcmd
      refine ⟨hend, hcmd', ?_⟩
      unfold command_of at hcmd
      split_ifs at hcmd with hroom
      obtain ⟨-, rfl⟩ := executed_eq_some_iff.mp hcmd
      have hsize := (List.takeWhile_prefix (l := kept (current_line (before.map (·.ch))) ++ [p.ch])
        (· ≠ 0)).length_le
      have hbuf : PARSE_BUF_SIZE = 128 := rfl
      rw [List.length_append, List.length_singleton] at hsize
      unfold cstring
      omega
    · exact hstores

/-- Of a line of 129 characters the last one is executed. -/
theorem uart_executes_a_suffix :
    ¬ ∀ reads, ExecutesWholeLines (popped (.boot (.replicate RX_BUF_SIZE 0) .boot) reads) := by
  intro h
  let log := popped (.boot (.replicate RX_BUF_SIZE 0) .boot) [List.replicate 128 97 ++ ascii "k\n"]
  obtain ⟨hlast, hline⟩ : log.getLast?.bind (·.command) = some (ascii "k\n") ∧
      (current_line (log.dropLast.map (·.ch))).length = 129 := by decide +kernel
  obtain ⟨p, hp, hcommand⟩ := Option.bind_eq_some_iff.mp hlast
  obtain ⟨before, hlog⟩ := List.getLast?_eq_some_iff.mp hp
  obtain ⟨-, hwhole, -⟩ := (h [_] before p [] hlog).command _ hcommand
  have hlength := congrArg List.length hwhole
  rw [hlog, List.dropLast_concat] at hline
  rw [List.length_append, hline, List.length_singleton] at hlength
  exact absurd hlength (by decide)

end catbox.console
