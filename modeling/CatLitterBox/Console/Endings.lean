import CatLitterBox.Console.Lines
import CatLitterBox.Console.Status
import CatLitterBox.Text.Lines

open temporal text

namespace catbox.console

/-- The commands of one line, typed at a line boundary. -/
def line_command (line : Bytes) : Option Bytes := command_of (current_line line) LF

/-- What a line does. -/
def enter (s : System) (line : Bytes) : System :=
  if s.restarting then s else
  match line_command line with
  | some cmd => execute cmd s
  | none => s

/-- What a blank line does. -/
def blank (s : System) : System := if s.restarting then s else s.settle

/-- A command that is given while `status` holds does not show whether a blank line came
before it: nothing is in force, or it takes that back itself. -/
def Absorbs (status : Status) : Kind → Prop
  | .motor => status = ⟨false, false⟩
  | .stop => status.stop = false
  | _ => True

/-- A blank line may come before the lines unnoticed: each command absorbs it that meets a
status, and none is left at the end. A reset ends the matter. -/
def Harmless (heap : Bool) : Option Status → List Bytes → Prop
  | none, _ => True
  | some status, [] => status = ⟨false, false⟩
  | some status, line :: lines =>
    match line_command line with
    | none => Harmless heap (some status) lines
    | some cmd => Absorbs status (kind cmd) ∧ Harmless heap (status.after heap (kind cmd)) lines

/-- A command that takes the place of a pending status lets the blank line before it go
unnoticed. -/
theorem Harmless.cons {heap : Bool} {status : Status} {line cmd : Bytes} {lines : List Bytes}
    (hcmd : line_command line = some cmd) (habsorbs : Absorbs status (kind cmd))
    (hrest : Harmless heap (status.after heap (kind cmd)) lines) : Harmless heap (some status) (line :: lines) := by
  unfold Harmless
  rw [hcmd]
  exact ⟨habsorbs, hrest⟩

/-- The status after the first line, which the first blank line comes behind. -/
def status_after (heap : Bool) (status : Status) (line : Bytes) : Option Status :=
  match line_command line with
  | none => some status
  | some cmd => status.after heap (kind cmd)

/-- The lines have the same effect with CR LF as with LF. -/
def EndingsAgree (s : System) : List Bytes → Prop
  | [] => True
  | line :: lines =>
    Harmless s.heap (status_after s.heap ⟨s.world.flag .emergency_stop_flag, s.xScpSpinTestTaskHandle⟩ line)
      lines

variable {s : System} {line cmd : Bytes} {ch : UInt8}

/-- The byte that ends a line changes nothing: of the words that are looked for none holds
it, and the letter of a command comes before it. -/
theorem execute_ends (text : Bytes) (h : Ends ch) (s : System) :
    execute (cstring (text ++ [ch])) s = execute (cstring (text ++ [LF])) s := by
  have hspace : isspace ch = true ∧ ch ≠ 0 := by
    obtain rfl | rfl := h
    · decide
    · decide
  have hspace' : isspace LF = true ∧ LF ≠ 0 := by decide
  by_cases hnul : 0 ∈ text
  · obtain ⟨before, after, rfl⟩ := List.append_of_mem hnul
    rw [List.append_assoc, List.append_assoc, List.cons_append, List.cons_append, cstring_nul, cstring_nul]
  · have hargs (ch : UInt8) (h : isspace ch = true) : scan_arguments (text ++ [ch]) = scan_arguments text := by
      unfold scan_arguments
      rw [scan_word_append 15 h]
      cases scan_word 15 text with
      | none => rfl
      | some word =>
        simp only [Option.map_some, scan_int_append h]
        cases scan_int word.2 with
        | none => rfl
        | some dir =>
          simp only [Option.map_some, scan_int_append h, Option.map_map]
          rfl
    have hprocess : Process_Command (text ++ [ch]) s = Process_Command (text ++ [LF]) s := by
      cases text with
      | nil =>
        obtain rfl | rfl := h
        · rfl
        · rfl
      | cons c rest => rfl
    rw [cstring_of_not_mem (by simp [hnul, Ne.symm hspace.2]),
      cstring_of_not_mem (by simp [hnul, Ne.symm hspace'.2])]
    unfold execute
    rw [hargs ch hspace.1, hargs LF hspace'.1, hprocess]
    simp

/-- After a reset nothing is parsed. -/
theorem final_parse_restarting (h : s.restarting = true) (pending stream : Bytes) :
    final parse (pending, s) stream = (pending, s) := by
  induction stream with
  | nil => rfl
  | cons ch stream ih =>
    have hparse : (parse (pending, s) ch).1 = (pending, s) := by
      unfold parse
      simp [h]
    exact (congrArg (final parse · stream) hparse).trans ih

/-- Without a CR or LF nothing is executed. -/
theorem final_parse_system (hline : ∀ ch ∈ line, ¬ Ends ch) (pending : Bytes) (s : System) :
    (final parse (pending, s) line).2 = s := by
  induction line generalizing pending with
  | nil => rfl
  | cons ch line ih =>
    have hnot : ¬ (ch = CR ∨ ch = LF) := hline ch List.mem_cons_self
    have hrest := ih fun c hc => hline c (List.mem_cons_of_mem _ hc)
    have hparse : ∃ pending', (parse (pending, s) ch).1 = (pending', s) := by
      unfold parse
      simp only [hnot, if_false]
      split_ifs
      · exact ⟨_, rfl⟩
      · exact ⟨_, rfl⟩
      · exact ⟨_, rfl⟩
      · exact ⟨_, rfl⟩
    obtain ⟨pending', hparse⟩ := hparse
    rw [show final parse (pending, s) (ch :: line) = final parse (parse (pending, s) ch).1 line from rfl,
      hparse]
    exact hrest pending'

/-- To execute nothing is to execute an empty string. -/
theorem execute_executed (text : Bytes) (s : System) :
    (match executed text with | some cmd => execute cmd s | none => s) = execute text s := by
  unfold executed
  split_ifs with hempty
  · rw [hempty, execute_nil]
  · rfl

/-- A line that is ended at a line boundary has its effect, and leaves the parser at a line
boundary. -/
theorem final_parse_line (line : Bytes) (hline : ∀ c ∈ line, ¬ Ends c) (hend : Ends ch) (s : System) :
    final parse ([], s) (line ++ [ch]) = ([], enter s line) := by
  unfold enter
  cases hrun : s.restarting with
  | true =>
    rw [final_parse_restarting hrun]
    rfl
  | false =>
    have hsystem := final_parse_system hline [] s
    have hpending := final_parse s line (by rw [hsystem, hrun])
    have hstate : final parse ([], s) line = (kept (current_line line), s) := Prod.ext hpending hsystem
    have hdollar : ch ≠ DOLLAR := by
      rintro rfl
      exact absurd hend (by decide)
    have hor : ch = CR ∨ ch = LF := hend
    rw [final_append, hstate]
    change (parse (kept (current_line line), s) ch).1 = _
    unfold parse line_command command_of
    simp only [hrun, hdollar, hor, if_true, if_false, Bool.false_eq_true]
    by_cases hroom : (kept (current_line line)).length < 127
    · rw [if_pos hroom, if_pos hroom, execute_executed, ← execute_ends _ hend]
    · rw [if_neg hroom, if_neg hroom]

theorem enter_blank (s : System) : enter s [] = blank s := by
  unfold enter blank
  split_ifs
  · rfl
  · rfl

theorem line_command_ne (h : line_command line = some cmd) : cmd ≠ [] := by
  unfold line_command command_of at h
  split_ifs at h
  obtain ⟨hne, rfl⟩ := executed_eq_some_iff.mp h
  exact hne

/-- What the lines do, each ended by LF. -/
def enter_all (s : System) (lines : List Bytes) : System := lines.foldl enter s

/-- What the lines do, each ended by CR LF: the LF is a blank line. -/
def enter_crlf (s : System) (lines : List Bytes) : System := lines.foldl (fun s line => blank (enter s line)) s

theorem final_parse_lf {lines : List Bytes} (hlines : ∀ line ∈ lines, ∀ ch ∈ line, ¬ Ends ch) (s : System) :
    final parse ([], s) (terminated LF lines) = ([], enter_all s lines) := by
  induction lines generalizing s with
  | nil => rfl
  | cons line lines ih =>
    have hline := final_parse_line line (hlines line List.mem_cons_self) (.inr rfl) s
    rw [terminated_cons, ← List.singleton_append, ← List.append_assoc, final_append, hline]
    exact ih (fun l hl => hlines l (List.mem_cons_of_mem _ hl)) _

theorem final_parse_crlf {lines : List Bytes} (hlines : ∀ line ∈ lines, ∀ ch ∈ line, ¬ Ends ch) (s : System) :
    final parse ([], s) (lines.flatMap (· ++ [CR, LF])) = ([], enter_crlf s lines) := by
  induction lines generalizing s with
  | nil => rfl
  | cons line lines ih =>
    have hcr := final_parse_line line (hlines line List.mem_cons_self) (.inl rfl) s
    have hlf := final_parse_line [] (by simp) (Or.inr (rfl : LF = LF)) (enter s line)
    rw [List.nil_append, enter_blank] at hlf
    rw [List.flatMap_cons, final_append,
      show line ++ [CR, LF] = (line ++ [CR]) ++ [LF] by simp, final_append, hcr,
      hlf]
    exact ih (fun l hl => hlines l (List.mem_cons_of_mem _ hl)) _

theorem enter_of_none (h : line_command line = none) (s : System) : enter s line = s := by
  unfold enter
  rw [h]
  exact ite_self s

/-- A line that is entered executes its command. -/
theorem enter_of_some (h : line_command line = some cmd) (hrun : s.restarting = false) :
    enter s line = execute cmd s := by
  unfold enter
  rw [if_neg (by simp [hrun]), h]

theorem enter_restarting (h : s.restarting = true) (line : Bytes) : enter s line = s := if_pos h

theorem blank_restarting (h : s.restarting = true) : blank s = s := if_pos h

theorem blank_running (h : s.restarting = false) : blank s = s.settle := if_neg (by simp [h])

/-- Two blank lines do what one does. -/
theorem blank_blank (s : System) : blank (blank s) = blank s := by
  cases hrun : s.restarting with
  | true => rw [blank_restarting hrun, blank_restarting hrun]
  | false => rw [blank_running hrun, blank_running (settle_restarting.trans hrun), settle_settle]

theorem status_running (h : s.restarting = false) :
    s.status = some ⟨s.world.flag .emergency_stop_flag, s.xScpSpinTestTaskHandle⟩ := if_neg (by simp [h])

theorem status_none_iff : s.status = none ↔ s.restarting = true := by
  unfold System.status
  split_ifs with h
  · simp [h]
  · simp [h]

/-- A line only adds to the effects, and the heap stays as it is. -/
theorem enter_keeps (s : System) (line : Bytes) :
    s.effects <+: (enter s line).effects ∧ (enter s line).heap = s.heap := by
  cases hrun : s.restarting with
  | true =>
    rw [enter_restarting hrun]
    exact ⟨List.prefix_refl _, rfl⟩
  | false =>
    cases hcmd : line_command line with
    | none =>
      rw [enter_of_none hcmd]
      exact ⟨List.prefix_refl _, rfl⟩
    | some cmd =>
      obtain ⟨-, hheap, heffects⟩ := execute_status (line_command_ne hcmd) hrun
      rw [enter_of_some hcmd hrun]
      exact ⟨heffects, hheap⟩

theorem blank_keeps (s : System) : s.effects <+: (blank s).effects ∧ (blank s).heap = s.heap := by
  rw [← enter_blank]
  exact enter_keeps s []

theorem enter_all_prefix (s : System) (lines : List Bytes) : s.effects <+: (enter_all s lines).effects := by
  induction lines generalizing s with
  | nil => exact List.prefix_refl _
  | cons line lines ih => exact (enter_keeps s line).1.trans (ih _)

theorem enter_crlf_keeps (s : System) (lines : List Bytes) : s.effects <+: (enter_crlf s lines).effects := by
  induction lines generalizing s with
  | nil => exact List.prefix_refl _
  | cons line lines ih => exact ((enter_keeps s line).1.trans (blank_keeps _).1).trans (ih _)

theorem enter_all_restarting (h : s.restarting = true) (lines : List Bytes) : enter_all s lines = s := by
  induction lines with
  | nil => rfl
  | cons line lines ih =>
    unfold enter_all at ih ⊢
    rw [List.foldl_cons, enter_restarting h, ih]

theorem enter_crlf_restarting (h : s.restarting = true) (lines : List Bytes) : enter_crlf s lines = s := by
  induction lines with
  | nil => rfl
  | cons line lines ih =>
    unfold enter_crlf at ih ⊢
    rw [List.foldl_cons, enter_restarting h, blank_restarting h, ih]

/-- A blank line has no effect exactly where nothing is in force. -/
theorem settle_effects_iff (hrun : s.restarting = false) :
    s.settle.effects = s.effects ↔ s.status = some ⟨false, false⟩ := by
  rw [settle_effects, status_running hrun, List.append_assoc, List.append_right_eq_self]
  cases s.world.flag .emergency_stop_flag with
  | true => simp
  | false =>
    cases s.xScpSpinTestTaskHandle with
    | true => simp
    | false => simp

/-- A command that absorbs a blank line does the same behind it. -/
theorem execute_absorbs (hne : cmd ≠ [])
    (h : Absorbs ⟨s.world.flag .emergency_stop_flag, s.xScpSpinTestTaskHandle⟩ (kind cmd)) :
    execute cmd s.settle = execute cmd s := by
  cases hkind : kind cmd with
  | motor =>
    rw [hkind] at h
    obtain ⟨hflag, hhandle⟩ := Status.mk.inj h
    rw [settle_of_clear hflag hhandle]
  | stop =>
    rw [hkind] at h
    exact execute_settle hne (by simp [hkind]) fun _ => h
  | _ => exact execute_settle hne (by simp [hkind]) (by simp [hkind])

/-- A command that does not absorb it begins with another effect. -/
theorem execute_shows (hne : cmd ≠ [])
    (h : ¬ Absorbs ⟨s.world.flag .emergency_stop_flag, s.xScpSpinTestTaskHandle⟩ (kind cmd)) :
    ∃ e e', Starts s (execute cmd s) e ∧ Starts s s.settle e' ∧ e ≠ e' := by
  cases hkind : kind cmd with
  | motor =>
    obtain ⟨mt, msg, hmotor⟩ := motor_starts hkind
    cases hflag : s.world.flag .emergency_stop_flag with
    | true => exact ⟨_, _, hmotor s, settle_starts_clear hflag, nofun⟩
    | false =>
      cases hhandle : s.xScpSpinTestTaskHandle with
      | true => exact ⟨_, _, hmotor s, settle_starts_delete hflag hhandle, nofun⟩
      | false =>
        rw [hkind, hflag, hhandle] at h
        exact absurd rfl h
  | stop =>
    rw [hkind] at h
    have hflag : s.world.flag .emergency_stop_flag = true := by
      rw [← Bool.not_eq_false]
      exact h
    obtain ⟨e, hstarts, hdiffer⟩ := stop_starts hkind hne hflag
    exact ⟨e, _, hstarts, settle_starts_clear hflag, hdiffer⟩
  | _ =>
    rw [hkind] at h
    exact absurd trivial h

/-- The lines with LF do what the lines with CR LF do behind a blank line if and only if it is
harmless there. -/
theorem blank_before_iff (s : System) (lines : List Bytes) :
    ((enter_all s lines).effects = (enter_crlf (blank s) lines).effects ↔ Harmless s.heap s.status lines) ∧
      (Harmless s.heap s.status lines → enter_all s lines = enter_crlf (blank s) lines) := by
  induction lines generalizing s with
  | nil =>
    cases hrun : s.restarting with
    | true =>
      rw [blank_restarting hrun, status_none_iff.mpr hrun]
      exact ⟨iff_of_true rfl trivial, fun _ => rfl⟩
    | false =>
      have heffects := settle_effects_iff hrun
      rw [status_running hrun, Option.some_inj] at heffects
      rw [blank_running hrun, status_running hrun]
      refine ⟨eq_comm.trans heffects, fun hclear => ?_⟩
      obtain ⟨hflag, hhandle⟩ := Status.mk.inj hclear
      exact (settle_of_clear hflag hhandle).symm
  | cons line lines ih =>
    have hlf : enter_all s (line :: lines) = enter_all (enter s line) lines := rfl
    have hcrlf : enter_crlf (blank s) (line :: lines) = enter_crlf (blank (enter (blank s) line)) lines := rfl
    rw [hlf, hcrlf]
    cases hrun : s.restarting with
    | true =>
      rw [blank_restarting hrun, enter_restarting hrun, blank_restarting hrun, enter_all_restarting hrun,
        enter_crlf_restarting hrun, status_none_iff.mpr hrun]
      exact ⟨iff_of_true rfl trivial, fun _ => rfl⟩
    | false =>
      cases hcmd : line_command line with
      | none =>
        rw [enter_of_none hcmd, enter_of_none hcmd, blank_blank]
        have hih := ih s
        rw [status_running hrun] at hih ⊢
        unfold Harmless
        rwa [hcmd]
      | some cmd =>
        have hne := line_command_ne hcmd
        have hblank := enter_of_some hcmd (settle_restarting.trans hrun)
        rw [blank_running hrun, enter_of_some hcmd hrun, hblank, status_running hrun]
        unfold Harmless
        rw [hcmd]
        simp only
        by_cases habsorbs : Absorbs ⟨s.world.flag .emergency_stop_flag, s.xScpSpinTestTaskHandle⟩ (kind cmd)
        · obtain ⟨hstatus, hheap, -⟩ := execute_status hne hrun
          have hih := ih (execute cmd s)
          rw [hstatus, hheap] at hih
          rw [execute_absorbs hne habsorbs, and_iff_right habsorbs]
          exact hih
        · -- the run with CR LF goes on with the blank line, the other one with the command
          obtain ⟨e, e', he, he', hdiffer⟩ := execute_shows hne habsorbs
          have hlog := enter_all_prefix (execute cmd s) lines
          have hlog' : s.settle.effects <+: (enter_crlf (blank (execute cmd s.settle)) lines).effects := by
            have henter := (enter_keeps s.settle line).1
            rw [hblank] at henter
            exact (henter.trans (blank_keeps _).1).trans (enter_crlf_keeps _ _)
          refine ⟨iff_of_false (fun heq => ?_) (fun h => habsorbs h.1), fun h => absurd h.1 habsorbs⟩
          rw [heq] at hlog
          exact hdiffer (he.unique he' hlog hlog')

private theorem status_enter (hrun : s.restarting = false) (line : Bytes) : (enter s line).status =
    status_after s.heap ⟨s.world.flag .emergency_stop_flag, s.xScpSpinTestTaskHandle⟩ line := by
  unfold status_after
  cases hcmd : line_command line with
  | none => rw [enter_of_none hcmd, status_running hrun]
  | some cmd =>
    rw [enter_of_some hcmd hrun]
    exact (execute_status (line_command_ne hcmd) hrun).1

/-- Both endings have the same effects exactly where `EndingsAgree` says, and then leave the
same state behind. -/
theorem endings_agree_iff (hrun : s.restarting = false) (lines : List Bytes) :
    ((enter_crlf s lines).effects = (enter_all s lines).effects ↔ EndingsAgree s lines) ∧
      (EndingsAgree s lines → enter_crlf s lines = enter_all s lines) := by
  cases lines with
  | nil => exact ⟨iff_of_true rfl trivial, fun _ => rfl⟩
  | cons line lines =>
    obtain ⟨hiff, hsame⟩ := blank_before_iff (enter s line) lines
    rw [status_enter hrun, (enter_keeps s line).2] at hiff hsame
    exact ⟨eq_comm.trans hiff, fun h => (hsame h).symm⟩

/-- A stream of bytes reaches the parser, in whatever reads it comes: all of it is popped, or,
where a command resets the device, a part. -/
def Delivers (c : Console) (reads : List Bytes) (stream : Bytes) : Prop :=
  (popped c reads).map (·.ch) = stream ∨
    (final uart_process c reads).system.restarting = true ∧ (popped c reads).map (·.ch) <+: stream

/-- A console at a line boundary, with nothing to read. -/
structure Console.AtBoundary (c : Console) : Prop where
  indexed : c.Indexed
  contents : c.rx_ring.contents = []
  parse_idx : c.parser.parse_idx = 0
  running : c.system.restarting = false

/-- The same effects, the same unfinished line and the same stop flag. -/
structure SameOutcome (c c' : Console) : Prop where
  effects : c.system.effects = c'.system.effects
  pending : c.parser.pending = c'.parser.pending
  flag : c.system.world.flag .emergency_stop_flag = c'.system.world.flag .emergency_stop_flag

variable {c : Console} {reads : List Bytes} {stream : Bytes}

/-- However the reads cut a stream, the console ends where the abstract parser ends. -/
theorem Delivers.outcome (h : Delivers c reads stream) (hc : c.Indexed) :
    (final uart_process c reads).abstract = final parse c.abstract stream := by
  have habstract := (run_parses hc reads).abstract
  obtain hall | ⟨hreset, rest, hrest⟩ := h
  · rw [← hall, habstract]
  · rw [← hrest, final_append, ← habstract]
    exact (final_parse_restarting hreset _ _).symm

/-- A byte that is read alone is popped. -/
theorem uart_process_byte (hc : c.Indexed) (hempty : c.rx_ring.contents = [])
    (hrun : c.system.restarting = false)
    (ch : UInt8) : (uart_process c [ch]).2.popped.map (·.ch) = [ch] ∧
      (uart_process c [ch]).1.rx_ring.contents = [] := by
  obtain ⟨hpushed, hcontents⟩ := pushes_contents [ch] hc.rx_ring
  rw [hempty] at hcontents
  have hpops : (uart_process c [ch]).2.popped ≠ [] := by
    unfold uart_process
    rw [if_neg (by simp [hrun])]
    refine uart_parse_pops ⟨hpushed, hc.parse_idx⟩ ?_
    rw [hcontents]
    simp
  have hbytes := ((uart_process_parses hc [ch]).2 hrun).2
  rw [hempty, List.nil_append, List.take_of_length_le (by simp)] at hbytes
  obtain ⟨hnone, -⟩ | ⟨hall, hrest⟩ := List.append_eq_singleton_iff.mp hbytes
  · exact absurd (List.map_eq_nil_iff.mp hnone) hpops
  · exact ⟨hall, hrest⟩

private theorem popped_restarting (h : c.system.restarting = true) (reads : List Bytes) :
    popped c reads = [] ∧ final uart_process c reads = c := by
  induction reads with
  | nil => exact ⟨rfl, rfl⟩
  | cons data reads ih =>
    have hturn := uart_process_restarting h data
    have hfinal : final uart_process c (data :: reads) = final uart_process (uart_process c data).1 reads := rfl
    rw [popped_cons, hfinal, hturn]
    exact ih

/-- Read byte by byte, every stream reaches the parser. -/
theorem delivers_bytes (hc : c.Indexed) (hempty : c.rx_ring.contents = []) (stream : Bytes) :
    Delivers c (stream.map ([·])) stream := by
  induction stream generalizing c with
  | nil => exact .inl rfl
  | cons ch stream ih =>
    cases hrun : c.system.restarting with
    | true =>
      obtain ⟨hpopped, hfinal⟩ := popped_restarting hrun ((ch :: stream).map ([·]))
      right
      rw [hpopped, hfinal]
      exact ⟨hrun, List.nil_prefix⟩
    | false =>
      obtain ⟨hbyte, hrest⟩ := uart_process_byte hc hempty hrun ch
      have hpopped : (popped c ((ch :: stream).map ([·]))).map (·.ch) =
          ch :: (popped (uart_process c [ch]).1 (stream.map ([·]))).map (·.ch) := by
        rw [List.map_cons, popped_cons, List.map_append, hbyte, List.singleton_append]
      unfold Delivers
      rw [hpopped]
      obtain hall | ⟨hreset, hpart⟩ := ih (uart_process_parses hc [ch]).1.indexed hrest
      · exact .inl (congrArg (ch :: ·) hall)
      · exact .inr ⟨hreset, List.cons_prefix_cons.mpr ⟨rfl, hpart⟩⟩

/-- Feeding the lines with CR LF and feeding them with LF have the same outcome. -/
def EndingsEquivalent (c : Console) (lines : List Bytes) : Prop :=
  ∀ crlf lf, Delivers c crlf (lines.flatMap (· ++ [CR, LF])) → Delivers c lf (terminated LF lines) →
    SameOutcome (final uart_process c crlf) (final uart_process c lf)

/-- Feeding blank lines, however they end, changes no flag and no motor queue. -/
def BlankLinesQuiet (c : Console) : Prop :=
  ∀ blanks reads, (∀ ch ∈ blanks, Ends ch) → Delivers c reads blanks →
    (final uart_process c reads).system.world.flag = c.system.world.flag ∧
      (final uart_process c reads).system.world.queue = c.system.world.queue

/-- At a line boundary nothing is pending for the abstract parser. -/
theorem Console.AtBoundary.abstract (hc : c.AtBoundary) : c.abstract = ([], c.system) := by
  unfold Console.abstract Parser.pending
  rw [hc.parse_idx, List.take_zero]

theorem endings_equivalent_iff (hc : c.AtBoundary) {lines : List Bytes}
    (hlines : ∀ line ∈ lines, ∀ ch ∈ line, ¬ Ends ch) :
    EndingsEquivalent c lines ↔ EndingsAgree c.system lines := by
  obtain ⟨hiff, hsame⟩ := endings_agree_iff hc.running lines
  have hcrlf {reads : List Bytes} (h : Delivers c reads (lines.flatMap (· ++ [CR, LF]))) :
      (final uart_process c reads).abstract = ([], enter_crlf c.system lines) := by
    rw [h.outcome hc.indexed, hc.abstract, final_parse_crlf hlines]
  have hlf {reads : List Bytes} (h : Delivers c reads (terminated LF lines)) :
      (final uart_process c reads).abstract = ([], enter_all c.system lines) := by
    rw [h.outcome hc.indexed, hc.abstract, final_parse_lf hlines]
  constructor
  · intro h
    have hbytes := delivers_bytes hc.indexed hc.contents (lines.flatMap (· ++ [CR, LF]))
    have hbytes' := delivers_bytes hc.indexed hc.contents (terminated LF lines)
    have heffects := (h _ _ hbytes hbytes').effects
    obtain ⟨-, hsystem⟩ := Prod.mk.inj (hcrlf hbytes)
    obtain ⟨-, hsystem'⟩ := Prod.mk.inj (hlf hbytes')
    rw [hsystem, hsystem'] at heffects
    exact hiff.mp heffects
  · intro h crlf lf hreads hreads'
    obtain ⟨hpending, hsystem⟩ := Prod.mk.inj (hcrlf hreads)
    obtain ⟨hpending', hsystem'⟩ := Prod.mk.inj (hlf hreads')
    rw [hsame h] at hsystem
    exact ⟨by rw [hsystem, hsystem'], hpending.trans hpending'.symm, by rw [hsystem, hsystem']⟩

/-- Blank lines do what one of them does, or nothing if there is none. -/
theorem final_parse_blanks {blanks : Bytes} (hblanks : ∀ ch ∈ blanks, Ends ch) (s : System) :
    ∃ s', final parse ([], s) blanks = ([], s') ∧ (s' = s ∨ s' = blank s) := by
  induction blanks generalizing s with
  | nil => exact ⟨s, rfl, .inl rfl⟩
  | cons ch blanks ih =>
    have hend := hblanks ch List.mem_cons_self
    have hline := final_parse_line [] (by simp) hend s
    rw [List.nil_append, enter_blank] at hline
    obtain ⟨s', hfinal, hs'⟩ := ih (fun c hc => hblanks c (List.mem_cons_of_mem _ hc)) (blank s)
    rw [blank_blank, or_self] at hs'
    refine ⟨s', ?_, .inr hs'⟩
    rw [← List.singleton_append, final_append, hline, hfinal]

private theorem settle_world : s.settle.world = s.world.setFlag .emergency_stop_flag false := by
  unfold System.settle
  rw [delete_world, run_clear]

private theorem blank_lines_quiet_iff (hc : c.AtBoundary) :
    BlankLinesQuiet c ↔ c.system.world.flag .emergency_stop_flag = false := by
  constructor
  · intro h
    have hends : ∀ ch ∈ [LF], Ends ch := by simp [Ends]
    have hbytes := delivers_bytes hc.indexed hc.contents [LF]
    have hflag := (h [LF] _ hends hbytes).1
    have habstract := hbytes.outcome hc.indexed
    have hline := final_parse_line [] (by simp) (Or.inr (rfl : LF = LF)) c.system
    rw [List.nil_append, enter_blank, blank_running hc.running] at hline
    rw [hc.abstract, hline] at habstract
    obtain ⟨-, hsystem⟩ := Prod.mk.inj habstract
    rw [hsystem] at hflag
    rw [← hflag, settle_flag]
  · intro hflag blanks reads hblanks hreads
    have habstract := hreads.outcome hc.indexed
    obtain ⟨s', hfinal, hs'⟩ := final_parse_blanks hblanks c.system
    rw [hc.abstract, hfinal] at habstract
    obtain ⟨-, hsystem⟩ := Prod.mk.inj habstract
    have hworld : s'.world = c.system.world := by
      obtain rfl | rfl := hs'
      · rfl
      · rw [blank_running hc.running, settle_world, setFlag_of_eq hflag]
    rw [hsystem, hworld]
    exact ⟨rfl, rfl⟩

/-- Line endings are equivalent if and only if no command shows that a blank line came before
it, and blank lines are without effect if and only if no emergency stop is in force. -/
theorem console_line_endings (c : Console) (hc : c.AtBoundary) (lines : List Bytes)
    (hlines : ∀ line ∈ lines, ∀ ch ∈ line, ¬ Ends ch) :
    (EndingsEquivalent c lines ↔ EndingsAgree c.system lines) ∧
      (BlankLinesQuiet c ↔ c.system.world.flag .emergency_stop_flag = false) :=
  ⟨endings_equivalent_iff hc hlines, blank_lines_quiet_iff hc⟩

private theorem boot_at_boundary (buffer : Vector UInt8 RX_BUF_SIZE) :
    (Console.boot buffer .boot).AtBoundary := ⟨boot_indexed _ _, init_contents _, rfl, rfl⟩

/-- A plate command, a blank line, an emergency stop, and a command that takes it back. -/
def stop_taken_back : List Bytes := [ascii "a", [], ascii "z", ascii "b"]

theorem console_line_endings_of_plate_command :
    EndingsEquivalent (.boot (.replicate RX_BUF_SIZE 0) .boot) stop_taken_back ∧
      BlankLinesQuiet (.boot (.replicate RX_BUF_SIZE 0) .boot) := by
  obtain ⟨hendings, hblank⟩ := console_line_endings (.boot (.replicate RX_BUF_SIZE 0) .boot)
    (boot_at_boundary _) stop_taken_back (by simp [stop_taken_back, ascii, Ends, CR, LF])
  have hplate : status_after true ⟨false, false⟩ (ascii "a") = some ⟨false, false⟩ := by decide
  have hblank_line : line_command [] = some (ascii "\n") ∧ kind (ascii "\n") = .other := by decide
  have hstop : line_command (ascii "z") = some (ascii "z\n") ∧ kind (ascii "z\n") = .stop := by decide
  have hback : line_command (ascii "b") = some (ascii "b\n") ∧ kind (ascii "b\n") = .other := by decide
  refine ⟨hendings.mpr ?_, hblank.mpr rfl⟩
  change Harmless true (status_after true ⟨false, false⟩ (ascii "a")) [[], ascii "z", ascii "b"]
  rw [hplate]
  have hlast : Harmless true (some ⟨true, false⟩) [ascii "b"] := .cons hback.1 (hback.2 ▸ trivial) (hback.2 ▸ rfl)
  have hrest : Harmless true (some ⟨false, false⟩) [ascii "z", ascii "b"] :=
    .cons hstop.1 (hstop.2 ▸ rfl) (hstop.2 ▸ hlast)
  exact .cons hblank_line.1 (hblank_line.2 ▸ trivial) (hblank_line.2 ▸ hrest)

/-- The LF of a stop that ends in CR LF takes the stop back. -/
theorem crlf_takes_back_emergency_stop :
    ¬ ∀ lines, (∀ line ∈ lines, ∀ ch ∈ line, ¬ Ends ch) →
      EndingsEquivalent (.boot (.replicate RX_BUF_SIZE 0) .boot) lines := by
  intro h
  have hsame := h [ascii "z"] (by simp [ascii, Ends, CR, LF]) [ascii "z\r\n"] [ascii "z\n"]
    (.inl (by decide +kernel)) (.inl (by decide +kernel))
  have hcrlf : (final uart_process (.boot (.replicate RX_BUF_SIZE 0) .boot)
    [ascii "z\r\n"]).system.world.flag .emergency_stop_flag = false := by decide +kernel
  have hlf : (final uart_process (.boot (.replicate RX_BUF_SIZE 0) .boot)
    [ascii "z\n"]).system.world.flag .emergency_stop_flag = true := by decide +kernel
  have hflag := hsame.flag
  rw [hcrlf, hlf] at hflag
  cases hflag

end catbox.console
