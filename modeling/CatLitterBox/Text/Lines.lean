import Mathlib.Data.List.Basic

namespace text

universe u

variable {α : Type u} {sep : α}

/-- The lines, each with its separator behind it. -/
def terminated (sep : α) (lines : List (List α)) : List α := lines.flatMap (· ++ [sep])

/-- A stream consists of complete lines and an unfinished one. -/
structure Lines (sep : α) (stream : List α) (lines : List (List α)) (rest : List α) : Prop where
  stream_eq : stream = terminated sep lines ++ rest
  line : ∀ line ∈ lines, sep ∉ line
  unfinished : sep ∉ rest

variable {stream more line rest rest' : List α} {lines lines' : List (List α)}

/-- Each line and its end. -/
theorem terminated_cons : terminated sep (line :: lines) = line ++ sep :: terminated sep lines := by
  simp [terminated]

/-- The lines of two lists follow each other. -/
theorem terminated_append :
    terminated sep (lines ++ lines') = terminated sep lines ++ terminated sep lines' := by
  simp [terminated]

/-- A line is shorter than its stream. -/
theorem Lines.line_length_lt (h : Lines sep stream lines rest) (hline : line ∈ lines) :
    line.length < stream.length := by
  obtain ⟨before, after, rfl⟩ := List.append_of_mem hline
  rw [h.stream_eq, terminated_append, terminated_cons]
  simp only [List.length_append, List.length_cons]
  omega

/-- A stream without a line end is one unfinished line. -/
theorem Lines.of_not_mem (h : sep ∉ stream) : Lines sep stream [] stream := ⟨rfl, by simp, h⟩

/-- A line in front of a stream is the first of its lines. -/
theorem Lines.cons (hline : sep ∉ line) (h : Lines sep stream lines rest) :
    Lines sep (line ++ sep :: stream) (line :: lines) rest := by
  obtain ⟨hstream, hlines, hrest⟩ := h
  constructor
  · rw [terminated_cons, hstream, List.append_assoc, List.cons_append]
  · intro l hl
    obtain rfl | hl := List.mem_cons.mp hl
    · exact hline
    · exact hlines l hl
  · exact hrest

/-- What follows is split together with the unfinished line. -/
theorem Lines.append (h : Lines sep stream lines rest) (hmore : Lines sep (rest ++ more) lines' rest') :
    Lines sep (stream ++ more) (lines ++ lines') rest' := by
  obtain ⟨hstream, hlines, -⟩ := h
  obtain ⟨hmore, hlines', hrest'⟩ := hmore
  constructor
  · rw [hstream, List.append_assoc, hmore, terminated_append, List.append_assoc]
  · intro l hl
    obtain hl | hl := List.mem_append.mp hl
    · exact hlines l hl
    · exact hlines' l hl
  · exact hrest'

/-- Bytes without a separator belong to the unfinished line. -/
theorem Lines.append_rest (h : Lines sep stream lines rest) (hmore : sep ∉ more) :
    Lines sep (stream ++ more) lines (rest ++ more) := by
  have hrest : sep ∉ rest ++ more := by
    rw [List.mem_append, not_or]
    exact ⟨h.unfinished, hmore⟩
  have happend := h.append (Lines.of_not_mem hrest)
  rwa [List.append_nil] at happend

/-- Every stream can be cut into lines and a rest. -/
theorem exists_lines (sep : α) (stream : List α) : ∃ lines rest, Lines sep stream lines rest := by
  induction stream with
  | nil => exact ⟨[], [], Lines.of_not_mem (by simp)⟩
  | cons x stream ih =>
    obtain ⟨lines, rest, hlines⟩ := ih
    by_cases hx : x = sep
    · subst hx
      have hempty : x ∉ ([] : List α) := List.not_mem_nil
      exact ⟨[] :: lines, rest, hlines.cons hempty⟩
    · obtain ⟨hstream, hline, hrest⟩ := hlines
      cases lines with
      | nil =>
        have hwhole : sep ∉ x :: stream := by
          rw [hstream]
          simpa [terminated, Ne.symm hx] using hrest
        exact ⟨[], _, Lines.of_not_mem hwhole⟩
      | cons line lines =>
        refine ⟨(x :: line) :: lines, rest, ?_, ?_, hrest⟩
        · rw [hstream, terminated_cons, terminated_cons]
          rfl
        · intro l hl
          obtain rfl | hl := List.mem_cons.mp hl
          · simpa [Ne.symm hx] using hline line List.mem_cons_self
          · exact hline l (List.mem_cons_of_mem _ hl)

/-- The first separator of a stream ends its first line. -/
theorem first_line_unique {line line' tail tail' : List α} (hline : sep ∉ line) (hline' : sep ∉ line')
    (heq : line ++ sep :: tail = line' ++ sep :: tail') : line = line' ∧ tail = tail' := by
  induction line generalizing line' with
  | nil =>
    cases line' with
    | nil =>
      rw [List.nil_append, List.nil_append] at heq
      exact ⟨rfl, (List.cons.inj heq).2⟩
    | cons y line' =>
      have hhead : sep = y := (List.cons.inj heq).1
      exact absurd (hhead ▸ List.mem_cons_self) hline'
  | cons x line ih =>
    cases line' with
    | nil =>
      have hhead : x = sep := (List.cons.inj heq).1
      exact absurd (hhead ▸ List.mem_cons_self) hline
    | cons y line' =>
      obtain ⟨rfl, htail⟩ := List.cons.inj heq
      have hih := ih (fun hmem => hline (List.mem_cons_of_mem _ hmem))
          (fun hmem => hline' (List.mem_cons_of_mem _ hmem)) htail
      exact ⟨by rw [hih.1], hih.2⟩

/-- A stream is split in one way only. -/
theorem Lines.unique (h : Lines sep stream lines rest) (h' : Lines sep stream lines' rest') :
    lines = lines' ∧ rest = rest' := by
  induction lines generalizing stream lines' with
  | nil =>
    have hstream : stream = rest := h.stream_eq
    cases lines' with
    | nil => exact ⟨rfl, hstream.symm.trans h'.stream_eq⟩
    | cons line' lines' =>
      have hmem : sep ∈ rest := by
        rw [← hstream, h'.stream_eq, terminated_cons]
        simp
      exact absurd hmem h.unfinished
  | cons line lines ih =>
    cases lines' with
    | nil =>
      have hmem : sep ∈ rest' := by
        rw [show rest' = stream from h'.stream_eq.symm, h.stream_eq, terminated_cons]
        simp
      exact absurd hmem h'.unfinished
    | cons line' lines' =>
      have heq := h.stream_eq.symm.trans h'.stream_eq
      rw [terminated_cons, terminated_cons, List.append_assoc, List.append_assoc, List.cons_append,
        List.cons_append] at heq
      have hline : sep ∉ line := h.line line List.mem_cons_self
      have hline' : sep ∉ line' := h'.line line' List.mem_cons_self
      obtain ⟨rfl, htail⟩ := first_line_unique hline hline' heq
      have hlater : Lines sep (terminated sep lines ++ rest) lines rest :=
        ⟨rfl, fun l hl => h.line l (List.mem_cons_of_mem _ hl), h.unfinished⟩
      have hrest := ih hlater ⟨htail, fun l hl => h'.line l (List.mem_cons_of_mem _ hl), h'.unfinished⟩
      exact ⟨by rw [hrest.1], hrest.2⟩

end text
