import CatLitterBox.Text.CString
import CatLitterBox.Text.Lines

open text

namespace catbox.sensor

/-- The line before the first '\n' within the limit, and its length with the '\n'; `none`
for the result -1. -/
def get_line (buf : Bytes) (limit : Nat) : Option (Bytes × Nat) :=
  let i := (buf.take limit).idxOf 10
  if limit ≤ i then none else some (buf.take i, i + 1)

/-- The loop of `sensor_data_parser` over the rest of the copied text: the lines that it
dispatches and the characters that it uses. Each turn consumes a character or more, so that
the number of characters bounds the turns. -/
def parser_loop : (turns : Nat) → (ptr : Bytes) → List Bytes × Nat
  | 0, _ => ([], 0)
  | turns + 1, ptr =>
    match get_line ptr ptr.length with
    | none => ([], 0)
    | some (str, idx) =>
      let (strs, used) := parser_loop turns (ptr.drop idx)
      (str :: strs, idx + used)

/-- The lines that `sensor_data_parser` dispatches, and its result `total_used_chars`. -/
def sensor_data_parse (input : Bytes) : List Bytes × Nat :=
  let buf := cstring input
  if buf.length = 0 then ([], 0) else parser_loop buf.length buf

variable {buf : Bytes}

private theorem get_line_none (h : get_line buf buf.length = none) : 10 ∉ buf := by
  unfold get_line at h
  simp only [List.take_length] at h
  split_ifs at h with hlimit
  exact List.idxOf_eq_length_iff.mp (Nat.le_antisymm List.idxOf_le_length hlimit)

private theorem get_line_some {str : Bytes} {idx : Nat} (h : get_line buf buf.length = some (str, idx)) :
    10 ∉ str ∧ buf = str ++ 10 :: buf.drop idx ∧ idx = str.length + 1 := by
  unfold get_line at h
  simp only [List.take_length] at h
  split_ifs at h with hlimit
  obtain ⟨rfl, rfl⟩ : buf.take (buf.idxOf 10) = str ∧ buf.idxOf 10 + 1 = idx := by simpa using h
  rw [Nat.not_le] at hlimit
  have hget : buf[buf.idxOf 10] = 10 := List.getElem_idxOf hlimit
  refine ⟨?_, ?_, ?_⟩
  · intro hmem
    obtain ⟨i, hi, hten⟩ := List.mem_iff_getElem.mp hmem
    rw [List.length_take] at hi
    rw [List.getElem_take] at hten
    have hi' : i < buf.findIdx (· == 10) := by
      unfold List.idxOf at hi
      omega
    have hbefore := List.not_of_lt_findIdx hi'
    simp [hten] at hbefore
  · have hdrop := List.drop_eq_getElem_cons hlimit
    rw [hget] at hdrop
    rw [← hdrop]
    exact (List.take_append_drop _ _).symm
  · rw [List.length_take]
    omega

/-- With a turn for each character the loop dispatches the lines of the text and uses all but
the unfinished one. -/
theorem parser_loop_spec (turns : Nat) (ptr : Bytes) (h : ptr.length ≤ turns) :
    ∃ rest, Lines 10 ptr (parser_loop turns ptr).1 rest ∧
    (parser_loop turns ptr).2 + rest.length = ptr.length := by
  induction turns generalizing ptr with
  | zero =>
    have hnil : ptr = [] := List.length_eq_zero_iff.mp (by omega)
    subst hnil
    exact ⟨[], Lines.of_not_mem (by simp), rfl⟩
  | succ turns ih =>
    unfold parser_loop
    cases hline : get_line ptr ptr.length with
    | none => exact ⟨ptr, Lines.of_not_mem (get_line_none hline), by simp⟩
    | some result =>
      obtain ⟨str, idx⟩ := result
      obtain ⟨hstr, hptr, hidx⟩ := get_line_some hline
      have hlength : ptr.length = str.length + 1 + (ptr.drop idx).length := by
        have heq := congrArg List.length hptr
        rw [List.length_append, List.length_cons] at heq
        omega
      obtain ⟨rest, hlines, hused⟩ := ih (ptr.drop idx) (by omega)
      refine ⟨rest, ?_, ?_⟩
      · have hcons := hlines.cons hstr
        rwa [← hptr] at hcons
      · simp only
        omega

/-- `sensor_data_parser` dispatches the lines of its input and uses all but the unfinished
one. -/
theorem sensor_data_parse_spec (input : Bytes) :
    ∃ rest, Lines 10 (cstring input) (sensor_data_parse input).1 rest ∧
      (sensor_data_parse input).2 + rest.length = (cstring input).length := by
  unfold sensor_data_parse
  simp only
  split_ifs with hempty
  · have hnil := List.length_eq_zero_iff.mp hempty
    rw [hnil]
    exact ⟨[], Lines.of_not_mem (by simp), rfl⟩
  · exact parser_loop_spec _ _ (Nat.le_refl _)

end catbox.sensor
