import CatLitterBox.Text.CString

namespace text

/-- In the C locale. -/
def isspace (c : UInt8) : Bool := c == 32 || (9 ≤ c && c ≤ 13)

def isdigit (c : UInt8) : Bool := 48 ≤ c && c ≤ 57

def skip_space (s : Bytes) : Bytes := s.dropWhile isspace

/-- `%s` with a width: the word, and what follows it. -/
def scan_word (width : Nat) (s : Bytes) : Option (Bytes × Bytes) :=
  let word := ((skip_space s).take width).takeWhile (!isspace ·)
  if word = [] then none else some (word, (skip_space s).drop word.length)

/-- The number that some digits stand for. -/
def decimal (digits : Bytes) : Nat := digits.foldl (fun n c => 10 * n + (c.toNat - 48)) 0

/-- The nearest number that an `int` has room for. -/
def saturate (n : Int) : Int :=
  if n < -0x80000000 then -0x80000000 else if 0x7fffffff < n then 0x7fffffff else n

/-- How many characters the sign takes. -/
def sign_length (s : Bytes) : Nat := if s.head? = some 43 ∨ s.head? = some 45 then 1 else 0

/-- `%d`: the number, and what follows it. -/
def scan_int (s : Bytes) : Option (Int × Bytes) :=
  let s := skip_space s
  let digits := (s.drop (sign_length s)).takeWhile isdigit
  let n := decimal digits
  if digits = [] then none
  else some (saturate (if s.head? = some 45 then -n else n), s.drop (sign_length s + digits.length))

variable {s : Bytes} {c : UInt8}

/-- Where the last character is not wanted, it is not taken. -/
theorem takeWhile_append_of_stop {p : UInt8 → Bool} (hc : p c = false) :
    (s ++ [c]).takeWhile p = s.takeWhile p := by
  rw [List.takeWhile_append]
  split_ifs with hall
  · rw [List.takeWhile_cons_of_neg (by simp [hc]), List.append_nil]
    have hlength := (List.takeWhile_prefix p).eq_of_length hall
    exact hlength.symm
  · rfl

theorem skip_space_append (hc : isspace c = true) :
    skip_space (s ++ [c]) = if skip_space s = [] then [] else skip_space s ++ [c] := by
  unfold skip_space
  rw [List.dropWhile_append]
  simp [hc, List.isEmpty_iff]

/-- A space behind the text changes no word. -/
theorem scan_word_append (width : Nat) (hc : isspace c = true) :
    scan_word width (s ++ [c]) = (scan_word width s).map fun r => (r.1, r.2 ++ [c]) := by
  have hstop : (!isspace c) = false := by simp [hc]
  unfold scan_word
  rw [skip_space_append hc]
  by_cases hempty : skip_space s = []
  · simp [hempty]
  · have hword : ((skip_space s ++ [c]).take width).takeWhile (!isspace ·) =
        ((skip_space s).take width).takeWhile (!isspace ·) := by
      rw [List.take_append]
      obtain hlt | hle := Nat.lt_or_ge (skip_space s).length width
      · rw [List.take_of_length_le (l := [c]) (by simp; omega)]
        exact takeWhile_append_of_stop hstop
      · rw [Nat.sub_eq_zero_of_le hle, List.take_zero, List.append_nil]
    rw [if_neg hempty]
    simp only [hword]
    split_ifs with hnone
    · rfl
    · have hle : (((skip_space s).take width).takeWhile (!isspace ·)).length ≤ (skip_space s).length :=
        Nat.le_trans (List.takeWhile_prefix _).length_le (List.length_take_le' _ _)
      rw [List.drop_append_of_le_length hle, Option.map_some]

/-- A space behind the text changes no number. -/
theorem scan_int_append (hc : isspace c = true) :
    scan_int (s ++ [c]) = (scan_int s).map fun r => (r.1, r.2 ++ [c]) := by
  have hstop : isdigit c = false := by
    simp only [isspace, isdigit, Bool.or_eq_true, beq_iff_eq, Bool.and_eq_true, decide_eq_true_eq] at hc ⊢
    rw [Bool.and_eq_false_iff, decide_eq_false_iff_not, UInt8.not_le]
    left
    obtain rfl | ⟨-, hle⟩ := hc
    · decide
    · exact UInt8.lt_of_le_of_lt hle (by decide)
  unfold scan_int
  rw [skip_space_append hc]
  by_cases hempty : skip_space s = []
  · simp [hempty]
  · have hhead : (skip_space s ++ [c]).head? = (skip_space s).head? := by
      rw [List.head?_append, List.head?_eq_some_head hempty]
      rfl
    have hsign : sign_length (skip_space s ++ [c]) = sign_length (skip_space s) := by
      unfold sign_length
      rw [hhead]
    have hsize : sign_length (skip_space s) ≤ (skip_space s).length := by
      have hpos := List.length_pos_of_ne_nil hempty
      unfold sign_length
      split_ifs
      · exact hpos
      · omega
    have hdigits : ((skip_space s ++ [c]).drop (sign_length (skip_space s))).takeWhile isdigit =
        ((skip_space s).drop (sign_length (skip_space s))).takeWhile isdigit := by
      rw [List.drop_append_of_le_length hsize]
      exact takeWhile_append_of_stop hstop
    rw [if_neg hempty]
    simp only [hhead, hsign, hdigits]
    split_ifs with hnone
    · rfl
    all_goals
      have hprefix := (List.takeWhile_prefix (l := (skip_space s).drop (sign_length (skip_space s)))
        isdigit).length_le
      rw [List.length_drop] at hprefix
      rw [List.drop_append_of_le_length (by omega), Option.map_some]

end text
