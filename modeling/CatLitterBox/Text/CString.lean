import Mathlib.Data.List.Basic

namespace text

/-- Text as the bytes of a C string, without its NUL. -/
abbrev Bytes := List UInt8

/-- A string literal of ASCII characters. -/
def ascii (s : String) : Bytes := s.toList.map fun c => c.toNat.toUInt8

/-- What a C function reads of an array that holds a string. -/
def cstring (array : Bytes) : Bytes := array.takeWhile (· ≠ 0)

/-- Bytes without a zero precede the string that follows them. -/
theorem cstring_append {text : Bytes} (h : 0 ∉ text) (more : Bytes) :
    cstring (text ++ more) = text ++ cstring more := by
  induction text with
  | nil => rfl
  | cons c text ih =>
    rw [List.mem_cons, not_or] at h
    have hc : c ≠ 0 := Ne.symm h.1
    rw [List.cons_append, cstring, List.takeWhile_cons_of_pos (by simpa using hc)]
    exact congrArg (c :: ·) (ih h.2)

/-- A zero ends the string. -/
theorem cstring_of_nul {text more : Bytes} (h : 0 ∉ text) : cstring (text ++ 0 :: more) = text := by
  rw [cstring_append h]
  exact List.append_nil text

/-- Nothing behind a NUL is read. -/
theorem cstring_nul (text more : Bytes) : cstring (text ++ 0 :: more) = cstring text := by
  induction text with
  | nil => rfl
  | cons c text ih =>
    unfold cstring at ih ⊢
    rw [List.cons_append, List.takeWhile_cons, List.takeWhile_cons, ih]

/-- What comes behind a zero does not matter. -/
theorem cstring_append_of_mem {text : Bytes} (h : 0 ∈ text) (more : Bytes) :
    cstring (text ++ more) = cstring text := by
  obtain ⟨before, after, rfl⟩ := List.append_of_mem h
  rw [List.append_assoc, List.cons_append, cstring_nul, cstring_nul]

/-- A string is shorter than the buffer by its zero at least. -/
theorem cstring_length_lt {text : Bytes} (h : 0 ∈ text) : (cstring text).length < text.length := by
  obtain ⟨before, after, rfl⟩ := List.append_of_mem h
  have hle : (cstring before).length ≤ before.length := (List.takeWhile_prefix _).length_le
  rw [cstring_nul, List.length_append, List.length_cons]
  omega

/-- Without a zero the string is the whole buffer. -/
theorem cstring_of_not_mem {text : Bytes} (h : 0 ∉ text) : cstring text = text := by
  have happend := cstring_append h []
  rwa [List.append_nil, show cstring [] = [] from rfl, List.append_nil] at happend

/-- A string is empty where the buffer is, or begins with a zero. -/
theorem cstring_eq_nil_iff {text : Bytes} : cstring text = [] ↔ text = [] ∨ text.head? = some 0 := by
  cases text with
  | nil => simp [cstring]
  | cons c text => simp [cstring, List.takeWhile_cons]

/-- `strncmp`, of the first `n` bytes of two arrays: the difference of the first bytes that differ. -/
def strncmp : Bytes → Bytes → Nat → Int
  | c :: a, d :: b, n + 1 => if c ≠ d then c.toNat - d.toNat else if c = 0 then 0 else strncmp a b n
  | _, _, _ => 0

/-- Buffers of the length compared are equal for `strncmp` exactly when they hold one string. -/
theorem strncmp_eq_zero {a b : Bytes} {n : Nat} (ha : a.length = n) (hb : b.length = n) :
    strncmp a b n = 0 ↔ cstring a = cstring b := by
  induction n generalizing a b with
  | zero =>
    rw [List.eq_nil_of_length_eq_zero ha, List.eq_nil_of_length_eq_zero hb]
    simp [strncmp]
  | succ n ih =>
    cases a with
    | nil => cases ha
    | cons c a =>
      cases b with
      | nil => cases hb
      | cons d b =>
        unfold strncmp cstring
        rw [List.takeWhile_cons, List.takeWhile_cons]
        by_cases hcd : c = d
        · subst hcd
          by_cases hc : c = 0
          · simp [hc]
          · simpa [hc, cstring] using ih (Nat.succ.inj ha) (Nat.succ.inj hb)
        · have hbytes : c.toNat ≠ d.toNat := fun h => hcd (UInt8.toNat_inj.mp h)
          rw [if_pos hcd]
          constructor
          · intro h
            omega
          · intro h
            by_cases hc : c = 0 <;> by_cases hd : d = 0 <;> simp_all

/-- `memcpy` into an array, at an offset. -/
def memcpy (array : Bytes) (offset : Nat) (data : Bytes) : Bytes :=
  array.take offset ++ data ++ array.drop (offset + data.length)

/-- An array of zeros. -/
def zeros (size : Nat) : Bytes := List.replicate size 0

/-- An array that holds some text and is zero behind it. -/
def holding (size : Nat) (text : Bytes) : Bytes := text ++ zeros (size - text.length)

theorem holding_nil (size : Nat) : holding size [] = zeros size := by simp [holding]

/-- A buffer ends a string if it is longer than the text, or the text has a zero itself. -/
theorem zero_mem_holding {size : Nat} {text : Bytes} :
    0 ∈ holding size text ↔ text.length < size ∨ 0 ∈ text := by
  unfold holding zeros
  rw [List.mem_append, List.mem_replicate, or_comm]
  have hroom : size - text.length ≠ 0 ↔ text.length < size := by omega
  rw [hroom, and_iff_left rfl]

/-- A buffer holds the string of its text. -/
theorem cstring_holding (size : Nat) (text : Bytes) : cstring (holding size text) = cstring text := by
  unfold holding zeros
  cases size - text.length with
  | zero => rw [List.replicate_zero, List.append_nil]
  | succ n => rw [List.replicate_succ, cstring_nul]

/-- A text that fits leaves the buffer as long as it is. -/
theorem holding_length {size : Nat} {text : Bytes} (h : text.length ≤ size) :
    (holding size text).length = size := by
  unfold holding zeros
  rw [List.length_append, List.length_replicate]
  omega

/-- What is copied behind the text of an array extends the text. -/
theorem memcpy_holding {size : Nat} {text data : Bytes} (h : text.length + data.length ≤ size) :
    memcpy (holding size text) text.length data = holding size (text ++ data) := by
  have hdrop : (holding size text).drop (text.length + data.length) =
      zeros (size - (text ++ data).length) := by
    unfold holding zeros
    rw [List.drop_append, List.drop_eq_nil_of_le (by omega), List.nil_append,
      List.drop_replicate, List.length_append]
    congr 1
    omega
  have htake : (holding size text).take text.length = text := List.take_left
  unfold memcpy
  rw [htake, hdrop]
  rfl

end text
