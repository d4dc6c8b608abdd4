import CatLitterBox.Text.CString
import Mathlib.Data.List.Induction

open text

namespace base64

/-- The digit for six bits. -/
def digit (n : Nat) : UInt8 :=
  if n < 26 then (n + 65).toUInt8
  else if n < 52 then (n + 71).toUInt8
  else if n < 62 then (n - 4).toUInt8
  else if n = 62 then 43
  else 47

/-- The six bits of a digit. -/
def sextet (c : UInt8) : Option Nat :=
  if 65 ≤ c ∧ c ≤ 90 then some (c.toNat - 65)
  else if 97 ≤ c ∧ c ≤ 122 then some (c.toNat - 71)
  else if 48 ≤ c ∧ c ≤ 57 then some (c.toNat + 4)
  else if c = 43 then some 62
  else if c = 47 then some 63
  else none

/-- Four digits for three bytes, the last four filled up with `=`. -/
def encode : Bytes → Bytes
  | [] => []
  | [a] => [digit (a.toNat / 4), digit (a.toNat % 4 * 16), 61, 61]
  | [a, b] => [digit (a.toNat / 4), digit (a.toNat % 4 * 16 + b.toNat / 16), digit (b.toNat % 16 * 4), 61]
  | a :: b :: c :: rest =>
    digit (a.toNat / 4) :: digit (a.toNat % 4 * 16 + b.toNat / 16) ::
      digit (b.toNat % 16 * 4 + c.toNat / 64) :: digit (c.toNat % 64) :: encode rest

def decode : Bytes → Option Bytes
  | [] => some []
  | a :: b :: c :: d :: rest => do
    let p ← sextet a
    let q ← sextet b
    if c = 61 ∧ d = 61 ∧ rest = [] then some [(p * 4 + q / 16).toUInt8]
    else
      let r ← sextet c
      if d = 61 ∧ rest = [] then some [(p * 4 + q / 16).toUInt8, (q % 16 * 16 + r / 4).toUInt8]
      else
        let s ← sextet d
        let more ← decode rest
        some ((p * 4 + q / 16).toUInt8 :: (q % 16 * 16 + r / 4).toUInt8 :: (r % 4 * 64 + s).toUInt8 :: more)
  | _ => none

theorem sextet_digit : ∀ n < 64, sextet (digit n) = some n := by decide

/-- A digit is a visible character that JSON need not escape, and no `=`. -/
theorem digit_plain : ∀ n < 64, 32 < digit n ∧ digit n ≠ 34 ∧ digit n ≠ 92 ∧ digit n ≠ 61 := by decide

theorem toUInt8_of_eq {n : Nat} {a : UInt8} (h : n = a.toNat) : n.toUInt8 = a := by
  rw [h]
  exact UInt8.ofNat_toNat

/-- What is encoded is decoded. -/
theorem decode_encode (bytes : Bytes) : decode (encode bytes) = some bytes := by
  induction bytes using encode.induct with
  | case1 => rfl
  | case2 a =>
    have ha := a.toNat_lt
    rw [encode, decode, sextet_digit _ (by omega), sextet_digit _ (by omega)]
    simp only [Option.bind_eq_bind, Option.bind_some, and_self, if_true]
    rw [toUInt8_of_eq (by omega : a.toNat / 4 * 4 + a.toNat % 4 * 16 / 16 = a.toNat)]
  | case3 a b =>
    have ha := a.toNat_lt
    have hb := b.toNat_lt
    have hlast := digit_plain (b.toNat % 16 * 4) (by omega)
    rw [encode, decode, sextet_digit _ (by omega), sextet_digit _ (by omega), sextet_digit _ (by omega)]
    simp only [Option.bind_eq_bind, Option.bind_some, hlast.2.2.2, false_and, if_false, and_self, if_true]
    rw [toUInt8_of_eq (by omega : a.toNat / 4 * 4 + (a.toNat % 4 * 16 + b.toNat / 16) / 16 = a.toNat),
      toUInt8_of_eq (by omega : (a.toNat % 4 * 16 + b.toNat / 16) % 16 * 16 + b.toNat % 16 * 4 / 4 = b.toNat)]
  | case4 a b c rest ih =>
    have ha := a.toNat_lt
    have hb := b.toNat_lt
    have hc := c.toNat_lt
    have hthird := digit_plain (b.toNat % 16 * 4 + c.toNat / 64) (by omega)
    have hfourth := digit_plain (c.toNat % 64) (by omega)
    rw [encode, decode, sextet_digit _ (by omega), sextet_digit _ (by omega), sextet_digit _ (by omega),
      sextet_digit _ (by omega), ih]
    simp only [Option.bind_eq_bind, Option.bind_some, hthird.2.2.2, hfourth.2.2.2, false_and, if_false]
    rw [toUInt8_of_eq (by omega : a.toNat / 4 * 4 + (a.toNat % 4 * 16 + b.toNat / 16) / 16 = a.toNat),
      toUInt8_of_eq (by omega :
        (a.toNat % 4 * 16 + b.toNat / 16) % 16 * 16 + (b.toNat % 16 * 4 + c.toNat / 64) / 4 = b.toNat),
      toUInt8_of_eq (by omega : (b.toNat % 16 * 4 + c.toNat / 64) % 4 * 64 + c.toNat % 64 = c.toNat)]

/-- Four characters stand for three bytes at most. -/
theorem decode_length {text bytes : Bytes} (h : decode text = some bytes) :
    bytes.length ≤ text.length / 4 * 3 := by
  induction text using decode.induct generalizing bytes with
  | case1 =>
    obtain rfl := Option.some.inj h
    exact Nat.zero_le _
  | case2 a b c d rest ih =>
    simp only [decode, Option.bind_eq_bind, Option.bind_eq_some_iff] at h
    obtain ⟨p, -, q, -, h⟩ := h
    have hmore : (rest.length + 4) / 4 * 3 = rest.length / 4 * 3 + 3 := by omega
    simp only [List.length_cons, hmore]
    split at h
    · obtain rfl := Option.some.inj h
      simp
    · obtain ⟨r, -, h⟩ := Option.bind_eq_some_iff.mp h
      split at h
      · obtain rfl := Option.some.inj h
        simp
      · simp only [Option.bind_eq_some_iff] at h
        obtain ⟨s, -, more, hdecode, h⟩ := h
        obtain rfl := Option.some.inj h
        have hlength := ih hdecode
        simp only [List.length_cons]
        omega
  | case3 text hnil hshort =>
    rw [decode] at h
    · cases h
    · exact hnil
    · exact hshort

/-- Four characters stand for every three bytes, the last ones filled up. -/
theorem encode_length (bytes : Bytes) : (encode bytes).length = 4 * ((bytes.length + 2) / 3) := by
  induction bytes using encode.induct with
  | case1 => rfl
  | case2 a => simp [encode]
  | case3 a b => simp [encode]
  | case4 a b c rest ih =>
    rw [encode]
    simp only [List.length_cons, ih]
    omega

/-- No character of an encoding is white space, a quote or a backslash, so it needs no escape in a
JSON string. -/
theorem encode_plain {bytes : Bytes} {c : UInt8} (h : c ∈ encode bytes) : 32 < c ∧ c ≠ 34 ∧ c ≠ 92 := by
  have hdigit (n : Nat) (hn : n < 64) : 32 < digit n ∧ digit n ≠ 34 ∧ digit n ≠ 92 :=
    ⟨(digit_plain n hn).1, (digit_plain n hn).2.1, (digit_plain n hn).2.2.1⟩
  induction bytes using encode.induct with
  | case1 => exact absurd h List.not_mem_nil
  | case2 a =>
    have ha := a.toNat_lt
    simp only [encode, List.mem_cons, List.not_mem_nil, or_false] at h
    rcases h with rfl | rfl | rfl | rfl
    · exact hdigit _ (by omega)
    · exact hdigit _ (by omega)
    all_goals decide
  | case3 a b =>
    have ha := a.toNat_lt
    have hb := b.toNat_lt
    simp only [encode, List.mem_cons, List.not_mem_nil, or_false] at h
    rcases h with rfl | rfl | rfl | rfl
    · exact hdigit _ (by omega)
    · exact hdigit _ (by omega)
    · exact hdigit _ (by omega)
    · decide
  | case4 a b c rest ih =>
    have ha := a.toNat_lt
    have hb := b.toNat_lt
    have hc := c.toNat_lt
    simp only [encode, List.mem_cons] at h
    rcases h with rfl | rfl | rfl | rfl | h
    · exact hdigit _ (by omega)
    · exact hdigit _ (by omega)
    · exact hdigit _ (by omega)
    · exact hdigit _ (by omega)
    · exact ih h

end base64
