import Mathlib.Data.List.Basic
import Mathlib.Tactic.Ring

namespace varint

/-- A number in base 128, its lowest digit first: every byte but the last has its high bit set. -/
def encode (n : Nat) : List UInt8 :=
  if n < 128 then [.ofNat n] else .ofNat (n % 128 + 128) :: encode (n / 128)

/-- The number at the front of some bytes and how many of them it takes, or none where they end
before it does. -/
def decode : List UInt8 → Option (Nat × Nat)
  | [] => none
  | b :: bytes =>
    if b.toNat < 128 then some (b.toNat, 1)
    else (decode bytes).map fun (n, taken) => (b.toNat - 128 + 128 * n, taken + 1)

variable {n k taken : Nat} {b : UInt8} {bytes more : List UInt8}

/-- A number below 128 takes one byte, with the continuation bit clear. -/
theorem encode_of_lt (h : n < 128) : encode n = [.ofNat n] := by
  rw [encode, if_pos h]

/-- A larger number begins with its low seven bits and the continuation bit. -/
theorem encode_of_ge (h : 128 ≤ n) : encode n = .ofNat (n % 128 + 128) :: encode (n / 128) := by
  rw [encode, if_neg (Nat.not_lt.mpr h)]

/-- Zero takes a byte as well. -/
theorem encode_ne_nil (n : Nat) : encode n ≠ [] := by
  rw [encode]
  split_ifs
  · exact List.cons_ne_nil _ _
  · exact List.cons_ne_nil _ _

theorem toNat_ofNat (h : n < 256) : (UInt8.ofNat n).toNat = n := by
  rw [UInt8.toNat_ofNat', Nat.mod_eq_of_lt h]

/-- A byte below 128 ends the number. -/
theorem decode_of_last (h : b.toNat < 128) : decode (b :: bytes) = some (b.toNat, 1) := by
  rw [decode, if_pos h]

/-- A byte from 128 on adds its seven low bits to what follows. -/
theorem decode_of_more (h : 128 ≤ b.toNat) :
    decode (b :: bytes) = (decode bytes).map fun (n, taken) => (b.toNat - 128 + 128 * n, taken + 1) := by
  rw [decode, if_neg (Nat.not_lt.mpr h)]

/-- A number is read as it was written, whatever follows it. -/
theorem decode_encode (n : Nat) (more : List UInt8) :
    decode (encode n ++ more) = some (n, (encode n).length) := by
  induction n using Nat.strongRecOn with
  | ind n ih =>
    by_cases hn : n < 128
    · have hbyte : (UInt8.ofNat n).toNat = n := toNat_ofNat (by omega)
      rw [encode_of_lt hn, List.singleton_append, decode_of_last (by omega), hbyte]
      rfl
    · have hbyte : (UInt8.ofNat (n % 128 + 128)).toNat = n % 128 + 128 := toNat_ofNat (by omega)
      have hdigits : n % 128 + 128 - 128 + 128 * (n / 128) = n := by omega
      rw [encode_of_ge (by omega), List.cons_append, decode_of_more (by omega), ih (n / 128) (by omega),
        Option.map_some, hbyte, List.length_cons]
      simp only [hdigits]

/-- A number that was read took at least one byte, and fits into seven bits for each. -/
theorem decode_bounds (h : decode bytes = some (n, taken)) :
    0 < taken ∧ taken ≤ bytes.length ∧ n < 128 ^ taken := by
  induction bytes generalizing n taken with
  | nil => cases h
  | cons b bytes ih =>
    by_cases hb : b.toNat < 128
    · rw [decode_of_last hb] at h
      cases h
      exact ⟨Nat.one_pos, Nat.le_add_left .., by rwa [pow_one]⟩
    · rw [decode_of_more (by omega)] at h
      obtain ⟨⟨m, k⟩, hdecode, heq⟩ := Option.map_eq_some_iff.mp h
      cases heq
      obtain ⟨-, hlength, hm⟩ := ih hdecode
      have hbyte : b.toNat < 256 := b.toNat_lt
      refine ⟨Nat.succ_pos k, Nat.succ_le_succ hlength, ?_⟩
      calc b.toNat - 128 + 128 * m < 128 + 128 * m := by omega
        _ = 128 * (m + 1) := by ring
        _ ≤ 128 * 128 ^ k := Nat.mul_le_mul_left 128 hm
        _ = 128 ^ (k + 1) := (pow_succ' 128 k).symm

/-- A number below 128 ^ (k + 1) takes at most k + 1 bytes. -/
theorem encode_length_le (h : n < 128 ^ (k + 1)) : (encode n).length ≤ k + 1 := by
  induction k generalizing n with
  | zero =>
    rw [encode_of_lt (by simpa using h)]
    exact le_rfl
  | succ k ih =>
    by_cases hn : n < 128
    · rw [encode_of_lt hn]
      exact Nat.le_add_left ..
    · rw [encode_of_ge (by omega), List.length_cons]
      refine Nat.succ_le_succ (ih ?_)
      rw [Nat.div_lt_iff_lt_mul (by decide), ← pow_succ]
      exact h

/-- A number that takes no more bytes than that is below 128 to it. -/
theorem lt_of_encode_length_le (h : (encode n).length ≤ k) : n < 128 ^ k := by
  have hdecode := decode_encode n []
  rw [List.append_nil] at hdecode
  exact (decode_bounds hdecode).2.2.trans_le (Nat.pow_le_pow_right (by decide) h)

/-- The shortest form of a number is the one that is written. -/
theorem encode_of_shortest (h : decode bytes = some (n, (encode n).length)) :
    bytes.take (encode n).length = encode n := by
  induction bytes generalizing n with
  | nil => cases h
  | cons b bytes ih =>
    by_cases hb : b.toNat < 128
    · rw [decode_of_last hb] at h
      obtain ⟨rfl, -⟩ := Prod.mk.inj (Option.some.inj h)
      rw [encode_of_lt hb, UInt8.ofNat_toNat]
      rfl
    · rw [decode_of_more (by omega)] at h
      obtain ⟨⟨m, k⟩, hdecode, heq⟩ := Option.map_eq_some_iff.mp h
      obtain ⟨hn, hk⟩ := Prod.mk.inj heq
      have hbyte : b.toNat < 256 := b.toNat_lt
      have hmod : n % 128 = b.toNat - 128 := by omega
      have hdiv : n / 128 = m := by omega
      by_cases hsmall : n < 128
      · -- two bytes or more for a number of one byte
        rw [encode_of_lt hsmall] at hk
        have hpos := (decode_bounds hdecode).1
        simp only [List.length_singleton] at hk
        omega
      · have hlength : (encode n).length = (encode m).length + 1 := by
          rw [encode_of_ge (by omega), hdiv, List.length_cons]
        have hshort : k = (encode m).length := by omega
        rw [hshort] at hdecode
        rw [hlength, List.take_succ_cons, ih hdecode, encode_of_ge (n := n) (by omega), hdiv, hmod,
          show b.toNat - 128 + 128 = b.toNat by omega, UInt8.ofNat_toNat]

end varint
