import Mathlib.Algebra.Order.Ring.Nat
import Mathlib.Data.List.Basic

namespace memory

/-- The lowest `width` bytes of a number, the lowest first. -/
def toBytes : Nat → Nat → List UInt8
  | 0, _ => []
  | width + 1, n => .ofNat n :: toBytes width (n / 256)

/-- The number whose bytes these are, the lowest first. -/
def ofBytes : List UInt8 → Nat
  | [] => 0
  | b :: bytes => b.toNat + 256 * ofBytes bytes

/-- The bytes of signed words of `width` bytes, word by word. -/
def packInts (width : Nat) (words : List Int) : List UInt8 :=
  words.flatMap fun n => toBytes width (n % ((256 ^ width : Nat) : Int)).toNat

/-- The first `count` signed words of `width` bytes. -/
def unpackInts (width : Nat) : Nat → List UInt8 → List Int
  | 0, _ => []
  | count + 1, bytes =>
    Int.bmod (ofBytes (bytes.take width)) (256 ^ width) :: unpackInts width count (bytes.drop width)

/-- The word is in the range of a signed type of `width` bytes. -/
def Fits (width : Nat) (n : Int) : Prop := n.bmod (256 ^ width) = n

variable {width : Nat}

@[simp] theorem toBytes_length (width n : Nat) : (toBytes width n).length = width := by
  induction width generalizing n with
  | zero => rfl
  | succ width ih => rw [toBytes, List.length_cons, ih]

private theorem ofBytes_toBytes (width n : Nat) : ofBytes (toBytes width n) = n % 256 ^ width := by
  induction width generalizing n with
  | zero =>
    rw [pow_zero, Nat.mod_one]
    rfl
  | succ width ih =>
    rw [toBytes, ofBytes, ih, pow_succ', Nat.mod_mul]
    rfl

/-- So many bytes for each word. -/
theorem packInts_length (width : Nat) (words : List Int) :
    (packInts width words).length = width * words.length := by
  induction words with
  | nil => rfl
  | cons n words ih =>
    rw [packInts, List.flatMap_cons, List.length_append, toBytes_length, List.length_cons,
      Nat.mul_succ, Nat.add_comm]
    exact congrArg (· + width) ih

/-- Words in their range are unpacked as they were packed. -/
theorem unpackInts_packInts {words : List Int} (h : ∀ n ∈ words, Fits width n) :
    unpackInts width words.length (packInts width words) = words := by
  induction words with
  | nil => rfl
  | cons n words ih =>
    have hword : Int.bmod (ofBytes (toBytes width (n % ((256 ^ width : Nat) : Int)).toNat))
        (256 ^ width) = n := by
      have hpos : ((256 ^ width : Nat) : Int) ≠ 0 := Int.natCast_ne_zero.mpr (Nat.pow_pos (by decide)).ne'
      rw [ofBytes_toBytes, Int.natCast_mod, Int.toNat_of_nonneg (Int.emod_nonneg n hpos),
        Int.emod_emod_of_dvd n (dvd_refl _),
        Int.emod_bmod]
      exact h n List.mem_cons_self
    rw [packInts, List.flatMap_cons, List.length_cons, unpackInts, List.take_left' (toBytes_length _ _),
      List.drop_left' (toBytes_length _ _), hword]
    exact congrArg (n :: ·) (ih fun m hm => h m (List.mem_cons_of_mem n hm))

end memory
