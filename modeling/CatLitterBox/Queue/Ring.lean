import Mathlib.Data.Int.ModEq
import Mathlib.Data.List.Basic
import Mathlib.Logic.Function.Basic

namespace queue

universe u

variable {α : Type u}

/-- What is done to a queue. -/
inductive Op (α : Type u) where
  | push (x : α)
  | pop

/-- A FIFO queue with a capacity: it drops what finds it full, and a `pop` answers with the oldest
element, if there is one. -/
def fifo (capacity : Nat) (q : List α) : Op α → List α × Option α
  | .push x => (if q.length < capacity then q ++ [x] else q, none)
  | .pop => (q.tail, q.head?)

/-- The cells of a circular array from `tail` on, `count` of them. -/
def window (size : Nat) (cell : Nat → α) (tail count : Nat) : List α :=
  (List.range count).map fun i => cell ((tail + i) % size)

/-- The number of cells in use between two indices. -/
def occupied (size head tail : Nat) : Nat := (head + size - tail) % size

variable {size : Nat} {cell : Nat → α} {head tail count : Nat}

@[simp] theorem window_length : (window size cell tail count).length = count := by simp [window]

theorem window_zero : window size cell tail 0 = [] := rfl

theorem occupied_lt (hsize : 0 < size) : occupied size head tail < size := Nat.mod_lt _ hsize

theorem occupied_eq (hhead : head < size) (htail : tail < size) :
    occupied size head tail = if tail ≤ head then head - tail else head + size - tail := by
  unfold occupied
  split_ifs with hle
  · have hsum : head + size - tail = head - tail + size := by omega
    rw [hsum, Nat.add_mod_right]
    exact Nat.mod_eq_of_lt (by omega)
  · exact Nat.mod_eq_of_lt (by omega)

private theorem succ_mod (hhead : head < size) :
    (head + 1) % size = if head + 1 = size then 0 else head + 1 := by
  split_ifs with hwrap
  · rw [hwrap, Nat.mod_self]
  · exact Nat.mod_eq_of_lt (by omega)

/-- The two indices meet exactly when no cell is in use. -/
theorem occupied_eq_zero_iff (hhead : head < size) (htail : tail < size) :
    occupied size head tail = 0 ↔ head = tail := by
  rw [occupied_eq hhead htail]
  split_ifs with hle
  · omega
  · omega

/-- One cell stays free: the head runs into the tail when all the others are in use. -/
theorem succ_head_eq_tail_iff (hhead : head < size) (htail : tail < size) :
    (head + 1) % size = tail ↔ occupied size head tail = size - 1 := by
  rw [occupied_eq hhead htail, succ_mod hhead]
  split_ifs with hwrap hle hle
  · omega
  · omega
  · omega
  · omega

/-- A write takes one cell more, where there is room. -/
theorem occupied_succ_head (hhead : head < size) (htail : tail < size) (hroom : (head + 1) % size ≠ tail) :
    occupied size ((head + 1) % size) tail = occupied size head tail + 1 := by
  have hnext : (head + 1) % size < size := Nat.mod_lt _ (by omega)
  rw [occupied_eq hnext htail, occupied_eq hhead htail]
  rw [succ_mod hhead] at hroom ⊢
  split_ifs at hroom ⊢ with hwrap hle hle' hle hle'
  all_goals omega

/-- A read gives one cell back. -/
theorem occupied_succ_tail (hhead : head < size) (htail : tail < size) (hne : head ≠ tail) :
    occupied size head ((tail + 1) % size) + 1 = occupied size head tail := by
  have hnext : (tail + 1) % size < size := Nat.mod_lt _ (by omega)
  rw [occupied_eq hhead hnext, occupied_eq hhead htail, succ_mod htail]
  split_ifs with hwrap hle hle' hle hle'
  all_goals omega

/-- The head is the cell behind those in use. -/
theorem tail_add_occupied (hhead : head < size) (htail : tail < size) :
    (tail + occupied size head tail) % size = head := by
  rw [occupied_eq hhead htail]
  split_ifs with hle
  · have hsum : tail + (head - tail) = head := by omega
    rw [hsum, Nat.mod_eq_of_lt hhead]
  · have hsum : tail + (head + size - tail) = head + size := by omega
    rw [hsum, Nat.add_mod_right, Nat.mod_eq_of_lt hhead]

/-- The cells in use are not the one at the head. -/
private theorem tail_add_ne {i : Nat} (hi : i < count) (hcount : count < size) :
    (tail + i) % size ≠ (tail + count) % size := by
  intro heq
  have hmod : i ≡ count [MOD size] := Nat.ModEq.add_left_cancel' tail heq
  have hsame : i = count := hmod.eq_of_lt_of_lt (by omega) hcount
  omega

/-- A cell is written at the head, and the head moves on. -/
theorem window_push (hhead : head < size) (htail : tail < size) (x : α) :
    window size (Function.update cell head x) tail (occupied size head tail + 1) =
      window size cell tail (occupied size head tail) ++ [x] := by
  have hcount : occupied size head tail < size := occupied_lt (by omega)
  have hend := tail_add_occupied hhead htail
  unfold window
  rw [List.range_succ, List.map_append, List.map_singleton, hend, Function.update_self]
  congr 1
  apply List.map_congr_left
  intro i hi
  have hne : (tail + i) % size ≠ (tail + occupied size head tail) % size :=
    tail_add_ne (List.mem_range.mp hi) hcount
  rw [hend] at hne
  exact Function.update_of_ne hne x cell

/-- The cell at the tail is read, and the tail moves on. -/
theorem window_pop (htail : tail < size) :
    window size cell tail (count + 1) = cell tail :: window size cell ((tail + 1) % size) count := by
  unfold window
  rw [List.range_succ_eq_map, List.map_cons, List.map_map]
  congr 1
  · rw [Nat.add_zero, Nat.mod_eq_of_lt htail]
  · apply List.map_congr_left
    intro i _
    have hsum : (tail + (i + 1)) % size = ((tail + 1) % size + i) % size := by
      rw [Nat.mod_add_mod]
      congr 1
      omega
    exact congrArg cell hsum

end queue
