import Mathlib.Algebra.Order.Ring.Nat
import Mathlib.Data.Fin.Basic
import Mathlib.Data.List.Basic
import Mathlib.Logic.Function.Basic

namespace queue

universe u

variable {α : Type u} {n : Nat}

/-- The last `n` elements of a history, the oldest first. -/
def latest (n : Nat) (past : List α) : List α := past.drop (past.length - n)

/-- A circular array that overwrites its oldest element holds the last `n` elements of a history;
the cells that were never written hold `blank`. -/
structure Recent (blank : α) (buf : Fin n → α) (head : Fin n) (count : Nat) (past : List α) : Prop where
  head : head.val = past.length % n
  count : count = min past.length n
  cell : ∀ i (j : Fin n), i < past.length → past.length ≤ i + n → j.val = i % n → past[i]? = some (buf j)
  blank : ∀ j : Fin n, past.length ≤ j.val → buf j = blank

variable {blank : α} {buf : Fin n → α} {head : Fin n} {count : Nat} {past : List α} {v : α}

theorem latest_of_short (h : past.length ≤ n) : latest n past = past := by
  unfold latest
  rw [Nat.sub_eq_zero_of_le h, List.drop_zero]

/-- The latest elements are all of them, or as many as asked for. -/
theorem latest_length : (latest n past).length = min past.length n := by
  unfold latest
  rw [List.length_drop]
  omega

/-- While there is room, an element is added to the window. -/
theorem latest_push_of_short (h : past.length < n) : latest n (past ++ [v]) = latest n past ++ [v] := by
  rw [latest_of_short h.le, latest_of_short]
  rw [List.length_append, List.length_singleton]
  exact h

/-- In a full window it takes the place of the oldest one. -/
theorem latest_push_of_full [NeZero n] (h : n ≤ past.length) :
    latest n (past ++ [v]) = (latest n past).tail ++ [v] := by
  have hpos := Nat.pos_of_neZero n
  unfold latest
  rw [List.length_append, List.length_singleton, List.tail_drop]
  have hindex : past.length + 1 - n = past.length - n + 1 := by omega
  rw [hindex, List.drop_append_of_le_length (by omega)]

/-- An array that nothing has been written to holds nothing recent. -/
theorem Recent.empty [NeZero n] (blank : α) : Recent blank (fun _ : Fin n => blank) 0 0 [] where
  head := by simp
  count := (Nat.zero_min n).symm
  cell _ _ hi := absurd hi (Nat.not_lt_zero _)
  blank _ _ := rfl

/-- Indices less than a turn apart have different cells. -/
private theorem mod_ne_of_near {i k : Nat} (hlt : i < k) (hnear : k < i + n) : i % n ≠ k % n := by
  intro heq
  have hzero := Nat.sub_mod_eq_zero_of_mod_eq heq.symm
  rw [Nat.mod_eq_of_lt (by omega)] at hzero
  omega

/-- The next element overwrites the cell at `head`. -/
theorem Recent.push [NeZero n] (h : Recent blank buf head count past) (v : α) :
    Recent blank (Function.update buf head v) (head + 1) (if count < n then count + 1 else count)
      (past ++ [v]) where
  head := by
    rw [Fin.val_add, h.head, List.length_append, List.length_singleton, Fin.val_one', Nat.add_mod_mod,
      Nat.mod_add_mod]
  count := by
    have hcount := h.count
    rw [List.length_append, List.length_singleton]
    split_ifs
    · omega
    · omega
  cell := by
    intro i j hi hrecent hj
    rw [List.length_append, List.length_singleton] at hi hrecent
    obtain rfl | hlt := Nat.eq_or_lt_of_le (Nat.le_of_lt_succ hi)
    · obtain rfl : j = head := Fin.ext (hj.trans h.head.symm)
      rw [List.getElem?_concat_length, Function.update_self]
    · have hne : j ≠ head := by
        rintro rfl
        exact mod_ne_of_near hlt hrecent (hj.symm.trans h.head)
      rw [List.getElem?_append_left hlt, Function.update_of_ne hne]
      exact h.cell i j hlt (by omega) hj
  blank := by
    intro j hj
    rw [List.length_append, List.length_singleton] at hj
    have hne : j ≠ head := by
      rintro rfl
      have hindex := h.head
      rw [Nat.mod_eq_of_lt (by omega)] at hindex
      omega
    rw [Function.update_of_ne hne]
    exact h.blank j (by omega)

/-- In a full window the cell at `head` is the oldest one. -/
theorem Recent.oldest (h : Recent blank buf head count past) (hfull : n ≤ past.length) :
    latest n past = buf head :: (latest n past).tail := by
  have hpos : 0 < n := Nat.lt_of_le_of_lt (Nat.zero_le _) head.isLt
  have hindex : head.val = (past.length - n) % n := by
    rw [h.head, Nat.mod_eq_sub_mod hfull]
  have hcell := h.cell (past.length - n) head (by omega) (by omega) hindex
  unfold latest
  rw [List.tail_drop, List.drop_eq_getElem_cons (by omega)]
  congr 1
  exact Option.some.inj ((List.getElem?_eq_getElem _).symm.trans hcell)

/-- The cells hold the elements of the window, and `blank` as long as some of them are unused. -/
theorem Recent.exists_cell_iff (h : Recent blank buf head count past) :
    (∃ j, buf j = v) ↔ v ∈ latest n past ∨ past.length < n ∧ v = blank := by
  constructor
  · rintro ⟨j, rfl⟩
    obtain hused | hunused := Nat.lt_or_ge j.val past.length
    · -- the last index of the history that falls on the cell
      have hdiv := Nat.div_add_mod (past.length - 1 - j.val) n
      have hmod := Nat.mod_lt (past.length - 1 - j.val) (show 0 < n by omega)
      generalize (past.length - 1 - j.val) / n = turns at hdiv
      have hindex : j.val = (j.val + n * turns) % n := by
        rw [Nat.add_mul_mod_self_left, Nat.mod_eq_of_lt j.isLt]
      have hcell := h.cell (j.val + n * turns) j (by omega) (by omega) hindex
      left
      unfold latest
      rw [List.mem_iff_getElem?]
      refine ⟨j.val + n * turns - (past.length - n), ?_⟩
      rw [List.getElem?_drop, ← hcell]
      congr 1
      omega
    · exact .inr ⟨by omega, h.blank j hunused⟩
  · rintro (hmem | ⟨hshort, rfl⟩)
    · unfold latest at hmem
      obtain ⟨k, hk⟩ := List.mem_iff_getElem?.mp hmem
      rw [List.getElem?_drop] at hk
      obtain ⟨hlt, -⟩ := List.getElem?_eq_some_iff.mp hk
      have hpos : 0 < n := by omega
      refine ⟨⟨(past.length - n + k) % n, Nat.mod_lt _ hpos⟩, ?_⟩
      have hcell := h.cell (past.length - n + k) ⟨_, Nat.mod_lt _ hpos⟩ hlt (by omega) rfl
      exact Option.some.inj (hcell.symm.trans hk)
    · exact ⟨⟨past.length, hshort⟩, h.blank _ (Nat.le_refl _)⟩

end queue
