import Mathlib.Order.Nat

namespace reads

universe u v

/-- A computation that reads a memory: its result, and the offsets that it reads. What it does not
read makes no difference to it. -/
structure Reading (B : Type u) (α : Type v) where
  value : (Nat → B) → α
  offsets : (Nat → B) → Nat → Prop
  determined : ∀ m m', (∀ i, offsets m i → m' i = m i) →
    value m' = value m ∧ ∀ i, offsets m' i ↔ offsets m i

namespace Reading

variable {B : Type u} {α β : Type v} {m m' : Nat → B} {n : Nat}

protected def pure (a : α) : Reading B α where
  value _ := a
  offsets _ _ := False
  determined _ _ _ := ⟨rfl, fun _ => Iff.rfl⟩

protected def bind (x : Reading B α) (f : α → Reading B β) : Reading B β where
  value m := (f (x.value m)).value m
  offsets m i := x.offsets m i ∨ (f (x.value m)).offsets m i
  determined m m' h := by
    obtain ⟨hvalue, hoffsets⟩ := x.determined m m' fun i hi => h i (.inl hi)
    obtain ⟨hresult, hrest⟩ := (f (x.value m)).determined m m' fun i hi => h i (.inr hi)
    rw [hvalue]
    exact ⟨hresult, fun i => or_congr (hoffsets i) (hrest i)⟩

instance : Monad (Reading B) where
  pure := Reading.pure
  bind := Reading.bind

/-- The cell at an offset. -/
def read (i : Nat) : Reading B B where
  value m := m i
  offsets _ j := j = i
  determined _ _ h := ⟨h i rfl, fun _ => Iff.rfl⟩

/-- So many cells from an offset on. -/
def slice (offset size : Nat) : Reading B (List B) where
  value m := (List.range size).map fun i => m (offset + i)
  offsets _ i := offset ≤ i ∧ i < offset + size
  determined m m' h := by
    refine ⟨List.map_congr_left fun i hi => h _ ?_, fun _ => Iff.rfl⟩
    rw [List.mem_range] at hi
    omega

/-- A walk along the memory up to the first cell of a kind, that cell included. -/
def walk (stop : B → Prop) : Reading B PUnit where
  value _ := ⟨⟩
  offsets m i := ∀ j < i, ¬ stop (m j)
  determined m m' h := by
    refine ⟨rfl, fun i => ⟨?_, ?_⟩⟩
    · intro hi j
      induction j using Nat.strong_induction_on with
      | _ j ih =>
        intro hj
        rw [← h j fun k hk => ih k hk (hk.trans hj)]
        exact hi j hj
    · intro hi j hj
      rw [h j fun k hk => hi k (hk.trans hj)]
      exact hi j hj

/-- No offset beyond the first cells is read. -/
def Within (x : Reading B α) (m : Nat → B) (n : Nat) : Prop := ∀ i, x.offsets m i → i < n

@[simp]
theorem value_pure (a : α) : (pure a : Reading B α).value m = a := rfl

@[simp]
theorem value_bind (x : Reading B α) (f : α → Reading B β) : (x >>= f).value m = (f (x.value m)).value m := rfl

@[simp]
theorem value_read (i : Nat) : (read i).value m = m i := rfl

@[simp]
theorem value_slice (offset size : Nat) :
    (slice offset size).value m = (List.range size).map fun i => m (offset + i) := rfl

@[simp]
theorem value_ite (c : Prop) [Decidable c] (x y : Reading B α) :
    (if c then x else y).value m = if c then x.value m else y.value m := by
  split <;> rfl

@[simp]
theorem within_pure (a : α) : (pure a : Reading B α).Within m n := fun _ h => h.elim

@[simp]
theorem within_bind (x : Reading B α) (f : α → Reading B β) :
    (x >>= f).Within m n ↔ x.Within m n ∧ (f (x.value m)).Within m n := by
  constructor
  · intro h
    exact ⟨fun i hi => h i (.inl hi), fun i hi => h i (.inr hi)⟩
  · rintro ⟨hx, hf⟩ i (hi | hi)
    · exact hx i hi
    · exact hf i hi

@[simp]
theorem within_ite (c : Prop) [Decidable c] (x y : Reading B α) :
    (if c then x else y).Within m n ↔ if c then x.Within m n else y.Within m n := by
  split <;> rfl

@[simp]
theorem within_read (i : Nat) : (read i).Within m n ↔ i < n :=
  ⟨fun h => h i rfl, fun h _ hi => hi ▸ h⟩

/-- A slice is within bounds if it ends there, or is empty. -/
@[simp]
theorem within_slice (offset size : Nat) :
    (slice offset size : Reading B (List B)).Within m n ↔ size = 0 ∨ offset + size ≤ n := by
  constructor
  · intro h
    by_cases hsize : size = 0
    · exact .inl hsize
    · have hlast := h (offset + size - 1) ⟨by omega, by omega⟩
      exact .inr (by omega)
  · rintro h i ⟨hlow, hhigh⟩
    omega

/-- A search is within bounds if it stops there. -/
@[simp]
theorem within_walk (stop : B → Prop) : (walk stop).Within m n ↔ ∃ i < n, stop (m i) := by
  constructor
  · intro h
    by_contra hnone
    have hread : ∀ j < n, ¬ stop (m j) := fun j hj hstop => hnone ⟨j, hj, hstop⟩
    exact absurd (h n hread) (lt_irrefl n)
  · rintro ⟨i, hi, hstop⟩ j hj
    by_contra hbeyond
    exact hj i (hi.trans_le (not_lt.mp hbeyond)) hstop

/-- What lies beyond the cells that are read does not count. -/
theorem Within.value_eq {x : Reading B α} (h : x.Within m n) (hm : ∀ i < n, m' i = m i) :
    x.value m' = x.value m :=
  (x.determined m m' fun i hi => hm i (h i hi)).1

end Reading

end reads
