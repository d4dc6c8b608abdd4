import Mathlib.Data.List.Basic

namespace slots

universe u

variable {A : Type u} {p : A → Bool} {slots : List A} {i : Nat} {a b : A}

/-- The slot that a search finds is in use as asked. -/
theorem getElem_of_find (h : slots.findIdx? p = some i) : ∃ a, slots[i]? = some a ∧ p a = true := by
  obtain ⟨hi, ha, -⟩ := List.findIdx?_eq_some_iff_getElem.mp h
  exact ⟨slots[i], List.getElem?_eq_getElem hi, ha⟩

/-- To modify a slot is to set it to what comes of it. -/
theorem modify_eq_set_of_getElem {f : A → A} (hi : slots[i]? = some a) :
    slots.modify i f = slots.set i (f a) := by
  apply List.ext_getElem?
  intro j
  rw [List.getElem?_set]
  by_cases hij : i = j
  · subst hij
    have hlt : i < slots.length := (List.getElem?_eq_some_iff.mp hi).1
    rw [List.getElem?_modify_eq, if_pos rfl, if_pos hlt, hi]
    rfl
  · rw [List.getElem?_modify_ne _ _ hij, if_neg hij]

/-- A search misses a slot as long as neither its old nor its new content is searched for. -/
theorem find_set_of_miss (hi : slots[i]? = some a) (ha : p a = false) (hb : p b = false) :
    (slots.set i b).find? p = slots.find? p := by
  induction slots generalizing i with
  | nil => rfl
  | cons first rest ih =>
    cases i with
    | zero =>
      obtain rfl : first = a := Option.some.inj hi
      simp only [List.set_cons_zero, List.find?_cons, ha, hb]
    | succ i =>
      have hrest := ih hi
      simp only [List.set_cons_succ, List.find?_cons, hrest]

/-- What replaces the first slot that is searched for is found if it is searched for, too. -/
theorem find_set_first (hi : slots.findIdx? p = some i) (hb : p b = true) :
    (slots.set i b).find? p = some b := by
  induction slots generalizing i with
  | nil => cases hi
  | cons first rest ih =>
    rw [List.findIdx?_cons] at hi
    by_cases hfirst : p first = true
    · rw [if_pos hfirst] at hi
      obtain rfl : 0 = i := Option.some.inj hi
      rw [List.set_cons_zero, List.find?_cons_of_pos hb]
    · rw [if_neg hfirst] at hi
      obtain ⟨j, hj, rfl⟩ := Option.map_eq_some_iff.mp hi
      rw [List.set_cons_succ, List.find?_cons_of_neg hfirst]
      exact ih hj

/-- What is put into a table that holds nothing of its kind is found. -/
theorem find_set_new (hnone : slots.find? p = none) (hi : i < slots.length) (hb : p b = true) :
    (slots.set i b).find? p = some b := by
  induction slots generalizing i with
  | nil => cases hi
  | cons first rest ih =>
    have hfirst : ¬ p first = true := List.find?_eq_none.mp hnone first List.mem_cons_self
    rw [List.find?_cons_of_neg hfirst] at hnone
    cases i with
    | zero => rw [List.set_cons_zero, List.find?_cons_of_pos hb]
    | succ i =>
      rw [List.set_cons_succ, List.find?_cons_of_neg hfirst]
      exact ih hnone (Nat.lt_of_succ_lt_succ hi)

/-- A search for a slot and a search for its index find the same one. -/
theorem find_of_findIdx (h : slots.findIdx? p = some i) : slots.find? p = slots[i]? := by
  induction slots generalizing i with
  | nil => cases h
  | cons first rest ih =>
    rw [List.findIdx?_cons] at h
    by_cases hfirst : p first = true
    · rw [if_pos hfirst] at h
      obtain rfl : 0 = i := Option.some.inj h
      rw [List.find?_cons_of_pos hfirst]
      rfl
    · rw [if_neg hfirst] at h
      obtain ⟨j, hj, rfl⟩ := Option.map_eq_some_iff.mp h
      rw [List.find?_cons_of_neg hfirst]
      exact ih hj

end slots
