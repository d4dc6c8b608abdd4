import Mathlib.Logic.Basic

namespace temporal

/-- Before the moment `n` there was a moment at which `start` held, and `keep` has held
ever since. -/
def Since (start keep : Nat → Prop) (n : Nat) : Prop :=
  ∃ e < n, start e ∧ ∀ k, e < k → k < n → keep k

variable {start keep : Nat → Prop}

private theorem since_succ_of_start {n : Nat} (h : start n) : Since start keep (n + 1) := by
  refine ⟨n, Nat.lt_succ_self n, h, ?_⟩
  intro k hafter hbefore
  omega

/-- What has held since, and holds now, will have held. -/
theorem Since.succ {n : Nat} (h : Since start keep n) (hkeep : keep n) : Since start keep (n + 1) := by
  obtain ⟨e, he, hstart, hkept⟩ := h
  refine ⟨e, by omega, hstart, ?_⟩
  intro k hafter hbefore
  obtain hlt | rfl : k < n ∨ k = n := by omega
  · exact hkept k hafter hlt
  · exact hkeep

/-- The induction rule: if whatever holds one moment later was either just started or
held before and was kept, then it was started once and has been kept since. -/
theorem since_of_step {P : Nat → Prop} (hinit : ¬ P 0)
    (hstep : ∀ n, P (n + 1) → start n ∨ P n ∧ keep n) (n : Nat)
    (h : P n) : Since start keep n := by
  induction n with
  | zero => exact absurd h hinit
  | succ n ih =>
    obtain hstart | ⟨hbefore, hkeep⟩ := hstep n h
    · exact since_succ_of_start hstart
    · exact (ih hbefore).succ hkeep

end temporal
