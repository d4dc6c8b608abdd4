import Mathlib.Algebra.Order.Ring.Nat

namespace temporal

universe u v

variable {S : Type u} {M : Type v}

/-- The states of an endless run. -/
def states (step : S → M → S) (s : S) (moves : Nat → M) : Nat → S
  | 0 => s
  | n + 1 => step (states step s moves n) (moves n)

/-- What an invariant of the moves says, it says of every state of a run. -/
theorem states_invariant {step : S → M → S} {I : S → Prop} {s : S} {moves : Nat → M} (hs : I s)
    (hstep : ∀ s m, I s → I (step s m)) (n : Nat) : I (states step s moves n) := by
  induction n with
  | zero => exact hs
  | succ n ih => exact hstep _ _ ih

/-- From the moment `n` on `keep` holds until a moment at which `event` holds, and there too. -/
def Leads (keep event : Nat → Prop) (n : Nat) : Prop :=
  ∃ l, n ≤ l ∧ event l ∧ ∀ k, n ≤ k → k ≤ l → keep k

variable {keep event helpful : Nat → Prop}

theorem leads_of_event {n : Nat} (hkeep : keep n) (hevent : event n) : Leads keep event n := by
  refine ⟨n, le_rfl, hevent, ?_⟩
  intro k hn hl
  exact le_antisymm hl hn ▸ hkeep

/-- What leads on from the next moment leads on from this one. -/
theorem Leads.before {n : Nat} (h : Leads keep event (n + 1)) (hkeep : keep n) : Leads keep event n := by
  obtain ⟨l, hl, hevent, hall⟩ := h
  refine ⟨l, Nat.le_of_succ_le hl, hevent, ?_⟩
  intro k hn hk
  rcases Nat.eq_or_lt_of_le hn with rfl | hlt
  · exact hkeep
  · exact hall k hlt hk

/-- The rule of fair runs. If every move keeps what is kept, unless the event happens, and the rank
does not rise, and falls at helpful moves, of which there is always another one, then the event
happens. -/
theorem leads_of_rank (rank : Nat → Nat) (hrecurs : ∀ n, ∃ m, n ≤ m ∧ helpful m)
    (hstep : ∀ k, keep k → event k ∨ keep (k + 1) ∧ rank (k + 1) ≤ rank k ∧ (helpful k → rank (k + 1) < rank k))
    {n : Nat} (hn : keep n) : Leads keep event n := by
  induction hr : rank n using Nat.strongRecOn generalizing n with
  | _ r ih =>
    obtain ⟨m, hm, hhelp⟩ := hrecurs n
    obtain ⟨d, rfl⟩ := Nat.exists_eq_add_of_le hm
    -- on the way to the next helpful move, which is `d` moves off
    induction d generalizing n with
    | zero =>
      rcases hstep n hn with hevent | ⟨hnext, -, hfalls⟩
      · exact leads_of_event hn hevent
      · exact (ih _ (hr ▸ hfalls hhelp) hnext rfl).before hn
    | succ d ihd =>
      rcases hstep n hn with hevent | ⟨hnext, hle, -⟩
      · exact leads_of_event hn hevent
      · rcases Nat.eq_or_lt_of_le hle with heq | hlt
        · refine (ihd hnext (heq.trans hr) (Nat.le_add_right _ _) ?_).before hn
          rwa [Nat.add_assoc, Nat.add_comm 1 d]
        · exact (ih _ (hr ▸ hlt) hnext rfl).before hn

end temporal
