import CatLitterBox.Program.Total
import Mathlib.Data.Nat.Find
import Mathlib.Order.Nat

namespace program

namespace Program

variable {A : Type} {R : A → Type} {α β σ : Type}

/-- How many actions of a kind have been performed. -/
def performed (p : A → Bool) (s : List ((a : A) × R a)) : Nat := s.countP fun e => p e.1

/-- The program ends when it has performed as many actions of a kind as that. -/
def EndsAfter (oracle : (a : A) → List ((a : A) × R a) → R a) (p : A → Bool) (n : Nat) (c : Program A R α)
    (s : List ((a : A) × R a)) : Prop :=
  ∃ a t, ComesTo oracle (c, s) (.ret a, t) ∧ performed p t = n

/-- The turns of a loop with the assertion that holds at their starts: the loop goes round again as
long as the test holds, and each turn performs one action of a kind. -/
structure Turns (oracle : (a : A) → List ((a : A) × R a) → R a) (p : A → Bool)
    (body : σ → Program A R (σ ⊕ β)) (test : Nat → Prop) (I : Nat → σ → List ((a : A) × R a) → Prop) :
    Prop where
  count : ∀ k x s, I k x s → performed p s = k
  again : ∀ k x s, I k x s → test k →
    ∃ y t, ComesTo oracle (body x, s) (.ret (.inl y), t) ∧ I (k + 1) y t
  leave : ∀ k x s, I k x s → ¬ test k → ∃ b, ComesTo oracle (body x, s) (.ret (.inr b), s)

variable {oracle : (a : A) → List ((a : A) × R a) → R a} {p : A → Bool} {body : σ → Program A R (σ ⊕ β)}
  {test : Nat → Prop} {I : Nat → σ → List ((a : A) × R a) → Prop} {x : σ} {s : List ((a : A) × R a)}

@[simp] theorem performed_cons {e : (a : A) × R a} :
    performed p (e :: s) = performed p s + if p e.1 then 1 else 0 := List.countP_cons

theorem performed_mono {y z : Program A R α × List ((a : A) × R a)} (h : ComesTo oracle y z) :
    performed p y.2 ≤ performed p z.2 := by
  induction h with
  | refl => exact le_rfl
  | tail _ hstep ih =>
    refine ih.trans ?_
    rw [show _ = _ from hstep, advance_record, performed, performed, List.countP_append]
    exact Nat.le_add_left ..

/-- A program that has ended stays as it is. -/
theorem comesTo_ret {a : α} {y : Program A R α × List ((a : A) × R a)} (h : ComesTo oracle (.ret a, s) y) :
    y = (.ret a, s) := by
  induction h with
  | refl => rfl
  | tail _ hstep ih =>
    rw [show _ = _ from hstep, ih]
    rfl

/-- Whatever a program that ends comes to, it comes to its end from there. -/
theorem comesTo_end {y z : Program A R α × List ((a : A) × R a)} {a : α} {t : List ((a : A) × R a)}
    (hend : ComesTo oracle y (.ret a, t)) (h : ComesTo oracle y z) : ComesTo oracle z (.ret a, t) := by
  have hunique : Relator.RightUnique (StepsTo (α := α) oracle) := by
    intro u v w hv hw
    exact (show v = _ from hv).trans (show w = _ from hw).symm
  rcases Relation.ReflTransGen.total_of_right_unique hunique hend h with hafter | hbefore
  · rw [comesTo_ret hafter]
    exact .refl
  · exact hbefore

/-- As long as the tests hold, the loop comes to its next turn. -/
theorem Turns.comesTo (h : Turns oracle p body test I) (h0 : I 0 x s) {n : Nat} (htest : ∀ k < n, test k) :
    ∃ y t, ComesTo oracle (repeated body x, s) (repeated body y, t) ∧ I n y t := by
  induction n with
  | zero => exact ⟨x, s, .refl, h0⟩
  | succ n ih =>
    obtain ⟨y, t, hcomes, hI⟩ := ih fun k hk => htest k (hk.trans (Nat.lt_succ_self n))
    obtain ⟨z, u, hturn, hI'⟩ := h.again n y t hI (htest n (Nat.lt_succ_self n))
    exact ⟨z, u, hcomes.trans (comesTo_turn hturn), hI'⟩

/-- The loop goes round as often as the test holds, and ends. -/
theorem Turns.ends (h : Turns oracle p body test I) (h0 : I 0 x s) {n : Nat} (htest : ∀ k < n, test k)
    (hlast : ¬ test n) : EndsAfter oracle p n (repeated body x) s := by
  obtain ⟨y, t, hcomes, hI⟩ := h.comesTo h0 htest
  obtain ⟨b, hleave⟩ := h.leave n y t hI hlast
  exact ⟨b, t, hcomes.trans (.head rfl (comesTo_bind _ hleave)), h.count n y t hI⟩

/-- A program ends in one way. -/
theorem endsAfter_unique {c : Program A R α} {m n : Nat} (hm : EndsAfter oracle p m c s)
    (hn : EndsAfter oracle p n c s) : m = n := by
  obtain ⟨a, t, hend, rfl⟩ := hm
  obtain ⟨b, u, hend', rfl⟩ := hn
  cases comesTo_ret (comesTo_end hend' hend)
  rfl

/-- A loop whose tests hold longer does not end before. -/
theorem Turns.not_endsAfter (h : Turns oracle p body test I) (h0 : I 0 x s) {n : Nat}
    (htest : ∀ k ≤ n, test k) :
    ¬ EndsAfter oracle p n (repeated body x) s := by
  rintro ⟨b, t, hend, hcount⟩
  obtain ⟨y, u, hcomes, hI⟩ := h.comesTo h0 (n := n + 1) fun k hk => htest k (Nat.le_of_lt_succ hk)
  have hmore := performed_mono (p := p) (comesTo_end hend hcomes)
  rw [hcount, h.count _ _ _ hI] at hmore
  exact absurd hmore (Nat.not_succ_le_self n)

/-- The loop ends with the first test that fails. -/
theorem Turns.endsAfter_iff (h : Turns oracle p body test I) (h0 : I 0 x s) (n : Nat) :
    EndsAfter oracle p n (repeated body x) s ↔ ¬ test n ∧ ∀ k < n, test k := by
  classical
  constructor
  · intro hends
    have hfails : ∃ k ≤ n, ¬ test k := by
      by_contra hnone
      refine h.not_endsAfter h0 ?_ hends
      intro k hk
      by_contra hk_fails
      exact hnone ⟨k, hk, hk_fails⟩
    obtain ⟨-, hfirst⟩ := Nat.find_spec hfails
    have hbefore : ∀ k < Nat.find hfails, test k := by
      intro k hk
      by_contra hk_fails
      exact Nat.find_min hfails hk ⟨hk.le.trans (Nat.find_spec hfails).1, hk_fails⟩
    rw [← endsAfter_unique (h.ends h0 hbefore hfirst) hends]
    exact ⟨hfirst, hbefore⟩
  · rintro ⟨hlast, htest⟩
    exact h.ends h0 htest hlast

/-- What is performed before a loop is performed before its turns. -/
theorem endsAfter_perform_bind {a : A} {f : R a → Program A R β} {n : Nat} :
    EndsAfter oracle p n ((Program.perform a : Program A R (R a)).bind f) s ↔
      EndsAfter oracle p n (f (oracle a s)) (⟨a, oracle a s⟩ :: s) := by
  constructor
  · rintro ⟨b, t, hend, hcount⟩
    exact ⟨b, t, comesTo_end hend (.single rfl), hcount⟩
  · rintro ⟨b, t, hend, hcount⟩
    exact ⟨b, t, .head rfl hend, hcount⟩

end Program

end program
