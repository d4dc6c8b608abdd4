import CatLitterBox.Program.Basic

namespace program

namespace Program

variable {A : Type} {R : A → Type} {α β γ σ : Type}

/-- Every action of the program, on every path, satisfies `p`. -/
def Every (p : A → Prop) {α : Type} : Program A R α → Prop
  | .ret _ => True
  | .act a k => p a ∧ ∀ r, (k r).Every p
  | .loop body _ k => (∀ y, (body y).Every p) ∧ ∀ b, (k b).Every p

@[simp] theorem every_ret (p : A → Prop) (a : α) : (Program.ret a : Program A R α).Every p := trivial

@[simp] theorem every_act (p : A → Prop) (a : A) (k : R a → Program A R α) :
    (Program.act a k).Every p ↔ p a ∧ ∀ r, (k r).Every p := Iff.rfl

/-- An action that may be performed is a program that performs nothing else. -/
theorem every_perform {p : A → Prop} {a : A} (h : p a) :
    (Program.perform a : Program A R (R a)).Every p := ⟨h, fun _ => trivial⟩

/-- A loop performs what its body performs. -/
theorem every_repeated {p : A → Prop} {body : σ → Program A R (σ ⊕ β)} {x : σ}
    (h : ∀ y, (body y).Every p) : (repeated body x).Every p := ⟨h, fun _ => trivial⟩

/-- A branch performs what its two sides perform. -/
theorem every_ite {p : A → Prop} {P : Prop} [Decidable P] {c d : Program A R α}
    (hc : c.Every p) (hd : d.Every p) : (if P then c else d).Every p := by
  split
  · exact hc
  · exact hd

/-- An action and what comes after it. -/
theorem every_perform_bind {p : A → Prop} {a : A} {f : R a → Program A R γ}
    (h : p a) (hf : ∀ r, (f r).Every p) : ((Program.perform a : Program A R (R a)).bind f).Every p :=
  ⟨h, hf⟩

/-- No program performs anything that nothing is asked of. -/
theorem every_true (c : Program A R α) : c.Every fun _ => True := by
  induction c with
  | ret a => trivial
  | act a k ih => exact ⟨trivial, ih⟩
  | loop body x k ihbody ihk => exact ⟨ihbody, ihk⟩

/-- Two programs, one behind the other. -/
theorem every_bind {p : A → Prop} {c : Program A R α} {f : α → Program A R γ}
    (hc : c.Every p) (hf : ∀ a, (f a).Every p) : (c.bind f).Every p := by
  induction c with
  | ret a => exact hf a
  | act a k ih => exact ⟨hc.1, fun r => ih r (hc.2 r) hf⟩
  | loop body x k _ ih => exact ⟨hc.1, fun b => ih b (hc.2 b) hf⟩

/-- Less may be asked of the actions. -/
theorem every_mono {p q : A → Prop} (hpq : ∀ a, p a → q a) {c : Program A R α} (h : c.Every p) :
    c.Every q := by
  induction c with
  | ret a => trivial
  | act a k ih => exact ⟨hpq a h.1, fun r => ih r (h.2 r)⟩
  | loop body x k ihbody ihk => exact ⟨fun y => ihbody y (h.1 y), fun b => ihk b (h.2 b)⟩

/-- Two conditions on the actions are one. -/
theorem every_and {p q : A → Prop} {c : Program A R α} (hp : c.Every p) (hq : c.Every q) :
    c.Every fun a => p a ∧ q a := by
  induction c with
  | ret a => trivial
  | act a k ih => exact ⟨⟨hp.1, hq.1⟩, fun r => ih r (hp.2 r) (hq.2 r)⟩
  | loop body x k ihbody ihk =>
    exact ⟨fun y => ihbody y (hp.1 y) (hq.1 y), fun b => ihk b (hp.2 b) (hq.2 b)⟩

/-- Wherever the program performs an action that satisfies `p`, what it does next is
related to the answer by `P`. No loop of the program performs such an action. -/
def Leads (p : A → Prop) {α : Type} (P : (a : A) → R a → Program A R α → Prop) : Program A R α → Prop
  | .ret _ => True
  | .act a k => (p a → ∀ r, P a r (k r)) ∧ ∀ r, (k r).Leads p P
  | .loop body _ k => (∀ y, (body y).Every fun a => ¬ p a) ∧ ∀ b, (k b).Leads p P

/-- A program that never performs such an action leads nowhere by it. -/
theorem leads_of_every {p : A → Prop} {P : (a : A) → R a → Program A R α → Prop} {c : Program A R α}
    (h : c.Every fun a => ¬ p a) : c.Leads p P := by
  induction c with
  | ret a => trivial
  | act a k ih => exact ⟨fun ha => absurd ha h.1, fun r => ih r (h.2 r)⟩
  | loop body x k _ ih => exact ⟨h.1, fun b => ih b (h.2 b)⟩

/-- What precedes without such an action changes nothing about where it leads. -/
theorem leads_bind {p : A → Prop} {P : (a : A) → R a → Program A R γ → Prop} {c : Program A R α}
    {f : α → Program A R γ} (hc : c.Every fun a => ¬ p a) (hf : ∀ a, (f a).Leads p P) :
    (c.bind f).Leads p P := by
  induction c with
  | ret a => exact hf a
  | act a k ih => exact ⟨fun ha => absurd ha hc.1, fun r => ih r (hc.2 r) hf⟩
  | loop body x k _ ih => exact ⟨hc.1, fun b => ih b (hc.2 b) hf⟩

/-- Every step keeps what the actions lead to. -/
theorem leads_advance {W : Type} {answer : (a : A) → W → R a × W} {p : A → Prop}
    {P : (a : A) → R a → Program A R α → Prop} {c : Program A R α} {w : W} (h : c.Leads p P) :
    (c.advance answer w).1.Leads p P := by
  cases c with
  | ret a => exact h
  | act a k => exact h.2 _
  | loop body x k =>
    apply leads_bind (h.1 x)
    rintro (y | b)
    · exact h
    · exact h.2 b

/-- An action about to be performed leads on as it should. -/
theorem leads_next {W : Type} {f : (a : A) → W → R a × W} {p : A → Prop}
    {P : (a : A) → R a → Program A R α → Prop} {c : Program A R α} {w : W} (h : c.Leads p P) {a : A}
    (hnext : c.next = some a) (ha : p a) : P a (f a w).1 (c.advance f w).1 := by
  cases c with
  | act a' k => cases hnext; exact h.1 ha _
  | _ => cases hnext

end Program

end program
