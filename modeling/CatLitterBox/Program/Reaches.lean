import CatLitterBox.Program.Every

namespace program

namespace Program

variable {A : Type} {R : A → Type} {α γ σ β W : Type}

/-- On every path to its end the program performs an action that satisfies `p`, and what is
left of it after that action satisfies `P`. -/
def Reaches (p : A → Prop) {α : Type} : Program A R α → (Program A R α → Prop) → Prop
  | .ret _, _ => False
  | .act a k, P => (p a ∧ ∀ r, P (k r)) ∨ ∀ r, (k r).Reaches p P
  | .loop _ _ k, P => ∀ b, (k b).Reaches p P

variable {p q : A → Prop} {P Q : Program A R α → Prop} {c : Program A R α}

/-- Less may hold where it is reached. -/
theorem reaches_mono (hPQ : ∀ k, P k → Q k) (h : c.Reaches p P) : c.Reaches p Q := by
  induction c with
  | ret a => exact h
  | act a k ih =>
    obtain ⟨ha, hk⟩ | hlater := h
    · exact .inl ⟨ha, fun r => hPQ _ (hk r)⟩
    · exact .inr fun r => ih r hPQ (hlater r)
  | loop body x k _ ih => exact fun b => ih b hPQ (h b)

/-- What is performed after an action that is performed on every path. -/
theorem reaches_through (h : c.Reaches p P) (hP : ∀ k, P k → k.Reaches q Q) : c.Reaches q Q := by
  induction c with
  | ret a => exact h
  | act a k ih =>
    obtain ⟨-, hk⟩ | hlater := h
    · exact .inr fun r => hP _ (hk r)
    · exact .inr fun r => ih r (hlater r) hP
  | loop body x k _ ih => exact fun b => ih b (h b) hP

/-- A program that has reached its end performs nothing any more. -/
theorem result_of_reaches (h : c.Reaches p P) : c.result = none := by
  cases c with
  | ret a => exact h.elim
  | _ => rfl

/-- After an action a program still reaches what all its continuations reach. -/
theorem reaches_act {a : A} {k : R a → Program A R α} (h : ∀ r, (k r).Reaches p P) :
    (Program.act a k).Reaches p P :=
  .inr h

/-- A program that performs the action has reached it. -/
theorem reaches_here {a : A} {k : R a → Program A R α} (ha : p a) (h : ∀ r, P (k r)) :
    (Program.act a k).Reaches p P :=
  .inl ⟨ha, h⟩

/-- What follows a program performs the action on all its paths. -/
theorem reaches_bind {c : Program A R α} {f : α → Program A R γ} {P : Program A R γ → Prop}
    (h : ∀ a, (f a).Reaches p P) : (c.bind f).Reaches p P := by
  induction c with
  | ret a => exact h a
  | act a k ih => exact .inr fun r => ih r h
  | loop body x k _ ih => exact fun b => ih b h

/-- A branch reaches what its two sides reach. -/
theorem reaches_ite {T : Prop} [Decidable T] {c d : Program A R α} (hc : c.Reaches p P) (hd : d.Reaches p P) :
    (if T then c else d).Reaches p P := by
  split
  · exact hc
  · exact hd

/-- A step that does not perform the action leaves it to be performed. -/
theorem reaches_advance {answer : (a : A) → W → R a × W} {w : W} (h : c.Reaches p P)
    (hnext : ∀ a, c.next = some a → ¬ p a) : (c.advance answer w).1.Reaches p P := by
  cases c with
  | ret a => exact h.elim
  | act a k =>
    obtain ⟨ha, -⟩ | hlater := h
    · exact absurd ha (hnext a rfl)
    · exact hlater _
  | loop body x k =>
    apply reaches_bind
    rintro (y | b)
    · exact h
    · exact h b

/-- A program keeps to its actions as it goes on. -/
theorem every_advance {answer : (a : A) → W → R a × W} {w : W} (h : c.Every q) :
    (c.advance answer w).1.Every q := by
  cases c with
  | ret a => exact h
  | act a k => exact h.2 _
  | loop body x k =>
    apply every_bind (h.1 x)
    rintro (y | b)
    · exact h
    · exact h.2 b

/-- A program that has yet to perform `p`, or performs only `q` any more, stays one of both. -/
theorem reaches_or_every_advance {answer : (a : A) → W → R a × W} {w : W} (hP : ∀ k, P k → k.Every q)
    (h : c.Reaches p P ∨ c.Every q) : (c.advance answer w).1.Reaches p P ∨
    (c.advance answer w).1.Every q := by
  obtain hreaches | hevery := h
  · cases c with
    | ret a => exact hreaches.elim
    | act a k =>
      obtain ⟨-, hk⟩ | hlater := hreaches
      · exact .inr (hP _ (hk _))
      · exact .inl (hlater _)
    | loop body x k => exact .inl (reaches_advance hreaches nofun)
  · exact .inr (every_advance hevery)

/-- The action about to be performed is one of those the program performs. -/
theorem every_next (h : c.Every q) {a : A} (hnext : c.next = some a) : q a := by
  cases c with
  | act a' k =>
    cases hnext
    exact h.1
  | _ => cases hnext

end Program

end program
