import CatLitterBox.Program.Oracle

namespace program

namespace Program

variable {A : Type} {R : A → Type} {α β γ σ : Type}

/-- One step of a program with the history before it. -/
def StepsTo (oracle : (a : A) → List ((a : A) × R a) → R a) (x y : Program A R α × List ((a : A) × R a)) : Prop :=
  y = x.1.advance (record oracle) x.2

/-- Some steps lead from the one to the other. -/
def ComesTo (oracle : (a : A) → List ((a : A) × R a) → R a) :
    Program A R α × List ((a : A) × R a) → Program A R α × List ((a : A) × R a) → Prop :=
  Relation.ReflTransGen (StepsTo oracle)

/-- Total correctness with the answers of an oracle: the program comes to an end, and what it returns
satisfies the postcondition. -/
def Ends (oracle : (a : A) → List ((a : A) × R a) → R a) (Q : α → List ((a : A) × R a) → Prop)
    (c : Program A R α) (s : List ((a : A) × R a)) : Prop :=
  ∃ a t, ComesTo oracle (c, s) (.ret a, t) ∧ Q a t

variable {oracle : (a : A) → List ((a : A) × R a) → R a} {c : Program A R α} {s t : List ((a : A) × R a)}
  {Q : γ → List ((a : A) × R a) → Prop}

/-- What a program comes to, it comes to after some number of steps. -/
theorem exists_recorded {n : Nat} {y : Program A R α × List ((a : A) × R a)}
    (h : ComesTo oracle (c.recorded oracle n) y) : ∃ m, c.recorded oracle m = y := by
  induction h with
  | refl => exact ⟨n, rfl⟩
  | tail _ hstep ih =>
    obtain ⟨m, rfl⟩ := ih
    exact ⟨m + 1, hstep.symm⟩

/-- A step of a program is one of the sequence that it begins, if it has not ended. -/
theorem comesTo_bind_step (f : α → Program A R γ) :
    ComesTo oracle (c.bind f, s) ((c.advance (record oracle) s).1.bind f, (c.advance (record oracle) s).2) := by
  cases c with
  | ret a => exact .refl
  | act a k => exact .single rfl
  | loop body x k =>
    apply Relation.ReflTransGen.single
    unfold StepsTo advance
    simp only [loop_bind]
    unfold unroll
    rw [bind_assoc]
    congr 2
    funext o
    cases o with
    | inl y => rfl
    | inr b => rfl

/-- A program that comes to another one does so with the same code behind both. -/
theorem comesTo_bind {x y : Program A R α × List ((a : A) × R a)} (f : α → Program A R γ)
    (h : ComesTo oracle x y) : ComesTo oracle (x.1.bind f, x.2) (y.1.bind f, y.2) := by
  induction h with
  | refl => exact .refl
  | tail _ hstep ih =>
    rw [show _ = _ from hstep]
    exact ih.trans (comesTo_bind_step f)

/-- What a program comes to ends, so it ends itself. -/
theorem ends_of_comesTo {c d : Program A R γ} (h : ComesTo oracle (c, s) (d, t)) (hd : d.Ends oracle Q t) :
    c.Ends oracle Q s := by
  obtain ⟨a, u, hend, hQ⟩ := hd
  exact ⟨a, u, h.trans hend, hQ⟩

/-- A program that has returned has ended. -/
theorem ends_ret {a : γ} (h : Q a s) : (Program.ret a : Program A R γ).Ends oracle Q s := ⟨a, s, .refl, h⟩

/-- One action, answered by the oracle, and then the rest has to end. -/
theorem ends_perform_bind {a : A} {f : R a → Program A R γ}
    (h : (f (oracle a s)).Ends oracle Q (⟨a, oracle a s⟩ :: s)) :
    ((Program.perform a : Program A R (R a)).bind f).Ends oracle Q s :=
  ends_of_comesTo (.single rfl) h

/-- The first program has to end where the second one does. -/
theorem ends_seq {f : α → Program A R γ} (h : c.Ends oracle (fun a t => (f a).Ends oracle Q t) s) :
    (c.bind f).Ends oracle Q s := by
  obtain ⟨a, t, hend, hf⟩ := h
  exact ends_of_comesTo (comesTo_bind f hend) hf

/-- A branch ends where its side does. -/
theorem ends_ite {P : Prop} [Decidable P] {c d : Program A R γ} (hc : P → c.Ends oracle Q s)
    (hd : ¬ P → d.Ends oracle Q s) : (if P then c else d).Ends oracle Q s := by
  split
  · exact hc ‹_›
  · exact hd ‹_›

/-- A program comes to one end only. -/
theorem ends_unique {P : γ → List ((a : A) × R a) → Prop} {c : Program A R γ} (hP : c.Ends oracle P s)
    (hQ : c.Ends oracle Q s) : ∃ a t, P a t ∧ Q a t := by
  obtain ⟨a, t, hat, hpa⟩ := hP
  obtain ⟨b, u, hbu, hqb⟩ := hQ
  have hstay {z : Program A R γ × List ((a : A) × R a)} {a : γ} {t : List ((a : A) × R a)}
      (h : ComesTo oracle (.ret a, t) z) : z = (.ret a, t) := by
    induction h with
    | refl => rfl
    | tail _ hstep ih =>
      rw [ih] at hstep
      exact hstep
  have hfunction : Relator.RightUnique (StepsTo (α := γ) oracle) := fun _ _ _ hy hz => hy.trans hz.symm
  obtain hab | hba := hat.total_of_right_unique hfunction hbu
  · obtain ⟨hend, rfl⟩ := Prod.mk.inj (hstay hab)
    obtain rfl := Option.some.inj (congrArg result hend)
    exact ⟨b, u, hpa, hqb⟩
  · obtain ⟨hend, rfl⟩ := Prod.mk.inj (hstay hba)
    obtain rfl := Option.some.inj (congrArg result hend)
    exact ⟨a, t, hpa, hqb⟩

variable {body : σ → Program A R (σ ⊕ γ)} {x y : σ}

/-- A turn that goes round again leads to the next turn. -/
theorem comesTo_turn (h : ComesTo oracle (body x, s) (.ret (.inl y), t)) :
    ComesTo oracle (repeated body x, s) (repeated body y, t) :=
  .head rfl (comesTo_bind _ h)

/-- The loop rule for total correctness: an invariant that holds at entry and is kept by every turn that
goes round again, and a measure that these turns decrease. -/
theorem ends_repeated (I : σ → List ((a : A) × R a) → Prop) (measure : σ → List ((a : A) × R a) → Nat)
    (hstart : I x s)
    (hturn : ∀ y t, I y t → (body y).Ends oracle
      (fun o u => o.elim (fun z => I z u ∧ measure z u < measure y t) fun b => Q b u) t) :
    (repeated body x).Ends oracle Q s := by
  induction hn : measure x s using Nat.strongRecOn generalizing x s with
  | _ n ih =>
    obtain ⟨o, t, hbody, hends⟩ := hturn x s hstart
    cases o with
    | inl y =>
      obtain ⟨hy, hlt⟩ := hends
      exact ends_of_comesTo (comesTo_turn hbody) (ih _ (hn ▸ hlt) hy rfl)
    | inr b => exact ends_of_comesTo (.head rfl (comesTo_bind _ hbody)) (ends_ret hends)

end Program

end program
