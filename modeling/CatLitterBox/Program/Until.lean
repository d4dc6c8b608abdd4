import CatLitterBox.Program.Wp

namespace program

variable {A : Type} {R : A → Type} {α β γ σ S : Type}

/-- The specification that follows a program only up to the first answer on which
`hook` holds. -/
def Spec.until (M : Spec A R S) (hook : (a : A) → R a → S → Prop) : Spec A R S where
  allow := M.allow
  trans a s r t := M.trans a s r t ∧ ¬ hook a r t

namespace Program

/-- Wherever the program stands, an answer on which `hook` holds leads to a
continuation that satisfies `M`. -/
def After (M : Spec A R S) (hook : (a : A) → R a → S → Prop) {α : Type} :
    Program A R α → (α → S → Prop) → Prop
  | .ret _, _ => True
  | .act a k, Q => (∀ r t, hook a r t → (k r).wp M Q t) ∧ ∀ r, (k r).After M hook Q
  | .loop body _ k, Q =>
      (∀ y, (body y).After M hook fun o u =>
        o.elim (fun z => (Program.loop body z k).wp M Q u) fun b => (k b).wp M Q u) ∧
      ∀ b, (k b).After M hook Q

variable {M : Spec A R S} {hook : (a : A) → R a → S → Prop}

@[simp] theorem after_ret (a : α) (Q : α → S → Prop) : (Program.ret a : Program A R α).After M hook Q :=
  trivial

@[simp] theorem after_act (a : A) (k : R a → Program A R α) (Q : α → S → Prop) :
    (Program.act a k).After M hook Q ↔
      (∀ r t, hook a r t → (k r).wp M Q t) ∧ ∀ r, (k r).After M hook Q := Iff.rfl

theorem after_mono {c : Program A R α} {P Q : α → S → Prop} (hPQ : ∀ a t, P a t → Q a t)
    (h : c.After M hook P) : c.After M hook Q := by
  induction c with
  | ret a => trivial
  | act a k ih => exact ⟨fun r t hr => wp_mono hPQ (h.1 r t hr), fun r => ih r hPQ (h.2 r)⟩
  | loop body x k ihbody ihk =>
    refine ⟨fun y => ihbody y ?_ (h.1 y), fun b => ihk b hPQ (h.2 b)⟩
    rintro (z | b) u hu
    · exact wp_mono hPQ hu
    · exact wp_mono hPQ hu

/-- A hook in the first program is met by the rest of it and the second, one in the second by
itself. -/
theorem after_bind {c : Program A R α} {f : α → Program A R γ} {Q : γ → S → Prop}
    (hc : c.After M hook fun a t => (f a).wp M Q t) (hf : ∀ a, (f a).After M hook Q) :
    (c.bind f).After M hook Q := by
  induction c with
  | ret a => exact hf a
  | act a k ih =>
    exact ⟨fun r t hr => (wp_bind ..).mpr (hc.1 r t hr), fun r => ih r (hc.2 r) hf⟩
  | loop body x k _ ih =>
    refine ⟨fun y => after_mono ?_ (hc.1 y), fun b => ih b (hc.2 b) hf⟩
    rintro (z | b) u hu
    · exact (wp_bind (.loop body z k) f Q).mpr hu
    · exact (wp_bind ..).mpr hu

/-- An action that is never answered so that `hook` holds. -/
theorem after_skip {a : A} {f : R a → Program A R γ} {Q : γ → S → Prop} (h : ∀ r t, ¬ hook a r t)
    (hf : ∀ r, (f r).After M hook Q) :
    ((Program.perform a : Program A R (R a)).bind f).After M hook Q :=
  ⟨fun r t hr => absurd hr (h r t), hf⟩

/-- A hook is met by the action, or by what comes after it. -/
theorem after_perform_bind {a : A} {f : R a → Program A R γ} {Q : γ → S → Prop}
    (h : ∀ r t, hook a r t → (f r).wp M Q t) (hf : ∀ r, (f r).After M hook Q) :
    ((Program.perform a : Program A R (R a)).bind f).After M hook Q :=
  ⟨h, hf⟩

/-- A hook in a branch is met on its side. -/
theorem after_ite {P : Prop} [Decidable P] {c d : Program A R α} {Q : α → S → Prop}
    (hc : c.After M hook Q) (hd : d.After M hook Q) : (if P then c else d).After M hook Q := by
  split
  · exact hc
  · exact hd

/-- A program none of whose actions can be answered so that `hook` holds. -/
theorem after_of_every {c : Program A R α} {Q : α → S → Prop}
    (h : c.Every fun a => ∀ r t, ¬ hook a r t) : c.After M hook Q := by
  induction c with
  | ret a => trivial
  | act a k ih => exact ⟨fun r t hr => absurd hr (h.1 r t), fun r => ih r (h.2 r)⟩
  | loop body x k ihbody ihk => exact ⟨fun y => ihbody y (h.1 y), fun b => ihk b (h.2 b)⟩

/-- Entering a turn of a loop keeps the obligations on hooked answers. -/
theorem after_unroll {body : σ → Program A R (σ ⊕ β)} {x : σ} {k : β → Program A R α}
    {Q : α → S → Prop} (h : (Program.loop body x k).After M hook Q) : (unroll body x k).After M hook Q := by
  refine after_bind (after_mono ?_ (h.1 x)) ?_
  · rintro (z | b) u hu
    · exact hu
    · exact hu
  · rintro (z | b)
    · exact h
    · exact h.2 b

/-- The obligations on hooked answers are kept by every step, whatever it is answered. -/
theorem after_advance {W : Type} {answer : (a : A) → W → R a × W} {c : Program A R α}
    {Q : α → S → Prop} {w : W} (h : c.After M hook Q) : (c.advance answer w).1.After M hook Q := by
  cases c with
  | ret a => exact h
  | act a k => exact h.2 _
  | loop body x k => exact after_unroll h

private theorem wp_of_until_of {c : Program A R α} {P Q : α → S → Prop} {s : S}
    (huntil : c.wp (M.until hook) P s) (hafter : c.After M hook Q) (hPQ : ∀ a t, P a t → Q a t) :
    c.wp M Q s := by
  induction c generalizing s with
  | ret a => exact hPQ a s huntil
  | act a k ih =>
    refine ⟨huntil.1, fun r t htrans => ?_⟩
    by_cases hr : hook a r t
    · exact hafter.1 r t hr
    · exact ih r (huntil.2 r t ⟨htrans, hr⟩) (hafter.2 r) hPQ
  | loop body x k ihbody ihk =>
    obtain ⟨I, hstart, hturn⟩ := huntil
    refine ⟨fun y t => I y t ∨ (Program.loop body y k).wp M Q t, .inl hstart, ?_⟩
    rintro y t (hy | hy)
    · refine ihbody y (hturn y t hy) (after_mono ?_ (hafter.1 y)) ?_
      · rintro (z | b) u hu
        · exact .inr hu
        · exact hu
      · rintro (z | b) u hu
        · exact .inl hu
        · exact ihk b hu (hafter.2 b) hPQ
    · obtain ⟨J, hJ, hJturn⟩ := hy
      refine wp_mono ?_ (hJturn y t hJ)
      rintro (z | b) u hu
      · exact .inr ⟨J, hu, hJturn⟩
      · exact hu

/-- A program that satisfies `M` up to its first hooked answer, and whose hooked
answers all lead to continuations satisfying `M`, satisfies `M`. -/
theorem wp_of_until {c : Program A R α} {Q : α → S → Prop} {s : S}
    (huntil : c.wp (M.until hook) Q s) (hafter : c.After M hook Q) : c.wp M Q s :=
  wp_of_until_of huntil hafter fun _ _ h => h

end Program

end program
