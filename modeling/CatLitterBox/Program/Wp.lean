import CatLitterBox.Program.Every

namespace program

/-- What is required of the actions of a program over a state `S`: `allow a s` must
hold whenever `a` is performed in `s`, and `trans a s r t` are the answers `r` and
the states `t` that may follow, interference by others included. -/
structure Spec (A : Type) (R : A → Type) (S : Type) where
  allow : A → S → Prop
  trans : (a : A) → S → R a → S → Prop

/-- The action is allowed wherever the assertion holds, and keeps it. -/
def Spec.Keeps {A : Type} {R : A → Type} {S : Type} (M : Spec A R S) (I : S → Prop) (a : A) : Prop :=
  ∀ s, I s → M.allow a s ∧ ∀ r t, M.trans a s r t → I t

namespace Program

variable {A : Type} {R : A → Type} {α β γ σ S : Type}

/-- Weakest precondition for partial correctness: every action the program performs
is allowed, and every result satisfies the postcondition. A loop needs an invariant
of its loop state. -/
def wp (M : Spec A R S) {α : Type} : Program A R α → (α → S → Prop) → S → Prop
  | .ret a, Q => Q a
  | .act a k, Q => fun s => M.allow a s ∧ ∀ r t, M.trans a s r t → (k r).wp M Q t
  | .loop (σ := σ) body x k, Q => fun s => ∃ I : σ → S → Prop, I x s ∧
      ∀ y t, I y t → (body y).wp M (fun o u => o.elim (fun z => I z u) fun b => (k b).wp M Q u) t

variable {M : Spec A R S} {s : S}

@[simp] theorem wp_ret (a : α) (Q : α → S → Prop) : (Program.ret a).wp M Q s ↔ Q a s := Iff.rfl

@[simp] theorem wp_act (a : A) (k : R a → Program A R α) (Q : α → S → Prop) :
    (Program.act a k).wp M Q s ↔ M.allow a s ∧ ∀ r t, M.trans a s r t → (k r).wp M Q t := Iff.rfl

/-- Less may be asked of the end. -/
theorem wp_mono {c : Program A R α} {P Q : α → S → Prop} (hPQ : ∀ a t, P a t → Q a t)
    (h : c.wp M P s) : c.wp M Q s := by
  induction c generalizing s with
  | ret a => exact hPQ a s h
  | act a k ih => exact ⟨h.1, fun r t htrans => ih r hPQ (h.2 r t htrans)⟩
  | loop body x k ihbody ihk =>
    obtain ⟨I, hstart, hturn⟩ := h
    refine ⟨I, hstart, fun y t hy => ihbody y ?_ (hturn y t hy)⟩
    rintro (z | b) u hu
    · exact hu
    · exact ihk b hPQ hu

@[simp] theorem wp_bind (c : Program A R α) (f : α → Program A R γ) (Q : γ → S → Prop) :
    (c.bind f).wp M Q s ↔ c.wp M (fun a t => (f a).wp M Q t) s := by
  induction c generalizing s with
  | ret a => rfl
  | act a k ih => simp only [act_bind, wp_act, ih]
  | loop body x k _ ih => simp only [loop_bind, wp, ih]

/-- The second program has to be right where the first one ends. -/
theorem wp_seq {c : Program A R α} {f : α → Program A R γ} {Q : γ → S → Prop}
    (h : c.wp M (fun a t => (f a).wp M Q t) s) : (c.bind f).wp M Q s := (wp_bind c f Q).mpr h

/-- One action that is allowed, and then all that it may be answered. -/
theorem wp_perform_bind {a : A} {f : R a → Program A R γ} {Q : γ → S → Prop} (hallow : M.allow a s)
    (hf : ∀ r t, M.trans a s r t → (f r).wp M Q t) :
    ((Program.perform a : Program A R (R a)).bind f).wp M Q s := ⟨hallow, hf⟩

/-- A branch has to be right where its side is taken. -/
theorem wp_ite {P : Prop} [Decidable P] {c d : Program A R α} {Q : α → S → Prop}
    (hc : P → c.wp M Q s) (hd : ¬ P → d.wp M Q s) : (if P then c else d).wp M Q s := by
  split
  · exact hc ‹_›
  · exact hd ‹_›

/-- The loop rule: an invariant that holds at entry, is kept by every turn that goes
round again, and implies the postcondition on every turn that leaves. -/
theorem wp_repeated {body : σ → Program A R (σ ⊕ β)} {x : σ} {Q : β → S → Prop}
    (I : σ → S → Prop) (hstart : I x s)
    (hturn : ∀ y t, I y t → (body y).wp M (fun o u => o.elim (fun z => I z u) fun b => Q b u) t) :
    (repeated body x).wp M Q s :=
  ⟨I, hstart, hturn⟩

/-- Entering a turn of a loop keeps the weakest precondition. -/
theorem wp_unroll {body : σ → Program A R (σ ⊕ β)} {x : σ} {k : β → Program A R α} {Q : α → S → Prop}
    (h : (Program.loop body x k).wp M Q s) : (unroll body x k).wp M Q s := by
  obtain ⟨I, hstart, hturn⟩ := h
  rw [unroll, wp_bind]
  refine wp_mono ?_ (hturn x s hstart)
  rintro (z | b) u hu
  · exact ⟨I, hu, hturn⟩
  · exact hu

/-- Any action about to be performed is allowed. -/
theorem wp_next {c : Program A R α} {Q : α → S → Prop} (h : c.wp M Q s) {a : A}
    (hnext : c.next = some a) : M.allow a s := by
  cases c with
  | act a' k => cases hnext; exact h.1
  | _ => simp [next] at hnext

/-- An ended program satisfies the postcondition. -/
theorem wp_result {c : Program A R α} {Q : α → S → Prop} (h : c.wp M Q s) {a : α}
    (hresult : c.result = some a) : Q a s := by
  cases c with
  | ret a' => cases hresult; exact h
  | _ => simp [result] at hresult

/-- The weakest precondition is kept by every step whose answer and successor state
the specification foresees. -/
theorem wp_advance {W : Type} {answer : (a : A) → W → R a × W} {c : Program A R α}
    {Q : α → S → Prop} {w : W} {t : S} (h : c.wp M Q s)
    (hact : ∀ a, c.next = some a → M.trans a s (answer a w).1 t) (hstay : c.next = none → t = s) :
    (c.advance answer w).1.wp M Q t := by
  cases c with
  | ret a => rw [hstay rfl]; exact h
  | act a k => exact h.2 _ _ (hact a rfl)
  | loop body x k => rw [hstay rfl]; exact wp_unroll h

/-- The frame rule: an assertion that every action of the program keeps, and that
allows each of them, holds throughout and at the end. -/
theorem wp_of_every {p : A → Prop} {I : S → Prop} {c : Program A R α} (hc : c.Every p)
    (hallow : ∀ a s, p a → I s → M.allow a s)
    (hkeep : ∀ a s r t, p a → I s → M.trans a s r t → I t) (hs : I s) :
    c.wp M (fun _ => I) s := by
  induction c generalizing s with
  | ret a => exact hs
  | act a k ih =>
    exact ⟨hallow a s hc.1 hs, fun r t htrans => ih r (hc.2 r) (hkeep a s r t hc.1 hs htrans)⟩
  | loop body x k ihbody ihk =>
    refine ⟨fun _ t => I t, hs, fun y t ht => wp_mono ?_ (ihbody y (hc.1 y) ht)⟩
    rintro (z | b) u hu
    · exact hu
    · exact ihk b (hc.2 b) hu

/-- A program all of whose actions keep an assertion keeps it. -/
theorem wp_of_keeps {I : S → Prop} {c : Program A R α} {Q : α → S → Prop}
    (hc : c.Every (M.Keeps I)) (hs : I s)
    (hQ : ∀ x t, I t → Q x t) : c.wp M Q s := by
  refine wp_mono hQ (wp_of_every hc (fun a u ha hu => ?_) (fun a u r t ha hu htrans => ?_) hs)
  · exact (ha u hu).1
  · exact (ha u hu).2 r t htrans

end Program

end program
