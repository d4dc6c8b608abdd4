import CatLitterBox.Program.Until

namespace program

variable {A : Type} {R : A → Type} {α β γ σ : Type}

/-- The specification whose state is the history: the actions taken so far with their
answers, newest first. Any answer may come, so what it proves holds under any
interference. -/
def Spec.history (allow : A → List ((a : A) × R a) → Prop) : Spec A R (List ((a : A) × R a)) where
  allow := allow
  trans a s r t := t = ⟨a, r⟩ :: s

namespace Program

variable {allow : A → List ((a : A) × R a) → Prop} {s : List ((a : A) × R a)}

/-- One action, after which the history is longer by it and its answer. -/
theorem wp_history_bind {a : A} {f : R a → Program A R γ} {Q : γ → List ((a : A) × R a) → Prop}
    (hallow : allow a s) (hf : ∀ r, (f r).wp (.history allow) Q (⟨a, r⟩ :: s)) :
    ((Program.perform a : Program A R (R a)).bind f).wp (.history allow) Q s := by
  refine wp_perform_bind hallow fun r t ht => ?_
  rw [show t = ⟨a, r⟩ :: s from ht]
  exact hf r

/-- A program whose actions all satisfy `p` keeps what every such action keeps. -/
theorem wp_history_of_every {p : A → Prop} {I : List ((a : A) × R a) → Prop} {c : Program A R α}
    {Q : α → List ((a : A) × R a) → Prop} (hc : c.Every p) (hallow : ∀ a s, p a → I s → allow a s)
    (hkeep : ∀ a r s, p a → I s → I (⟨a, r⟩ :: s)) (hs : I s) (hQ : ∀ x t, I t → Q x t) :
    c.wp (.history allow) Q s := by
  refine wp_mono hQ (wp_of_every hc hallow (fun a u r t ha hu ht => ?_) hs)
  rw [show t = ⟨a, r⟩ :: u from ht]
  exact hkeep a r u ha hu

/-- One step keeps the weakest precondition over the extended history. -/
theorem wp_history_advance {W : Type} {answer : (a : A) → W → R a × W} {c : Program A R α}
    {Q : α → List ((a : A) × R a) → Prop} {w : W} (h : c.wp (.history allow) Q s) :
    (c.advance answer w).1.wp (.history allow) Q
      ((c.next.map fun a => (⟨a, (answer a w).1⟩ : (a : A) × R a)).toList ++ s) := by
  refine wp_advance h (fun a ha => ?_) fun hnone => ?_
  · rw [ha]
    rfl
  · rw [hnone]
    rfl

variable {hook : (a : A) → R a → List ((a : A) × R a) → Prop}

/-- One action, after which the proof goes on only where the hook did not hold. -/
theorem wp_until_bind {a : A} {f : R a → Program A R γ} {Q : γ → List ((a : A) × R a) → Prop}
    (hallow : allow a s)
    (hf : ∀ r, ¬ hook a r (⟨a, r⟩ :: s) → (f r).wp ((Spec.history allow).until hook) Q (⟨a, r⟩ :: s)) :
    ((Program.perform a : Program A R (R a)).bind f).wp ((Spec.history allow).until hook) Q s := by
  refine wp_perform_bind hallow fun r t ht => ?_
  obtain ⟨rfl, hunhooked⟩ := ht
  exact hf r hunhooked

/-- Code that is harmless at every action keeps an invariant of the history, and need not be gone
through. -/
theorem wp_until_of_every {p : A → Prop} {I : List ((a : A) × R a) → Prop} {c : Program A R α}
    {Q : α → List ((a : A) × R a) → Prop} (hc : c.Every p) (hallow : ∀ a s, p a → I s → allow a s)
    (hkeep : ∀ a r s, p a → I s → I (⟨a, r⟩ :: s)) (hs : I s) (hQ : ∀ x t, I t → Q x t) :
    c.wp ((Spec.history allow).until hook) Q s := by
  refine wp_mono hQ (wp_of_every hc hallow (fun a u r t ha hu ht => ?_) hs)
  obtain ⟨rfl, -⟩ := ht
  exact hkeep a r u ha hu

/-- The same, of what such an action keeps when its answer is not hooked. -/
theorem wp_until_of_every_kept {p : A → Prop} {I : List ((a : A) × R a) → Prop} {c : Program A R α}
    {Q : α → List ((a : A) × R a) → Prop} (hc : c.Every p) (hallow : ∀ a s, p a → I s → allow a s)
    (hkeep : ∀ a r s, p a → I s → ¬ hook a r (⟨a, r⟩ :: s) → I (⟨a, r⟩ :: s)) (hs : I s)
    (hQ : ∀ x t, I t → Q x t) :
    c.wp ((Spec.history allow).until hook) Q s := by
  refine wp_mono hQ (wp_of_every hc hallow (fun a u r t ha hu ht => ?_) hs)
  obtain ⟨rfl, hunhooked⟩ := ht
  exact hkeep a r u ha hu hunhooked

/-- No answer of the history was hooked. -/
def Unhooked (hook : (a : A) → R a → List ((a : A) × R a) → Prop) : List ((a : A) × R a) → Prop
  | [] => True
  | ⟨a, r⟩ :: s => ¬ hook a r (⟨a, r⟩ :: s) ∧ Unhooked hook s

/-- Two hooks may be watched for as one. -/
theorem unhooked_or {hook' : (a : A) → R a → List ((a : A) × R a) → Prop} (h : Unhooked hook s)
    (h' : Unhooked hook' s) : Unhooked (fun a r t => hook a r t ∨ hook' a r t) s := by
  induction s with
  | nil => trivial
  | cons e s ih => exact ⟨not_or.mpr ⟨h.1, h'.1⟩, ih h.2 h'.2⟩

/-- One step whose answer is not hooked keeps the weakest precondition up to the first
hooked answer. -/
theorem wp_until_advance {W : Type} {answer : (a : A) → W → R a × W} {c : Program A R α}
    {Q : α → List ((a : A) × R a) → Prop} {w : W} (h : c.wp ((Spec.history allow).until hook) Q s)
    (hhook : Unhooked hook ((c.next.map fun a => (⟨a, (answer a w).1⟩ : (a : A) × R a)).toList ++ s)) :
    (c.advance answer w).1.wp ((Spec.history allow).until hook) Q
      ((c.next.map fun a => (⟨a, (answer a w).1⟩ : (a : A) × R a)).toList ++ s) := by
  refine wp_advance h (fun a ha => ?_) fun hnone => ?_
  · rw [ha] at hhook ⊢
    exact ⟨rfl, hhook.1⟩
  · rw [hnone]
    rfl

end Program

end program
