import CatLitterBox.Program.History

namespace program

namespace Program

variable {A : Type} {R : A → Type} {α γ : Type}

/-- An action is answered from what has happened before it, and recorded with its answer. -/
def record (oracle : (a : A) → List ((a : A) × R a) → R a) (a : A) (s : List ((a : A) × R a)) :
    R a × List ((a : A) × R a) :=
  (oracle a s, ⟨a, oracle a s⟩ :: s)

/-- A program after some steps, with the history of its actions, the newest first. Any sequence of answers is
the one of some oracle. -/
def recorded (c : Program A R α) (oracle : (a : A) → List ((a : A) × R a) → R a) :
    Nat → Program A R α × List ((a : A) × R a)
  | 0 => (c, [])
  | n + 1 => (c.recorded oracle n).1.advance (record oracle) (c.recorded oracle n).2

variable {oracle : (a : A) → List ((a : A) × R a) → R a} {c : Program A R α}
  {allow : A → List ((a : A) × R a) → Prop} {hook : (a : A) → R a → List ((a : A) × R a) → Prop}
  {Q : α → List ((a : A) × R a) → Prop} {s : List ((a : A) × R a)}

instance decidableUnhooked [∀ a r s, Decidable (hook a r s)] :
    (s : List ((a : A) × R a)) → Decidable (Unhooked hook s)
  | [] => .isTrue trivial
  | ⟨a, r⟩ :: s =>
    have : Decidable (Unhooked hook s) := decidableUnhooked s
    inferInstanceAs (Decidable (¬ hook a r (⟨a, r⟩ :: s) ∧ Unhooked hook s))

/-- A step lengthens the history by the action that it performs, if it does. -/
theorem advance_record : (c.advance (record oracle) s).2 =
    (c.next.map fun a => (⟨a, (record oracle a s).1⟩ : (a : A) × R a)).toList ++ s := by
  cases c with
  | ret a => rfl
  | act a k => rfl
  | loop body x k => rfl

private theorem unhooked_of_cons {e : (a : A) × R a} (h : Unhooked hook (e :: s)) : Unhooked hook s := h.2

/-- Every action of a history was allowed when it was performed. -/
def Respects (allow : A → List ((a : A) × R a) → Prop) : List ((a : A) × R a) → Prop
  | [] => True
  | ⟨a, _⟩ :: s => allow a s ∧ Respects allow s

/-- What was not hooked in the end was not hooked before. -/
theorem unhooked_recorded {n : Nat} (h : Unhooked hook (c.recorded oracle (n + 1)).2) :
    Unhooked hook (c.recorded oracle n).2 := by
  rw [recorded, advance_record] at h
  cases hnext : (c.recorded oracle n).1.next with
  | none =>
    rw [hnext] at h
    exact h
  | some a =>
    rw [hnext] at h
    exact unhooked_of_cons h

/-- A program proved right from the start is still right after so many answers. -/
theorem wp_recorded (h : c.wp (.history allow) Q []) (n : Nat) :
    (c.recorded oracle n).1.wp (.history allow) Q (c.recorded oracle n).2 := by
  induction n with
  | zero => exact h
  | succ n ih =>
    rw [recorded, advance_record]
    exact wp_history_advance ih

/-- And all that it has done until then was allowed. -/
theorem respects_recorded (h : c.wp (.history allow) Q []) (n : Nat) :
    Respects allow (c.recorded oracle n).2 := by
  induction n with
  | zero => trivial
  | succ n ih =>
    rw [recorded, advance_record]
    cases hnext : (c.recorded oracle n).1.next with
    | none => exact ih
    | some a => exact ⟨wp_next (wp_recorded h n) hnext, ih⟩

/-- Until the hook holds, a program is still right after so many answers. -/
theorem wp_until_recorded (h : c.wp ((Spec.history allow).until hook) Q []) {n : Nat}
    (hunhooked : Unhooked hook (c.recorded oracle n).2) :
    (c.recorded oracle n).1.wp ((Spec.history allow).until hook) Q (c.recorded oracle n).2 := by
  induction n with
  | zero => exact h
  | succ n ih =>
    have hbefore := ih (unhooked_recorded hunhooked)
    rw [recorded, advance_record] at hunhooked ⊢
    exact wp_until_advance hbefore hunhooked

/-- And all that it has done until then was allowed. -/
theorem respects_until_recorded (h : c.wp ((Spec.history allow).until hook) Q []) {n : Nat}
    (hunhooked : Unhooked hook (c.recorded oracle n).2) : Respects allow (c.recorded oracle n).2 := by
  induction n with
  | zero => trivial
  | succ n ih =>
    have hbefore := unhooked_recorded hunhooked
    rw [recorded, advance_record]
    cases hnext : (c.recorded oracle n).1.next with
    | none => exact ih hbefore
    | some a => exact ⟨wp_next (wp_until_recorded h hbefore) hnext, ih hbefore⟩

end Program

end program
