import Mathlib.Logic.Relation

namespace program

/-- Programs over an action signature: each action `a` is answered by a value of
`R a`, and `loop` runs its body from a loop state until the body yields a result.
Between two actions anything may happen to the state the program runs on, so a
program fixes the control flow only and nothing about the answers. -/
inductive Program (A : Type) (R : A → Type) : Type → Type 1 where
  | ret {α : Type} (a : α) : Program A R α
  | act {α : Type} (a : A) (k : R a → Program A R α) : Program A R α
  | loop {σ β α : Type} (body : σ → Program A R (σ ⊕ β)) (x : σ) (k : β → Program A R α) :
      Program A R α

namespace Program

variable {A : Type} {R : A → Type} {α β γ σ : Type}

/-- Sequential composition. A loop keeps its body; only what follows it grows. -/
def bind {α γ : Type} : Program A R α → (α → Program A R γ) → Program A R γ
  | .ret a, f => f a
  | .act a k, f => .act a fun r => (k r).bind f
  | .loop body x k, f => .loop body x fun b => (k b).bind f

instance : Monad (Program A R) where
  pure := .ret
  bind := bind

/-- The program that performs one action and returns its answer. -/
@[simp] def perform (a : A) : Program A R (R a) := .act a .ret

/-- Runs `body` from `x`; `inl` goes round again, `inr` leaves the loop. -/
def repeated (body : σ → Program A R (σ ⊕ β)) (x : σ) : Program A R β := .loop body x .ret

/-- One turn of a loop followed by either the next turn or the continuation. -/
def unroll (body : σ → Program A R (σ ⊕ β)) (x : σ) (k : β → Program A R α) : Program A R α :=
  (body x).bind (Sum.elim (fun y => .loop body y k) k)

@[simp] theorem ret_bind (a : α) (f : α → Program A R γ) :
    Program.bind (.ret a) f = f a := rfl

@[simp] theorem bind_eq (c : Program A R α) (f : α → Program A R γ) : c >>= f = c.bind f := rfl

@[simp] theorem pure_eq (a : α) : (pure a : Program A R α) = .ret a := rfl

@[simp] theorem act_bind (a : A) (k : R a → Program A R α) (f : α → Program A R γ) :
    (Program.act a k).bind f = .act a fun r => (k r).bind f := rfl

@[simp] theorem loop_bind (body : σ → Program A R (σ ⊕ β)) (x : σ) (k : β → Program A R α)
    (f : α → Program A R γ) :
    (Program.loop body x k).bind f = .loop body x fun b => (k b).bind f := rfl

/-- The order in which programs are put together does not matter. -/
theorem bind_assoc {δ : Type} (c : Program A R α) (f : α → Program A R γ) (g : γ → Program A R δ) :
    (c.bind f).bind g = c.bind fun x => (f x).bind g := by
  induction c with
  | ret x => rfl
  | act a k ih => simp only [act_bind, ih]
  | loop body x k _ ih => simp only [loop_bind, ih]

/-- The action a program performs next, if it is at one. -/
def next : Program A R α → Option A
  | .act a _ => some a
  | _ => none

/-- The result of a program that has ended. -/
def result : Program A R α → Option α
  | .ret a => some a
  | _ => none

/-- One step against a state that answers the actions. A step either performs
one action or enters one turn of a loop; an ended program stays as it is. -/
def advance {W : Type} (answer : (a : A) → W → R a × W) : Program A R α → W → Program A R α × W
  | .ret a, w => (.ret a, w)
  | .act a k, w => (k (answer a w).1, (answer a w).2)
  | .loop body x k, w => (unroll body x k, w)

/-- The world goes on as the answer says. -/
theorem advance_of_next {W : Type} {answer : (a : A) → W → R a × W} {c : Program A R α} {a : A} {w : W}
    (h : c.next = some a) : (c.advance answer w).2 = (answer a w).2 := by
  cases c with
  | act a' k => cases h; rfl
  | _ => cases h

/-- A step that performs no action leaves the state alone. -/
theorem advance_of_none {W : Type} {answer : (a : A) → W → R a × W} {c : Program A R α} {w : W}
    (h : c.next = none) : (c.advance answer w).2 = w := by
  cases c with
  | act a' k => cases h
  | _ => rfl

/-- Runs a program that never loops to its end, with nothing happening in between. A
loop would be left as it stands. -/
def finish {W : Type} (answer : (a : A) → W → R a × W) : Program A R α → W → W
  | .ret _, w => w
  | .act a k, w => (k (answer a w).1).finish answer (answer a w).2
  | .loop .., w => w

/-- What every action keeps, code that does not loop keeps. -/
theorem finish_of_step {W : Type} {answer : (a : A) → W → R a × W} {P : W → Prop}
    (hstep : ∀ a w, P w → P (answer a w).2) (c : Program A R α) {w : W} (h : P w) :
    P (c.finish answer w) := by
  induction c generalizing w with
  | ret _ => exact h
  | act a k ih => exact ih _ (hstep a w h)
  | loop _ _ _ => exact h

end Program

end program
