import CatLitterBox.Program.Wp
import CatLitterBox.Temporal.Run
import Mathlib.Logic.Relation

namespace program

variable {A : Type} {R : A → Type} {α γ S E : Type}

/-- A program and the state it shares with an environment. -/
structure Shared (A : Type) (R : A → Type) (α S : Type) where
  code : Program A R α
  state : S

/-- One move of a shared program: a step of its own, or a change by the environment. -/
inductive Turn (E : Type) where
  | own
  | change (e : E)

namespace Shared

variable (answer : (a : A) → S → R a × S) (apply : S → E → S)

def move (c : Shared A R α S) : Turn E → Shared A R α S
  | .own =>
    { code := (c.code.advance answer c.state).1
      state := (c.code.advance answer c.state).2 }
  | .change e => { c with state := apply c.state e }

def run (c : Shared A R α S) (turns : List (Turn E)) : Shared A R α S := turns.foldl (move answer apply) c

/-- A turn is permitted in a state: an action of the program by `ok`, a change by `may`. -/
def permits (ok : A → S → Prop) (may : S → E → Prop) (c : Shared A R α S) : Turn E → Prop
  | .own => ∀ a ∈ c.code.next, ok a c.state
  | .change e => may c.state e

instance {ok : A → S → Prop} {may : S → E → Prop} [∀ a s, Decidable (ok a s)] [∀ s e, Decidable (may s e)]
    (c : Shared A R α S) : (turn : Turn E) → Decidable (c.permits ok may turn)
  | .own => inferInstanceAs (Decidable (∀ a ∈ c.code.next, ok a c.state))
  | .change e => inferInstanceAs (Decidable (may c.state e))

end Shared

/-- The environment takes one state to another by changes that may happen. -/
def Changes (apply : S → E → S) (may : S → E → Prop) : S → S → Prop :=
  Relation.ReflTransGen fun s t => ∃ e, may s e ∧ t = apply s e

/-- What every change keeps, any number of them keep. -/
theorem Changes.keep {apply : S → E → S} {may : S → E → Prop} {I : S → Prop}
    (hstep : ∀ s e, may s e → I s → I (apply s e)) {s t : S}
    (h : Changes apply may s t) (hs : I s) : I t := by
  induction h with
  | refl => exact hs
  | tail _ hlast ih =>
    obtain ⟨e, he, rfl⟩ := hlast
    exact hstep _ e he ih

/-- The specification of a program in an environment: before each of its actions the
environment may have changed the state, and the action is one that `ok` permits there. -/
def Spec.rely (answer : (a : A) → S → R a × S) (env : S → S → Prop) (ok : A → S → Prop) : Spec A R S where
  allow _ _ := True
  trans a s r t := ∃ u, env s u ∧ ok a u ∧ answer a u = (r, t)

/-- An assertion that the environment keeps is kept by an action that keeps it alone. -/
theorem keeps_rely {answer : (a : A) → S → R a × S} {env : S → S → Prop}
    {ok : A → S → Prop} {I : S → Prop} {a : A}
    (henv : ∀ s t, env s t → I s → I t) (hact : ∀ s, ok a s → I s → I (answer a s).2) :
    (Spec.rely answer env ok).Keeps I a := by
  refine fun s hs => ⟨trivial, ?_⟩
  rintro r t ⟨u, hu, hok, hanswer⟩
  have ht : (answer a u).2 = t := by rw [hanswer]
  exact ht ▸ hact u hok (henv s u hu hs)

open Program

/-- At some state from which the environment has come to the present one, the weakest
precondition of what is left of the program holds. -/
def Shared.holds (answer : (a : A) → S → R a × S) (apply : S → E → S) (may : S → E → Prop) (ok : A → S → Prop)
    (Q : α → S → Prop) (c : Shared A R α S) : Prop :=
  ∃ s, c.code.wp (.rely answer (Changes apply may) ok) Q s ∧ Changes apply may s c.state

variable {answer : (a : A) → S → R a × S} {apply : S → E → S} {may : S → E → Prop} {ok : A → S → Prop}
  {Q : α → S → Prop}

/-- A permitted turn keeps the weakest precondition. -/
theorem Shared.holds_move {c : Shared A R α S} (turn : Turn E) (h : c.holds answer apply may ok Q)
    (hturn : c.permits ok may turn) : (c.move answer apply turn).holds answer apply may ok Q := by
  obtain ⟨s, hcode, henv⟩ := h
  cases turn with
  | own =>
    cases hnext : c.code.next with
    | none =>
      have hstay : (c.move answer apply (.own : Turn E)).state = c.state := advance_of_none hnext
      refine ⟨s, wp_advance hcode (fun a ha => ?_) fun _ => rfl, ?_⟩
      · rw [hnext] at ha
        cases ha
      · rw [hstay]
        exact henv
    | some a =>
      have hmoved : (c.move answer apply (.own : Turn E)).state = (answer a c.state).2 :=
        advance_of_next hnext
      refine ⟨(answer a c.state).2, wp_advance hcode (fun b hb => ?_) fun hnone => ?_, ?_⟩
      · obtain rfl : a = b := Option.some.inj (hnext.symm.trans hb)
        exact ⟨c.state, henv, hturn a hnext, rfl⟩
      · rw [hnext] at hnone
        cases hnone
      · rw [hmoved]
        exact .refl
  | change e => exact ⟨s, hcode, henv.tail ⟨e, hturn, rfl⟩⟩

/-- So does a run of permitted turns. -/
theorem Shared.holds_run {c : Shared A R α S} {turns : List (Turn E)} (h : c.holds answer apply may ok Q)
    (hturns : temporal.Along (move answer apply) (permits ok may) c turns) :
    (c.run answer apply turns).holds answer apply may ok Q :=
  hturns.invariant (I := fun c => c.holds answer apply may ok Q)
    (fun _ turn hc hturn => holds_move turn hc hturn) h

/-- What the action that is performed keeps, and every change, a turn keeps. -/
theorem Shared.keep_move {I : S → Prop} {c : Shared A R α S} (hc : I c.state)
    (hact : ∀ a, c.code.next = some a → I (answer a c.state).2)
    (hchange : ∀ e, I (apply c.state e)) (turn : Turn E) :
    I (c.move answer apply turn).state := by
  cases turn with
  | own =>
    cases hnext : c.code.next with
    | none =>
      have hstay : (c.move answer apply (.own : Turn E)).state = c.state := advance_of_none hnext
      rw [hstay]
      exact hc
    | some a =>
      have hmoved : (c.move answer apply (.own : Turn E)).state = (answer a c.state).2 := advance_of_next hnext
      rw [hmoved]
      exact hact a hnext
  | change e => exact hchange e

/-- Where the permitted actions and changes are those that keep an assertion, so are the permitted turns. -/
theorem Shared.permits_iff {I : S → Prop} {c : Shared A R α S} (hc : I c.state)
    (hact : ∀ a, c.code.next = some a → (ok a c.state ↔ I (answer a c.state).2))
    (hchange : ∀ e, may c.state e ↔ I (apply c.state e)) (turn : Turn E) :
    c.permits ok may turn ↔ I (c.move answer apply turn).state := by
  cases turn with
  | own =>
    change (∀ a ∈ c.code.next, ok a c.state) ↔ I (c.code.advance answer c.state).2
    cases hnext : c.code.next with
    | none =>
      rw [advance_of_none hnext]
      exact iff_of_true nofun hc
    | some a =>
      rw [advance_of_next hnext, ← hact a hnext]
      simp
  | change e => exact hchange e

/-- The weakest precondition over a view of the state that the actions follow, and that no change
touches, is kept by every turn. -/
theorem Shared.wp_move {T : Type} {M : Spec A R T} {V : S → T} {P : α → T → Prop}
    (hact : ∀ a s, M.trans a (V s) (answer a s).1 (V (answer a s).2))
    (hchange : ∀ s e, V (apply s e) = V s) {c : Shared A R α S} (h : c.code.wp M P (V c.state))
    (turn : Turn E) : (c.move answer apply turn).code.wp M P (V (c.move answer apply turn).state) := by
  cases turn with
  | own =>
    refine wp_advance h (fun a ha => ?_) fun hnone => ?_
    · change M.trans a _ _ (V (c.code.advance answer c.state).2)
      rw [advance_of_next ha]
      exact hact a c.state
    · exact congrArg V (advance_of_none hnone)
  | change e =>
    change c.code.wp M P (V (apply c.state e))
    rw [hchange]
    exact h

/-- What every action and every change keep, a run keeps, whatever the program is. -/
theorem Shared.run_invariant {I : S → Prop} (hact : ∀ a s, I s → I (answer a s).2)
    (hchange : ∀ s e, I s → I (apply s e)) {c : Shared A R α S} (hc : I c.state) (turns : List (Turn E)) :
    I (c.run answer apply turns).state := by
  refine (temporal.along_of_forall (fun _ _ => trivial) turns c : temporal.Along _
    (fun _ _ => True) c turns).invariant
    (I := fun c => I c.state) ?_ hc
  intro c turn hc _
  exact keep_move hc (fun a _ => hact a c.state hc) (fun e => hchange c.state e hc) turn

end program
