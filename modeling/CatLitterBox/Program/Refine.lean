import CatLitterBox.Program.Reaches
import CatLitterBox.Program.Rely

open temporal

namespace program

variable {A : Type} {R : A → Type} {α S T E F : Type}

/-- Through the view `V` the states of an invariant `I` behave like those of another system: an action that `p`
admits is answered alike, and a change is some changes that may happen there. -/
structure Refines (answer : (a : A) → S → R a × S) (apply : S → E → S) (may : S → E → Prop)
    (answer' : (a : A) → T → R a × T) (apply' : T → F → T) (may' : T → F → Prop) (p : A → Prop) (I : T → Prop)
    (V : T → S) : Prop where
  act : ∀ a t, p a → I t → answer a (V t) = ((answer' a t).1, V (answer' a t).2)
  act_keeps : ∀ a t, p a → I t → I (answer' a t).2
  change : ∀ t e, I t → may' t e → Changes apply may (V t) (V (apply' t e))
  change_keeps : ∀ t e, I t → may' t e → I (apply' t e)

/-- The same program, on what its state is seen as. -/
def Shared.seen (V : T → S) (c : Shared A R α T) : Shared A R α S := ⟨c.code, V c.state⟩

variable {answer : (a : A) → S → R a × S} {apply : S → E → S} {may : S → E → Prop} {ok : A → S → Prop}

/-- Changes that may happen are turns of a run. -/
theorem Changes.turns (answer : (a : A) → S → R a × S) (ok : A → S → Prop) {s t : S} (h : Changes apply may s t)
    (code : Program A R α) :
    ∃ turns : List (Turn E), Along (Shared.move answer apply) (Shared.permits ok may) ⟨code, s⟩ turns ∧
      Shared.run answer apply ⟨code, s⟩ turns = ⟨code, t⟩ := by
  induction h with
  | refl => exact ⟨[], trivial, rfl⟩
  | tail _ hlast ih =>
    obtain ⟨e, he, rfl⟩ := hlast
    obtain ⟨turns, halong, hrun⟩ := ih
    have hrun' : turns.foldl (Shared.move answer apply) ⟨code, s⟩ = ⟨code, _⟩ := hrun
    refine ⟨turns ++ [.change e], along_append.mpr ⟨halong, ?_, trivial⟩, ?_⟩
    · rw [hrun']
      exact he
    · rw [Shared.run, List.foldl_append, hrun']
      rfl

variable {answer' : (a : A) → T → R a × T} {apply' : T → F → T} {may' : T → F → Prop}
  {p : A → Prop} {I : T → Prop}
  {V : T → S} {c : Shared A R α T}

/-- A step of the program is the same step on what its state is seen as. -/
theorem Refines.own (h : Refines answer apply may answer' apply' may' p I V) (hcode : c.code.Every p)
    (hstate : I c.state) :
    (c.seen V).move answer apply (.own : Turn E) = (c.move answer' apply' (.own : Turn F)).seen V ∧
      I (c.move answer' apply' (.own : Turn F)).state := by
  obtain ⟨code, state⟩ := c
  cases code with
  | ret a => exact ⟨rfl, hstate⟩
  | loop body x k => exact ⟨rfl, hstate⟩
  | act a k =>
    refine ⟨?_, h.act_keeps a state hcode.1 hstate⟩
    have hanswer := h.act a state hcode.1 hstate
    change (⟨k (answer a (V state)).1, (answer a (V state)).2⟩ : Shared A R α S) =
      ⟨k (answer' a state).1, V (answer' a state).2⟩
    rw [hanswer]

/-- Every run is seen as a run. -/
theorem Refines.run (ok : A → S → Prop)
    (h : Refines answer apply may answer' apply' may' p I V) (turns : List (Turn F))
    (hcode : c.code.Every p) (hstate : I c.state)
    (halong : Along (Shared.move answer' apply') (Shared.permits (fun a t => ok a (V t)) may') c turns) :
    ∃ seen : List (Turn E), Along (Shared.move answer apply) (Shared.permits ok may) (c.seen V) seen ∧
      (c.seen V).run answer apply seen = (c.run answer' apply' turns).seen V := by
  induction turns generalizing c with
  | nil => exact ⟨[], trivial, rfl⟩
  | cons turn turns ih =>
    obtain ⟨hturn, hrest⟩ := halong
    cases turn with
    | own =>
      obtain ⟨hmove, hkept⟩ := h.own hcode hstate
      obtain ⟨seen, halong, hrun⟩ := ih (Program.every_advance hcode) hkept hrest
      refine ⟨.own :: seen, ⟨hturn, ?_⟩, ?_⟩
      · rw [hmove]
        exact halong
      · rw [← hmove] at hrun
        exact hrun
    | change e =>
      obtain ⟨before, hbefore, hchanged⟩ :=
        (h.change c.state e hstate hturn).turns answer ok c.code
      obtain ⟨seen, halong, hrun⟩ := ih (c := c.move answer' apply' (.change e)) hcode
        (h.change_keeps c.state e hstate hturn) hrest
      have hchanged' : before.foldl (Shared.move answer apply) (c.seen V) =
          (c.move answer' apply' (.change e)).seen V := hchanged
      refine ⟨before ++ seen, along_append.mpr ⟨hbefore, ?_⟩, ?_⟩
      · rw [hchanged']
        exact halong
      · rw [Shared.run, List.foldl_append, hchanged']
        exact hrun

end program
