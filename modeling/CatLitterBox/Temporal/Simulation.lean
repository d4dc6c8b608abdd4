import Mathlib.Data.List.Basic

namespace temporal

universe u v w x

variable {S : Type u} {T : Type v} {I : Type w} {O : Type x}

/-- The state of a machine after some inputs. -/
def final (step : S → I → S × O) (s : S) (inputs : List I) : S := inputs.foldl (fun s i => (step s i).1) s

/-- What a machine answers to its inputs, one after another. -/
def outputs (step : S → I → S × O) : S → List I → List O
  | _, [] => []
  | s, i :: inputs => (step s i).2 :: outputs step (step s i).1 inputs

variable {step : S → I → S × O} {step' : T → I → T × O} {R : S → T → Prop}

/-- The later inputs start where the earlier ones end. -/
theorem final_append (s : S) (inputs more : List I) :
    final step s (inputs ++ more) = final step (final step s inputs) more := List.foldl_append

/-- And so do their outputs. -/
theorem outputs_append (s : S) (inputs more : List I) :
    outputs step s (inputs ++ more) = outputs step s inputs ++ outputs step (final step s inputs) more := by
  induction inputs generalizing s with
  | nil => rfl
  | cons i inputs ih =>
    rw [List.cons_append, outputs, outputs, ih, List.cons_append]
    rfl

/-- Machines that answer alike in related states, and stay related, answer alike for ever. -/
theorem simulation
    (hstep : ∀ s t i, R s t → (step s i).2 = (step' t i).2 ∧ R (step s i).1 (step' t i).1)
    {s : S} {t : T} (h : R s t) (inputs : List I) :
    outputs step s inputs = outputs step' t inputs ∧ R (final step s inputs) (final step' t inputs) := by
  induction inputs generalizing s t with
  | nil => exact ⟨rfl, h⟩
  | cons i inputs ih =>
    obtain ⟨hout, hnext⟩ := hstep s t i h
    obtain ⟨houts, hfinal⟩ := ih hnext
    constructor
    · rw [outputs, outputs, hout, houts]
    · exact hfinal

end temporal
