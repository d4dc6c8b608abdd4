import CatLitterBox.Motor.Scenario
import CatLitterBox.Program.History
import Mathlib.Data.List.Induction

open catbox.sensor program program.Program

namespace catbox.motor

/-- What may happen while a scenario runs, with no assumption on the rest of the firmware:
a step of the scenario, or any change of the shared state. -/
inductive Move where
  | scenario
  | others (w : World)

def Move.apply (c : Config) : Move → Config
  | .scenario => c.step
  | .others w => { c with world := w }

/-- The scenario after the moves, from its start in the state `w`. -/
def run (scenario : Scenario) (w : World) (moves : List Move) : Config :=
  moves.foldl Move.apply (scenario.start w)

/-- A property of histories proved of the code of a scenario holds along all its runs. -/
theorem run_history {scenario : Scenario} {allow : Act → List Event → Prop} {Q : Int → List Event → Prop}
    (h : scenario.code.wp (.history allow) Q []) (w : World) (moves : List Move) :
    (run scenario w moves).code.wp (.history allow) Q (run scenario w moves).trace := by
  refine List.foldlRecOn (motive := fun c => c.code.wp (.history allow) Q c.trace) moves Move.apply ?_ ?_
  · exact h
  intro c hc m _
  cases m with
  | scenario => exact wp_history_advance hc
  | others w' => exact hc

/-- A run only adds to the history. -/
theorem Move.apply_unhooked {hook : (a : Act) → a.Answer → List Event → Prop} (m : Move) {c : Config}
    (h : Unhooked hook (m.apply c).trace) : Unhooked hook c.trace := by
  cases m with
  | scenario =>
    cases hnext : c.code.next with
    | none => simpa [Move.apply, Config.step, Config.event, hnext] using h
    | some a =>
      simp only [Move.apply, Config.step, Config.event, hnext, Option.map_some, Option.toList_some,
        List.singleton_append] at h
      exact h.2
  | others w => exact h

/-- The same for what holds up to the first hooked answer, along runs without one. -/
theorem run_until {scenario : Scenario} {allow : Act → List Event → Prop} {Q : Int → List Event → Prop}
    {hook : (a : Act) → a.Answer → List Event → Prop}
    (h : scenario.code.wp ((Spec.history allow).until hook) Q []) (w : World) (moves : List Move)
    (hhook : Unhooked hook (run scenario w moves).trace) :
    (run scenario w moves).code.wp ((Spec.history allow).until hook) Q (run scenario w moves).trace := by
  induction moves using List.reverseRecOn with
  | nil => exact h
  | append_singleton moves m ih =>
    rw [run, List.foldl_append, List.foldl_cons, List.foldl_nil] at hhook ⊢
    have hcode := ih (m.apply_unhooked hhook)
    cases m with
    | scenario => exact wp_until_advance hcode hhook
    | others w' => exact hcode

/-- The direction a step commands to the motor `mt`, if it is such a command. -/
def Act.command (mt : Motor) : Act → Option Direction
  | .send m msg => if m = mt then some msg.direction else none
  | _ => none

/-- The last command sent to the motor `mt`. -/
def lastCommand (mt : Motor) (trace : List Event) : Option Direction :=
  trace.findSome? fun e => e.1.command mt

/-- The last command is the newest one. -/
@[simp] theorem lastCommand_cons (mt : Motor) (a : Act) (r : a.Answer) (trace : List Event) :
    lastCommand mt (⟨a, r⟩ :: trace) = (a.command mt).or (lastCommand mt trace) := by
  simp only [lastCommand, List.findSome?_cons]
  cases a.command mt with
  | none => rfl
  | some dir => rfl

end catbox.motor
