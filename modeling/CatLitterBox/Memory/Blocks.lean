import Mathlib.Data.List.Basic

namespace blocks

universe u

/-- A block of memory. Once it is dead its content is arbitrary. -/
structure Block (B : Type u) where
  content : List B
  live : Bool

/-- The blocks in the order in which they came to be; the position of a block is what a
pointer designates, so that no two blocks share one. -/
abbrev Store (B : Type u) := List (Block B)

variable {B : Type u}

def Store.alloc (s : Store B) (content : List B) : Nat × Store B := (s.length, s ++ [⟨content, true⟩])

/-- A block is freed, or the stack frame that it is part of has returned. -/
def Store.free (s : Store B) (p : Nat) : Store B := s.modify p fun b => { b with live := false }

/-- A block that is not live is used for something else. -/
def Store.reuse (s : Store B) (p : Nat) (content : List B) : Store B :=
  s.modify p fun b => if b.live then b else { b with content }

/-- What is read from the start of a block, live or not. -/
def Store.read (s : Store B) (p : Option Nat) (length : Nat) : List B :=
  match p.bind fun p => s[p]? with
  | some b => b.content.take length
  | none => []

/-- A pointer designates a live block that starts with some content of a length. -/
def Store.Designates (s : Store B) (p : Option Nat) (length : Nat) (content : List B) : Prop :=
  ∃ b, (p.bind fun p => s[p]?) = some b ∧ b.live = true ∧ b.content.take length = content

def Store.Dead (s : Store B) (p : Nat) : Prop := ∀ b, s[p]? = some b → b.live = false

variable {s : Store B} {p q : Nat}

/-- A block that has been freed is dead. -/
theorem free_dead : (s.free p).Dead p := by
  intro b hb
  rw [Store.free, List.getElem?_modify_eq] at hb
  obtain ⟨b', -, rfl⟩ := Option.map_eq_some_iff.mp hb
  rfl

/-- A dead block stays dead. -/
theorem Store.Dead.free (h : s.Dead p) : (s.free q).Dead p := by
  by_cases heq : q = p
  · subst heq
    exact free_dead
  · intro b hb
    rw [Store.free, List.getElem?_modify_ne _ _ heq] at hb
    exact h b hb

/-- A pointer to a dead block designates nothing. -/
theorem Store.Dead.not_designates {length : Nat} {content : List B} (h : s.Dead p) :
    ¬ s.Designates (some p) length content := by
  rintro ⟨b, hb, hlive, -⟩
  rw [h b hb] at hlive
  cases hlive

end blocks
