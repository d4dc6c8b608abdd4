import Mathlib.Data.List.Basic

namespace queue

universe u

variable {M : Type u} {capacity : Nat}

/-- A bounded queue to one task, with the message that the task has taken, and a history: what has been let into
the queue, and what the task is done with. -/
structure Channel (M : Type u) (capacity : Nat) where
  waiting : List M
  taken : Option M
  accepted : List M
  finished : List M
  bounded : waiting.length ≤ capacity
  fifo : accepted = finished ++ (taken.toList ++ waiting)

def Channel.empty : Channel M capacity := ⟨[], none, [], [], Nat.zero_le _, rfl⟩

/-- What the task or the queue holds. -/
def Channel.held (c : Channel M capacity) : List M := c.taken.toList ++ c.waiting

/-- A full queue does not take the message. -/
def Channel.push (c : Channel M capacity) (x : M) : Option (Channel M capacity) :=
  if h : c.waiting.length < capacity then
    some
      { c with
        waiting := c.waiting ++ [x]
        accepted := c.accepted ++ [x]
        bounded := by rw [List.length_append]; exact h
        fifo := by rw [c.fifo]; simp only [List.append_assoc] }
  else none

/-- A task that has nothing takes the oldest message, if there is one. -/
def Channel.receive (c : Channel M capacity) : Channel M capacity :=
  match htaken : c.taken, hwaiting : c.waiting with
  | none, x :: rest =>
    { c with
      waiting := rest
      taken := some x
      bounded := by
        have hbounded := c.bounded
        rw [hwaiting, List.length_cons] at hbounded
        exact Nat.le_of_succ_le hbounded
      fifo := by
        have hfifo := c.fifo
        rw [htaken, hwaiting] at hfifo
        exact hfifo }
  | _, _ => c

/-- The task is done with its message. -/
def Channel.finish (c : Channel M capacity) : Channel M capacity :=
  { c with
    taken := none
    finished := c.finished ++ c.taken.toList
    fifo := by rw [c.fifo]; simp only [List.append_assoc, Option.toList_none, List.nil_append] }

variable {c c' : Channel M capacity} {x : M}

/-- A channel holds no more than its capacity and the element that has been taken. -/
theorem Channel.length_held (c : Channel M capacity) : c.held.length ≤ capacity + 1 := by
  have hbounded := c.bounded
  unfold Channel.held
  rw [List.length_append]
  cases c.taken with
  | none =>
    change 0 + c.waiting.length ≤ capacity + 1
    omega
  | some x =>
    change 1 + c.waiting.length ≤ capacity + 1
    omega

/-- What is pushed comes in behind. -/
theorem push_eq (h : c.push x = some c') :
    c'.held = c.held ++ [x] ∧ c'.taken = c.taken ∧ c'.finished = c.finished := by
  unfold Channel.push at h
  split at h
  · cases h
    exact ⟨by simp [Channel.held], rfl, rfl⟩
  · cases h

/-- To receive an element moves it from the queue to the hand, and loses none. -/
theorem receive_eq (c : Channel M capacity) : c.receive.held = c.held ∧ c.receive.finished = c.finished ∧
    c.receive.accepted = c.accepted := by
  obtain ⟨waiting, taken, accepted, finished, bounded, fifo⟩ := c
  cases taken with
  | some x => exact ⟨rfl, rfl, rfl⟩
  | none =>
    cases waiting with
    | nil => exact ⟨rfl, rfl, rfl⟩
    | cons x rest => exact ⟨rfl, rfl, rfl⟩

/-- What is finished is the oldest element that was held. -/
theorem finish_held (h : c.taken = some x) :
    c.held = x :: c.finish.held ∧ c.finish.finished = c.finished ++ [x] := by
  obtain ⟨waiting, taken, accepted, finished, bounded, fifo⟩ := c
  obtain rfl : taken = some x := h
  exact ⟨rfl, rfl⟩

/-- A message leaves in its turn. -/
theorem accepted_eq (c : Channel M capacity) : c.accepted = c.finished ++ c.held := c.fifo

end queue
