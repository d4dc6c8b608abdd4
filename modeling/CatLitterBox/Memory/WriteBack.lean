import CatLitterBox.Temporal.Run
import Mathlib.Data.List.Induction
import Mathlib.Logic.Function.Basic

open temporal

namespace writeback

universe u

/-- An object in memory and its copy in a store, whether a save has been requested, and the next cell that
is copied while a save is in progress. -/
structure Cached (V : Type u) where
  memory : Nat → V
  store : Nat → V
  requested : Bool
  copying : Option Nat

/-- What happens to an object: a change of a cell, a request, the start of a save, which takes the request
back, the copy of the next cell, the end of the save, and whatever does not concern it. -/
inductive Event (V : Type u) where
  | change (i : Nat) (v : V)
  | request
  | start
  | copy
  | finish
  | other

variable {V : Type u}

def Cached.apply (c : Cached V) : Event V → Cached V
  | .change i v => { c with memory := Function.update c.memory i v }
  | .request => { c with requested := true }
  | .start => { c with requested := false, copying := some 0 }
  | .copy =>
    match c.copying with
    | some n => { c with store := Function.update c.store n (c.memory n), copying := some (n + 1) }
    | none => c
  | .finish => { c with copying := none }
  | .other => c

def Cached.run (c : Cached V) (events : List (Event V)) : Cached V := events.foldl Cached.apply c

/-- A save does not end before all `size` cells are copied. -/
def Cached.allows (size : Nat) (c : Cached V) : Event V → Prop
  | .finish => ∀ n, c.copying = some n → size ≤ n
  | _ => True

/-- The stored cell is the one that the object had at some moment of the run. -/
def Cached.Fresh (c : Cached V) (events : List (Event V)) (i : Nat) : Prop :=
  ∃ since, since <+: events ∧ (c.run events).store i = (c.run since).memory i

/-- The save in progress has yet to come to the cell. -/
def Cached.Pending (c : Cached V) (i : Nat) : Prop := ∃ n ≤ i, c.copying = some n

variable {c : Cached V} {events : List (Event V)} {e : Event V} {size i : Nat}

theorem run_concat (c : Cached V) (events : List (Event V)) (e : Event V) :
    c.run (events ++ [e]) = (c.run events).apply e := List.foldl_concat ..

theorem copy_requested (c : Cached V) : (c.apply .copy).requested = c.requested := by
  unfold Cached.apply
  cases c.copying with
  | none => rfl
  | some n => rfl

/-- A cell that an event does not copy stays as fresh as it was. -/
theorem fresh_concat (h : c.Fresh events i) (hkeep : ((c.run events).apply e).store i = (c.run events).store i) :
    c.Fresh (events ++ [e]) i := by
  obtain ⟨since, hprefix, hstore⟩ := h
  refine ⟨since, hprefix.trans (List.prefix_append events [e]), ?_⟩
  rw [run_concat, hkeep]
  exact hstore

/-- The copy of the next cell makes it fresh, and those behind it are still to come. -/
theorem fresh_or_pending_copy (h : c.Fresh events i ∨ (c.run events).Pending i) :
    c.Fresh (events ++ [.copy]) i ∨ (c.run (events ++ [.copy])).Pending i := by
  cases hcopying : (c.run events).copying with
  | none =>
    have hsame : (c.run events).apply .copy = c.run events := by simp [Cached.apply, hcopying]
    rw [run_concat, hsame]
    exact h.imp_left fun hfresh => fresh_concat hfresh (by rw [hsame])
  | some n =>
    have hcopy : (c.run events).apply .copy = { c.run events with
        store := Function.update (c.run events).store n ((c.run events).memory n)
        copying := some (n + 1) } := by simp [Cached.apply, hcopying]
    obtain rfl | hne := eq_or_ne i n
    · refine .inl ⟨events, List.prefix_append events _, ?_⟩
      rw [run_concat, hcopy]
      exact Function.update_self ..
    · obtain hfresh | ⟨k, hk, hat⟩ := h
      · refine .inl (fresh_concat hfresh ?_)
        rw [hcopy]
        exact Function.update_of_ne hne ..
      · rw [hcopying] at hat
        obtain rfl := Option.some.inj hat
        refine .inr ⟨n + 1, by omega, ?_⟩
        rw [run_concat, hcopy]

/-- After a request, either it has not been taken back, or every cell is fresh or will be copied. -/
theorem requested_or_fresh (hrequested : c.requested = true)
    (hallows : Along Cached.apply (Cached.allows size) c events) :
    (c.run events).requested = true ∨ ∀ i < size, c.Fresh events i ∨ (c.run events).Pending i := by
  induction events using List.reverseRecOn with
  | nil => exact .inl hrequested
  | append_singleton events e ih =>
    obtain ⟨hbefore, hlast, -⟩ := along_append.mp hallows
    have hsame (hstore : ((c.run events).apply e).store = (c.run events).store)
        (hcopying : ((c.run events).apply e).copying = (c.run events).copying)
        (hkeep : (c.run events).requested = true → ((c.run events).apply e).requested = true) :
        (c.run (events ++ [e])).requested = true ∨
          ∀ i < size, c.Fresh (events ++ [e]) i ∨ (c.run (events ++ [e])).Pending i := by
      rw [run_concat]
      obtain hstill | hcells := ih hbefore
      · exact .inl (hkeep hstill)
      · refine .inr fun i hi => (hcells i hi).imp (fun hfresh => fresh_concat hfresh (by rw [hstore])) ?_
        rintro ⟨n, hn, hat⟩
        exact ⟨n, hn, hcopying.trans hat⟩
    cases e with
    | change i v => exact hsame rfl rfl id
    | request => exact .inl (by rw [run_concat]; rfl)
    | start => exact .inr fun i _ => .inr ⟨0, Nat.zero_le i, by rw [run_concat]; rfl⟩
    | copy =>
      obtain hstill | hcells := ih hbefore
      · left
        rw [run_concat, copy_requested]
        exact hstill
      · exact .inr fun i hi => fresh_or_pending_copy (hcells i hi)
    | finish =>
      obtain hstill | hcells := ih hbefore
      · exact .inl (by rw [run_concat]; exact hstill)
      · refine .inr fun i hi => ?_
        obtain hfresh | ⟨n, hn, hat⟩ := hcells i hi
        · exact .inl (fresh_concat hfresh rfl)
        · have hend : size ≤ n := hlast n hat
          omega
    | other => exact hsame rfl rfl id

/-- No request is lost: once it has been taken back and no save is in progress, every stored cell is one that
the object has had since the request. -/
theorem fresh_of_saved (hrequested : c.requested = true)
    (hallows : Along Cached.apply (Cached.allows size) c events)
    (hclear : (c.run events).requested = false) (hidle : (c.run events).copying = none) (hi : i < size) :
    c.Fresh events i := by
  obtain hstill | hcells := requested_or_fresh hrequested hallows
  · rw [hstill] at hclear
    cases hclear
  · obtain hfresh | ⟨n, -, hat⟩ := hcells i hi
    · exact hfresh
    · rw [hidle] at hat
      cases hat

/-- A request is taken back by the start of a save only. -/
theorem requested_of_not_started (hrequested : c.requested = true) (hstart : ∀ e ∈ events, e ≠ .start) :
    (c.run events).requested = true := by
  induction events using List.reverseRecOn with
  | nil => exact hrequested
  | append_singleton events e ih =>
    have hbefore := ih fun e he => hstart e (List.mem_append_left _ he)
    have hlast := hstart e (List.mem_append_right _ (List.mem_singleton_self e))
    rw [run_concat]
    cases e with
    | start => exact absurd rfl hlast
    | copy => exact (copy_requested _).trans hbefore
    | request => rfl
    | _ => exact hbefore

end writeback
