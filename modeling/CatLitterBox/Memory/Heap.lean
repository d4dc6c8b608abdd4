import Mathlib.Data.List.Nodup
import Mathlib.Data.List.Perm.Basic

namespace heap

universe u

/-- The blocks in use, with what is in them. They are numbered in the order in which they came to be. -/
structure Heap (B : Type u) where
  next : Nat
  live : List (Nat × List B)

variable {B : Type u}

def Heap.empty : Heap B := ⟨0, []⟩

/-- A new block. -/
def Heap.malloc (h : Heap B) (content : List B) : Heap B := ⟨h.next + 1, (h.next, content) :: h.live⟩

/-- What is in a block; none if it is not in use. -/
def Heap.read (h : Heap B) (block : Nat) : Option (List B) := (h.live.find? fun b => b.1 = block).map Prod.snd

/-- None if the block is not in use: it was never there, or has been freed before. -/
def Heap.free (h : Heap B) (block : Nat) : Option (Heap B) :=
  if block ∈ h.live.map Prod.fst then some { h with live := h.live.filter fun b => b.1 ≠ block } else none

/-- Each block in use belongs to one of the owners, who knows what is in it. -/
structure Heap.Owned (h : Heap B) (owned : List (Nat × List B)) : Prop where
  perm : h.live.Perm owned
  old : ∀ b ∈ h.live, b.1 < h.next
  nodup : (h.live.map Prod.fst).Nodup

variable {h : Heap B} {owned owned' : List (Nat × List B)} {block : Nat} {content : List B}

theorem owned_empty : (Heap.empty : Heap B).Owned [] := ⟨.nil, nofun, List.nodup_nil⟩

/-- The order of the owners does not matter. -/
theorem Heap.Owned.reorder (ho : h.Owned owned) (hperm : owned.Perm owned') : h.Owned owned' :=
  ⟨ho.perm.trans hperm, ho.old, ho.nodup⟩

/-- There are as many blocks in use as owners. -/
theorem Heap.Owned.length (ho : h.Owned owned) : h.live.length = owned.length := ho.perm.length_eq

/-- A new block gets an owner. -/
theorem Heap.Owned.malloc (ho : h.Owned owned) (content : List B) :
    (h.malloc content).Owned ((h.next, content) :: owned) where
  perm := ho.perm.cons _
  old := List.forall_mem_cons.mpr ⟨Nat.lt_succ_self _, fun b hb => Nat.lt_succ_of_lt (ho.old b hb)⟩
  nodup := by
    refine List.nodup_cons.mpr ⟨fun hmem => ?_, ho.nodup⟩
    obtain ⟨b, hb, hnext⟩ := List.mem_map.mp hmem
    exact absurd hnext (Nat.ne_of_lt (ho.old b hb))

/-- What is owned can be read. -/
theorem Heap.Owned.read (ho : h.Owned owned)
    (hmem : (block, content) ∈ owned) : h.read block = some content := by
  have hlive : (block, content) ∈ h.live := ho.perm.mem_iff.mpr hmem
  unfold Heap.read
  cases hfind : h.live.find? fun b => b.1 = block with
  | none =>
    have hnone := List.find?_eq_none.mp hfind (block, content) hlive
    simp at hnone
  | some b =>
    have hb : b.1 = block := by simpa using List.find?_some hfind
    have hsame : b = (block, content) := List.inj_on_of_nodup_map ho.nodup
      (List.mem_of_find?_eq_some hfind) hlive hb
    rw [hsame]
    rfl

/-- What is owned can be freed, once. -/
theorem Heap.Owned.free (ho : h.Owned ((block, content) :: owned)) :
    ∃ h', h.free block = some h' ∧ h'.Owned owned := by
  have hlive : (block, content) ∈ h.live := ho.perm.mem_iff.mpr List.mem_cons_self
  have hmem : block ∈ h.live.map Prod.fst := List.mem_map_of_mem (f := Prod.fst) hlive
  have hnodup : (((block, content) :: owned).map Prod.fst).Nodup := (ho.perm.map Prod.fst).nodup_iff.mp ho.nodup
  obtain ⟨hnot, -⟩ := List.nodup_cons.mp hnodup
  have hothers : owned.filter (fun b => b.1 ≠ block) = owned := by
    refine List.filter_eq_self.mpr fun b hb => decide_eq_true ?_
    intro heq
    have hmem := List.mem_map_of_mem (f := Prod.fst) hb
    rw [heq] at hmem
    exact hnot hmem
  have hperm := ho.perm.filter fun b => b.1 ≠ block
  rw [List.filter_cons_of_neg (by simp), hothers] at hperm
  exact ⟨_, if_pos hmem, hperm, fun b hb => ho.old b (List.mem_of_mem_filter hb),
    ho.nodup.sublist (List.filter_sublist.map Prod.fst)⟩

end heap
