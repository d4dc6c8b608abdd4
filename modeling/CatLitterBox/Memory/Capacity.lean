import CatLitterBox.Memory.Compaction

namespace memory

universe u v w

variable {A : Type u} {K : Type v} {R : Type w} [DecidableEq K] [LinearOrder R] {key : A → K} {rank : A → R}

/-- How many keys some records have. -/
def distinct (key : A → K) (input : List A) : Nat := (input.map key).toFinset.card

/-- How much of a batch has room in a buffer that keeps one record of each key. -/
def room (key : A → K) (size : Nat) (before : List A) : Nat := size - distinct key before

/-- The records with a place after one more batch, which is cut where the buffer is full. -/
def withBatch (key : A → K) (size : Nat) (before batch : List A) : List A :=
  before ++ batch.take (room key size before)

/-- The batches that come in: the first that leaves the buffer full is the last. -/
def arrived (key : A → K) (size : Nat) : List A → List (List A) → List (List A)
  | _, [] => []
  | before, batch :: batches =>
    batch :: if size ≤ distinct key (withBatch key size before batch) then []
      else arrived key size (withBatch key size before batch) batches

/-- The records that get a place. -/
def placed (key : A → K) (size : Nat) : List A → List (List A) → List A
  | before, [] => before
  | before, batch :: batches =>
    if size ≤ distinct key (withBatch key size before batch) then withBatch key size before batch
    else placed key size (withBatch key size before batch) batches

/-- The records that are cut off. -/
def cutOff (key : A → K) (size : Nat) : List A → List (List A) → List A
  | _, [] => []
  | before, batch :: batches =>
    batch.drop (room key size before) ++
      if size ≤ distinct key (withBatch key size before batch) then []
      else cutOff key size (withBatch key size before batch) batches

/-- Each key of the records is kept once, in a record of the highest rank. -/
def KeepsEach (key : A → K) (rank : A → R) (input kept : List A) : Prop :=
  ∀ a ∈ input, (kept.map key).count (key a) = 1 ∧ ∃ b ∈ kept, b ∈ input ∧ key b = key a ∧ rank a ≤ rank b

/-- A record that arrives either gets a place or is cut off. -/
theorem mem_arrived_iff {size : Nat} {before : List A} {batches : List (List A)} {a : A} :
    a ∈ before ∨ a ∈ (arrived key size before batches).flatten ↔
      a ∈ placed key size before batches ∨ a ∈ cutOff key size before batches := by
  induction batches generalizing before with
  | nil => simp [arrived, placed, cutOff]
  | cons batch batches ih =>
    have hbatch : a ∈ batch ↔ a ∈ batch.take (room key size before) ∨
      a ∈ batch.drop (room key size before) := by
      rw [← List.mem_append, List.take_append_drop]
    have hnow : a ∈ withBatch key size before batch ↔ a ∈ before ∨ a ∈ batch.take (room key size before) :=
      List.mem_append
    unfold arrived placed cutOff
    split
    · rw [List.flatten_singleton, List.append_nil, hnow, hbatch, or_assoc]
    · rw [List.flatten_cons, List.mem_append, List.mem_append, hbatch,
        or_left_comm (a := a ∈ placed ..), ← ih, hnow]
      simp only [or_assoc, or_left_comm]

private theorem keepBest_of_not_mem {kept : List A} {a : A} (h : key a ∉ kept.map key) :
    keepBest key rank kept a = kept ++ [a] := by
  refine keepBest_of_find_none (List.findIdx?_eq_none_iff.mpr ?_)
  intro b hb
  have hba : key b ≠ key a := fun hba => h (hba ▸ List.mem_map_of_mem hb)
  simpa using hba

/-- Records of different keys are all kept. -/
theorem foldl_keepBest_of_nodup {kept : List A} (h : (kept.map key).Nodup) :
    kept.foldl (keepBest key rank) [] = kept := by
  induction kept using List.reverseRecOn with
  | nil => rfl
  | append_singleton kept a ih =>
    rw [List.map_append, List.nodup_append] at h
    have hnew : key a ∉ kept.map key := fun hmem => h.2.2 _ hmem _ (List.mem_singleton_self _) rfl
    rw [List.foldl_append, ih h.1, List.foldl_cons, List.foldl_nil, keepBest_of_not_mem hnew]

/-- What has been kept stands for the records that it was kept of. -/
theorem foldl_keepBest_append (before batch : List A) :
    (before.foldl (keepBest key rank) [] ++ batch).foldl (keepBest key rank) [] =
      (before ++ batch).foldl (keepBest key rank) [] := by
  rw [List.foldl_append, foldl_keepBest_of_nodup (bestOfEach_foldl before).nodup, List.foldl_append]

/-- Nothing is lost exactly if no record that is cut off ranks above all that get a place and have
its key. -/
theorem keepsEach_iff {size : Nat} {batches : List (List A)} :
    KeepsEach key rank (arrived key size [] batches).flatten
        ((placed key size [] batches).foldl (keepBest key rank) []) ↔
      ∀ a ∈ cutOff key size [] batches, ∃ b ∈ placed key size [] batches, key b = key a ∧ rank a ≤ rank b := by
  have hbest : BestOfEach key rank (placed key size [] batches) _ :=
    bestOfEach_foldl (placed key size [] batches)
  have harrived : ∀ a, a ∈ (arrived key size [] batches).flatten ↔
      a ∈ placed key size [] batches ∨ a ∈ cutOff key size [] batches := by
    intro a
    rw [← mem_arrived_iff, or_iff_right List.not_mem_nil]
  constructor
  · intro hkeeps a ha
    obtain ⟨-, b, hb, -, hkey, hrank⟩ := hkeeps a ((harrived a).mpr (.inr ha))
    exact ⟨b, (hbest.best b hb).1, hkey, hrank⟩
  · intro hcut a ha
    obtain ⟨b, hb, hba, hrank⟩ : ∃ b ∈ placed key size [] batches, key b = key a ∧ rank a ≤ rank b := by
      rcases (harrived a).mp ha with hplaced | hcutOff
      · exact ⟨a, hplaced, rfl, le_rfl⟩
      · exact hcut a hcutOff
    have hkey := (hbest.keys (key a)).mpr (hba ▸ List.mem_map_of_mem hb)
    obtain ⟨c, hc, hca⟩ := List.mem_map.mp hkey
    obtain ⟨hplaced, hhighest⟩ := hbest.best c hc
    exact ⟨List.count_eq_one_of_mem hbest.nodup hkey, c, hc, (harrived c).mpr (.inl hplaced), hca,
      hrank.trans (hhighest b hb (hba.trans hca.symm))⟩

end memory
