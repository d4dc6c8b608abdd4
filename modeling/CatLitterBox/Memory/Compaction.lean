import Mathlib.Data.Finset.Card
import Mathlib.Data.List.Basic
import Mathlib.Order.Defs.LinearOrder

namespace memory

universe u v w

variable {A : Type u} {K : Type v} {R : Type w} [DecidableEq K] [LinearOrder R] {key : A → K} {rank : A → R}

/-- A record joins those kept: it takes the place of the one with its key if it ranks higher. -/
def keepBest (key : A → K) (rank : A → R) : List A → A → List A
  | [], a => [a]
  | b :: kept, a =>
    if key b = key a then (if rank b < rank a then a else b) :: kept else b :: keepBest key rank kept a

/-- Of the records of each key exactly one is kept, of the highest rank, and the keys stand in the
order in which they first occur. -/
structure BestOfEach (key : A → K) (rank : A → R) (input kept : List A) : Prop where
  ordered : (kept.map key).Pairwise fun k l => (input.map key).idxOf k < (input.map key).idxOf l
  keys : ∀ k, k ∈ kept.map key ↔ k ∈ input.map key
  best : ∀ a ∈ kept, a ∈ input ∧ ∀ b ∈ input, key b = key a → rank b ≤ rank a

/-- A record with a new key joins at the end. -/
theorem keepBest_of_find_none {kept : List A} {a : A} (h : kept.findIdx? (fun b => key b = key a) = none) :
    keepBest key rank kept a = kept ++ [a] := by
  induction kept with
  | nil => rfl
  | cons b kept ih =>
    rw [List.findIdx?_eq_none_iff] at h
    have hb : key b ≠ key a := by simpa using h b List.mem_cons_self
    have hrest : kept.findIdx? (fun b => key b = key a) = none := by
      rw [List.findIdx?_eq_none_iff]
      intro c hc
      exact h c (List.mem_cons_of_mem b hc)
    rw [keepBest, if_neg hb, ih hrest, List.cons_append]

/-- A record with a known key takes the place of that one if it ranks higher. -/
theorem keepBest_of_find {kept : List A} {a b : A} {j : Nat}
    (h : kept.findIdx? (fun b => key b = key a) = some j) (hb : kept[j]? = some b) :
    keepBest key rank kept a = if rank b < rank a then kept.set j a else kept := by
  induction kept generalizing j with
  | nil => simp at h
  | cons c kept ih =>
    rw [List.findIdx?_cons] at h
    by_cases hc : key c = key a
    · rw [if_pos (by simpa using hc)] at h
      obtain rfl : j = 0 := by simpa using h.symm
      obtain rfl : c = b := by simpa using hb
      rw [keepBest, if_pos hc]
      split <;> rfl
    · rw [if_neg (by simpa using hc)] at h
      obtain ⟨i, hi, rfl⟩ := Option.map_eq_some_iff.mp h
      rw [keepBest, if_neg hc, ih hi (by simpa using hb)]
      split <;> rfl

/-- A key is kept if it was, or if it is new. -/
theorem keys_keepBest (kept : List A) (a : A) : (keepBest key rank kept a).map key =
    if key a ∈ kept.map key then kept.map key else kept.map key ++ [key a] := by
  induction kept with
  | nil => simp [keepBest]
  | cons b kept ih =>
    by_cases hb : key b = key a
    · have hmem : key a ∈ (b :: kept).map key := by simp [hb]
      rw [keepBest, if_pos hb, if_pos hmem]
      split <;> simp [hb]
    · rw [keepBest, if_neg hb, List.map_cons, List.map_cons, ih]
      have hmem : key a ∈ key b :: kept.map key ↔ key a ∈ kept.map key := by simp [Ne.symm hb]
      simp only [hmem]
      split <;> rfl

private theorem mem_keepBest {kept : List A} {a c : A} (hkeys : (kept.map key).Nodup)
    (h : c ∈ keepBest key rank kept a) :
    c ∈ kept ∧ (key a = key c → rank a ≤ rank c) ∨ c = a ∧ ∀ b ∈ kept, key b = key a → rank b ≤ rank a := by
  induction kept with
  | nil =>
    right
    simpa [keepBest] using h
  | cons b kept ih =>
    rw [List.map_cons, List.nodup_cons] at hkeys
    by_cases hb : key b = key a
    · have hothers : ∀ d ∈ kept, key d ≠ key a := by
        intro d hd hda
        exact hkeys.1 (hb.trans hda.symm ▸ List.mem_map_of_mem hd)
      rw [keepBest, if_pos hb, List.mem_cons] at h
      rcases h with rfl | h
      · split
        · next hrank =>
          right
          refine ⟨rfl, ?_⟩
          intro d hd hda
          rcases List.mem_cons.mp hd with rfl | hd
          · exact hrank.le
          · exact absurd hda (hothers d hd)
        · next hrank =>
          left
          exact ⟨List.mem_cons_self, fun _ => not_lt.mp hrank⟩
      · left
        exact ⟨List.mem_cons_of_mem b h, fun hac => absurd hac.symm (hothers c h)⟩
    · rw [keepBest, if_neg hb, List.mem_cons] at h
      rcases h with rfl | h
      · left
        exact ⟨List.mem_cons_self, fun hac => absurd hac.symm hb⟩
      · rcases ih hkeys.2 h with ⟨hc, hrank⟩ | ⟨rfl, hall⟩
        · left
          exact ⟨List.mem_cons_of_mem b hc, hrank⟩
        · right
          refine ⟨rfl, ?_⟩
          intro d hd hda
          rcases List.mem_cons.mp hd with rfl | hd
          · exact absurd hda hb
          · exact hall d hd hda

/-- No key is kept twice. -/
theorem BestOfEach.nodup {input kept : List A} (h : BestOfEach key rank input kept) : (kept.map key).Nodup :=
  h.ordered.imp fun hlt heq => (heq ▸ hlt).false

/-- One more record keeps the best of each key. -/
theorem BestOfEach.keep {input kept : List A} (h : BestOfEach key rank input kept) (a : A) :
    BestOfEach key rank (input ++ [a]) (keepBest key rank kept a) where
  ordered := by
    have hold : (kept.map key).Pairwise fun k l =>
        ((input ++ [a]).map key).idxOf k < ((input ++ [a]).map key).idxOf l := by
      refine h.ordered.imp_of_mem ?_
      intro k l hk hl hlt
      rwa [List.map_append, List.idxOf_append_of_mem ((h.keys k).mp hk),
        List.idxOf_append_of_mem ((h.keys l).mp hl)]
    rw [keys_keepBest]
    split
    · exact hold
    · next hnew =>
      refine List.pairwise_append.mpr ⟨hold, List.pairwise_singleton .., ?_⟩
      intro k hk l hl
      obtain rfl := List.mem_singleton.mp hl
      have hk := (h.keys k).mp hk
      rw [List.map_append, List.idxOf_append_of_mem hk,
        List.idxOf_append_of_notMem (fun hmem => hnew ((h.keys _).mpr hmem))]
      exact Nat.lt_add_right _ (List.idxOf_lt_length_of_mem hk)
  keys := by
    intro k
    rw [keys_keepBest, List.map_append, List.mem_append, ← h.keys k]
    split
    · next hmem =>
      rw [List.map_singleton, List.mem_singleton]
      constructor
      · exact Or.inl
      · rintro (hk | rfl)
        · exact hk
        · exact hmem
    · rw [List.mem_append, List.map_singleton]
  best := by
    intro c hc
    rcases mem_keepBest h.nodup hc with ⟨hkept, hrank⟩ | ⟨rfl, hrank⟩
    · obtain ⟨hin, hbest⟩ := h.best c hkept
      refine ⟨List.mem_append_left _ hin, ?_⟩
      intro b hb hbc
      rcases List.mem_append.mp hb with hb | hb
      · exact hbest b hb hbc
      · obtain rfl := List.mem_singleton.mp hb
        exact hrank hbc
    · refine ⟨List.mem_append_right _ List.mem_cons_self, ?_⟩
      intro b hb hbc
      rcases List.mem_append.mp hb with hb | hb
      · have hmem : key b ∈ kept.map key := (h.keys _).mpr (List.mem_map_of_mem hb)
        obtain ⟨d, hd, hdb⟩ := List.mem_map.mp hmem
        exact ((h.best d hd).2 b hb hdb.symm).trans (hrank d hd (hdb.trans hbc))
      · obtain rfl := List.mem_singleton.mp hb
        exact le_rfl

/-- Going through the records one by one leaves the best of each. -/
theorem bestOfEach_foldl (input : List A) :
    BestOfEach key rank input (input.foldl (keepBest key rank) []) := by
  induction input using List.reverseRecOn with
  | nil => exact ⟨List.Pairwise.nil, fun _ => Iff.rfl, fun _ h => absurd h List.not_mem_nil⟩
  | append_singleton input a ih =>
    rw [List.foldl_append]
    exact ih.keep a

/-- As many records are kept as there are keys. -/
theorem BestOfEach.length {input kept : List A} (h : BestOfEach key rank input kept) :
    kept.length = (input.map key).toFinset.card := by
  have hsame : (kept.map key).toFinset = (input.map key).toFinset := by
    ext k
    rw [List.mem_toFinset, List.mem_toFinset]
    exact h.keys k
  rw [← hsame, List.toFinset_card_of_nodup h.nodup, List.length_map]

/-- How many keys occur before the first record of a key. -/
def keysBefore (key : A → K) (input : List A) (k : K) : Nat :=
  ((input.map key).take ((input.map key).idxOf k)).toFinset.card

/-- A record that is kept stands behind those of the keys that occur before its own. -/
theorem BestOfEach.keysBefore_eq {input kept : List A} (h : BestOfEach key rank input kept) {j : Nat}
    (hj : j < kept.length) : keysBefore key input (key kept[j]) = j := by
  have hordered := List.pairwise_iff_getElem.mp h.ordered
  have hlength : j < (kept.map key).length := by rwa [List.length_map]
  have hbefore : ((input.map key).take ((input.map key).idxOf (key kept[j]))).toFinset =
      ((kept.map key).take j).toFinset := by
    ext k
    rw [List.mem_toFinset, List.mem_toFinset, List.mem_take_iff_getElem (l := kept.map key)]
    constructor
    · intro hk
      have hinput := List.mem_of_mem_take hk
      rw [List.mem_take_iff_idxOf_lt hinput] at hk
      obtain ⟨i, hi, rfl⟩ := List.getElem_of_mem ((h.keys k).mpr hinput)
      rcases lt_trichotomy i j with hlt | rfl | hgt
      · exact ⟨i, lt_min hlt hi, rfl⟩
      · simp at hk
      · have hlater := hordered j i hlength hi hgt
        rw [List.getElem_map] at hlater
        exact absurd hk hlater.not_gt
    · rintro ⟨i, hi, rfl⟩
      obtain ⟨hlt, hi⟩ := lt_min_iff.mp hi
      rw [List.mem_take_iff_idxOf_lt ((h.keys _).mp (List.getElem_mem hi))]
      have hearlier := hordered i j hi hlength hlt
      rwa [List.getElem_map _ (i := j)] at hearlier
  rw [keysBefore, hbefore, List.toFinset_card_of_nodup (h.nodup.sublist (List.take_sublist ..)),
    List.length_take]
  exact min_eq_left hlength.le

/-- None of the first `n` that are kept ranks below a later one, exactly if no record of a later key
ranks above all those of one of the first `n` keys. -/
theorem BestOfEach.first_rank_highest_iff {input kept : List A} (h : BestOfEach key rank input kept) (n : Nat) :
    (∀ b ∈ kept.drop n, ∀ a ∈ kept.take n, rank b ≤ rank a) ↔
      ∀ b ∈ input, ∀ a ∈ input, n ≤ keysBefore key input (key b) → keysBefore key input (key a) < n →
        ∃ c ∈ input, key c = key a ∧ rank b ≤ rank c := by
  have hkept : ∀ a ∈ input, ∃ j, ∃ hj : j < kept.length, key kept[j] = key a ∧
      keysBefore key input (key a) = j ∧ rank a ≤ rank kept[j] := by
    intro a ha
    obtain ⟨b, hb, hba⟩ := List.mem_map.mp ((h.keys (key a)).mpr (List.mem_map_of_mem ha))
    obtain ⟨j, hj, rfl⟩ := List.getElem_of_mem hb
    exact ⟨j, hj, hba, hba ▸ h.keysBefore_eq hj, (h.best _ hb).2 a ha hba.symm⟩
  constructor
  · intro hfirst b hb a ha hlater hearlier
    obtain ⟨j, hj, -, hbefore, hrank⟩ := hkept b hb
    obtain ⟨i, hi, hkey, hbefore', -⟩ := hkept a ha
    have hleft : kept[j] ∈ kept.drop n := by
      rw [List.mem_drop_iff_getElem]
      exact ⟨j - n, by omega, by congr 1; omega⟩
    have hlisted : kept[i] ∈ kept.take n := List.mem_take_iff_getElem.mpr ⟨i, by omega, rfl⟩
    exact ⟨kept[i], (h.best _ (List.getElem_mem hi)).1, hkey, hrank.trans (hfirst _ hleft _ hlisted)⟩
  · intro hinput b hb a ha
    obtain ⟨j, hj, rfl⟩ := List.mem_drop_iff_getElem.mp hb
    obtain ⟨i, hi, rfl⟩ := List.mem_take_iff_getElem.mp ha
    obtain ⟨hlt, hi⟩ := lt_min_iff.mp hi
    have hb := h.best _ (List.mem_of_mem_drop hb)
    have ha := h.best _ (List.mem_of_mem_take ha)
    obtain ⟨c, hc, hca, hrank⟩ := hinput _ hb.1 _ ha.1
      (by rw [h.keysBefore_eq (by omega)]; omega) (by rwa [h.keysBefore_eq hi])
    exact hrank.trans (ha.2 c hc hca)

/-- An array whose first `w` records are the outcome and whose records from `r` on are the input's. -/
structure Compacting (input outcome array : List A) (w r : Nat) : Prop where
  behind : w ≤ r
  length : array.length = input.length
  done : array.take w = outcome
  rest : array.drop r = input.drop r

variable {input outcome array : List A} {a : A} {w r j : Nat}

/-- Before the first record the array is the input. -/
theorem Compacting.start : Compacting input [] input 0 0 := ⟨le_rfl, rfl, rfl, rfl⟩

/-- The record to be read next is still the input's. -/
theorem Compacting.next (h : Compacting input outcome array w r) : array[r]? = input[r]? := by
  rw [← List.head?_drop, h.rest, List.head?_drop]

/-- As many records are kept as have been written. -/
theorem Compacting.outcome_length (h : Compacting input outcome array w r) (hr : r ≤ input.length) :
    outcome.length = w := by
  rw [← h.done, List.length_take, h.length]
  exact min_eq_left (h.behind.trans hr)

theorem drop_succ_of_drop_eq {xs ys : List A} (h : xs.drop r = ys.drop r) : xs.drop
    (r + 1) = ys.drop (r + 1) := by
  rw [← List.drop_drop, h, List.drop_drop]

/-- The record read is left out. -/
theorem Compacting.skip (h : Compacting input outcome array w r) : Compacting input outcome array w (r + 1) :=
  ⟨h.behind.trans (Nat.le_succ r), h.length, h.done, drop_succ_of_drop_eq h.rest⟩

/-- The record read replaces one of the outcome. -/
theorem Compacting.replace (h : Compacting input outcome array w r) (hj : j < w) :
    Compacting input (outcome.set j a) (array.set j a) w (r + 1) := by
  refine ⟨h.behind.trans (Nat.le_succ r), by rw [List.length_set, h.length], ?_, ?_⟩
  · rw [List.take_set, h.done]
  · rw [List.drop_set_of_lt (by have := h.behind; omega)]
    exact drop_succ_of_drop_eq h.rest

/-- The record read joins the outcome where it stands. -/
theorem Compacting.extend (h : Compacting input outcome array w r) (ha : array[r]? = some a) (hw : w = r) :
    Compacting input (outcome ++ [a]) array (w + 1) (r + 1) := by
  refine ⟨Nat.succ_le_succ h.behind, h.length, ?_, drop_succ_of_drop_eq h.rest⟩
  rw [List.take_add_one, h.done, hw, ha, Option.toList_some]

/-- The record read joins the outcome. -/
theorem Compacting.append (h : Compacting input outcome array w r) (hr : r < input.length) :
    Compacting input (outcome ++ [a]) (array.set w a) (w + 1) (r + 1) := by
  have hw : w < array.length := h.length ▸ h.behind.trans_lt hr
  refine ⟨Nat.succ_le_succ h.behind, by rw [List.length_set, h.length], ?_, ?_⟩
  · rw [List.take_succ_eq_append_getElem (by simpa using hw), List.take_set_of_le le_rfl, h.done,
      List.getElem_set_self]
  · rw [List.drop_set_of_lt (by have := h.behind; omega)]
    exact drop_succ_of_drop_eq h.rest

end memory
