import CatLitterBox.Memory.Slots
import Mathlib.Data.List.DropRight
import Mathlib.Data.List.Nodup

namespace table

universe u v

section

variable {A : Type u} {K : Type v} [DecidableEq K] (key : A → Option K) (free : A)

/-- What the slots hold, in their order. -/
def entries (slots : List A) : List A := slots.filter fun a => (key a).isSome

/-- A turn of the compaction, with the empty slot that the next entry moves to, if there is one. -/
def compactTurn (s : List A × Option Nat) (index : Nat) : List A × Option Nat :=
  match s.1[index]? with
  | none => s
  | some a =>
    if (key a).isSome then
      match s.2 with
      | none => s
      | some emptyIndex => ((s.1.set emptyIndex a).set index free, some (emptyIndex + 1))
    else (s.1, some (s.2.getD index))

def compact (slots : List A) : List A :=
  ((List.range slots.length).foldl (compactTurn key free) (slots, none)).1

/-- The search from the end for the slot after the last entry; none if it meets the key. -/
def available (k : K) (slots : List A) : Nat → Option Nat → Bool → Option (Option Nat)
  | 0, availableIndex, _ => some availableIndex
  | index + 1, availableIndex, validEntryFound =>
    match (slots[index]?).bind key with
    | none => available k slots index (if validEntryFound then availableIndex else some index) validEntryFound
    | some k' => if k' = k then none else available k slots index availableIndex true

inductive Outcome where
  | added
  | collision
  | full
deriving DecidableEq

/-- An entry is put into the slot after the last one. -/
def place (slots : List A) (k : K) (a : A) : Outcome × List A :=
  match available key k slots slots.length none false with
  | none => (.collision, slots)
  | some none => (.full, slots)
  | some (some index) => (.added, slots.set index a)

/-- The entries move to the front first where the last slot is in use. -/
def add (slots : List A) (k : K) (a : A) : Outcome × List A :=
  place key (if (slots.getLast?.bind key).isSome then compact key free slots else slots) k a

/-- The entry of a key. -/
def lookup (l : List A) (k : K) : Option A := l.find? fun b => key b = some k

/-- No key is there twice. -/
def Distinct (l : List A) : Prop := (l.filterMap key).Nodup

/-- The same without slots. -/
def append (capacity : Nat) (l : List A) (k : K) (a : A) : Outcome × List A :=
  if l.any fun b => key b = some k then (.collision, l)
  else if l.length < capacity then (.added, l ++ [a])
  else (.full, l)

def replace (l : List A) (k : K) (a : A) : List A := l.map fun b => if key b = some k then a else b

def erase (l : List A) (k : K) : List A := l.filter fun b => key b ≠ some k

end

variable {A : Type u} {K : Type v} {key : A → Option K} {free a b : A} {slots l : List A} {k : K}

theorem entries_append (l₁ l₂ : List A) : entries key (l₁ ++ l₂) = entries key l₁ ++ entries key l₂ :=
  List.filter_append ..

theorem entries_nil (h : ∀ a ∈ l, key a = none) : entries key l = [] :=
  List.filter_eq_nil_iff.mpr fun a ha => by simp [h a ha]

theorem entries_entries (slots : List A) : entries key (entries key slots) = entries key slots := by
  unfold entries
  rw [List.filter_filter]
  simp

theorem mem_entries : a ∈ entries key slots ↔ a ∈ slots ∧ (key a).isSome = true := List.mem_filter

theorem entries_cons_some (h : key a = some k) : entries key (a :: l) = a :: entries key l :=
  List.filter_cons_of_pos (by simp [h])

theorem entries_cons_none (h : key a = none) : entries key (a :: l) = entries key l :=
  List.filter_cons_of_neg (by simp [h])

theorem set_at {l₁ l₂ : List A} {n : Nat} (h : n = l₁.length) : (l₁ ++ a :: l₂).set n b = l₁ ++ b :: l₂ := by
  rw [h, List.set_append_right _ _ le_rfl, Nat.sub_self, List.set_cons_zero]

/-- The first `n` slots have been compacted. -/
structure Compacted (key : A → Option K) (slots : List A) (n : Nat) (s : List A × Option Nat) (gap : List A) :
    Prop where
  array : s.1 = entries key (slots.take n) ++ gap ++ slots.drop n
  free : ∀ a ∈ gap, key a = none
  length : (entries key (slots.take n)).length + gap.length = n
  empty : s.2 = if gap = [] then none else some (entries key (slots.take n)).length

private theorem compacted_turn (hfree : key free = none) {n : Nat} (hn : n < slots.length) {s : List A × Option Nat}
    {gap : List A} (h : Compacted key slots n s gap) :
    ∃ gap', Compacted key slots (n + 1) (compactTurn key free s n) gap' := by
  obtain ⟨records, emptyIndex⟩ := s
  obtain ⟨hslots, hgap, hlength, hempty⟩ := h
  simp only at hslots hempty
  have htake : slots.take (n + 1) = slots.take n ++ [slots[n]] := (List.take_append_getElem hn).symm
  have hdrop : slots.drop n = slots[n] :: slots.drop (n + 1) := List.drop_eq_getElem_cons hn
  have hentries : entries key (slots.take (n + 1)) =
      entries key (slots.take n) ++ entries key [slots[n]] := by rw [htake, entries_append]
  generalize slots[n] = x at hdrop hentries
  have hat : records[n]? = some x := by
    rw [hslots, hdrop, List.getElem?_append_right (by simp [hlength])]
    simp [hlength]
  unfold compactTurn
  simp only [hat]
  cases hkey : key x with
  | none =>
    rw [entries_cons_none hkey, show entries key ([] : List A) = [] from rfl, List.append_nil] at hentries
    refine ⟨gap ++ [x], ?_, ?_, ?_, ?_⟩
    · simp [hslots, hdrop, hentries]
    · exact List.forall_mem_append.mpr ⟨hgap, by simpa using hkey⟩
    · rw [hentries, List.length_append, ← Nat.add_assoc, hlength]
      rfl
    · rw [hentries, hempty]
      cases gap with
      | nil => simpa using hlength.symm
      | cons _ _ => rfl
  | some k =>
    rw [entries_cons_some hkey, show entries key ([] : List A) = [] from rfl] at hentries
    cases gap with
    | nil =>
      rw [if_pos rfl] at hempty
      subst hempty
      refine ⟨[], ?_, nofun, ?_, rfl⟩
      · simp [hslots, hdrop, hentries]
      · simpa [hentries] using hlength
    | cons first gap =>
      rw [if_neg (List.cons_ne_nil _ _)] at hempty
      subst hempty
      have hset : ((records.set (entries key (slots.take n)).length x).set n free) =
          entries key (slots.take n) ++ [x] ++ (gap ++ [free]) ++ slots.drop (n + 1) := by
        rw [hslots, hdrop, List.append_assoc, List.cons_append, set_at rfl]
        rw [show entries key (slots.take n) ++ x :: (gap ++ x :: slots.drop (n + 1)) =
          (entries key (slots.take n) ++ x :: gap) ++ x :: slots.drop (n + 1) by simp, set_at]
        · simp
        · rw [List.length_append]
          exact hlength.symm
      refine ⟨gap ++ [free], ?_, ?_, ?_, ?_⟩
      · rw [hentries]
        exact hset
      · refine List.forall_mem_append.mpr ⟨fun b hb => hgap b (List.mem_cons_of_mem _ hb), ?_⟩
        simpa using hfree
      · rw [hentries]
        simp only [List.length_append, List.length_cons, List.length_nil] at hlength ⊢
        omega
      · rw [hentries, if_neg (List.append_ne_nil_of_right_ne_nil _ (List.cons_ne_nil _ _)), List.length_append]
        rfl

/-- Compaction moves the entries to the front and leaves free slots behind them. -/
theorem compact_eq (hfree : key free = none) (slots : List A) :
    ∃ gap, compact key free slots = entries key slots ++ gap ∧ (∀ a ∈ gap, key a = none) ∧
      (entries key slots).length + gap.length = slots.length := by
  have hrun : ∀ n ≤ slots.length, ∃ gap,
      Compacted key slots n ((List.range n).foldl (compactTurn key free) (slots, none)) gap := by
    intro n hn
    induction n with
    | zero => exact ⟨[], rfl, nofun, rfl, rfl⟩
    | succ n ih =>
      obtain ⟨gap, h⟩ := ih (Nat.le_of_succ_le hn)
      rw [List.range_succ, List.foldl_append]
      exact compacted_turn hfree hn h
  obtain ⟨gap, h⟩ := hrun slots.length le_rfl
  have hslots := h.array
  have hlength := h.length
  rw [List.take_length] at hslots hlength
  rw [List.drop_length, List.append_nil] at hslots
  exact ⟨gap, hslots, h.free, hlength⟩

/-- Compaction keeps the entries and their order. -/
theorem entries_compact (hfree : key free = none) (slots : List A) :
    entries key (compact key free slots) = entries key slots := by
  obtain ⟨gap, hcompact, hgap, -⟩ := compact_eq hfree slots
  rw [hcompact, entries_append, entries_entries, entries_nil hgap, List.append_nil]

/-- The compaction leaves nothing but `free` in the slots without an entry, if nothing else was
in them before. -/
theorem compact_free (hslots : ∀ a ∈ slots, key a = none → a = free) :
    ∀ a ∈ compact key free slots, key a = none → a = free := by
  have hrun : ∀ (indices : List Nat) (s : List A × Option Nat), (∀ a ∈ s.1, key a = none → a = free) →
      ∀ a ∈ (indices.foldl (compactTurn key free) s).1, key a = none → a = free := by
    intro indices
    induction indices with
    | nil => exact fun s hs => hs
    | cons index indices ih =>
      intro s hs
      refine ih _ ?_
      unfold compactTurn
      cases hget : s.1[index]? with
      | none => exact hs
      | some a =>
        simp only
        split_ifs with hused
        · cases s.2 with
          | none => exact hs
          | some emptyIndex =>
            intro b hb hkey
            obtain hb | rfl := List.mem_or_eq_of_mem_set hb
            · obtain hb | rfl := List.mem_or_eq_of_mem_set hb
              · exact hs b hb hkey
              · rw [hkey] at hused
                cases hused
            · rfl
        · exact hs
  exact hrun _ _ hslots

theorem length_compact (hfree : key free = none) (slots : List A) :
    (compact key free slots).length = slots.length := by
  obtain ⟨gap, hcompact, -, hlength⟩ := compact_eq hfree slots
  rw [hcompact, List.length_append, hlength]

/-- The slots up to the last one in use. -/
def upToLast (key : A → Option K) (slots : List A) : List A := slots.rdropWhile fun a => (key a).isNone

theorem upToLast_concat_none (h : key a = none) : upToLast key (l ++ [a]) = upToLast key l :=
  List.rdropWhile_concat_pos _ _ _ (by simp [h])

theorem upToLast_concat_some (h : key a = some k) : upToLast key (l ++ [a]) = l ++ [a] :=
  List.rdropWhile_concat_neg _ _ _ (by simp [h])

/-- Behind the last slot in use all are free. -/
theorem upToLast_split (slots : List A) :
    ∃ rest, slots = upToLast key slots ++ rest ∧ ∀ a ∈ rest, key a = none := by
  induction slots using List.reverseRecOn with
  | nil => exact ⟨[], rfl, nofun⟩
  | append_singleton l a ih =>
    obtain ⟨rest, hl, hrest⟩ := ih
    cases ha : key a with
    | none =>
      refine ⟨rest ++ [a], ?_, List.forall_mem_append.mpr ⟨hrest, by simpa using ha⟩⟩
      rw [upToLast_concat_none ha, ← List.append_assoc, ← hl]
    | some k =>
      refine ⟨[], ?_, nofun⟩
      rw [upToLast_concat_some ha, List.append_nil]

theorem length_upToLast (slots : List A) : (upToLast key slots).length ≤ slots.length := by
  obtain ⟨rest, hsplit, -⟩ := @upToLast_split _ _ key slots
  have hlength := congrArg List.length hsplit
  rw [List.length_append] at hlength
  exact Nat.le.intro hlength.symm

section

variable [DecidableEq K] (k : K) (slots : List A) {n : Nat}

theorem any_take_succ (hn : n < slots.length) :
    ((slots.take (n + 1)).any fun b => key b = some k) =
      ((slots.take n).any (fun b => key b = some k) || decide (key slots[n] = some k)) := by
  rw [← List.take_append_getElem hn, List.any_append, List.any_cons, List.any_nil, Bool.or_false]

/-- The search after it has met an entry. -/
theorem available_found (hn : n ≤ slots.length) (availableIndex : Option Nat) :
    available key k slots n availableIndex true =
      if (slots.take n).any fun b => key b = some k then none else some availableIndex := by
  induction n generalizing availableIndex with
  | zero => simp [available]
  | succ n ih =>
    rw [any_take_succ k slots hn]
    unfold available
    rw [List.getElem?_eq_getElem hn, Option.bind_some]
    cases hx : key slots[n] with
    | none =>
      simp only [ih (Nat.le_of_succ_le hn), if_true, reduceCtorEq, decide_false, Bool.or_false]
    | some k' =>
      simp only [ih (Nat.le_of_succ_le hn), Option.some.injEq]
      by_cases hk : k' = k
      · simp [hk]
      · simp [hk]

/-- The search before it has met an entry. -/
theorem available_start (hn : n ≤ slots.length) (availableIndex : Option Nat) :
    available key k slots n availableIndex false =
      if (slots.take n).any fun b => key b = some k then none
      else if (upToLast key (slots.take n)).length < n then some (some (upToLast key (slots.take n)).length)
      else some availableIndex := by
  induction n generalizing availableIndex with
  | zero => simp [available]
  | succ n ih =>
    have htake : slots.take (n + 1) = slots.take n ++ [slots[n]] := (List.take_append_getElem hn).symm
    have hshort : (upToLast key (slots.take n)).length ≤ n := by
      have hlength := @length_upToLast _ _ key (slots.take n)
      rwa [List.length_take_of_le (Nat.le_of_succ_le hn)] at hlength
    rw [any_take_succ k slots hn, htake]
    unfold available
    rw [List.getElem?_eq_getElem hn, Option.bind_some]
    cases hx : key slots[n] with
    | none =>
      rw [upToLast_concat_none hx, if_pos (Nat.lt_succ_of_le hshort)]
      simp only [ih (Nat.le_of_succ_le hn), Bool.false_eq_true, if_false, reduceCtorEq,
        decide_false, Bool.or_false]
      obtain hlt | heq := Nat.lt_or_eq_of_le hshort
      · rw [if_pos hlt]
      · rw [if_neg (Nat.not_lt_of_le (Nat.le_of_eq heq.symm)), heq]
    | some k' =>
      have hfull : ¬ (slots.take n ++ [slots[n]]).length < n + 1 := by
        rw [List.length_append, List.length_take_of_le (Nat.le_of_succ_le hn)]
        exact Nat.lt_irrefl _
      rw [upToLast_concat_some hx, if_neg hfull]
      simp only [available_found k slots (Nat.le_of_succ_le hn), Option.some.injEq]
      by_cases hk : k' = k
      · simp [hk]
      · simp [hk]

end

theorem any_entries [DecidableEq K] (k : K) (slots : List A) :
    ((entries key slots).any fun b => key b = some k) = slots.any fun b => key b = some k := by
  rw [Bool.eq_iff_iff, List.any_eq_true, List.any_eq_true]
  refine exists_congr fun b => ?_
  rw [mem_entries, and_assoc]
  refine and_congr_right fun _ => and_iff_right_of_imp fun hb => ?_
  rw [of_decide_eq_true hb]
  rfl

private theorem entries_upToLast (slots : List A) : entries key (upToLast key slots) = entries key slots := by
  obtain ⟨rest, hsplit, hrest⟩ := @upToLast_split _ _ key slots
  conv_rhs => rw [hsplit, entries_append, entries_nil hrest, List.append_nil]

/-- An entry after the last one. -/
theorem entries_set_upToLast (slots : List A) (h : (upToLast key slots).length < slots.length)
    (ha : key a = some k) :
    entries key (slots.set (upToLast key slots).length a) = entries key slots ++ [a] := by
  obtain ⟨rest, hsplit, hrest⟩ := @upToLast_split _ _ key slots
  have hentries := @entries_upToLast _ _ key slots
  generalize upToLast key slots = front at hsplit hentries h
  subst hsplit
  cases rest with
  | nil => simp at h
  | cons first rest =>
    rw [set_at rfl, entries_append, entries_cons_some ha, ← hentries]
    rw [entries_nil fun b hb => hrest b (List.mem_cons_of_mem _ hb)]

/-- With a free slot there are fewer entries than slots. -/
theorem length_entries_lt (h : ∃ a ∈ slots, key a = none) : (entries key slots).length < slots.length := by
  obtain ⟨a, ha, hnone⟩ := h
  refine List.length_filter_lt_length_iff_exists.mpr ⟨a, ha, ?_⟩
  simp [hnone]

/-- All slots are in use once the last one is in use after the compaction. -/
theorem length_upToLast_compact (hfree : key free = none) (slots : List A) :
    (upToLast key (compact key free slots)).length = (entries key slots).length := by
  obtain ⟨gap, hcompact, hgap, -⟩ := compact_eq hfree slots
  rw [hcompact]
  clear hcompact
  induction gap using List.reverseRecOn with
  | nil =>
    rw [List.append_nil]
    cases hlast : entries key slots using List.reverseRecOn with
    | nil => rfl
    | append_singleton l a _ =>
      have ha : a ∈ entries key slots := by rw [hlast]; simp
      obtain ⟨k, hk⟩ := Option.isSome_iff_exists.mp (mem_entries.mp ha).2
      rw [upToLast_concat_some hk]
  | append_singleton gap a ih =>
    rw [← List.append_assoc, upToLast_concat_none (hgap a (by simp))]
    exact ih fun b hb => hgap b (List.mem_append_left _ hb)

/-- A key that occurs once splits the slots at its entry. -/
theorem Distinct.split {l₁ l₂ : List A} (h : Distinct key (l₁ ++ b :: l₂)) (hb : key b = some k) :
    (∀ x ∈ l₁, key x ≠ some k) ∧ ∀ x ∈ l₂, key x ≠ some k := by
  unfold Distinct at h
  rw [List.filterMap_append, List.filterMap_cons_some hb, List.nodup_middle] at h
  have hnot := (List.nodup_cons.mp h).1
  rw [List.mem_append, not_or, List.mem_filterMap, List.mem_filterMap] at hnot
  exact ⟨fun x hx hk => hnot.1 ⟨x, hx, hk⟩, fun x hx hk => hnot.2 ⟨x, hx, hk⟩⟩

/-- The free slots have no keys, so they do not matter. -/
theorem distinct_entries : Distinct key (entries key slots) ↔ Distinct key slots := by
  have hsame : (entries key slots).filterMap key = slots.filterMap key := by
    unfold entries
    rw [List.filterMap_filter]
    congr 1
    funext b
    cases key b with
    | none => rfl
    | some _ => rfl
  unfold Distinct
  rw [hsame]

variable [DecidableEq K]

/-- On slots whose last entry stands at the right place. -/
theorem entries_place (hslots : (entries key slots).length < slots.length ↔
      (upToLast key slots).length < slots.length) (ha : key a = some k) :
    (place key slots k a).map id (entries key) = append key slots.length (entries key slots) k a := by
  unfold place append
  rw [available_start k slots le_rfl none, List.take_length, any_entries]
  split_ifs with hany hroom hroom' hroom'
  · rfl
  · exact Prod.ext rfl (entries_set_upToLast slots hroom ha)
  · exact absurd (hslots.mpr hroom) hroom'
  · exact absurd (hslots.mp hroom') hroom
  · rfl

/-- The slots are the entries in their order, and all of them can be used. -/
theorem entries_add (hfree : key free = none) (hne : slots ≠ []) (ha : key a = some k) :
    (add key free slots k a).map id (entries key) = append key slots.length (entries key slots) k a := by
  unfold add
  cases hlast : slots.getLast?.bind key with
  | some k' =>
    have hcompacted : (place key (compact key free slots) k a).map id (entries key) = _ := entries_place ?_ ha
    · rwa [length_compact hfree, entries_compact hfree] at hcompacted
    · rw [entries_compact hfree, length_upToLast_compact hfree]
  | none =>
    rw [List.getLast?_eq_some_getLast hne, Option.bind_some] at hlast
    refine entries_place ?_ ha
    refine iff_of_true (length_entries_lt ⟨_, List.getLast_mem hne, hlast⟩) ?_
    change (upToLast key slots).length < slots.length
    rw [← List.dropLast_append_getLast hne, upToLast_concat_none hlast, List.length_append]
    exact Nat.lt_succ_of_le (length_upToLast _)

private theorem length_place (slots : List A) (k : K) (a : A) : (place key slots k a).2.length = slots.length := by
  unfold place
  split
  · rfl
  · rfl
  · exact List.length_set

/-- To add an entry makes no slot. -/
theorem length_add (hfree : key free = none) (slots : List A) (k : K) (a : A) :
    (add key free slots k a).2.length = slots.length := by
  unfold add
  rw [length_place]
  split_ifs
  · exact length_compact hfree slots
  · rfl

/-- What is looked up is found among the entries. -/
theorem lookup_entries (slots : List A) : lookup key (entries key slots) = lookup key slots := by
  funext k
  unfold lookup entries
  rw [List.find?_filter]
  congr 1
  funext b
  cases key b with
  | none => rfl
  | some _ => simp

/-- An entry is changed where it is. -/
theorem entries_set (h : Distinct key slots) {i : Nat} (hi : slots[i]? = some b) (hb : key b = some k)
    (ha : key a = some k) : entries key (slots.set i a) = replace key (entries key slots) k a := by
  obtain ⟨l₁, l₂, rfl, rfl⟩ : ∃ l₁ l₂, slots = l₁ ++ b :: l₂ ∧ i = l₁.length := by
    obtain ⟨hlt, hget⟩ := List.getElem?_eq_some_iff.mp hi
    refine ⟨slots.take i, slots.drop (i + 1), ?_, (List.length_take_of_le (Nat.le_of_lt hlt)).symm⟩
    rw [← hget, ← List.drop_eq_getElem_cons hlt, List.take_append_drop]
  obtain ⟨h₁, h₂⟩ := h.split hb
  have hsame {l : List A} (hl : ∀ x ∈ l, key x ≠ some k) : replace key (entries key l) k a = entries key l := by
    refine (List.map_congr_left fun x hx => ?_).trans (List.map_id _)
    exact if_neg (hl x (mem_entries.mp hx).1)
  rw [set_at rfl, entries_append, entries_append, entries_cons_some ha, entries_cons_some hb]
  unfold replace at hsame ⊢
  rw [List.map_append, List.map_cons, hsame h₁, hsame h₂, if_pos hb]

/-- An entry is deleted. -/
theorem entries_set_free (h : Distinct key slots) {i : Nat} (hi : slots[i]? = some b) (hb : key b = some k)
    (ha : key a = none) : entries key (slots.set i a) = erase key (entries key slots) k := by
  obtain ⟨l₁, l₂, rfl, rfl⟩ : ∃ l₁ l₂, slots = l₁ ++ b :: l₂ ∧ i = l₁.length := by
    obtain ⟨hlt, hget⟩ := List.getElem?_eq_some_iff.mp hi
    refine ⟨slots.take i, slots.drop (i + 1), ?_, (List.length_take_of_le (Nat.le_of_lt hlt)).symm⟩
    rw [← hget, ← List.drop_eq_getElem_cons hlt, List.take_append_drop]
  obtain ⟨h₁, h₂⟩ := h.split hb
  have hsame {l : List A} (hl : ∀ x ∈ l, key x ≠ some k) : erase key (entries key l) k = entries key l :=
    List.filter_eq_self.mpr fun x hx => decide_eq_true (hl x (mem_entries.mp hx).1)
  rw [set_at rfl, entries_append, entries_append, entries_cons_none ha, entries_cons_some hb]
  unfold erase at hsame ⊢
  rw [List.filter_append, List.filter_cons_of_neg (by simp [hb]), hsame h₁, hsame h₂]

/-- A key without an entry is in no slot. -/
theorem lookup_eq_none_iff : lookup key l k = none ↔ (l.any fun b => key b = some k) = false := by
  unfold lookup
  simp [List.find?_eq_none]

/-- The key is added to those that are found. -/
theorem lookup_concat (hnone : lookup key l k = none) (ha : key a = some k) :
    lookup key (l ++ [a]) = Function.update (lookup key l) k (some a) := by
  funext k'
  by_cases hk : k' = k
  · subst hk
    have hsome : lookup key [a] k' = some a := List.find?_cons_of_pos (by simp [ha])
    rw [Function.update_self]
    unfold lookup at hnone hsome ⊢
    rw [List.find?_append, hnone, hsome]
    rfl
  · have hother : lookup key [a] k' = none := by
      refine List.find?_cons_of_neg ?_
      simpa [ha] using Ne.symm hk
    rw [Function.update_of_ne hk]
    unfold lookup at hother ⊢
    rw [List.find?_append, hother, Option.or_none]

/-- A replaced entry is found under its key, the others as before. -/
theorem lookup_replace (hsome : lookup key l k = some b) (ha : key a = some k) :
    lookup key (replace key l k a) = Function.update (lookup key l) k (some a) := by
  funext k'
  unfold lookup replace at *
  rw [List.find?_map]
  by_cases hk : k' = k
  · subst hk
    rw [Function.update_self]
    have hpred : ((fun x => decide (key x = some k')) ∘ fun x => if key x = some k' then a else x) =
        fun x => decide (key x = some k') := by
      funext x
      by_cases hx : key x = some k'
      · simp [hx, ha]
      · simp [hx]
    rw [hpred, hsome, Option.map_some, if_pos (by simpa using List.find?_some hsome)]
  · rw [Function.update_of_ne hk]
    have hpred : ((fun x => decide (key x = some k')) ∘ fun x => if key x = some k then a else x) =
        fun x => decide (key x = some k') := by
      funext x
      by_cases hx : key x = some k
      · simp [hx, ha]
      · simp [hx]
    rw [hpred]
    cases hfind : l.find? fun x => key x = some k' with
    | none => rfl
    | some x =>
      have hx : key x = some k' := by simpa using List.find?_some hfind
      rw [Option.map_some, if_neg]
      rw [hx]
      exact fun heq => hk (Option.some.inj heq)

/-- An erased entry is gone, the others are there. -/
theorem lookup_erase (l : List A) (k : K) : lookup key (erase key l k) =
    Function.update (lookup key l) k none := by
  funext k'
  unfold lookup erase
  rw [List.find?_filter]
  by_cases hk : k' = k
  · subst hk
    rw [Function.update_self]
    refine List.find?_eq_none.mpr fun x _ => ?_
    simp
  · rw [Function.update_of_ne hk]
    congr 1
    funext x
    by_cases hx : key x = some k'
    · have hne : key x ≠ some k := by
        rw [hx]
        exact fun heq => hk (Option.some.inj heq)
      simp [hx, hk]
    · simp [hx]

/-- An entry with a new key may stand at the end. -/
theorem Distinct.concat (h : Distinct key l) (hnone : lookup key l k = none) (ha : key a = some k) :
    Distinct key (l ++ [a]) := by
  unfold Distinct at h ⊢
  rw [List.filterMap_append, List.filterMap_cons_some ha, List.filterMap_nil]
  refine List.nodup_append.mpr ⟨h, List.nodup_singleton _, fun x hx y hy => ?_⟩
  obtain ⟨b, hb, hkey⟩ := List.mem_filterMap.mp hx
  rw [List.mem_singleton] at hy
  rintro rfl
  subst hy
  exact absurd hkey (by simpa using List.find?_eq_none.mp hnone b hb)

/-- A replacement keeps the keys apart. -/
theorem Distinct.replace (h : Distinct key l) (ha : key a = some k) : Distinct key (replace key l k a) := by
  have hsame : (table.replace key l k a).filterMap key = l.filterMap key := by
    unfold table.replace
    rw [List.filterMap_map]
    congr 1
    funext x
    by_cases hx : key x = some k
    · simp [hx, ha]
    · simp [hx]
  unfold Distinct
  rwa [hsame]

/-- And so does an erasure. -/
theorem Distinct.erase (h : Distinct key l) (k : K) : Distinct key (erase key l k) :=
  h.sublist (List.Sublist.filterMap key List.filter_sublist)

/-- Each entry is found under its key. -/
theorem Distinct.lookup_of_mem (h : Distinct key l) (hmem : a ∈ l) (ha : key a = some k) :
    lookup key l k = some a := by
  obtain ⟨l₁, l₂, rfl⟩ := List.append_of_mem hmem
  obtain ⟨h₁, -⟩ := h.split ha
  unfold lookup
  rw [List.find?_append, List.find?_eq_none.mpr fun x hx => by simpa using h₁ x hx, Option.none_or]
  exact List.find?_cons_of_pos (by simp [ha])

/-- What becomes of slots that an entry is added to. -/
inductive Adds (key : A → Option K) (slots : List A) (k : K) (a : A) : Outcome × List A → Prop where
  | added (slots' : List A) (hnone : lookup key slots k = none)
      (hroom : (entries key slots).length < slots.length)
      (hentries : entries key slots' = entries key slots ++ [a]) : Adds key slots k a (.added, slots')
  | collision (slots' : List A) (hsome : lookup key slots k ≠ none)
      (hentries : entries key slots' = entries key slots) : Adds key slots k a (.collision, slots')
  | full (slots' : List A) (hnone : lookup key slots k = none)
      (hfull : slots.length ≤ (entries key slots).length)
      (hentries : entries key slots' = entries key slots) : Adds key slots k a (.full, slots')

/-- An entry with a key of its own goes to a free slot, if there is one. -/
theorem add_adds (hfree : key free = none) (hne : slots ≠ []) (ha : key a = some k) :
    Adds key slots k a (add key free slots k a) := by
  have hadd := entries_add hfree hne ha
  generalize add key free slots k a = result at hadd ⊢
  obtain ⟨outcome, slots'⟩ := result
  change (outcome, entries key slots') = _ at hadd
  unfold append at hadd
  rw [any_entries] at hadd
  split_ifs at hadd with hany hroom
  · obtain ⟨rfl, hentries⟩ := Prod.mk.inj hadd
    refine .collision slots' (fun hnone => ?_) hentries
    rw [lookup_eq_none_iff.mp hnone] at hany
    cases hany
  · obtain ⟨rfl, hentries⟩ := Prod.mk.inj hadd
    exact .added slots' (lookup_eq_none_iff.mpr (Bool.eq_false_iff.mpr hany)) hroom hentries
  · obtain ⟨rfl, hentries⟩ := Prod.mk.inj hadd
    exact .full slots' (lookup_eq_none_iff.mpr (Bool.eq_false_iff.mpr hany)) (Nat.le_of_not_lt hroom) hentries

end table
