import Mathlib.Data.List.Infix

namespace temporal

universe u v

variable {S : Type u} {M : Type v}

/-- Along the moves taken one after another from `s`, each one is `ok` where it is taken. -/
def Along (apply : S → M → S) (ok : S → M → Prop) : S → List M → Prop
  | _, [] => True
  | s, m :: moves => ok s m ∧ Along apply ok (apply s m) moves

variable {apply : S → M → S} {ok : S → M → Prop}

instance decidableAlong [∀ s m, Decidable (ok s m)] :
    (s : S) → (moves : List M) → Decidable (Along apply ok s moves)
  | _, [] => .isTrue trivial
  | s, m :: moves => @instDecidableAnd _ _ inferInstance (decidableAlong (apply s m) moves)

/-- What is always right is right along every run. -/
theorem along_of_forall (h : ∀ s m, ok s m) (moves : List M) (s : S) : Along apply ok s moves := by
  induction moves generalizing s with
  | nil => trivial
  | cons m moves ih => exact ⟨h s m, ih _⟩

/-- What every permitted move keeps, a permitted run keeps. -/
theorem Along.invariant {I : S → Prop} (hstep : ∀ s m, I s → ok s m → I (apply s m)) {moves : List M} {s : S}
    (h : Along apply ok s moves) (hs : I s) : I (moves.foldl apply s) := by
  induction moves generalizing s with
  | nil => exact hs
  | cons m moves ih =>
    obtain ⟨hm, hrest⟩ := h
    exact ih hrest (hstep s m hs hm)

/-- Where, in the states of an invariant `J`, the permitted moves are exactly those that keep `I`, the
permitted runs are exactly those that pass through `I` only. -/
theorem along_iff_of_invariant {J I : S → Prop} (hkeep : ∀ s m, J s → J (apply s m))
    (hstep : ∀ s m, J s → I s → (ok s m ↔ I (apply s m))) {moves : List M} {s : S} (hJ : J s) (hs : I s) :
    Along apply ok s moves ↔ ∀ past, past <+: moves → I (past.foldl apply s) := by
  induction moves generalizing s with
  | nil =>
    constructor
    · intro _ past hpast
      rw [List.prefix_nil.mp hpast]
      exact hs
    · intro _
      trivial
  | cons m moves ih =>
    have hJnext := hkeep s m hJ
    constructor
    · rintro ⟨hm, hrest⟩ past hpast
      obtain rfl | ⟨rest, rfl, hsuffix⟩ := List.prefix_cons_iff.mp hpast
      · exact hs
      · exact (ih hJnext ((hstep s m hJ hs).mp hm)).mp hrest rest hsuffix
    · intro hall
      have hnext : I (apply s m) := hall [m] ⟨moves, rfl⟩
      refine ⟨(hstep s m hJ hs).mpr hnext, (ih hJnext hnext).mpr ?_⟩
      intro past hpast
      exact hall (m :: past) (List.cons_prefix_cons.mpr ⟨rfl, hpast⟩)

/-- A run is right if its parts are, each from where it starts. -/
theorem along_append {moves later : List M} {s : S} :
    Along apply ok s (moves ++ later) ↔ Along apply ok s moves ∧ Along apply ok
    (moves.foldl apply s) later := by
  induction moves generalizing s with
  | nil => exact (and_iff_right trivial).symm
  | cons m moves ih => exact (and_congr_right fun _ => ih).trans and_assoc.symm

/-- A run that is not permitted has a first part after which a move is not. -/
theorem not_along_iff {moves : List M} {s : S} : ¬ Along apply ok s moves ↔
    ∃ past m rest, moves = past ++ m :: rest ∧ ¬ ok (past.foldl apply s) m := by
  constructor
  · intro hnot
    induction moves generalizing s with
    | nil => exact absurd trivial hnot
    | cons m moves ih =>
      by_cases hm : ok s m
      · obtain ⟨past, n, rest, rfl, hn⟩ := ih fun hrest => hnot ⟨hm, hrest⟩
        exact ⟨m :: past, n, rest, rfl, hn⟩
      · exact ⟨[], m, moves, rfl, hm⟩
  · rintro ⟨past, m, rest, rfl, hm⟩ halong
    exact hm (along_append.mp halong).2.1

/-- What some moves bring about and others put an end to holds after a run exactly if one of the first has been
taken
in it, and none of the others since. -/
theorem since_iff {P : S → Prop} {starts ends : S → M → Prop}
    (hstep : ∀ s m, P (apply s m) ↔ starts s m ∨ P s ∧ ¬ ends s m) {s : S} (hinit : ¬ P s) (moves : List M) :
    P (moves.foldl apply s) ↔ ∃ past m between, moves = past ++ m :: between ∧ starts (past.foldl apply s) m ∧
      Along apply (fun s m => ¬ ends s m) (apply (past.foldl apply s) m) between := by
  induction moves using List.reverseRecOn with
  | nil =>
    refine iff_of_false hinit ?_
    rintro ⟨past, m, between, hnil, -⟩
    exact List.append_ne_nil_of_right_ne_nil past (List.cons_ne_nil m between) hnil.symm
  | append_singleton moves last ih =>
    rw [List.foldl_append, List.foldl_cons, List.foldl_nil, hstep]
    constructor
    · rintro (hstarts | ⟨hbefore, hlast⟩)
      · exact ⟨moves, last, [], rfl, hstarts, trivial⟩
      · obtain ⟨past, m, between, rfl, hstarts, hsince⟩ := ih.mp hbefore
        refine ⟨past, m, between ++ [last], by simp, hstarts, along_append.mpr ⟨hsince, ?_, trivial⟩⟩
        rwa [List.foldl_append, List.foldl_cons] at hlast
    · rintro ⟨past, m, between, hsplit, hstarts, hsince⟩
      obtain rfl | ⟨between, last', rfl⟩ := List.eq_nil_or_concat between
      · obtain ⟨rfl, hlast⟩ := List.append_inj' hsplit rfl
        obtain rfl := List.head_eq_of_cons_eq hlast
        exact .inl hstarts
      · have hassoc : past ++ m :: (between ++ [last']) = (past ++ m :: between) ++ [last'] := by simp
        rw [List.concat_eq_append, hassoc] at hsplit
        obtain ⟨rfl, hlast⟩ := List.append_inj' hsplit rfl
        obtain rfl := List.head_eq_of_cons_eq hlast
        rw [List.concat_eq_append, along_append] at hsince
        refine .inr ⟨ih.mpr ⟨past, m, between, rfl, hstarts, hsince.1⟩, ?_⟩
        rw [List.foldl_append, List.foldl_cons]
        exact hsince.2.1

/-- Where the right moves are those that keep an invariant, a run is right exactly when the
invariant holds at every point of it. -/
theorem along_iff {I : S → Prop} (hstep : ∀ s m, I s → (ok s m ↔ I (apply s m)))
    {moves : List M} {s : S} (hs : I s) :
    Along apply ok s moves ↔ ∀ past, past <+: moves → I (past.foldl apply s) :=
  along_iff_of_invariant (J := fun _ => True) (fun _ _ _ => trivial) (fun s m _ h => hstep s m h) trivial hs

/-- Two conditions that agree on the states of `I` permit the same runs from there, where the
moves that they permit keep `I`. -/
theorem along_congr {I : S → Prop} {good : S → M → Prop} (hkeep : ∀ s m, I s → ok s m → I (apply s m))
    (hagree : ∀ s m, I s → (ok s m ↔ good s m)) {moves : List M} {s : S} (hs : I s) :
    Along apply ok s moves ↔ Along apply good s moves := by
  induction moves generalizing s with
  | nil => exact Iff.rfl
  | cons m moves ih =>
    constructor
    · rintro ⟨hm, hrest⟩
      exact ⟨(hagree s m hs).mp hm, (ih (hkeep s m hs hm)).mp hrest⟩
    · rintro ⟨hm, hrest⟩
      have hok := (hagree s m hs).mpr hm
      exact ⟨hok, (ih (hkeep s m hs hok)).mpr hrest⟩

/-- Where every move is possible in the states of an invariant, and keeps it, every run is. -/
theorem possible_run {step : S → M → Option S} {I : S → Prop}
    (hstep : ∀ s m, I s → ∃ s', step s m = some s' ∧ I s')
    (moves : List M) {s : S} (hs : I s) : ∃ s', moves.foldlM step s = some s' ∧ I s' := by
  induction moves generalizing s with
  | nil => exact ⟨s, rfl, hs⟩
  | cons m moves ih =>
    obtain ⟨s', hs', hkept⟩ := hstep s m hs
    obtain ⟨last, hrun, hlast⟩ := ih hkept
    exact ⟨last, by rw [List.foldlM_cons, hs']; exact hrun, hlast⟩

end temporal
