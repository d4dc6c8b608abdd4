import CatLitterBox.Motor.Arrived

open catbox.sensor program program.Program

namespace catbox.motor

/-- The event commands the spin motor to turn. -/
def Event.turns (e : Event) : Bool :=
  match e.1.command .SCPSPIN_MOTOR with
  | some .FORWARD => true
  | some .REVERSE => true
  | _ => false

/-- The events since the last command to turn. -/
def searching (trace : List Event) : List Event := trace.takeWhile (!·.turns)

/-- The events before the last command to turn. -/
def beforehand (trace : List Event) : List Event := (trace.dropWhile (!·.turns)).tail

/-- The time that was read last. -/
def lastTime (trace : List Event) : Option Int := trace.findSome? Event.time

/-- The last look at the clock is 30 s or more after the first one. -/
def Expired (trace : List Event) : Prop :=
  ∃ first last, firstTime trace = some first ∧ lastTime trace = some last ∧ 30000 ≤ (last - first).tdiv 1000

/-- The word that was read last has the ST bit, or lacks it. -/
def LastSt (value : Bool) (trace : List Event) : Prop :=
  ∃ word, lastWord trace = some word ∧ word.has PT_BIT_SCP_SPIN_ST = value

/-- The scoop is at its origin and the spin motor is told to stop. -/
def AtOrigin (trace : List Event) : Prop :=
  LastSt true trace ∧ lastCommand .SCPSPIN_MOTOR trace = some .STOP

/-- The last search has not used up its 30 s. Or it has done so before its first look at the sensor, and
the search before it has used up its time as well. -/
def InTime (trace : List Event) : Prop :=
  Expired (searching trace) →
    lastWord (searching trace) = none ∧ Expired (searching (beforehand trace))

variable {s p : List Event} {e : Event} {want : Bool}

private theorem lastTime_cons (e : Event) (trace : List Event) : lastTime
    (e :: trace) = e.time.or (lastTime trace) := by
  unfold lastTime
  rw [List.findSome?_cons]
  cases e.time with
  | none => rfl
  | some now => rfl

theorem lastWord_append (p s : List Event) : lastWord (p ++ s) = (lastWord p).or (lastWord s) :=
  List.findSome?_append

/-- An event that does not read the clock does not count. -/
theorem expired_cons (h : e.time = none) : Expired (e :: p) ↔ Expired p := by
  unfold Expired
  rw [firstTime, lastTime_cons, h, Option.or_none, Option.none_or]

/-- Behind a command to turn, a trace without one is the search. -/
theorem searching_append (hp : ∀ e ∈ p, e.turns = false)
    (he : e.turns = true) : searching (p ++ e :: s) = p := by
  have hquiet : ∀ e ∈ p, (!e.turns) = true := fun e hmem => by rw [hp e hmem]; rfl
  unfold searching
  rw [List.takeWhile_append_of_pos hquiet, List.takeWhile_cons_of_neg (by rw [he]; decide), List.append_nil]

theorem beforehand_append (hp : ∀ e ∈ p, e.turns = false) (he : e.turns = true) :
    beforehand (p ++ e :: s) = s := by
  have hquiet : ∀ e ∈ p, (!e.turns) = true := fun e hmem => by rw [hp e hmem]; rfl
  unfold beforehand
  rw [List.dropWhile_append_of_pos hquiet, List.dropWhile_cons_of_neg (by rw [he]; decide), List.tail_cons]

/-- Older events do not change what was seen last. -/
theorem LastSt.append {value : Bool} (h : LastSt value p) (s : List Event) : LastSt value (p ++ s) := by
  obtain ⟨word, hword, hbit⟩ := h
  refine ⟨word, ?_, hbit⟩
  rw [lastWord_append, hword]
  rfl

theorem lastSt_append_of_none {value : Bool} (h : lastWord p = none) : LastSt value
    (p ++ s) ↔ LastSt value s := by
  unfold LastSt
  rw [lastWord_append, h, Option.none_or]

/-- What was seen last is one value. -/
theorem LastSt.unique {value value' : Bool} (h : LastSt value p) (h' : LastSt value' p) : value = value' := by
  obtain ⟨word, hword, rfl⟩ := h
  obtain ⟨word', hword', rfl⟩ := h'
  rw [hword] at hword'
  rw [Option.some.inj hword']

theorem LastSt.ne_none {value : Bool} (h : LastSt value p) : lastWord p ≠ none := by
  obtain ⟨word, hword, -⟩ := h
  rw [hword]
  exact Option.some_ne_none word

/-- A search that waits for the value `want` of the ST bit and has not seen it yet. -/
structure Searches (want : Bool) (st_time : Int) (p : List Event) : Prop where
  quiet : ∀ e ∈ p, e.turns = false
  start : firstTime p = some st_time
  unseen : lastWord p = none ∨ LastSt (!want) p

/-- A search that is over: it has seen the value, or used up its time without. -/
structure Searched (want : Bool) (p : List Event) : Prop where
  quiet : ∀ e ∈ p, e.turns = false
  outcome : (¬ Expired p ∧ LastSt want p) ∨ (Expired p ∧ (lastWord p = none ∨ LastSt (!want) p))

/-- The rule of a search: it ends by an emergency stop, or with the value seen, or with its time used up. -/
theorem wp_search_st_bit {Q : Bool → List Event → Prop} (hstop : ∀ t, Q true t)
    (hend : ∀ p, Searched want p → Q false (p ++ s)) : (search_st_bit want).wp recorded Q s := by
  refine wp_history_bind trivial fun st_time => ?_
  refine wp_repeated (fun _ t => ∃ p, t = p ++ s ∧ Searches want st_time p) ?_ ?_
  · refine ⟨[⟨.esp_timer_get_time, st_time⟩], rfl, ?_, rfl, .inl rfl⟩
    intro e he
    rw [List.mem_singleton.mp he]
    rfl
  · rintro _ t ⟨p, rfl, hquiet, hstart, hunseen⟩
    refine wp_history_bind trivial fun now => wp_ite (fun htime => ?_) fun hlate => ?_
    · refine wp_history_bind trivial fun stop => wp_ite (fun _ => ?_) fun _ => ?_
      · exact wp_history_bind trivial fun _ => hstop _
      · refine wp_history_bind trivial fun word => ?_
        -- the turn has looked at the clock and at the sensor
        have hstart' : firstTime (⟨.get_pt_status .scp_spin_find_st_origin, word⟩ ::
            ⟨.read .emergency_stop_flag .scp_spin_find_st_origin, stop⟩ :: ⟨.esp_timer_get_time, now⟩ :: p) =
            some st_time := firstTime_cons _ (firstTime_cons _ (firstTime_cons _ hstart))
        have hquiet' : ∀ e ∈ (⟨.get_pt_status .scp_spin_find_st_origin, word⟩ ::
            ⟨.read .emergency_stop_flag .scp_spin_find_st_origin, stop⟩ :: ⟨.esp_timer_get_time, now⟩ :: p :
            List Event), e.turns = false := by
          simp only [List.forall_mem_cons]
          exact ⟨rfl, rfl, rfl, hquiet⟩
        refine wp_ite (fun hseen => ?_) fun hunseen => wp_history_bind trivial fun _ => ?_
        · refine hend _ ⟨hquiet', .inl ⟨?_, word, rfl, by simpa using hseen⟩⟩
          rintro ⟨first, last, hfirst, hlast, hlong⟩
          rw [hstart'] at hfirst
          obtain rfl := Option.some.inj hfirst
          obtain rfl : now = last := Option.some.inj hlast
          omega
        · have hother : word.has PT_BIT_SCP_SPIN_ST = !want := by
            cases hbit : word.has PT_BIT_SCP_SPIN_ST <;> cases want <;> simp_all
          refine ⟨_ :: _, rfl, List.forall_mem_cons.mpr ⟨rfl, hquiet'⟩, firstTime_cons _ hstart', .inr ?_⟩
          exact ⟨word, rfl, hother⟩
    · refine hend (⟨.esp_timer_get_time, now⟩ :: p) ⟨List.forall_mem_cons.mpr ⟨rfl, hquiet⟩, .inr ⟨?_, hunseen⟩⟩
      exact ⟨st_time, now, firstTime_cons _ hstart, rfl, Int.not_lt.mp hlate⟩

/-- After the way back, the last word has the bit if it has been seen in time; where there has been no time
to look, it is the last word of the way out. -/
theorem lastSt_return_iff (left returning : List Event) {turn turn' : Event} (hturn : turn.turns = true)
    (hturn' : turn'.turns = true) (hs : LastSt true s) (hleft : Searched false left)
    (hreturn : Searched true returning) :
    LastSt true (returning ++ turn :: (left ++ turn' :: s)) ↔
      InTime (returning ++ turn :: (left ++ turn' :: s)) := by
  have hword : ∀ e : Event, e.turns = true → e.word = none := by
    rintro ⟨a, r⟩ he
    cases a with
    | send mt msg => rfl
    | _ => cases he
  have hskip : ∀ {e : Event} {t}, e.turns = true → (LastSt true (e :: t) ↔ LastSt true t) :=
    fun {e t} he => lastSt_append_of_none (p := [e]) (by rw [lastWord_cons, hword e he]; rfl)
  unfold InTime
  rw [searching_append hreturn.quiet hturn, beforehand_append hreturn.quiet hturn,
    searching_append hleft.quiet hturn']
  obtain ⟨hintime, hseen⟩ | ⟨hlate, hnone | hunseen⟩ := hreturn.outcome
  · constructor
    · intro _ hexpired
      exact absurd hexpired hintime
    · intro _
      exact hseen.append _
  · rw [lastSt_append_of_none hnone, hskip hturn]
    obtain ⟨hintime, hgone⟩ | ⟨hlate', hnone' | hthere⟩ := hleft.outcome
    · constructor
      · intro hst
        exact absurd (hst.unique (hgone.append _)) (by decide)
      · intro h
        exact absurd (h hlate).2 hintime
    · constructor
      · intro _ _
        exact ⟨hnone, hlate'⟩
      · intro _
        rw [lastSt_append_of_none hnone', hskip hturn']
        exact hs
    · constructor
      · intro _ _
        exact ⟨hnone, hlate'⟩
      · intro _
        exact hthere.append _
  · constructor
    · intro hst
      exact absurd (hst.unique (hunseen.append _)) (by decide)
    · intro h
      exact absurd (h hlate).1 hunseen.ne_none

/-- Events that neither turn the motor nor read the clock or the sensor leave the outcome of a search. -/
theorem Searched.cons (h : Searched want p) (hturns : e.turns = false) (htime : e.time = none)
    (hword : e.word = none) : Searched want (e :: p) where
  quiet := List.forall_mem_cons.mpr ⟨hturns, h.quiet⟩
  outcome := by
    have hlast : lastWord (e :: p) = lastWord p := by rw [lastWord_cons, hword, Option.none_or]
    unfold LastSt
    rw [expired_cons htime, hlast]
    exact h.outcome

def endsAtOriginInTime (r : Int) (t : List Event) : Prop := r = 0 → (AtOrigin t ↔ InTime t)

/-- From the origin the scoop leaves it and comes back. It is there again if it has come back in time. -/
theorem leave_and_return_to_st_ends (hs : LastSt true s) :
    leave_and_return_to_st.wp recorded endsAtOriginInTime s := by
  have hfailed : ∀ t, endsAtOriginInTime (-1) t := fun t hzero => absurd hzero (by decide)
  refine wp_history_bind trivial fun _ =>
    wp_seq (wp_search_st_bit (fun t => wp_ite (fun _ => hfailed t) nofun) ?_)
  intro leaving hleaving
  refine wp_ite nofun fun _ => ?_
  refine wp_history_bind trivial fun _ => wp_history_bind trivial fun _ => ?_
  refine wp_history_bind trivial fun stop => wp_ite (fun _ => hfailed _) fun _ => ?_
  refine wp_history_bind trivial fun _ =>
    wp_seq (wp_search_st_bit (fun t => wp_ite (fun _ => hfailed t) nofun) ?_)
  intro returning hreturning
  refine wp_ite nofun fun _ => wp_history_bind trivial fun _ _ => ?_
  refine (and_iff_left rfl).trans (lastSt_return_iff (_ :: _ :: _ :: leaving) (_ :: returning) rfl rfl hs ?_ ?_)
  · exact ((hleaving.cons rfl rfl rfl).cons rfl rfl rfl).cons rfl rfl rfl
  · exact hreturning.cons rfl rfl rfl

private theorem scp_spin_find_st_origin_ends (dir : Direction) :
    (scp_spin_find_st_origin dir).wp recorded endsAtOriginInTime [] := by
  have hfailed : ∀ t, endsAtOriginInTime (-1) t := fun t hzero => absurd hzero (by decide)
  refine wp_repeated (fun _ _ => True) trivial fun depth t _ => ?_
  refine wp_history_bind trivial fun stop => wp_ite (fun _ => hfailed _) fun _ => ?_
  refine wp_history_bind trivial fun word => wp_ite (fun hst => ?_) fun _ => ?_
  · refine wp_seq (wp_mono (fun _ _ hends => hends) (leave_and_return_to_st_ends ⟨word, rfl, hst⟩))
  · refine wp_history_bind trivial fun _ =>
      wp_seq (wp_recorded fun stop t => wp_ite (fun _ => hfailed _) fun _ => ?_)
    refine wp_history_bind trivial fun _ => wp_history_bind trivial fun _ => ?_
    exact wp_history_bind trivial fun stop => wp_ite (fun _ => hfailed _) fun _ => trivial

/-- A search for the origin that returns 0 has brought the scoop there exactly if it has seen the ST bit
in time on the way back. -/
theorem origin_search_sound_iff (dir : Direction) (oracle : (a : Act) → List Event → a.Answer) (n : Nat)
    (h : ((scp_spin_find_st_origin dir).recorded oracle n).1.result = some 0) :
    AtOrigin ((scp_spin_find_st_origin dir).recorded oracle n).2 ↔
      InTime ((scp_spin_find_st_origin dir).recorded oracle n).2 :=
  wp_result (Program.wp_recorded (scp_spin_find_st_origin_ends dir) n) h rfl

/-- The ST bit is set at every second look, and no time passes. -/
def turning_scoop : (a : Act) → List Event → a.Answer :=
  readings (fun trace => if (trace.filterMap Event.word).length % 2 = 0 then PT_BIT_SCP_SPIN_ST else 0) fun _ =>
    0

theorem origin_search_of_turning_scoop_sound :
    AtOrigin ((scp_spin_find_st_origin .FORWARD).recorded turning_scoop 19).2 ↔
      InTime ((scp_spin_find_st_origin .FORWARD).recorded turning_scoop 19).2 :=
  origin_search_sound_iff .FORWARD turning_scoop 19 rfl

/-- The ST bit is set at the first look only, and the fifth look at the clock is 30 s after the
others. -/
def lost_scoop : (a : Act) → List Event → a.Answer :=
  readings (fun trace => if (lastWord trace).isNone then PT_BIT_SCP_SPIN_ST else 0)
    fun trace => if (trace.filterMap Event.time).length < 4 then 0 else 30000000

/-- A scoop that does not come back in 30 s counts as found. -/
theorem lost_scoop_counts : ¬ ∀ (dir : Direction) (oracle : (a : Act) → List Event → a.Answer) (n : Nat),
    ((scp_spin_find_st_origin dir).recorded oracle n).1.result = some 0 →
    AtOrigin ((scp_spin_find_st_origin dir).recorded oracle n).2 := by
  intro hall
  obtain ⟨⟨word, hword, hbit⟩, -⟩ := hall .FORWARD lost_scoop 22 rfl
  obtain rfl : (0 : PtWord) = word := Option.some.inj hword
  exact absurd hbit (by decide)

end catbox.motor
