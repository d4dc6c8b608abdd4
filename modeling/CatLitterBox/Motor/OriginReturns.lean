import CatLitterBox.Motor.Arrived
import CatLitterBox.Program.Total

open catbox.sensor program program.Program

namespace catbox.motor

def Act.delays : Act → Bool
  | .vTaskDelay _ => true
  | _ => false

/-- A sensor trace and a clock that goes on with every delay. -/
structure SpinTrace where
  word : List Event → PtWord
  clock : List Event → Int
  clock_le : ∀ e trace, clock trace ≤ clock (e :: trace)
  clock_lt : ∀ ms answer trace, clock trace < clock (⟨.vTaskDelay ms, answer⟩ :: trace)

/-- The answers of the trace, without an emergency stop. -/
def SpinTrace.oracle (e : SpinTrace) : (a : Act) → List Event → a.Answer := readings e.word e.clock

/-- The search for the origin after some steps. -/
def origin_search (dir : Direction) (e : SpinTrace) (n : Nat) : Code Int × List Event :=
  (scp_spin_find_st_origin dir).recorded e.oracle n

/-- The beginning of the self-call at some depth. -/
def self_call (dir : Direction) (depth : Nat) : Code Int := .repeated (find_st_origin_call dir) depth

/-- The search returns, and its self-calls have a bounded depth. -/
structure Terminates (dir : Direction) (e : SpinTrace) : Prop where
  returns : ∃ n r, (origin_search dir e n).1.result = some r
  depth : ∃ bound, ∀ n depth, (origin_search dir e n).1 = self_call dir depth → depth ≤ bound

/-- The first look of a call shows the ST bit. It comes after a look at the stop flag. -/
def SpinTrace.firstLook (e : SpinTrace) (trace : List Event) : Prop :=
  (e.word (⟨.read .emergency_stop_flag .scp_spin_find_st_origin, false⟩ :: trace)).has PT_BIT_SCP_SPIN_ST = true

/-- The first look of one of the calls shows the ST bit. -/
def SeesOrigin (dir : Direction) (e : SpinTrace) : Prop :=
  ∃ n depth, (origin_search dir e n).1 = self_call dir depth ∧ e.firstLook (origin_search dir e n).2

variable {e : SpinTrace} {dir : Direction} {s : List Event} {want : Bool} {depth : Nat}

/-- A turn of a search takes time. -/
theorem SpinTrace.clock_turn (e : SpinTrace) (now stop look : Event) (ms : Nat) (trace : List Event) :
    e.clock trace < e.clock (⟨.vTaskDelay ms, ()⟩ :: look :: stop :: now :: trace) :=
  calc
    e.clock trace ≤ e.clock (now :: trace) := e.clock_le _ _
    _ ≤ e.clock (stop :: now :: trace) := e.clock_le _ _
    _ ≤ e.clock (look :: stop :: now :: trace) := e.clock_le _ _
    _ < e.clock (⟨.vTaskDelay ms, ()⟩ :: look :: stop :: now :: trace) := e.clock_lt _ _ _

/-- What is left of the 30 s gets less. -/
theorem search_time_decreases {st_time now later : Int} (h : (now - st_time).tdiv 1000 < 30000)
    (hlater : now < later) : (st_time + 30000000 - later).toNat < (st_time + 30000000 - now).toNat := by
  have hwithin : now - st_time < 30000000 := by
    by_contra hlong
    rw [Int.tdiv_eq_ediv_of_nonneg (by omega)] at h
    omega
  omega

/-- Every search ends, for each of its turns takes some of its 30 s. -/
theorem search_st_bit_ends {Q : Bool → List Event → Prop} (hend : ∀ t, Q false t) :
    (search_st_bit want).Ends e.oracle Q s := by
  refine ends_perform_bind ?_
  generalize e.oracle .esp_timer_get_time s = st_time
  refine ends_repeated (fun _ _ => True)
    (fun _ t => (st_time + 30000000 - e.clock t).toNat) trivial fun _ t _ => ?_
  refine ends_perform_bind (ends_ite (fun htime => ?_) fun _ => ends_ret (hend _))
  refine ends_perform_bind (ends_ite nofun fun _ => ends_perform_bind ?_)
  refine ends_ite (fun _ => ends_ret (hend _)) fun _ => ends_perform_bind (ends_ret ⟨trivial, ?_⟩)
  exact search_time_decreases htime (e.clock_turn _ _ _ _ _)

/-- From the origin the scoop leaves it and comes back, or gives up. -/
theorem leave_and_return_to_st_returns {Q : Int → List Event → Prop} (hend : ∀ t, Q 0 t) :
    leave_and_return_to_st.Ends e.oracle Q s := by
  refine ends_perform_bind (ends_seq (search_st_bit_ends fun t => ends_ite nofun fun _ => ?_))
  refine ends_perform_bind (ends_perform_bind (ends_perform_bind (ends_ite nofun fun _ => ?_)))
  refine ends_perform_bind (ends_seq (search_st_bit_ends fun t => ends_ite nofun fun _ => ?_))
  exact ends_perform_bind (ends_ret (hend _))

/-- A call whose first look shows the ST bit returns. -/
theorem call_returns (dir : Direction) (depth : Nat) (h : e.firstLook s) :
    (self_call dir depth).Ends e.oracle (fun r _ => r = 0) s := by
  refine ends_of_comesTo (.single rfl) (ends_seq ?_)
  refine ends_perform_bind (ends_ite nofun fun _ => ends_perform_bind (ends_ite (fun _ => ?_) fun hnot => ?_))
  · exact ends_seq (leave_and_return_to_st_returns fun t => ends_ret (ends_ret rfl))
  · exact absurd h hnot

/-- Every other call calls itself. -/
theorem call_repeats (dir : Direction) (depth : Nat) (h : ¬ e.firstLook s) :
    ∃ t, ComesTo e.oracle (self_call dir depth, s) (self_call dir (depth + 1), t) := by
  have hbody : (find_st_origin_call dir depth).Ends e.oracle (fun o _ => o = .inl (depth + 1)) s := by
    refine ends_perform_bind (ends_ite nofun fun _ => ends_perform_bind (ends_ite (fun hst => ?_) fun _ => ?_))
    · exact absurd hst h
    · refine ends_perform_bind (ends_seq (search_st_bit_ends fun t => ends_ite nofun fun _ => ?_))
      refine ends_perform_bind (ends_perform_bind (ends_perform_bind (ends_ite nofun fun _ => ?_)))
      exact ends_ret rfl
  obtain ⟨o, t, hcomes, rfl⟩ := hbody
  exact ⟨t, comesTo_turn hcomes⟩

/-- Where no call sees the origin, there is one at every depth. -/
theorem exists_call_of_unseen (h : ¬ SeesOrigin dir e) (depth : Nat) :
    ∃ n, (origin_search dir e n).1 = self_call dir depth := by
  induction depth with
  | zero => exact ⟨0, rfl⟩
  | succ depth ih =>
    obtain ⟨n, hn⟩ := ih
    have hunseen : ¬ e.firstLook (origin_search dir e n).2 := fun hlook => h ⟨n, depth, hn, hlook⟩
    obtain ⟨t, hcomes⟩ := call_repeats dir depth hunseen
    rw [← hn] at hcomes
    obtain ⟨m, hm⟩ := exists_recorded hcomes
    exact ⟨m, congrArg Prod.fst hm⟩

private theorem self_call_inj {depth' : Nat} (h : self_call dir depth = self_call dir depth') : depth = depth' := by
  unfold self_call repeated at h
  injection h

/-- Finitely many steps have a bounded depth. -/
theorem exists_bound (dir : Direction) (e : SpinTrace) (m : Nat) :
    ∃ bound, ∀ n, n < m → ∀ depth, (origin_search dir e n).1 = self_call dir depth → depth ≤ bound := by
  induction m with
  | zero => exact ⟨0, nofun⟩
  | succ m ih =>
    obtain ⟨bound, hbound⟩ := ih
    by_cases hcall : ∃ depth, (origin_search dir e m).1 = self_call dir depth
    · obtain ⟨last, hlast⟩ := hcall
      refine ⟨bound + last, fun n hn depth hdepth => ?_⟩
      obtain rfl | hlt := Nat.eq_or_lt_of_le (Nat.le_of_lt_succ hn)
      · rw [hlast] at hdepth
        have hsame := self_call_inj hdepth
        omega
      · have hle := hbound n hlt depth hdepth
        omega
    · refine ⟨bound, fun n hn depth hdepth => ?_⟩
      obtain rfl | hlt := Nat.eq_or_lt_of_le (Nat.le_of_lt_succ hn)
      · exact absurd ⟨depth, hdepth⟩ hcall
      · exact hbound n hlt depth hdepth

/-- A search that has returned stays as it is. -/
theorem returned_stays {n m : Nat} {r : Int} (h : (origin_search dir e n).1 = .ret r) (hle : n ≤ m) :
    (origin_search dir e m).1 = .ret r := by
  induction m, hle using Nat.le_induction with
  | base => exact h
  | succ m _ ih =>
    unfold origin_search at ih ⊢
    rw [Program.recorded, ih]
    rfl

private theorem terminates_of_seen (h : SeesOrigin dir e) : Terminates dir e := by
  obtain ⟨n, depth, hcall, hlook⟩ := h
  obtain ⟨r, t, hcomes, -⟩ := call_returns dir depth hlook
  rw [← hcall] at hcomes
  obtain ⟨m, hm⟩ := exists_recorded hcomes
  have hreturned : (origin_search dir e m).1 = .ret r := congrArg Prod.fst hm
  obtain ⟨bound, hbound⟩ := exists_bound dir e m
  refine ⟨⟨m, r, by rw [hreturned]; rfl⟩, bound, fun n depth hdepth => ?_⟩
  by_cases hn : n < m
  · exact hbound n hn depth hdepth
  · rw [returned_stays hreturned (Nat.le_of_not_lt hn)] at hdepth
    cases hdepth

/-- With the clock going on and no emergency stop, the search for the origin returns, at a bounded depth,
exactly if one of its calls sees the ST bit at the first look. -/
theorem origin_search_terminates_iff (dir : Direction)
    (e : SpinTrace) : Terminates dir e ↔ SeesOrigin dir e := by
  constructor
  · intro hterminates
    by_contra hunseen
    obtain ⟨bound, hbound⟩ := hterminates.depth
    obtain ⟨n, hn⟩ := exists_call_of_unseen hunseen (bound + 1)
    have hle := hbound n _ hn
    omega
  · exact terminates_of_seen

/-- The ST bit is never set, and each delay takes a millisecond. -/
def dead_sensor : SpinTrace where
  word _ := 0
  clock trace := 1000 * (trace.filter fun e => e.1.delays).length
  clock_le e trace := by
    rw [List.filter_cons]
    split_ifs
    · rw [List.length_cons]
      omega
    · exact Int.le_refl _
  clock_lt ms answer trace := by
    rw [List.filter_cons_of_pos rfl, List.length_cons]
    omega

/-- With a dead sensor the search calls itself without end. -/
theorem dead_sensor_search_diverges : ¬ ∀ (dir : Direction) (e : SpinTrace), Terminates dir e := by
  intro hall
  obtain ⟨bound, hbound⟩ := (hall .FORWARD dead_sensor).depth
  have hunseen : ¬ SeesOrigin .FORWARD dead_sensor := by
    rintro ⟨n, depth, -, hlook⟩
    exact absurd (show PtWord.has 0 PT_BIT_SCP_SPIN_ST = true from hlook) (by decide)
  obtain ⟨n, hn⟩ := exists_call_of_unseen hunseen (bound + 1)
  have hle := hbound n _ hn
  omega

end catbox.motor
