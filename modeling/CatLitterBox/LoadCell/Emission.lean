import CatLitterBox.LoadCell.Fsm
import CatLitterBox.Temporal.Since

open temporal

namespace catbox.loadcell

variable {s : CatFsm} {c : Call}

/-- A reset keeps the state, or goes back to the first. -/
theorem fsm_reset_state : (fsm_reset s c).g_cat_state = s.g_cat_state ∨
    (fsm_reset s c).g_cat_state = .CAT_STATE_INIT := by
  unfold fsm_reset
  split
  · exact .inr rfl
  · exact .inl rfl

theorem fsm_reset_exit : (fsm_reset s c).g_exit_timestamp_us = s.g_exit_timestamp_us := by
  unfold fsm_reset
  split
  · rfl
  · rfl

/-- A state other than INIT is not the result of a reset. -/
theorem fsm_reset_of_ne (h : (fsm_reset s c).g_cat_state ≠ .CAT_STATE_INIT) :
    s.g_cat_state = (fsm_reset s c).g_cat_state := by
  obtain hsame | hinit := fsm_reset_state (s := s) (c := c)
  · exact hsame.symm
  · exact absurd hinit h

/-- What a `switch` did that sends or comes to WAIT_CLEAN: the cat has left, or the FSM was waiting and
the sample does not show the cat. -/
theorem fsm_switch_cases :
    ((fsm_switch s c).2 = false ∧ (fsm_switch s c).1.g_cat_state ≠ .CAT_STATE_WAIT_CLEAN) ∨
    (s.g_cat_state = .CAT_STATE_OCCUPIED ∧
      fsm_switch s c = ({ s with g_cat_state := .CAT_STATE_WAIT_CLEAN, g_exit_timestamp_us := c.now }, false)) ∨
    (s.g_cat_state = .CAT_STATE_WAIT_CLEAN ∧ ¬ (s.push c.current_weight).entry c.current_weight ∧
      (fsm_switch s c = (s.push c.current_weight, false) ∨
        (c.now - s.g_exit_timestamp_us).tdiv 1000000 ≥ CAT_CLEAN_DELAY_SEC ∧
          fsm_switch s c = ({ s.push c.current_weight with g_cat_state := .CAT_STATE_IDLE }, true))) := by
  unfold fsm_switch
  cases hstate : s.g_cat_state with
  | CAT_STATE_INIT =>
    left
    simp only
    split
    · exact ⟨rfl, nofun⟩
    · exact ⟨rfl, fun h => by cases hstate.symm.trans h⟩
  | CAT_STATE_IDLE =>
    left
    simp only
    split
    · exact ⟨rfl, nofun⟩
    · split
      · exact ⟨rfl, nofun⟩
      · exact ⟨rfl, fun h => by cases hstate.symm.trans h⟩
  | CAT_STATE_OCCUPIED =>
    simp only
    split
    · exact .inr (.inl ⟨trivial, rfl⟩)
    · exact .inl ⟨rfl, fun h => by cases hstate.symm.trans h⟩
  | CAT_STATE_WAIT_CLEAN =>
    simp only
    by_cases hentry : (s.push c.current_weight).entry c.current_weight
    · rw [if_pos hentry]
      exact .inl ⟨rfl, nofun⟩
    · rw [if_neg hentry]
      split
      · exact .inr (.inr ⟨trivial, hentry, .inr ⟨‹_›, rfl⟩⟩)
      · exact .inr (.inr ⟨trivial, hentry, .inl rfl⟩)

/-- What a sending `switch` looked at. -/
theorem fsm_switch_sent (h : (fsm_switch s c).2 = true) :
    s.g_cat_state = .CAT_STATE_WAIT_CLEAN ∧ (fsm_switch s c).1.g_cat_state = .CAT_STATE_IDLE ∧
      ¬ (fsm_switch s c).1.entry c.current_weight ∧
      (c.now - s.g_exit_timestamp_us).tdiv 1000000 ≥ CAT_CLEAN_DELAY_SEC := by
  obtain ⟨hquiet, -⟩ | ⟨-, heq⟩ | ⟨hstate, hentry, heq | ⟨helapsed, heq⟩⟩ := fsm_switch_cases (s := s) (c := c)
  · rw [hquiet] at h
    cases h
  · rw [heq] at h
    cases h
  · rw [heq] at h
    cases h
  · rw [heq]
    exact ⟨hstate, rfl, hentry, helapsed⟩

/-- How the `switch` comes to WAIT_CLEAN: by the exit of the cat, or by a sample that
does not show it while the delay is not over. -/
theorem fsm_switch_wait (h : (fsm_switch s c).1.g_cat_state = .CAT_STATE_WAIT_CLEAN) :
    (s.g_cat_state = .CAT_STATE_OCCUPIED ∧ (fsm_switch s c).1.g_exit_timestamp_us = c.now) ∨
    (s.g_cat_state = .CAT_STATE_WAIT_CLEAN ∧ (fsm_switch s c).1.g_exit_timestamp_us = s.g_exit_timestamp_us ∧
      ¬ (fsm_switch s c).1.entry c.current_weight) := by
  obtain ⟨-, hother⟩ | ⟨hstate, heq⟩ | ⟨hstate, hentry, heq | ⟨-, heq⟩⟩ := fsm_switch_cases (s := s) (c := c)
  · exact absurd h hother
  · rw [heq]
    exact .inl ⟨hstate, rfl⟩
  · rw [heq]
    exact .inr ⟨hstate, rfl, hentry⟩
  · rw [heq] at h
    cases h

private theorem elapsed_of_delay {us : Int} (h : us.tdiv 1000000 ≥ CAT_CLEAN_DELAY_SEC) : 180000000 ≤ us := by
  have hdelay : CAT_CLEAN_DELAY_SEC = 180 := rfl
  obtain hneg | hnonneg := lt_or_ge us 0
  · have hpos : 0 ≤ (-us).tdiv 1000000 := Int.tdiv_nonneg (by omega) (by omega)
    rw [Int.neg_tdiv] at hpos
    omega
  · rw [Int.tdiv_eq_ediv_of_nonneg hnonneg] at h
    omega

/-- A call that sends was not frozen, found the FSM in WAIT_CLEAN with the delay over, and
took a sample that does not show the cat. -/
theorem process_sent (h : (process_cat_detection_fsm s c).2 = true) :
    s.g_cat_state = .CAT_STATE_WAIT_CLEAN ∧ (process_cat_detection_fsm s c).1.g_cat_state = .CAT_STATE_IDLE ∧
      ¬ (process_cat_detection_fsm s c).1.entry c.current_weight ∧
      180000000 ≤ c.now - s.g_exit_timestamp_us := by
  unfold process_cat_detection_fsm at h ⊢
  by_cases hfrozen : c.frozen = true
  · rw [if_pos hfrozen] at h
    cases h
  · rw [if_neg hfrozen] at h ⊢
    obtain ⟨hstate, hidle, hentry, helapsed⟩ := fsm_switch_sent h
    rw [fsm_reset_exit] at helapsed
    have hbefore : s.g_cat_state = .CAT_STATE_WAIT_CLEAN := by
      rw [fsm_reset_of_ne (by rw [hstate]; simp)]
      exact hstate
    exact ⟨hbefore, hidle, hentry, elapsed_of_delay helapsed⟩

/-- How a call comes to WAIT_CLEAN: by the exit of the cat, or from WAIT_CLEAN, in which a
sample it looks at does not show the cat. -/
theorem process_wait (h : (process_cat_detection_fsm s c).1.g_cat_state = .CAT_STATE_WAIT_CLEAN) :
    (s.g_cat_state = .CAT_STATE_OCCUPIED ∧ (process_cat_detection_fsm s c).1.g_exit_timestamp_us = c.now) ∨
    (s.g_cat_state = .CAT_STATE_WAIT_CLEAN ∧
      (process_cat_detection_fsm s c).1.g_exit_timestamp_us = s.g_exit_timestamp_us ∧
      (c.frozen = false → ¬ (process_cat_detection_fsm s c).1.entry c.current_weight)) := by
  unfold process_cat_detection_fsm at h ⊢
  by_cases hfrozen : c.frozen = true
  · rw [if_pos hfrozen] at h ⊢
    have hbefore : s.g_cat_state = .CAT_STATE_WAIT_CLEAN := by
      rw [fsm_reset_of_ne (by rw [h]; simp)]
      exact h
    refine .inr ⟨hbefore, fsm_reset_exit, fun hnot => ?_⟩
    rw [hfrozen] at hnot
    cases hnot
  · rw [if_neg hfrozen] at h ⊢
    have hbefore (hne : (fsm_reset s c).g_cat_state ≠ .CAT_STATE_INIT) :
        s.g_cat_state = (fsm_reset s c).g_cat_state :=
      fsm_reset_of_ne hne
    obtain ⟨hoccupied, hexit⟩ | ⟨hwait, hexit, hentry⟩ := fsm_switch_wait h
    · refine .inl ⟨?_, hexit⟩
      rw [hbefore (by rw [hoccupied]; simp), hoccupied]
    · refine .inr ⟨?_, ?_, fun _ => hentry⟩
      · rw [hbefore (by rw [hwait]; simp), hwait]
      · rw [hexit, fsm_reset_exit]

/-- The FSM before the call number `n` of the sequence `calls`. -/
def fsmAt (calls : Nat → Call) : Nat → CatFsm
  | 0 => .init
  | n + 1 => (process_cat_detection_fsm (fsmAt calls n) (calls n)).1

/-- The call number `n` sends UI_CLEAN_CMD. -/
def sent (calls : Nat → Call) (n : Nat) : Prop :=
  (process_cat_detection_fsm (fsmAt calls n) (calls n)).2 = true

instance (calls : Nat → Call) (n : Nat) : Decidable (sent calls n) := inferInstanceAs (Decidable (_ = true))

/-- The call number `n` sees the cat leave. -/
def exits (calls : Nat → Call) (n : Nat) : Prop :=
  (fsmAt calls n).g_cat_state = .CAT_STATE_OCCUPIED ∧
    (fsmAt calls (n + 1)).g_cat_state = .CAT_STATE_WAIT_CLEAN

/-- The call number `n` sees the cat enter. -/
def enters (calls : Nat → Call) (n : Nat) : Prop :=
  (fsmAt calls n).g_cat_state ≠ .CAT_STATE_OCCUPIED ∧ (fsmAt calls (n + 1)).g_cat_state = .CAT_STATE_OCCUPIED

/-- The call number `n` takes a sample into account that shows the cat: one at or above
the running baseline, that sample included, plus 1000 g. -/
def showsCat (calls : Nat → Call) (n : Nat) : Prop :=
  (calls n).frozen = false ∧ (fsmAt calls (n + 1)).entry (calls n).current_weight

variable {calls : Nat → Call}

/-- What has happened since the FSM came to WAIT_CLEAN: it came there by an exit at the
time it remembers, and since then stayed there and took no sample that shows the cat. -/
theorem wait_since (n : Nat) (h : (fsmAt calls n).g_cat_state = .CAT_STATE_WAIT_CLEAN) :
    Since (fun e => exits calls e ∧ (calls e).now = (fsmAt calls n).g_exit_timestamp_us)
      (fun k => (fsmAt calls k).g_cat_state = .CAT_STATE_WAIT_CLEAN ∧ ¬ showsCat calls k) n := by
  refine since_of_step
    (P := fun k => (fsmAt calls k).g_cat_state = .CAT_STATE_WAIT_CLEAN ∧
      (fsmAt calls k).g_exit_timestamp_us = (fsmAt calls n).g_exit_timestamp_us) ?_ ?_ n ⟨h, rfl⟩
  · rintro ⟨hinit, -⟩
    cases hinit
  · rintro k ⟨hwait, htime⟩
    obtain ⟨hoccupied, hnow⟩ | ⟨hbefore, hkept, hentry⟩ := process_wait hwait
    · refine .inl ⟨⟨hoccupied, hwait⟩, ?_⟩
      rw [← htime, ← hnow]
      rfl
    · refine .inr ⟨⟨hbefore, ?_⟩, hbefore, ?_⟩
      · rw [← htime, ← hkept]
        rfl
      · rintro ⟨hfrozen, hshows⟩
        exact hentry hfrozen hshows

/-- An occupied FSM saw the cat enter, and has sent nothing since. -/
theorem occupied_since (n : Nat) (h : (fsmAt calls n).g_cat_state = .CAT_STATE_OCCUPIED) :
    Since (enters calls) (fun k => ¬ sent calls k) n := by
  refine since_of_step (P := fun k => (fsmAt calls k).g_cat_state = .CAT_STATE_OCCUPIED)
    nofun (fun k hk => ?_) n h
  by_cases hbefore : (fsmAt calls k).g_cat_state = .CAT_STATE_OCCUPIED
  · refine .inr ⟨hbefore, fun hsent => ?_⟩
    obtain ⟨hwait, -⟩ := process_sent hsent
    cases hbefore.symm.trans hwait
  · exact .inl ⟨hbefore, hk⟩

/-- The last exit before a send, at least 180 s ago: since then the FSM has waited, and no
sample it took shows the cat. -/
theorem sent_exit {n : Nat} (hsent : sent calls n) :
    ∃ e < n, exits calls e ∧ 180000000 ≤ (calls n).now - (calls e).now ∧
      (∀ k, e < k → k ≤ n → (fsmAt calls k).g_cat_state = .CAT_STATE_WAIT_CLEAN) ∧
      ∀ k, e < k → k ≤ n → ¬ showsCat calls k := by
  obtain ⟨hwait, -, hentry, helapsed⟩ := process_sent hsent
  obtain ⟨e, he, ⟨hexit, htime⟩, hsince⟩ := wait_since n hwait
  refine ⟨e, he, hexit, ?_, ?_, ?_⟩
  · rw [htime]
    exact helapsed
  · intro k hafter hbefore
    obtain hlt | rfl : k < n ∨ k = n := by omega
    · exact (hsince k hafter hlt).1
    · exact hwait
  · intro k hafter hbefore
    obtain hlt | rfl : k < n ∨ k = n := by omega
    · exact (hsince k hafter hlt).2
    · rintro ⟨-, hshows⟩
      exact hentry hshows

/-- Between two sends the cat enters: the last exit is later than the previous send, and
so is the entry before it. -/
theorem entered_between {m n : Nat} (hsentm : sent calls m) (hm : m < n) (hsent : sent calls n) :
    ∃ k, m < k ∧ k < n ∧ enters calls k := by
  obtain ⟨e, he, hexit, -, hwaiting, -⟩ := sent_exit hsent
  obtain ⟨hwaitm, hidlem, -⟩ := process_sent hsentm
  have hme : m < e := by
    obtain hlt | rfl | hgt : m < e ∨ m = e ∨ e < m := by omega
    · exact hlt
    · cases hexit.1.symm.trans hwaitm
    · have hnext := hwaiting (m + 1) (by omega) (by omega)
      cases hnext.symm.trans hidlem
  obtain ⟨k, hke, henters, hsilent⟩ := occupied_since e hexit.1
  refine ⟨k, ?_, by omega, henters⟩
  by_contra hkm
  obtain hlt | rfl : k < m ∨ k = m := by omega
  · exact hsilent m hlt hme hsentm
  · cases henters.2.symm.trans hidlem

/-- The emission law. A call that sends UI_CLEAN_CMD is made in WAIT_CLEAN, at least 180 s
after the last exit of the cat, with no sample taken into account since then that shows
it, and after a new entry of the cat since the previous send. -/
theorem clean_cmd_emission (calls : Nat → Call) (n : Nat) (hsent : sent calls n) :
    (fsmAt calls n).g_cat_state = .CAT_STATE_WAIT_CLEAN ∧
      (∃ e < n, exits calls e ∧ (∀ k, e < k → k ≤ n → ¬ exits calls k) ∧
        180000000 ≤ (calls n).now - (calls e).now ∧ ∀ k, e < k → k ≤ n → ¬ showsCat calls k) ∧
      ∀ m < n, sent calls m → ∃ k, m < k ∧ k < n ∧ enters calls k := by
  obtain ⟨e, he, hexit, helapsed, hwaiting, hquiet⟩ := sent_exit hsent
  refine ⟨hwaiting n he (Nat.le_refl n), ⟨e, he, hexit, ?_, helapsed, hquiet⟩, ?_⟩
  · rintro k hafter hbefore ⟨hoccupied, -⟩
    cases (hwaiting k hafter hbefore).symm.trans hoccupied
  · intro m hm hsentm
    exact entered_between hsentm hm hsent

/-- A visit of a cat of 2 kg: thirty samples of the empty box, the cat, the box with what
the cat left, and three minutes later the box again. -/
def visit (n : Nat) : Call where
  current_weight := if n = 30 then 2000 else if n < 30 then 0 else 100
  now := if n ≤ 31 then 0 else 180000000
  clean_running := false
  clean_pause_flag := false
  clean_resume_recovery_requested := false

theorem visit_emission :
    (fsmAt visit 32).g_cat_state = .CAT_STATE_WAIT_CLEAN ∧
      (∃ e < 32, exits visit e ∧ (∀ k, e < k → k ≤ 32 → ¬ exits visit k) ∧
        180000000 ≤ (visit 32).now - (visit e).now ∧ ∀ k, e < k → k ≤ 32 → ¬ showsCat visit k) ∧
      ∀ m < 32, sent visit m → ∃ k, m < k ∧ k < 32 ∧ enters visit k :=
  clean_cmd_emission visit 32 (by decide +kernel)

end catbox.loadcell
