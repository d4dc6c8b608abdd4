import CatLitterBox.LoadCell.Emission
import CatLitterBox.Ui.Proximity
import Mathlib.Tactic.Push

open catbox.loadcell

namespace catbox.ui

/-- At the moment `k` a start was pending that is carried out at the moment `n`. -/
def Pending (waiting : Nat → Prop) (n k : Nat) : Prop := k ≤ n ∧ ∀ j, k ≤ j → j ≤ n → waiting j

/-- What an automatic start at the moment `n` owes: an interval up to it of the required
length in which no sample shows the cat, and no cat while the start was pending. -/
structure Waited (time : Nat → Int) (required : Int) (waiting shows : Nat → Prop) (n : Nat) : Prop where
  quiet : ∃ e ≤ n, required ≤ time n - time e ∧ ∀ k, e < k → k ≤ n → ¬ shows k
  uncancelled : ∀ k, Pending waiting n k → ¬ shows k

/-- `proximity_task` before its turn number `n`. -/
def proximityAt (cfg : ProximityConfig) (ticks : Nat → Tick) : Nat → Proximity
  | 0 => .init
  | n + 1 => (proximity_turn cfg (proximityAt cfg ticks n) (ticks n)).1

/-- The turn number `n` starts a clean. -/
def startsClean (cfg : ProximityConfig) (ticks : Nat → Tick) (n : Nat) : Prop :=
  .create_ui_clean_task ∈ (proximity_turn cfg (proximityAt cfg ticks n) (ticks n)).2

instance (cfg : ProximityConfig) (ticks : Nat → Tick) (n : Nat) : Decidable (startsClean cfg ticks n) :=
  inferInstanceAs (Decidable (_ ∈ _))

/-- The sample of the turn number `n` shows the cat, whether the turn looks at it or not. -/
def showsCat (cfg : ProximityConfig) (ticks : Nat → Tick) (n : Nat) : Prop := (ticks n).shows_cat cfg

/-- The turns of `proximity_task` in which the cat has left and the clean is pending. -/
def hardening (cfg : ProximityConfig) (ticks : Nat → Tick) (n : Nat) : Prop :=
  (proximityAt cfg ticks n).mode = .PROXI_MODE_ESCAPE ∨ (proximityAt cfg ticks n).mode = .PROXI_MODE_HARDEN

/-- The time of a turn in milliseconds. -/
def tickTime (n : Nat) : Int := 500 * n

/-- The configured wait in milliseconds. -/
def ProximityConfig.clumping_wait (cfg : ProximityConfig) : Int := 60000 * cfg.CLUMPING_WAIT_MIN.toNat

variable {cfg : ProximityConfig} {s : Proximity} {t : Tick}

/-- What a turn can do to the mode and to its counter, and when it starts a clean. -/
inductive ProximityStep (cfg : ProximityConfig) (s : Proximity) (t : Tick)
    (u : Proximity × List ProximityEffect) : Prop
  | rest (hmode : u.1.mode = .PROXI_MODE_IDLE) (heffect : .create_ui_clean_task ∉ u.2)
  | seen (hshows : t.shows_cat cfg) (hmode : u.1.mode = .PROXI_MODE_USE) (hcnt : u.1.cat_enter_cnt = 0)
      (heffect : .create_ui_clean_task ∉ u.2)
  | unseen (hbefore : s.mode = .PROXI_MODE_USE) (hlt : s.cat_enter_cnt < 10)
    (hmode : u.1.mode = .PROXI_MODE_USE)
      (hcnt : u.1.cat_enter_cnt = s.cat_enter_cnt + 1) (heffect : .create_ui_clean_task ∉ u.2)
  | escape (hbefore : s.mode = .PROXI_MODE_USE) (hge : 10 ≤ s.cat_enter_cnt)
    (hmode : u.1.mode = .PROXI_MODE_ESCAPE)
      (heffect : .create_ui_clean_task ∉ u.2)
  | settle (hbefore : s.mode = .PROXI_MODE_ESCAPE) (hmode : u.1.mode = .PROXI_MODE_HARDEN)
      (hcnt : u.1.cat_enter_cnt = 0) (heffect : .create_ui_clean_task ∉ u.2)
  | harden (hbefore : s.mode = .PROXI_MODE_HARDEN) (hlt : s.cat_enter_cnt < 20)
    (hmode : u.1.mode = .PROXI_MODE_HARDEN)
      (hcnt : u.1.cat_enter_cnt = s.cat_enter_cnt + 1) (heffect : .create_ui_clean_task ∉ u.2)
  | start (hoperating : t.operating = false) (hbefore : s.mode = .PROXI_MODE_HARDEN)
    (hge : 20 ≤ s.cat_enter_cnt)
      (hmode : u.1.mode = .PROXI_MODE_IDLE)

private theorem proximity_settle_rests (gap : ℚ) :
    (proximity_settle s gap).1.mode = s.mode ∧ .create_ui_clean_task ∉ (proximity_settle s gap).2 := by
  unfold proximity_settle
  generalize (if s.prev_wg < 100 then gap else s.prev_wg) = prev_wg
  simp only
  split
  · exact ⟨rfl, by simp⟩
  · exact ⟨rfl, by simp⟩

theorem proximity_idle_step (hmode : s.mode = .PROXI_MODE_IDLE) :
    ProximityStep cfg s t (proximity_idle cfg s t) := by
  unfold proximity_idle
  by_cases hshows : t.shows_cat cfg
  · rw [if_pos hshows]
    split_ifs
    · exact .rest hmode (by simp)
    · exact .seen hshows rfl rfl (by simp)
    · exact .rest hmode (by simp)
  · rw [if_neg hshows]
    split_ifs
    · exact .rest hmode (by simp)
    · exact .rest hmode (by simp)
    · obtain ⟨hsame, heffect⟩ := proximity_settle_rests (s := s) t.weight_again
      exact .rest (hsame.trans hmode) heffect
    · exact .rest hmode (by simp)

private theorem proximity_use_step (hmode : s.mode = .PROXI_MODE_USE) :
    ProximityStep cfg s t (proximity_use cfg s t) := by
  unfold proximity_use
  by_cases hshows : t.shows_cat cfg
  · rw [if_pos hshows]
    exact .seen hshows hmode rfl (by simp)
  · rw [if_neg hshows]
    by_cases hcnt : s.cat_enter_cnt + 1 > 10
    · rw [if_pos hcnt]
      exact .escape hmode (by omega) rfl (by simp)
    · rw [if_neg hcnt]
      exact .unseen hmode (by omega) hmode rfl (by simp)

private theorem proximity_harden_step (hoperating : t.operating = false) (hmode : s.mode = .PROXI_MODE_HARDEN) :
    ProximityStep cfg s t (proximity_harden s) := by
  unfold proximity_harden
  by_cases hcnt : s.cat_enter_cnt + 1 > 20
  · rw [if_pos hcnt]
    exact .start hoperating hmode (by omega) rfl
  · rw [if_neg hcnt]
    exact .harden hmode (by omega) hmode rfl (by simp)

/-- Every turn of the task is one of the steps of the waiting. -/
theorem proximity_turn_step (cfg : ProximityConfig) (s : Proximity) (t : Tick) :
    ProximityStep cfg s t (proximity_turn cfg s t) := by
  unfold proximity_turn
  cases hoperating : t.operating with
  | true => exact .rest rfl (by simp)
  | false =>
    cases hmode : s.mode with
    | PROXI_MODE_IDLE => exact proximity_idle_step hmode
    | PROXI_MODE_USE => exact proximity_use_step hmode
    | PROXI_MODE_ESCAPE => exact .settle hmode rfl rfl (by simp)
    | PROXI_MODE_HARDEN => exact proximity_harden_step hoperating hmode

/-- The countdown of `proximity_task`: how long ago the last sample was that it took for
the cat, and which modes it has gone through since. -/
def Countdown (cfg : ProximityConfig) (ticks : Nat → Tick) (n : Nat) : Prop :=
  let mode (k : Nat) : ProxiMode := (proximityAt cfg ticks k).mode
  let cnt := (proximityAt cfg ticks n).cat_enter_cnt
  match mode n with
  | .PROXI_MODE_IDLE => True
  | .PROXI_MODE_USE => ∃ m, showsCat cfg ticks m ∧ n = m + 1 + cnt ∧ cnt ≤ 10
  | .PROXI_MODE_ESCAPE => ∃ m, showsCat cfg ticks m ∧ n = m + 12 ∧ mode (m + 11) = .PROXI_MODE_USE
  | .PROXI_MODE_HARDEN =>
    ∃ m, showsCat cfg ticks m ∧ n = m + 13 + cnt ∧ cnt ≤ 20 ∧ mode (m + 11) = .PROXI_MODE_USE ∧
      mode (m + 12) = .PROXI_MODE_ESCAPE ∧ ∀ j, m + 13 ≤ j → j ≤ n → mode j = .PROXI_MODE_HARDEN

private theorem countdown (cfg : ProximityConfig) (ticks : Nat → Tick) (n : Nat) : Countdown cfg ticks n := by
  induction n with
  | zero => exact trivial
  | succ n ih =>
    have hnext : proximityAt cfg ticks (n + 1) = (proximity_turn cfg (proximityAt cfg ticks n) (ticks n)).1 :=
      rfl
    unfold Countdown at ih ⊢
    simp only at ih ⊢
    cases proximity_turn_step cfg (proximityAt cfg ticks n) (ticks n) with
    | rest hmode => rw [hnext, hmode]; trivial
    | start _ _ _ hmode => rw [hnext, hmode]; trivial
    | seen hshows hmode hcnt =>
      rw [hnext, hmode, hcnt]
      exact ⟨n, hshows, by omega, by omega⟩
    | unseen hbefore hlt hmode hcnt =>
      rw [hbefore] at ih
      obtain ⟨m, hm, hn, hle⟩ := ih
      rw [hnext, hmode, hcnt]
      exact ⟨m, hm, by omega, by omega⟩
    | escape hbefore hge hmode =>
      rw [hbefore] at ih
      obtain ⟨m, hm, hn, hle⟩ := ih
      obtain rfl : n = m + 11 := by omega
      rw [hnext, hmode]
      exact ⟨m, hm, by omega, hbefore⟩
    | settle hbefore hmode hcnt =>
      rw [hbefore] at ih
      obtain ⟨m, hm, hn, huse⟩ := ih
      subst hn
      rw [hnext, hmode, hcnt]
      refine ⟨m, hm, by omega, by omega, huse, hbefore, ?_⟩
      intro j hlow hhigh
      obtain rfl : j = m + 12 + 1 := by omega
      exact hmode
    | harden hbefore hlt hmode hcnt =>
      rw [hbefore] at ih
      obtain ⟨m, hm, hn, hle, huse, hescape, hmodes⟩ := ih
      rw [hnext, hmode, hcnt]
      refine ⟨m, hm, by omega, by omega, huse, hescape, ?_⟩
      intro j hlow hhigh
      obtain hle | rfl : j ≤ n ∨ j = n + 1 := by omega
      · exact hmodes j hlow hle
      · exact hmode

/-- Only the last turn of PROXI_MODE_HARDEN starts a clean. -/
theorem proximity_turn_starts (h : .create_ui_clean_task ∈ (proximity_turn cfg s t).2) :
    s.mode = .PROXI_MODE_HARDEN ∧ 20 ≤ s.cat_enter_cnt := by
  cases proximity_turn_step cfg s t with
  | start _ hbefore hge => exact ⟨hbefore, hge⟩
  | rest _ heffect => exact absurd h heffect
  | seen _ _ _ heffect => exact absurd h heffect
  | unseen _ _ _ _ heffect => exact absurd h heffect
  | escape _ _ _ heffect => exact absurd h heffect
  | settle _ _ _ heffect => exact absurd h heffect
  | harden _ _ _ _ heffect => exact absurd h heffect

/-- A start by `proximity_task` comes exactly 33 turns after the last sample that it took
for the cat; the last 22 of them are those in which the start is pending. -/
theorem startsClean_countdown {ticks : Nat → Tick} {n : Nat} (h : startsClean cfg ticks n) :
    ∃ m, n = m + 33 ∧ showsCat cfg ticks m ∧ ∀ k, Pending (hardening cfg ticks) n k ↔ m + 12 ≤ k ∧ k ≤ n := by
  obtain ⟨hharden, hcnt⟩ := proximity_turn_starts h
  have hcount := countdown cfg ticks n
  unfold Countdown at hcount
  simp only [hharden] at hcount
  obtain ⟨m, hm, hn, hle, huse, hescape, hmodes⟩ := hcount
  refine ⟨m, by omega, hm, fun k => ?_⟩
  constructor
  · rintro ⟨hk, hpending⟩
    refine ⟨?_, hk⟩
    by_contra hearly
    obtain he | hh := hpending (m + 11) (by omega) (by omega)
    · cases huse.symm.trans he
    · cases huse.symm.trans hh
  · rintro ⟨hlow, hhigh⟩
    refine ⟨hhigh, fun j hj hjn => ?_⟩
    obtain rfl | hlater : j = m + 12 ∨ m + 13 ≤ j := by omega
    · exact .inl hescape
    · exact .inr (hmodes j hlater hjn)

/-- A start by `proximity_task` owes nothing more exactly when no wait is configured and no
sample of the last 22 turns, its ESCAPE and HARDEN turns, shows the cat. -/
theorem proximity_waited_iff {ticks : Nat → Tick} {n : Nat} (h : startsClean cfg ticks n) :
    Waited tickTime cfg.clumping_wait (hardening cfg ticks) (showsCat cfg ticks) n ↔
      cfg.CLUMPING_WAIT_MIN = 0 ∧ ∀ k, n < k + 22 → k ≤ n → ¬ showsCat cfg ticks k := by
  obtain ⟨m, rfl, hm, hpending⟩ := startsClean_countdown h
  constructor
  · rintro ⟨⟨e, he, hlength, hquiet⟩, huncancelled⟩
    constructor
    · -- the sample 33 turns ago bounds the quiet interval, and a minute is 120 turns
      have hme : m ≤ e := by
        by_contra hlater
        exact hquiet m (by omega) (by omega) hm
      unfold tickTime ProximityConfig.clumping_wait at hlength
      have hzero : cfg.CLUMPING_WAIT_MIN.toNat = 0 := by omega
      exact UInt32.toNat_inj.mp hzero
    · intro k hrecent hk
      exact huncancelled k ((hpending k).mpr ⟨by omega, hk⟩)
  · rintro ⟨hzero, hquiet⟩
    constructor
    · refine ⟨m + 33, Nat.le_refl _, ?_, ?_⟩
      · unfold ProximityConfig.clumping_wait
        rw [hzero]
        simp
      · intro k hafter hbefore
        omega
    · intro k hk
      obtain ⟨hlow, hhigh⟩ := (hpending k).mp hk
      exact hquiet k (by omega) hhigh

/-- The calls of the load-cell FSM in which its clean is pending. -/
def countingDown (calls : Nat → Call) (n : Nat) : Prop := (fsmAt calls n).g_cat_state = .CAT_STATE_WAIT_CLEAN

/-- The sample of the call number `n` shows the cat, whether the call is frozen or not. -/
def weighsCat (calls : Nat → Call) (n : Nat) : Prop := (fsmAt calls (n + 1)).entry (calls n).current_weight

/-- A start by the load-cell FSM owes nothing more exactly when no sample that a frozen call
skipped while it was pending shows the cat. -/
theorem fsm_waited_iff {calls : Nat → Call} {n : Nat} (hsent : sent calls n) :
    Waited (fun k => (calls k).now) 180000000 (countingDown calls) (weighsCat calls) n ↔
      ∀ k, Pending (countingDown calls) n k → (calls k).frozen = true → ¬ weighsCat calls k := by
  obtain ⟨e, he, hexit, helapsed, hwaiting, hquiet⟩ := sent_exit hsent
  -- the start is pending exactly since the last exit
  have hpending (k : Nat) : Pending (countingDown calls) n k ↔ e < k ∧ k ≤ n := by
    constructor
    · rintro ⟨hkn, hk⟩
      refine ⟨?_, hkn⟩
      by_contra hlater
      cases hexit.1.symm.trans (hk e (by omega) (by omega))
    · rintro ⟨hek, hkn⟩
      exact ⟨hkn, fun j hj hjn => hwaiting j (by omega) hjn⟩
  constructor
  · intro hwaited k hk _
    exact hwaited.uncancelled k hk
  · intro hskipped
    have hcat : ∀ k, e < k → k ≤ n → ¬ weighsCat calls k := by
      intro k hafter hbefore hweighs
      cases hfrozen : (calls k).frozen with
      | true => exact hskipped k ((hpending k).mpr ⟨hafter, hbefore⟩) hfrozen hweighs
      | false => exact hquiet k hafter hbefore ⟨hfrozen, hweighs⟩
    constructor
    · exact ⟨e, by omega, helapsed, hcat⟩
    · intro k hk
      obtain ⟨hafter, hbefore⟩ := (hpending k).mp hk
      exact hcat k hafter hbefore

/-- When the automatic starts keep the wait: a start by `proximity_task` exactly if no wait
is configured and no sample of its last 22 turns shows the cat, a start by the load-cell
FSM exactly if no sample shows the cat that a frozen call skipped since the exit. -/
theorem automatic_clean_waited_iff (cfg : ProximityConfig) (ticks : Nat → Tick) (calls : Nat → Call) :
    (∀ n, startsClean cfg ticks n →
      (Waited tickTime cfg.clumping_wait (hardening cfg ticks) (showsCat cfg ticks) n ↔
        cfg.CLUMPING_WAIT_MIN = 0 ∧ ∀ k, n < k + 22 → k ≤ n → ¬ showsCat cfg ticks k)) ∧
    ∀ n, sent calls n →
      (Waited (fun k => (calls k).now) 180000000 (countingDown calls) (weighsCat calls) n ↔
        ∀ k, Pending (countingDown calls) n k → (calls k).frozen = true → ¬ weighsCat calls k) := by
  constructor
  · intro n hstarts
    exact proximity_waited_iff hstarts
  · intro n hsent
    exact fsm_waited_iff hsent

/-- What `proximity_task` reads of the configuration the firmware ships with: through the layout of `main.h`,
whose members begin with `reset_reason`, it meets `WASTE_TYPE_RATIO_TH` and `m1_jam_current`. -/
def defaultConfig : ProximityConfig where
  CAT_ENTRY_MIN_WEIGHT := 20
  CLUMPING_WAIT_MIN := 495

/-- A cat of 1 kg stays for twelve turns and does not come back. -/
def shortVisit (n : Nat) : Tick where
  operating := false
  weight := if n < 12 then 1000 else 0
  weight_again := 0

theorem short_visit_waited_iff :
    (Waited tickTime defaultConfig.clumping_wait (hardening defaultConfig shortVisit)
      (showsCat defaultConfig shortVisit) 44 ↔
      defaultConfig.CLUMPING_WAIT_MIN = 0 ∧ ∀ k, 44 < k + 22 → k ≤ 44 →
      ¬ showsCat defaultConfig shortVisit k) ∧
    (Waited (fun k => (visit k).now) 180000000 (countingDown visit) (weighsCat visit) 32 ↔
      ∀ k, Pending (countingDown visit) 32 k → (visit k).frozen = true → ¬ weighsCat visit k) :=
  ⟨(automatic_clean_waited_iff defaultConfig shortVisit visit).1 44 (by decide +kernel),
    (automatic_clean_waited_iff defaultConfig shortVisit visit).2 32 (by decide +kernel)⟩

/-- With a wait of 495 minutes configured, `proximity_task` starts the clean 33 turns, or
16.5 s, after the last sample that shows the cat. -/
theorem proximity_cuts_wait_short :
    ¬ ∀ (cfg : ProximityConfig) (ticks : Nat → Tick) (n : Nat), startsClean cfg ticks n →
      Waited tickTime cfg.clumping_wait (hardening cfg ticks) (showsCat cfg ticks) n := by
  intro h
  have hstarts : startsClean defaultConfig shortVisit 44 := by decide +kernel
  obtain ⟨hzero, -⟩ := (proximity_waited_iff hstarts).mp (h defaultConfig shortVisit 44 hstarts)
  exact absurd hzero (by decide)

end catbox.ui
