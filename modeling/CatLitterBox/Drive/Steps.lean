import CatLitterBox.Drive.Spin
import Mathlib.Algebra.Order.Ring.Nat

namespace catbox.drive.spin

/-- The variables of the scoop spin's driver that its steps go through, with the counters in 32 bits,
and its outputs. -/
structure SpinDriver where
  scpspin_cnt : UInt32
  scpspin_steps : UInt32
  scpspin_motor_dir : Bool
  scpspin_motor_run : Bool
  mcpwm_timer : Bool
  drv_en : Bool
  drv_dir : Bool
  spin_mt_always_on : Bool
deriving DecidableEq

/-- After `step_motor_init`. -/
def SpinDriver.boot (always_on : Bool) : SpinDriver := ⟨0, 0, false, false, false, false, true, always_on⟩

def mcpwm_timer_full_cb (d : SpinDriver) : SpinDriver :=
  if d.scpspin_motor_run then
    let d := { d with scpspin_cnt := d.scpspin_cnt + 1 }
    if d.scpspin_cnt ≥ d.scpspin_steps then
      { d with mcpwm_timer := false, drv_en := d.drv_en && d.spin_mt_always_on, scpspin_motor_run := false }
    else d
  else d

def scpspin_move (d : SpinDriver) (steps : UInt32) (direction : Bool) : SpinDriver :=
  { d with
    drv_dir := direction
    scpspin_cnt := 0
    scpspin_steps := steps
    scpspin_motor_run := true
    scpspin_motor_dir := direction
    drv_en := true
    mcpwm_timer := true }

def get_scpspin_remain_cnt (d : SpinDriver) : Int := (d.scpspin_steps - d.scpspin_cnt).toInt32.toInt

/-- Where the command task is in `scpspin_stop(immediate)`. -/
inductive StopPc where
  | idle
  | test (immediate : Bool)
  | stop_timer (immediate : Bool)
  | wait (timeout : Nat)
  | disable
  | clear_run
  | clear_cnt
  | clear_steps
deriving DecidableEq

/-- The driver and the command task, which the interrupt handler may come between at any statement. -/
structure Spinning where
  driver : SpinDriver
  pc : StopPc
deriving DecidableEq

/-- The next statement of `scpspin_stop`. A timer that is stopped may come to a full period once more:
MCPWM_TIMER_STOP_EMPTY lets it run to its next empty event. -/
def Spinning.stop_step (s : Spinning) : Spinning :=
  match s.pc with
  | .idle => s
  | .test immediate => { s with pc := if s.driver.scpspin_motor_run then .stop_timer immediate else .idle }
  | .stop_timer immediate =>
    { driver := { s.driver with mcpwm_timer := false }, pc := if immediate then .disable else .wait 0 }
  | .wait timeout =>
    { s with pc := if s.driver.scpspin_motor_run ∧ timeout < 10 then .wait (timeout + 1) else .disable }
  | .disable =>
    { driver := { s.driver with drv_en := s.driver.drv_en && s.driver.spin_mt_always_on }, pc := .clear_run }
  | .clear_run => { driver := { s.driver with scpspin_motor_run := false }, pc := .clear_cnt }
  | .clear_cnt => { driver := { s.driver with scpspin_cnt := 0 }, pc := .clear_steps }
  | .clear_steps => { driver := { s.driver with scpspin_steps := 0 }, pc := .idle }

/-- A timer-full interrupt, a call of `scpspin_stop`, and a statement of it. -/
inductive SpinMove where
  | timer_full
  | scpspin_stop (immediate : Bool)
  | task
deriving DecidableEq

def Spinning.apply (s : Spinning) : SpinMove → Spinning
  | .timer_full => { s with driver := mcpwm_timer_full_cb s.driver }
  | .scpspin_stop immediate => if s.pc = .idle then { s with pc := .test immediate } else s
  | .task => s.stop_step

def Spinning.run (s : Spinning) (moves : List SpinMove) : Spinning := moves.foldl Spinning.apply s

/-- The move is an interrupt that counts a step. -/
def Spinning.counts (s : Spinning) (m : SpinMove) : Bool := m = .timer_full && s.driver.scpspin_motor_run

/-- The steps that are counted along the moves. -/
def Spinning.counted (s : Spinning) : List SpinMove → Nat
  | [] => 0
  | m :: moves => (s.counts m).toNat + (s.apply m).counted moves

/-- `scpspin_move` by the command task, whatever the driver did before. -/
def Spinning.start (d : SpinDriver) (steps : UInt32) (direction : Bool) : Spinning :=
  ⟨scpspin_move d steps direction, .idle⟩

def SpinDriver.Stopped (d : SpinDriver) : Prop := d.scpspin_motor_run = false ∧ d.mcpwm_timer = false

/-- The steps of a move of `n` steps are counted as they should be. The move lasts until a stop clears
the run flag. -/
structure Spinning.Accounted (s : Spinning) (n : Nat) : Prop where
  complete : ∀ k, s.counted (List.replicate k .timer_full) = min k n ∧
    (n ≤ k → (s.run (List.replicate k .timer_full)).driver.Stopped)
  bounded : ∀ moves, (s.run moves).driver.scpspin_cnt ≤ (s.run moves).driver.scpspin_steps
  nonneg : ∀ moves, 0 ≤ get_scpspin_remain_cnt (s.run moves).driver
  remain : ∀ moves, (s.run moves).driver.scpspin_motor_run = true ∨ (∀ m ∈ moves, m = .timer_full) →
    get_scpspin_remain_cnt (s.run moves).driver = n - s.counted moves
  stopped : ∀ before immediate between after, (s.run before).pc = .idle →
    (s.run (before ++ .scpspin_stop immediate :: between)).pc = .idle →
    (s.run (before ++ .scpspin_stop immediate :: between)).counted after = 0

variable {d : SpinDriver} {s : Spinning} {m : SpinMove} {n : UInt32} {c : Nat}

theorem full_cb_stopped (h : d.scpspin_motor_run = false) : mcpwm_timer_full_cb d = d := by
  unfold mcpwm_timer_full_cb
  rw [h]
  rfl

/-- A step that is not the last one. -/
theorem full_cb_more (h : d.scpspin_motor_run = true) (hmore : ¬ d.scpspin_cnt + 1 ≥ d.scpspin_steps) :
    mcpwm_timer_full_cb d = { d with scpspin_cnt := d.scpspin_cnt + 1 } := by
  unfold mcpwm_timer_full_cb
  rw [if_pos h]
  exact if_neg hmore

/-- The last step stops the motor. -/
theorem full_cb_last (h : d.scpspin_motor_run = true) (hlast : d.scpspin_cnt + 1 ≥ d.scpspin_steps) :
    mcpwm_timer_full_cb d = { d with
      scpspin_cnt := d.scpspin_cnt + 1
      mcpwm_timer := false
      drv_en := d.drv_en && d.spin_mt_always_on
      scpspin_motor_run := false } := by
  unfold mcpwm_timer_full_cb
  rw [if_pos h]
  exact if_pos hlast

/-- The driver as the model without interruptions has it, with counters that do not wrap. -/
def SpinDriver.widen (d : SpinDriver) (new_spin_period : UInt32) : SpinMotor where
  scpspin_cnt := d.scpspin_cnt.toNat
  scpspin_steps := d.scpspin_steps.toNat
  scpspin_motor_dir := d.scpspin_motor_dir
  scpspin_motor_run := d.scpspin_motor_run
  new_spin_period := new_spin_period
  mcpwm_timer := d.mcpwm_timer
  drv_en := d.drv_en
  drv_dir := d.drv_dir
  spin_mt_always_on := d.spin_mt_always_on

theorem move_widen (d : SpinDriver) (steps period : UInt32) (direction : Bool) :
    (scpspin_move d steps direction).widen period = drive.scpspin_move (d.widen period) steps.toNat direction :=
    rfl

/-- The two models count alike up to the largest counter. -/
theorem full_cb_widen (period : UInt32) (hcnt : d.scpspin_cnt.toNat + 1 < 2 ^ 32) :
    (mcpwm_timer_full_cb d).widen period = drive.mcpwm_timer_full_cb (d.widen period) := by
  have hsucc : (d.scpspin_cnt + 1).toNat = d.scpspin_cnt.toNat + 1 := by
    rw [UInt32.toNat_add]
    exact Nat.mod_eq_of_lt hcnt
  have hlast : d.scpspin_cnt + 1 ≥ d.scpspin_steps ↔ d.scpspin_cnt.toNat + 1 ≥ d.scpspin_steps.toNat := by
    rw [ge_iff_le, UInt32.le_iff_toNat_le, hsucc]
  unfold drive.mcpwm_timer_full_cb SpinDriver.widen
  cases hrun : d.scpspin_motor_run with
  | false =>
    rw [full_cb_stopped hrun, hrun]
    rfl
  | true =>
    by_cases hend : d.scpspin_cnt + 1 ≥ d.scpspin_steps
    · rw [full_cb_last hrun hend]
      simp only [if_true, if_pos (hlast.mp hend), hsucc, SpinMotor.halt]
    · rw [full_cb_more hrun hend]
      simp only [if_true, if_neg (fun hle => hend (hlast.mpr hle)), hsucc, hrun]

/-- A stop that nothing interrupts is the one of the model without interruptions. -/
theorem stop_widen (d : SpinDriver) (period : UInt32) (immediate : Bool) :
    ((Spinning.mk d (.test immediate)).run (List.replicate 17 .task)).pc = .idle ∧
      ((Spinning.mk d (.test immediate)).run (List.replicate 17 .task)).driver.widen period =
        drive.scpspin_stop (d.widen period) := by
  cases hrun : d.scpspin_motor_run with
  | false =>
    simp [Spinning.run, Spinning.apply, Spinning.stop_step, List.replicate, hrun,
      SpinDriver.widen, drive.scpspin_stop]
  | true =>
    cases immediate with
    | _ =>
      simp [Spinning.run, Spinning.apply, Spinning.stop_step, List.replicate, hrun, SpinDriver.widen,
        drive.scpspin_stop, SpinMotor.halt]

/-- What a run does is what its parts do, one after the other. -/
theorem run_append (s : Spinning) (past rest : List SpinMove) : s.run (past ++ rest) = (s.run past).run rest :=
  List.foldl_append

theorem counted_append (s : Spinning) (past rest : List SpinMove) :
    s.counted (past ++ rest) = s.counted past + (s.run past).counted rest := by
  induction past generalizing s with
  | nil => exact (Nat.zero_add _).symm
  | cons m past ih =>
    change (s.counts m).toNat + (s.apply m).counted (past ++ rest) = _
    rw [ih, ← Nat.add_assoc]
    rfl

/-- The invariant of a move of `n` steps, `c` of which have been counted. -/
structure Spinning.Accounts (s : Spinning) (n : UInt32) (c : Nat) : Prop where
  moving : s.driver.scpspin_motor_run = true →
    s.driver.scpspin_cnt.toNat = c ∧ s.driver.scpspin_steps = n ∧ c < n.toNat
  bounded : s.driver.scpspin_cnt ≤ s.driver.scpspin_steps ∧ s.driver.scpspin_steps ≤ n
  cleared : s.pc = .clear_cnt ∨ s.pc = .clear_steps → s.driver.scpspin_motor_run = false
  zeroed : s.pc = .clear_steps → s.driver.scpspin_cnt = 0

theorem start_accounts (d : SpinDriver) (direction : Bool) (hn : 0 < n.toNat) :
    (Spinning.start d n direction).Accounts n 0 where
  moving _ := ⟨rfl, rfl, hn⟩
  bounded := ⟨UInt32.le_iff_toNat_le.mpr (Nat.zero_le _), UInt32.le_refl n⟩
  cleared := by simp [Spinning.start]
  zeroed := by simp [Spinning.start]

/-- The next count does not wrap. -/
theorem cnt_succ {cnt : UInt32} (hcnt : cnt.toNat = c) (hlt : c < n.toNat) : (cnt + 1).toNat = c + 1 := by
  have hsize := n.toNat_lt
  rw [UInt32.toNat_add, hcnt]
  exact Nat.mod_eq_of_lt (show c + 1 < 2 ^ 32 by omega)

private theorem timer_accounts (h : s.Accounts n c) :
    (s.apply .timer_full).Accounts n (c + (s.counts .timer_full).toNat) := by
  obtain ⟨hmoving, ⟨hcnt, hsteps⟩, hcleared, hzeroed⟩ := h
  cases hrun : s.driver.scpspin_motor_run with
  | false =>
    have hsame : s.apply .timer_full = s := by
      change { s with driver := mcpwm_timer_full_cb s.driver } = s
      rw [full_cb_stopped hrun]
    have hnone : s.counts .timer_full = false := by simp [Spinning.counts, hrun]
    rw [hsame, hnone]
    exact ⟨fun htrue => absurd htrue (by simp [hrun]), ⟨hcnt, hsteps⟩, hcleared, hzeroed⟩
  | true =>
    obtain ⟨hc, hn, hlt⟩ := hmoving hrun
    have hone : s.counts .timer_full = true := by simp [Spinning.counts, hrun]
    have hpc (hpc : s.pc = .clear_cnt ∨ s.pc = .clear_steps) : False := by
      rw [hcleared hpc] at hrun
      cases hrun
    have hsucc : (s.driver.scpspin_cnt + 1).toNat = c + 1 := cnt_succ hc hlt
    have hle : s.driver.scpspin_cnt + 1 ≤ n := by
      rw [UInt32.le_iff_toNat_le, hsucc]
      exact hlt
    rw [hone]
    by_cases hlast : s.driver.scpspin_cnt + 1 ≥ s.driver.scpspin_steps
    · have happly : s.apply .timer_full = { s with driver := _ } :=
        congrArg (Spinning.mk · s.pc) (full_cb_last hrun hlast)
      rw [happly]
      exact ⟨nofun, ⟨hn ▸ hle, hsteps⟩, fun _ => rfl, fun hclear => absurd (.inr hclear) hpc⟩
    · have happly : s.apply .timer_full = { s with driver := _ } :=
        congrArg (Spinning.mk · s.pc) (full_cb_more hrun hlast)
      have hmore : c + 1 < n.toNat := by
        rw [hn, ge_iff_le, UInt32.le_iff_toNat_le, hsucc] at hlast
        omega
      rw [happly]
      exact ⟨fun _ => ⟨hsucc, hn, hmore⟩, ⟨hn ▸ hle, hsteps⟩, fun hclear => absurd hclear hpc,
        fun hclear => absurd (.inr hclear) hpc⟩

private theorem stop_step_accounts (h : s.Accounts n c) : s.stop_step.Accounts n c := by
  obtain ⟨hmoving, hbounded, hcleared, hzeroed⟩ := h
  unfold Spinning.stop_step
  split
  case h_1 => exact ⟨hmoving, hbounded, hcleared, hzeroed⟩
  case h_2 => exact ⟨hmoving, hbounded, by split_ifs <;> simp, by split_ifs <;> simp⟩
  case h_3 => exact ⟨hmoving, hbounded, by split_ifs <;> simp, by split_ifs <;> simp⟩
  case h_4 => exact ⟨hmoving, hbounded, by split_ifs <;> simp, by split_ifs <;> simp⟩
  case h_5 => exact ⟨hmoving, hbounded, by simp, by simp⟩
  case h_6 => exact ⟨nofun, hbounded, fun _ => rfl, by simp⟩
  case h_7 hpc =>
    have hrun := hcleared (.inl hpc)
    refine ⟨fun htrue => absurd htrue (by simp [hrun]), ⟨?_, hbounded.2⟩, fun _ => hrun, fun _ => rfl⟩
    exact UInt32.le_iff_toNat_le.mpr (Nat.zero_le _)
  case h_8 hpc =>
    have hrun := hcleared (.inr hpc)
    refine ⟨fun htrue => absurd htrue (by simp [hrun]), ⟨?_, ?_⟩, by simp, by simp⟩
    · rw [hzeroed hpc]
      exact UInt32.le_refl 0
    · exact UInt32.le_iff_toNat_le.mpr (Nat.zero_le _)

private theorem apply_accounts (h : s.Accounts n c) (m : SpinMove) :
    (s.apply m).Accounts n (c + (s.counts m).toNat) := by
  cases m with
  | timer_full => exact timer_accounts h
  | scpspin_stop immediate =>
    obtain ⟨hmoving, hbounded, hcleared, hzeroed⟩ := h
    change (if s.pc = .idle then { s with pc := .test immediate } else s).Accounts n c
    split_ifs
    · exact ⟨hmoving, hbounded, by simp, by simp⟩
    · exact ⟨hmoving, hbounded, hcleared, hzeroed⟩
  | task => exact stop_step_accounts h

theorem run_accounts (h : s.Accounts n c) (moves : List SpinMove) :
    (s.run moves).Accounts n (c + s.counted moves) := by
  induction moves generalizing s c with
  | nil => exact h
  | cons m moves ih =>
    have hrest := ih (apply_accounts h m)
    rwa [Nat.add_assoc] at hrest

/-- What is left is read as it is where the target is an `int`. -/
theorem remain_eq (hle : d.scpspin_cnt ≤ d.scpspin_steps) (hsteps : d.scpspin_steps.toNat < 2 ^ 31) :
    get_scpspin_remain_cnt d = d.scpspin_steps.toNat - d.scpspin_cnt.toNat := by
  have hsub := UInt32.toNat_sub_of_le _ _ hle
  have hbound : 2 * (d.scpspin_steps - d.scpspin_cnt).toNat < 2 ^ 32 := by omega
  change (d.scpspin_steps - d.scpspin_cnt).toBitVec.toInt = _
  rw [BitVec.toInt_eq_toNat_of_lt hbound]
  change ((d.scpspin_steps - d.scpspin_cnt).toNat : Int) = _
  have hcnt := UInt32.le_iff_toNat_le.mp hle
  omega

/-- The driver after `k` interrupts and nothing else: it runs until the last step is counted, and keeps
its counters then. -/
structure SpinDriver.After (d : SpinDriver) (n : UInt32) (k : Nat) : Prop where
  steps : d.scpspin_steps = n
  cnt : d.scpspin_cnt.toNat = min k n.toNat
  run_iff : d.scpspin_motor_run = true ↔ k < n.toNat
  timer : n.toNat ≤ k → d.mcpwm_timer = false

/-- One more interrupt, one more step counted. -/
theorem after_succ {k : Nat} (h : d.After n k) : (mcpwm_timer_full_cb d).After n (k + 1) := by
  obtain ⟨hsteps, hcnt, hrun, htimer⟩ := h
  by_cases hlt : k < n.toNat
  · have hcntk : d.scpspin_cnt.toNat = k := by omega
    have hsucc : (d.scpspin_cnt + 1).toNat = k + 1 := cnt_succ hcntk hlt
    by_cases hlast : d.scpspin_cnt + 1 ≥ d.scpspin_steps
    · have hend : n.toNat ≤ k + 1 := by
        rw [hsteps, ge_iff_le, UInt32.le_iff_toNat_le, hsucc] at hlast
        exact hlast
      rw [full_cb_last (hrun.mpr hlt) hlast]
      exact ⟨hsteps, by rw [hsucc]; omega, iff_of_false nofun (by omega), fun _ => rfl⟩
    · have hmore : k + 1 < n.toNat := by
        rw [hsteps, ge_iff_le, UInt32.le_iff_toNat_le, hsucc] at hlast
        omega
      rw [full_cb_more (hrun.mpr hlt) hlast]
      exact ⟨hsteps, by rw [hsucc]; omega, iff_of_true (hrun.mpr hlt) hmore, fun hle => by omega⟩
  · have hstopped : d.scpspin_motor_run = false := eq_false_of_ne_true fun htrue => hlt (hrun.mp htrue)
    rw [full_cb_stopped hstopped]
    exact ⟨hsteps, by omega, iff_of_false (by simp [hstopped]) (by omega), fun _ => htimer (by omega)⟩

/-- While steps are left the timer counts them, one by one. -/
theorem timer_run (d : SpinDriver) (direction : Bool) (hn : 0 < n.toNat) (k : Nat) :
    ((Spinning.start d n direction).run (List.replicate k .timer_full)).driver.After n k := by
  induction k with
  | zero => exact ⟨rfl, (Nat.zero_min _).symm, iff_of_true rfl hn, fun hle => by omega⟩
  | succ k ih =>
    rw [List.replicate_succ', run_append]
    exact after_succ ih

/-- After so many interrupts that many steps have been counted, but no more than asked for. -/
theorem counted_replicate (d : SpinDriver) (direction : Bool) (hn : 0 < n.toNat) (k : Nat) :
    (Spinning.start d n direction).counted (List.replicate k .timer_full) = min k n.toNat := by
  induction k with
  | zero => exact (Nat.zero_min _).symm
  | succ k ih =>
    have hrun := (timer_run d direction hn k).run_iff
    rw [List.replicate_succ', counted_append, ih]
    by_cases hlt : k < n.toNat
    · have hone :
          ((Spinning.start d n direction).run (List.replicate k .timer_full)).counts .timer_full = true := by
        simp [Spinning.counts, hrun.mpr hlt]
      simp only [Spinning.counted, hone, Bool.toNat_true]
      omega
    · have hstopped := eq_false_of_ne_true fun htrue => hlt (hrun.mp htrue)
      have hnone :
          ((Spinning.start d n direction).run (List.replicate k .timer_full)).counts .timer_full = false := by
        simp [Spinning.counts, hstopped]
      simp only [Spinning.counted, hnone, Bool.toNat_false]
      omega

/-- A driver that does not run counts nothing, and is not started by interrupts and stops. -/
theorem counted_stopped (h : s.driver.scpspin_motor_run = false) (moves : List SpinMove) :
    s.counted moves = 0 := by
  induction moves generalizing s with
  | nil => rfl
  | cons m moves ih =>
    have hnone : s.counts m = false := by simp [Spinning.counts, h]
    have hnext : (s.apply m).driver.scpspin_motor_run = false := by
      cases m with
      | timer_full =>
        change (mcpwm_timer_full_cb s.driver).scpspin_motor_run = false
        rw [full_cb_stopped h]
        exact h
      | scpspin_stop immediate =>
        change (if s.pc = .idle then { s with pc := .test immediate } else s).driver.scpspin_motor_run = false
        split_ifs <;> exact h
      | task =>
        change s.stop_step.driver.scpspin_motor_run = false
        unfold Spinning.stop_step
        split <;> first | exact h | rfl
    change (s.counts m).toNat + _ = 0
    rw [hnone, ih hnext]
    rfl

/-- Between its call and its return, a stop comes to a driver that does not run. -/
structure Spinning.Stopping (s : Spinning) : Prop where
  returned : s.pc = .idle → s.driver.scpspin_motor_run = false
  cleared : s.pc = .clear_cnt ∨ s.pc = .clear_steps → s.driver.scpspin_motor_run = false

private theorem apply_stopping (h : s.Stopping) (m : SpinMove) : (s.apply m).Stopping := by
  obtain ⟨hreturned, hcleared⟩ := h
  cases m with
  | timer_full =>
    have hkeep (hrun : s.driver.scpspin_motor_run = false) :
        (mcpwm_timer_full_cb s.driver).scpspin_motor_run = false := by
      rw [full_cb_stopped hrun]
      exact hrun
    exact ⟨fun hpc => hkeep (hreturned hpc), fun hpc => hkeep (hcleared hpc)⟩
  | scpspin_stop immediate =>
    change (if s.pc = .idle then { s with pc := .test immediate } else s).Stopping
    split_ifs
    · exact ⟨nofun, by simp⟩
    · exact ⟨hreturned, hcleared⟩
  | task =>
    change s.stop_step.Stopping
    unfold Spinning.stop_step
    split
    case h_1 => exact ⟨hreturned, hcleared⟩
    case h_2 =>
      split_ifs with hrun
      · exact ⟨nofun, by simp⟩
      · exact ⟨fun _ => eq_false_of_ne_true hrun, by simp⟩
    case h_3 => exact ⟨by split_ifs <;> simp, by split_ifs <;> simp⟩
    case h_4 => exact ⟨by split_ifs <;> simp, by split_ifs <;> simp⟩
    case h_5 => exact ⟨nofun, by simp⟩
    case h_6 => exact ⟨nofun, fun _ => rfl⟩
    case h_7 hpc => exact ⟨nofun, fun _ => hcleared (.inl hpc)⟩
    case h_8 hpc => exact ⟨fun _ => hcleared (.inr hpc), by simp⟩

private theorem run_stopping (h : s.Stopping) (moves : List SpinMove) : (s.run moves).Stopping := by
  induction moves generalizing s with
  | nil => exact h
  | cons m moves ih => exact ih (apply_stopping h m)

/-- Once a stop has returned, no step is counted. -/
theorem counted_after_stop (s : Spinning) {before between after : List SpinMove} {immediate : Bool}
    (hcall : (s.run before).pc = .idle)
    (hreturn : (s.run (before ++ .scpspin_stop immediate :: between)).pc = .idle) :
    (s.run (before ++ .scpspin_stop immediate :: between)).counted after = 0 := by
  have hcalled : (s.run before).apply (.scpspin_stop immediate) =
      { s.run before with pc := .test immediate } := if_pos hcall
  have hstopping : ((s.run before).apply (.scpspin_stop immediate)).Stopping := by
    rw [hcalled]
    exact ⟨nofun, by simp⟩
  have hrun : s.run (before ++ .scpspin_stop immediate :: between) =
      ((s.run before).apply (.scpspin_stop immediate)).run between := run_append ..
  rw [hrun] at hreturn ⊢
  exact counted_stopped ((run_stopping hstopping between).returned hreturn) after

/-- The counter is compared after its increment, so that a move of no steps makes one. -/
theorem not_accounted_zero (d : SpinDriver) (direction : Bool) :
    ¬ (Spinning.start d 0 direction).Accounted 0 := by
  intro h
  have hcounted := (h.complete 1).1
  have hone : (Spinning.start d 0 direction).counted [.timer_full] = 1 := rfl
  rw [List.replicate_one, hone] at hcounted
  cases hcounted

/-- Before the first interrupt all steps remain, as an `int`. -/
theorem Spinning.Accounted.fits {d : SpinDriver} {n : UInt32} {direction : Bool}
    (h : (Spinning.start d n direction).Accounted n.toNat) : n.toNat < 2 ^ 31 := by
  have hremain : get_scpspin_remain_cnt (Spinning.start d n direction).driver = n.toNat - 0 :=
    h.remain [] (.inl rfl)
  have hint : get_scpspin_remain_cnt (Spinning.start d n direction).driver < 2 ^ 31 := Int32.toInt_lt _
  omega

/-- A move of some steps, whose number an `int` holds, is accounted for. -/
theorem start_accounted (d : SpinDriver) {n : UInt32} (direction : Bool) (hpos : 0 < n.toNat)
    (hint : n.toNat < 2 ^ 31) : (Spinning.start d n direction).Accounted n.toNat := by
  have haccounts (moves : List SpinMove) := run_accounts (start_accounts d direction hpos) moves
  have hbound (moves : List SpinMove) :
      ((Spinning.start d n direction).run moves).driver.scpspin_steps.toNat < 2 ^ 31 := by
    have hle := UInt32.le_iff_toNat_le.mp (haccounts moves).bounded.2
    omega
  have hremain (moves : List SpinMove) := remain_eq (haccounts moves).bounded.1 (hbound moves)
  constructor
  · intro k
    refine ⟨counted_replicate d direction hpos k, fun hle => ?_⟩
    have hafter := timer_run d direction hpos k
    refine ⟨eq_false_of_ne_true fun htrue => ?_, hafter.timer hle⟩
    have hlt := hafter.run_iff.mp htrue
    omega
  · exact fun moves => (haccounts moves).bounded.1
  · intro moves
    have hle := UInt32.le_iff_toNat_le.mp (haccounts moves).bounded.1
    rw [hremain]
    omega
  · rintro moves (hrun | hall)
    · obtain ⟨hcnt, hsteps, -⟩ := (haccounts moves).moving hrun
      rw [hremain, hcnt, hsteps, Nat.zero_add]
    · have hmoves : moves = List.replicate moves.length .timer_full := List.eq_replicate_of_mem hall
      have hafter := timer_run d direction hpos moves.length
      have hcounted := counted_replicate d direction hpos moves.length
      rw [← hmoves] at hafter hcounted
      rw [hremain, hafter.steps, hafter.cnt, hcounted]
  · intro before immediate between after hcall hreturn
    exact counted_after_stop _ hcall hreturn

/-- The steps of a move are counted as they should be exactly if there are some, and an `int` holds
their number. -/
theorem spin_accounted_iff (d : SpinDriver) (n : UInt32) (direction : Bool) :
    (Spinning.start d n direction).Accounted n.toNat ↔ 0 < n.toNat ∧ n.toNat < 2 ^ 31 := by
  constructor
  · intro h
    refine ⟨?_, h.fits⟩
    by_contra hzero
    obtain rfl : n = 0 := UInt32.toNat_inj.mp (show n.toNat = 0 by omega)
    exact not_accounted_zero d direction h
  · rintro ⟨hpos, hint⟩
    exact start_accounted d direction hpos hint

/-- A move of no steps, as `do_clean` asks for by the angle 0, makes one, and minus one is left. -/
theorem zero_steps_counted :
    ¬ ∀ (d : SpinDriver) (n : UInt32) (direction : Bool), (Spinning.start d n direction).Accounted n.toNat := by
  intro h
  exact not_accounted_zero (.boot false) true (h (.boot false) 0 true)

end catbox.drive.spin
