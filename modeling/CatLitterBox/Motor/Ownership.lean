import CatLitterBox.Motor.Frame.Clean
import CatLitterBox.Motor.Manage
import CatLitterBox.Program.Reaches

open catbox.sensor program program.Program

namespace catbox.motor

/-- The flags of the clean, its pause and its resume. -/
def Flag.of_clean : Flag → Bool
  | .clean_running_flag | .clean_pause_flag | .clean_resume_recovery_requested => true
  | .emergency_stop_flag | .spin_mt_always_on => false

/-- The program will still clear the flag, on every path to its end. -/
def WillClear (f : Flag) (c : Code Int) : Prop := c.Reaches (· = .write f false) fun _ => True

/-- After `clean_running_flag` has been cleared: the two other flags are cleared too, and
no clean begins any more. -/
structure Closing (c : Code Int) : Prop where
  pause : WillClear .clean_pause_flag c
  resume : WillClear .clean_resume_recovery_requested c
  ended : c.Every (· ≠ .write .clean_running_flag true)

/-- The program is before the end of a clean. -/
def Open (c : Code Int) : Prop := c.Reaches (· = .write .clean_running_flag false) Closing

/-- How a clean or a recovery treats the flags: unless it is past its end it will still
clear what it sets, and it never requests a recovery. -/
structure Cleaning (c : Code Int) : Prop where
  running : Open c ∨ c.Every (· ≠ .write .clean_running_flag true)
  pause : c.Reaches (· = .write .clean_pause_flag false) (·.Every (· ≠ .write .clean_pause_flag true)) ∨
    c.Every (· ≠ .write .clean_pause_flag true)
  resume : c.Every (· ≠ .write .clean_resume_recovery_requested true)

variable {f : Flag} {c : Code Int}

/-- A clean treats the flags after each step as it should from there on. -/
theorem Cleaning.advance {w : World} (h : Cleaning c) : Cleaning (c.advance Act.perform w).1 where
  running := reaches_or_every_advance (fun _ hk => hk.ended) h.running
  pause := reaches_or_every_advance (fun _ hk => hk) h.pause
  resume := every_advance h.resume

/-- Before the end of a clean all three flags will still be cleared. -/
theorem Open.will_clear (h : Open c) (hf : f.of_clean = true) : WillClear f c := by
  cases f with
  | clean_running_flag => exact reaches_mono (fun _ _ => trivial) h
  | clean_pause_flag => exact reaches_through h fun _ hk => hk.pause
  | clean_resume_recovery_requested => exact reaches_through h fun _ hk => hk.resume
  | _ => cases hf

/-- No calibration sets a flag. -/
theorem calibrates_unset (f : Flag) : Calibrates (· ≠ .write f true) where
  read := by simp
  pt := by simp
  run := by simp
  time := by simp
  delay := by simp
  spin := by simp
  scoop := by simp
  clear := by simp

theorem cleans_unset (hpause : f ≠ .clean_pause_flag) (halways : f ≠ .spin_mt_always_on) :
    Cleans (· ≠ .write f true) where
  toCalibrates := calibrates_unset f
  cover := by simp
  scoopOut := by simp
  waste := by simp
  plate := by simp
  led := by simp
  always v := by simp [halways.symm]
  pause := by simp [hpause.symm]
  enable := by simp
  reset := by simp
  count := by simp
  pass := by simp
  distance := by simp

theorem recovery_close_waste_unset (f : Flag) : recovery_close_waste.Every (· ≠ .write f true) := by
  refine every_perform_bind (by simp) fun pt => every_ite trivial ?_
  refine every_perform_bind (by simp) fun _ => every_perform_bind (by simp) fun _ => ?_
  exact checked_wait_every (calibrates_unset f).toObserves trivial (by simp)

private theorem recovery_scoop_in_unset (f : Flag) : recovery_scoop_in.Every (· ≠ .write f true) := by
  refine every_perform_bind (by simp) fun pt => every_ite trivial ?_
  refine every_perform_bind (by simp) fun _ => every_perform_bind (by simp) fun _ => ?_
  exact checked_wait_every (calibrates_unset f).toObserves trivial (by simp)

private theorem recovery_close_cover_unset (f : Flag) : recovery_close_cover.Every (· ≠ .write f true) := by
  refine every_perform_bind (by simp) fun pt => every_ite trivial ?_
  refine every_bind (drive_main_cover_soft_every (calibrates_unset f).toSamples (by simp)) fun _ => ?_
  refine every_perform_bind (by simp) fun _ => ?_
  exact checked_wait_every (calibrates_unset f).toObserves trivial (by simp)

/-- The recovery sets no flag. -/
theorem do_clean_resume_recovery_unset (f : Flag) : do_clean_resume_recovery.Every (· ≠ .write f true) := by
  have habort : (recovery_abort >>= fun r => pure r : Code Int).Every (· ≠ .write f true) := by
    simp [recovery_abort]
  have hcalibrate : recovery_calibrate.Every (· ≠ .write f true) := by
    refine every_bind (motor_calibration_recovery_every (calibrates_unset f)) fun ret => every_ite trivial ?_
    simp
  refine every_perform_bind (by simp) fun _ => every_perform_bind (by simp) fun _ => ?_
  refine every_bind (recovery_close_waste_unset f) fun exit => every_ite habort ?_
  refine every_bind hcalibrate fun exit => every_ite habort ?_
  refine every_bind (recovery_scoop_in_unset f) fun exit => every_ite habort ?_
  refine every_bind (recovery_close_cover_unset f) fun exit => every_ite habort ?_
  simp [recovery_reset]

/-- A recovery sets none of the flags. -/
theorem do_clean_resume_recovery_cleaning : Cleaning do_clean_resume_recovery where
  running := .inr (do_clean_resume_recovery_unset _)
  pause := .inr (do_clean_resume_recovery_unset _)
  resume := do_clean_resume_recovery_unset _

/-- Neither does the common exit. -/
theorem estop_exit_after_unset (f : Flag) (is_recovery_mode : Bool) :
    (estop_exit_after is_recovery_mode).Every (· ≠ .write f true) := by
  unfold estop_exit_after
  simp only [write, Act.code, perform, bind_eq, act_bind, ret_bind, every_act]
  cases is_recovery_mode with
  | true => simp [do_clean_resume_recovery_unset]
  | false => simp

theorem estop_exit_unset (f : Flag) : estop_exit.Every (· ≠ .write f true) := by
  refine every_perform_bind (by simp) fun _ => every_perform_bind (by simp) fun mode => ?_
  exact estop_exit_after_unset f mode

theorem clean_end_unset (f : Flag) : clean_end.Every (· ≠ .write f true) := by simp [clean_end]

/-- The label `estop_exit` clears the three flags, `clean_running_flag` first. -/
theorem estop_exit_open : Open estop_exit := by
  refine reaches_act fun _ => reaches_act fun mode => reaches_here rfl fun _ => ?_
  have hended := estop_exit_after_unset .clean_running_flag mode
  exact {
    pause := reaches_here rfl fun _ => trivial
    resume := reaches_act fun _ => reaches_here rfl fun _ => trivial
    ended := hended.2 () }

private theorem clean_end_open : Open clean_end := by
  refine reaches_act fun _ => reaches_act fun _ => reaches_here rfl fun _ => ?_
  have hended := clean_end_unset .clean_running_flag
  exact {
    pause := reaches_here rfl fun _ => trivial
    resume := reaches_act fun _ => reaches_here rfl fun _ => trivial
    ended := (hended.2 ()).2 () |>.2 () }

/-- A clean clears what it sets, and requests no recovery. -/
theorem do_clean_cleaning : Cleaning do_clean where
  running := by
    refine .inl (reaches_bind fun _ => reaches_bind fun exit => reaches_ite ?_ ?_)
    · exact estop_exit_open
    · exact clean_end_open
  pause := by
    refine .inl (reaches_bind fun _ => reaches_bind fun exit => reaches_ite ?_ ?_)
    · refine reaches_act fun _ => reaches_act fun mode => reaches_act fun _ => reaches_here rfl fun _ => ?_
      exact ((estop_exit_after_unset _ mode).2 ()).2 ()
    · refine reaches_act fun _ => reaches_act fun _ => reaches_act fun _ => reaches_here rfl fun _ => ?_
      exact (((clean_end_unset _).2 ()).2 () |>.2 ()).2 ()
  resume := by
    refine every_bind (by simp [clean_begin, clear_emergency_stop]) fun _ => ?_
    refine every_bind (clean_sequence_every (cleans_unset nofun nofun) (by simp)) fun exit => every_ite ?_ ?_
    · exact estop_exit_unset _
    · exact clean_end_unset _

/-- The start of the manage mode sets no flag. -/
theorem do_manage_start_unset (f : Flag) : do_manage_start.Every (· ≠ .write f true) := by
  have hexit : (manage_exit >>= fun r => pure r : Code Int).Every (· ≠ .write f true) := by simp [manage_exit]
  have hobserves : Observes (· ≠ .write f true) := (calibrates_unset f).toObserves
  refine every_perform_bind (by simp) fun _ => every_perform_bind (by simp) fun _ => ?_
  refine every_bind (drive_main_cover_soft_every (calibrates_unset f).toSamples (by simp)) fun _ => ?_
  refine every_perform_bind (by simp) fun _ => checked_wait_every hobserves hexit ?_
  refine every_perform_bind (by simp) fun _ => every_perform_bind (by simp) fun _ => ?_
  refine every_perform_bind (by simp) fun _ => checked_wait_every hobserves hexit ?_
  simp

/-- Neither does its finish. -/
theorem do_manage_finish_unset (f : Flag) : do_manage_finish.Every (· ≠ .write f true) := by
  have hexit : (manage_exit >>= fun r => pure r : Code Int).Every (· ≠ .write f true) := by simp [manage_exit]
  have hobserves : Observes (· ≠ .write f true) := (calibrates_unset f).toObserves
  refine every_perform_bind (by simp) fun _ => every_perform_bind (by simp) fun _ => ?_
  refine every_perform_bind (by simp) fun _ => checked_wait_every hobserves hexit ?_
  refine every_perform_bind (by simp) fun _ => ?_
  refine every_bind (drive_main_cover_soft_every (calibrates_unset f).toSamples (by simp)) fun _ => ?_
  refine every_perform_bind (by simp) fun _ => checked_wait_every hobserves hexit ?_
  simp

/-- What a step of a program does to a flag. -/
theorem advance_flag {α : Type} {code : Code α} {w : World} {f : Flag}
    (h : (code.advance Act.perform w).2.flag f = true) :
    code.next = some (.write f true) ∨ w.flag f = true ∧ ∀ a, code.next = some a → a ≠ .write f false := by
  cases hnext : code.next with
  | none =>
    rw [advance_of_none hnext] at h
    exact .inr ⟨h, nofun⟩
  | some a =>
    rw [advance_of_next hnext] at h
    by_cases hwrite : ∃ v, a = .write f v
    · obtain ⟨v, rfl⟩ := hwrite
      have hv : v = true := by simpa [Act.perform] using h
      exact .inl (by rw [hv])
    · have hsame : (a.perform w).2.flag f = w.flag f := Act.perform_flag fun v hv => hwrite ⟨v, hv⟩
      rw [hsame] at h
      refine .inr ⟨h, ?_⟩
      rintro b ⟨⟩ hb
      exact hwrite ⟨false, hb⟩

theorem ne_of_next {code : Code Int} {f : Flag} (hnext : code.next = some (.write f true)) (a : Act)
    (ha : code.next = some a) : a ≠ .write f false := by
  rw [hnext] at ha
  obtain rfl := Option.some.inj ha
  simp

/-- A clean that begins is before its end. -/
theorem Cleaning.begins {code : Code Int} {w : World} (h : Cleaning code)
    (hnext : code.next = some (.write .clean_running_flag true)) : Open (code.advance Act.perform w).1 := by
  obtain hopen | hevery := h.running
  · exact reaches_advance hopen (ne_of_next hnext)
  · exact absurd rfl (every_next hevery hnext)

/-- A clean or a recovery that sets a flag will still clear it. -/
theorem Cleaning.sets {code : Code Int} {w : World} {f : Flag} (h : Cleaning code) (hf : f.of_clean = true)
    (hnext : code.next = some (.write f true)) : WillClear f (code.advance Act.perform w).1 := by
  cases f with
  | clean_running_flag => exact (h.begins hnext).will_clear rfl
  | clean_pause_flag =>
    obtain hreaches | hevery := h.pause
    · exact reaches_mono (fun _ _ => trivial) (reaches_advance hreaches (ne_of_next hnext))
    · exact absurd rfl (every_next hevery hnext)
  | clean_resume_recovery_requested => exact absurd rfl (every_next h.resume hnext)
  | emergency_stop_flag => cases hf
  | spin_mt_always_on => cases hf

end catbox.motor
