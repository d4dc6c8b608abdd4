import CatLitterBox.Drive.SoftStart
import CatLitterBox.Drive.Spin
import CatLitterBox.Motor.Ownership

open catbox.motor catbox.sensor program program.Program

namespace catbox.drive

/-- A clean in progress with the driver of the spin motor. `stranded` is no variable of the firmware: it
records that the scenario's last clearing of `spin_mt_always_on` has found the driver enabled with the motor
at rest, and that no command to turn has been consumed since. -/
structure SpinClean where
  code : Code Int
  world : World
  motor : SpinMotor
  stranded : Bool

/-- What may happen during a clean: a step of it, its spin motor's task consumes a command, a period of the
motor's timer, or any change that other tasks make. They write neither `spin_mt_always_on` nor the
variables of the driver. -/
inductive SpinCleanMove where
  | clean
  | consume
  | pulse
  | others (w : World)

/-- The world that shows what the driver does. -/
def shown (motor : SpinMotor) (queue : List Message) (w : World) : World :=
  (Sense.driver .SCPSPIN_MOTOR queue motor.scpspin_motor_run motor.scpspin_motor_dir).apply w

/-- The driver enabled with the motor at rest. -/
def SpinMotor.idle (motor : SpinMotor) : Bool := motor.drv_en && !motor.scpspin_motor_run

section

variable (DEG_TO_STEPS : UInt32 → UInt32)

/-- The message is a command to turn. -/
def moves_spin (msg : DriveMessage) : Bool := (spin_steps DEG_TO_STEPS msg).isSome

def SpinClean.apply (s : SpinClean) : SpinCleanMove → SpinClean
  | .clean =>
    let w := (s.code.advance Act.perform s.world).2
    { code := (s.code.advance Act.perform s.world).1
      world := w
      motor := { s.motor with spin_mt_always_on := w.flag .spin_mt_always_on }
      stranded := if s.code.next = some (.write .spin_mt_always_on false) then s.motor.idle else s.stranded }
  | .consume =>
    match s.world.queue .SCPSPIN_MOTOR with
    | [] => s
    | msg :: queue =>
      let motor := spin_receive DEG_TO_STEPS s.motor (some (received msg))
      { s with
        world := shown motor queue s.world
        motor
        stranded := if moves_spin DEG_TO_STEPS (received msg) then false else s.stranded }
  | .pulse =>
    let motor := s.motor.apply DEG_TO_STEPS .timer
    { s with world := shown motor (s.world.queue .SCPSPIN_MOTOR) s.world, motor }
  | .others w =>
    { s with
      world := shown s.motor (w.queue .SCPSPIN_MOTOR)
        (w.setFlag .spin_mt_always_on (s.world.flag .spin_mt_always_on)) }

/-- `do_clean` begins in some state of the firmware and of the driver. -/
def spin_clean_start (w : World) (motor : SpinMotor) : SpinClean where
  code := do_clean
  world := shown motor (w.queue .SCPSPIN_MOTOR) w
  motor := { motor with spin_mt_always_on := w.flag .spin_mt_always_on }
  stranded := motor.idle

def spin_clean (w : World) (motor : SpinMotor) (moves : List SpinCleanMove) : SpinClean :=
  moves.foldl (SpinClean.apply DEG_TO_STEPS) (spin_clean_start w motor)

end

/-- The scenario has ended, all spin commands have been consumed, and the motor does not run. -/
structure Settled (s : SpinClean) : Prop where
  ended : s.code.result.isSome = true
  consumed : s.world.queue .SCPSPIN_MOTOR = []
  rest : s.motor.scpspin_motor_run = false

/-- The motor has kept its state, or it has come to rest and its driver is released unless it is to stay
enabled. -/
def Eases (motor after : SpinMotor) : Prop :=
  after.spin_mt_always_on = motor.spin_mt_always_on ∧
    (after.scpspin_motor_run = motor.scpspin_motor_run ∧ after.drv_en = motor.drv_en ∨
      motor.scpspin_motor_run = true ∧ after.scpspin_motor_run = false ∧
        after.drv_en = (motor.drv_en && motor.spin_mt_always_on))

/-- While the flag is clear, a motor at rest has its driver enabled only where it is stranded. -/
structure Tracked (motor : SpinMotor) (stranded : Bool) : Prop where
  running : motor.spin_mt_always_on = false → motor.scpspin_motor_run = true → stranded = false
  rest : motor.spin_mt_always_on = false → motor.scpspin_motor_run = false → motor.drv_en = stranded

variable {DEG_TO_STEPS : UInt32 → UInt32} {motor after : SpinMotor} {stranded : Bool}

/-- The end of a motion, by a STOP or by its last step. -/
theorem eases_halt (hrun : motor.scpspin_motor_run = true) (cnt steps : Nat) :
    Eases motor { motor.halt with scpspin_cnt := cnt, scpspin_steps := steps } :=
  ⟨rfl, .inr ⟨hrun, rfl, rfl⟩⟩

theorem eases_refl (motor : SpinMotor) : Eases motor motor := ⟨rfl, .inl ⟨rfl, rfl⟩⟩

theorem eases_timer (DEG_TO_STEPS : UInt32 → UInt32) (motor : SpinMotor) :
    Eases motor (motor.apply DEG_TO_STEPS .timer) := by
  have hcallback : Eases motor (mcpwm_timer_full_cb motor) := by
    unfold mcpwm_timer_full_cb
    simp only
    split_ifs with hrun
    · exact eases_halt hrun (motor.scpspin_cnt + 1) motor.scpspin_steps
    · exact ⟨rfl, .inl ⟨rfl, rfl⟩⟩
    · exact eases_refl motor
  unfold SpinMotor.apply
  split_ifs
  · exact hcallback
  · exact eases_refl motor

private theorem eases_stop (motor : SpinMotor) : Eases motor (scpspin_stop motor) := by
  unfold scpspin_stop
  cases hrun : motor.scpspin_motor_run with
  | true => exact eases_halt hrun 0 0
  | false => exact eases_refl motor

/-- A command to turn sets the motor in motion; no other command does. -/
theorem spin_receive_cases (DEG_TO_STEPS : UInt32 → UInt32) (motor : SpinMotor) (msg : DriveMessage) :
    (moves_spin DEG_TO_STEPS msg = true ∧
        (spin_receive DEG_TO_STEPS motor (some msg)).spin_mt_always_on = motor.spin_mt_always_on ∧
        (spin_receive DEG_TO_STEPS motor (some msg)).scpspin_motor_run = true) ∨
      (moves_spin DEG_TO_STEPS msg = false ∧ Eases motor (spin_receive DEG_TO_STEPS motor (some msg))) := by
  obtain ⟨cmd, angle, direction, timeout⟩ := msg
  unfold moves_spin spin_steps spin_receive
  cases cmd with
  | SCP_SPIN_CMD =>
    cases direction with
    | FORWARD => exact .inl ⟨rfl, rfl, rfl⟩
    | REVERSE => exact .inl ⟨rfl, rfl, rfl⟩
    | STOP => exact .inr ⟨rfl, eases_stop motor⟩
  | SCP_SPIN_STEP_CMD =>
    cases direction with
    | FORWARD => exact .inl ⟨rfl, rfl, rfl⟩
    | REVERSE => exact .inl ⟨rfl, rfl, rfl⟩
    | STOP => exact .inr ⟨rfl, eases_refl motor⟩
  | SCP_SPIN_SPEED_CMD =>
    right
    refine ⟨by cases direction <;> rfl, ?_⟩
    simp only
    split_ifs
    · exact ⟨rfl, .inl ⟨rfl, rfl⟩⟩
    · exact ⟨rfl, .inl ⟨rfl, rfl⟩⟩
  | _ => exact .inr ⟨by cases direction <;> rfl, eases_refl motor⟩

theorem Tracked.eases (h : Tracked motor stranded) (heases : Eases motor after) : Tracked after stranded := by
  obtain ⟨hflag, ⟨hrun, hen⟩ | ⟨hrun, hrest, hen⟩⟩ := heases
  · constructor
    · intro hclear hrunning
      exact h.running (hflag ▸ hclear) (hrun ▸ hrunning)
    · intro hclear hresting
      rw [hen]
      exact h.rest (hflag ▸ hclear) (hrun ▸ hresting)
  · constructor
    · intro _ hrunning
      rw [hrest] at hrunning
      cases hrunning
    · intro hclear _
      rw [hflag] at hclear
      rw [hen, hclear, Bool.and_false, h.running hclear hrun]

/-- A motor that has just been set in motion is not stranded. -/
theorem tracked_of_running (hrun : motor.scpspin_motor_run = true) : Tracked motor false where
  running _ _ := rfl
  rest _ hrest := by
    rw [hrun] at hrest
    cases hrest

/-- Where the flag is cleared, the motor is stranded if its driver is enabled at rest. -/
theorem tracked_idle (motor : SpinMotor) (flag : Bool) :
    Tracked { motor with spin_mt_always_on := flag } motor.idle where
  running _ hrun := by
    unfold SpinMotor.idle
    rw [show motor.scpspin_motor_run = true from hrun]
    exact Bool.and_false _
  rest _ hrest := by
    unfold SpinMotor.idle
    rw [show motor.scpspin_motor_run = false from hrest]
    exact (Bool.and_true _).symm

/-- The value of a flag along the steps of a program, where no one else writes it. -/
def flag_spec (f : Flag) : Spec Act Act.Answer Bool where
  allow _ _ := True
  trans a v _ v' := v' = if a = .write f true then true else if a = .write f false then false else v

variable {f : Flag} {α : Type}

theorem perform_flag_eq (f : Flag) (a : Act) (w : World) : (a.perform w).2.flag f =
    if a = .write f true then true else if a = .write f false then false else w.flag f := by
  split_ifs with hset hclear
  · rw [hset]
    exact w.setFlag_flag_self f true
  · rw [hclear]
    exact w.setFlag_flag_self f false
  · apply Act.perform_flag
    intro v
    cases v with
    | true => exact hset
    | false => exact hclear

theorem wp_flag_any {c : Code α} {v : Bool} {Q : α → Bool → Prop} (hQ : ∀ a v, Q a v) :
    c.wp (flag_spec f) Q v :=
  wp_mono (fun a v _ => hQ a v) (wp_of_every (I := fun _ => True) (every_true c) (fun _ _ _ _ => trivial)
    (fun _ _ _ _ _ _ _ => trivial) trivial)

/-- A part that does not set the flag leaves it clear. -/
theorem wp_flag_clear {c : Code α} {Q : α → Bool → Prop} (hc : c.Every (· ≠ .write f true))
    (hQ : ∀ a, Q a false) : c.wp (flag_spec f) Q false := by
  have hkeep : c.wp (flag_spec f) (fun _ v => v = false) false := by
    refine wp_of_every hc (fun _ _ _ _ => trivial) ?_ rfl
    rintro a v r v' ha rfl rfl
    rw [if_neg ha, ite_self]
  refine wp_mono ?_ hkeep
  rintro a v rfl
  exact hQ a

private theorem CHECK_TOF_PAUSE_unset : CHECK_TOF_PAUSE.Every (· ≠ .write .spin_mt_always_on true) := by
  refine CHECK_TOF_PAUSE_every_of_stop (calibrates_unset _).toObserves ?_ ?_ ?_ ?_
  · exact ⟨by simp, by simp, by simp, by simp, by simp⟩
  · simp
  · simp
  · simp

/-- The steps up to the closed scoop that do not end the clean clear the flag on their way. -/
theorem clean_scoop_in_clears {Q : Bool → Bool → Prop} {v : Bool} (hexit : ∀ v, Q true v)
    (hclear : Q false false) : clean_scoop_in.wp (flag_spec .spin_mt_always_on) Q v := by
  have hobserves := (calibrates_unset .spin_mt_always_on).toObserves
  refine wp_perform_bind trivial fun _ v _ => wp_perform_bind trivial fun _ v _ => ?_
  refine wp_seq (wp_flag_any fun ret v => wp_ite (fun _ => hexit v) fun _ => wp_perform_bind trivial ?_)
  rintro _ v' rfl
  refine wp_flag_clear ?_ fun exit => ?_
  · refine every_bind CHECK_TOF_PAUSE_unset fun obstacle => every_ite trivial ?_
    refine every_perform_bind (by simp) fun _ => every_perform_bind (by simp) fun _ => ?_
    refine checked_wait_every hobserves trivial (every_perform_bind (by simp) fun _ => ?_)
    refine every_perform_bind (by simp) fun _ => every_perform_bind (by simp) fun _ => ?_
    exact every_bind (wait_motor_operation_every hobserves) fun _ => trivial
  · cases exit with
    | true => exact hexit false
    | false => exact hclear

/-- A clean leaves the flag clear, however it ends. -/
theorem do_clean_clears (v : Bool) : do_clean.wp (flag_spec .spin_mt_always_on) (fun _ v => v = false) v := by
  let Goes (exit v : Bool) : Prop := exit = false → v = false
  have hsequence (v : Bool) : clean_sequence.wp (flag_spec .spin_mt_always_on) Goes v := by
    have hexit (v : Bool) : Goes true v := nofun
    refine wp_seq (wp_flag_any fun exit v => wp_ite (fun _ => hexit v) fun _ => ?_)
    refine wp_seq (wp_flag_any fun exit v => wp_ite (fun _ => hexit v) fun _ => ?_)
    refine wp_seq (wp_flag_any fun exit v => wp_ite (fun _ => hexit v) fun _ => ?_)
    refine wp_seq (clean_scoop_in_clears (fun v => wp_ite (fun _ => hexit v) nofun) (wp_ite nofun fun _ => ?_))
    exact wp_flag_clear (clean_close_cover_every (calibrates_unset _) (by simp)) fun _ _ => rfl
  refine wp_seq (wp_flag_any fun _ v => wp_seq (wp_mono ?_ (hsequence v)))
  intro exit v hgoes
  refine wp_ite (fun _ => wp_perform_bind trivial ?_) fun hexit => ?_
  · rintro _ v' rfl
    refine wp_perform_bind trivial fun mode v' hv' => ?_
    obtain rfl : v' = false := hv'
    exact wp_flag_clear (estop_exit_after_unset _ _) fun _ => rfl
  · obtain rfl := hgoes (Bool.eq_false_iff.mpr hexit)
    exact wp_flag_clear (by simp [clean_end]) fun _ => rfl

/-- What holds during a clean: it will leave the flag clear, the driver knows the flag, and a motor at rest
is tracked. -/
structure SpinClean.Ok (s : SpinClean) : Prop where
  code : s.code.wp (flag_spec .spin_mt_always_on) (fun _ v => v = false) (s.world.flag .spin_mt_always_on)
  flag : s.motor.spin_mt_always_on = s.world.flag .spin_mt_always_on
  tracked : Tracked s.motor s.stranded

theorem spin_clean_start_ok (w : World) (motor : SpinMotor) : (spin_clean_start w motor).Ok where
  code := do_clean_clears _
  flag := rfl
  tracked := tracked_idle motor _

variable {s : SpinClean}

/-- A step that does not clear the flag sets it or leaves it. -/
theorem advance_flag {code : Code Int} {w : World} (h : code.next ≠ some (.write f false)) :
    (code.advance Act.perform w).2.flag f = true ∨ (code.advance Act.perform w).2.flag f = w.flag f := by
  cases hnext : code.next with
  | none =>
    rw [advance_of_none hnext]
    exact .inr rfl
  | some a =>
    have hclear : a ≠ .write f false := fun ha => h (ha ▸ hnext)
    rw [advance_of_next hnext, perform_flag_eq, if_neg hclear]
    split_ifs
    · exact .inl rfl
    · exact .inr rfl

/-- A step of the clean tracks the motor when it clears the flag, and keeps track otherwise. -/
theorem SpinClean.Ok.clean (h : s.Ok) : (s.apply DEG_TO_STEPS .clean).Ok where
  code := by
    refine wp_advance h.code (fun a hnext => ?_) fun hnone => ?_
    · exact (congrArg (World.flag · .spin_mt_always_on) (advance_of_next hnext)).trans
        (perform_flag_eq _ a s.world)
    · exact congrArg (World.flag · .spin_mt_always_on) (advance_of_none hnone)
  flag := rfl
  tracked := by
    simp only [SpinClean.apply]
    by_cases hclear : s.code.next = some (.write .spin_mt_always_on false)
    · rw [if_pos hclear]
      exact tracked_idle s.motor _
    · rw [if_neg hclear]
      obtain hset | hkept := advance_flag (w := s.world) hclear
      · rw [hset]
        exact ⟨nofun, nofun⟩
      · rw [hkept, ← h.flag]
        exact h.tracked

/-- The message that the spin motor's task takes keeps what holds during a clean. -/
theorem SpinClean.Ok.consume (h : s.Ok) : (s.apply DEG_TO_STEPS .consume).Ok := by
  unfold SpinClean.apply
  cases s.world.queue .SCPSPIN_MOTOR with
  | nil => exact h
  | cons msg queue =>
    obtain ⟨hmoves, hflag, hrun⟩ | ⟨hmoves, heases⟩ :=
      spin_receive_cases DEG_TO_STEPS s.motor (received msg)
    · refine ⟨h.code, hflag.trans h.flag, ?_⟩
      simp only [hmoves, if_true]
      exact tracked_of_running hrun
    · refine ⟨h.code, heases.1.trans h.flag, ?_⟩
      simp only [hmoves, Bool.false_eq_true, if_false]
      exact h.tracked.eases heases

theorem SpinClean.Ok.pulse (h : s.Ok) : (s.apply DEG_TO_STEPS .pulse).Ok :=
  have heases := eases_timer DEG_TO_STEPS s.motor
  ⟨h.code, heases.1.trans h.flag, h.tracked.eases heases⟩

/-- So does what the other tasks do. -/
theorem SpinClean.Ok.others (h : s.Ok) (w : World) : (s.apply DEG_TO_STEPS (.others w)).Ok := by
  have hflag : (s.apply DEG_TO_STEPS (.others w)).world.flag .spin_mt_always_on =
    s.world.flag .spin_mt_always_on :=
    w.setFlag_flag_self .spin_mt_always_on (s.world.flag .spin_mt_always_on)
  constructor
  · rw [hflag]
    exact h.code
  · rw [hflag]
    exact h.flag
  · exact h.tracked

private theorem spin_clean_ok (DEG_TO_STEPS : UInt32 → UInt32) (w : World) (motor : SpinMotor)
    (moves : List SpinCleanMove) : (spin_clean DEG_TO_STEPS w motor moves).Ok := by
  refine List.foldlRecOn (motive := SpinClean.Ok) moves _ (spin_clean_start_ok w motor) ?_
  intro s hs move _
  cases move with
  | clean => exact hs.clean
  | consume => exact hs.consume
  | pulse => exact hs.pulse
  | others w => exact hs.others w

/-- Once a clean has settled, the driver of the spin motor is released exactly if it has not been left
stranded: found enabled at rest by the last clearing of `spin_mt_always_on`, with no command to turn
consumed since. -/
theorem spin_driver_released_iff (DEG_TO_STEPS : UInt32 → UInt32) (w : World) (motor : SpinMotor)
    (moves : List SpinCleanMove) (h : Settled (spin_clean DEG_TO_STEPS w motor moves)) :
    (spin_clean DEG_TO_STEPS w motor moves).motor.drv_en = false ↔
      (spin_clean DEG_TO_STEPS w motor moves).stranded = false := by
  have hok := spin_clean_ok DEG_TO_STEPS w motor moves
  obtain ⟨r, hr⟩ := Option.isSome_iff_exists.mp h.ended
  have hclear := hok.flag.trans (wp_result hok.code hr)
  rw [hok.tracked.rest hclear h.rest]

/-- The main cover is open, and an emergency stop has been requested. -/
def stopped_world : World := set_emergency_stop.finish Act.perform (.boot PT_BIT_MCOVER_OPEN)

/-- An emergency stop before the scoop has been turned. -/
def early_stop : List SpinCleanMove :=
  List.replicate 28 .clean ++ [.others stopped_world] ++ List.replicate 14 .clean ++ [.consume, .consume]

theorem spin_driver_released_after_early_stop :
    (spin_clean (· * 2) (.boot PT_BIT_MCOVER_OPEN) (.boot false) early_stop).motor.drv_en = false ↔
      (spin_clean (· * 2) (.boot PT_BIT_MCOVER_OPEN) (.boot false) early_stop).stranded = false :=
  spin_driver_released_iff (· * 2) (.boot PT_BIT_MCOVER_OPEN) (.boot false) early_stop ⟨rfl, rfl, rfl⟩

/-- The scoop is turning when an emergency stop is requested, and its STOP is consumed before the clean
looks at the request. -/
def stop_while_turning : List SpinCleanMove :=
  List.replicate 42 .clean ++ [.consume, .others stopped_world, .consume] ++
    List.replicate 13 .clean ++ [.consume]

/-- The clean clears the flag when the motor has already stopped, and its own STOP finds it so. -/
theorem stop_while_turning_strands :
    ¬ ∀ (DEG_TO_STEPS : UInt32 → UInt32) (w : World) (motor : SpinMotor) (moves : List SpinCleanMove),
      Settled (spin_clean DEG_TO_STEPS w motor moves) →
      (spin_clean DEG_TO_STEPS w motor moves).motor.drv_en = false := by
  intro hall
  have hreleased := hall (· * 2) (.boot PT_BIT_MCOVER_OPEN) (.boot false) stop_while_turning ⟨rfl, rfl, rfl⟩
  have henabled : (spin_clean (· * 2) (.boot PT_BIT_MCOVER_OPEN)
      (.boot false) stop_while_turning).motor.drv_en =
      true := rfl
  rw [henabled] at hreleased
  cases hreleased

end catbox.drive
