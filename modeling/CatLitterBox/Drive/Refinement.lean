import CatLitterBox.Drive.Addressed
import CatLitterBox.Motor.Origin

open catbox.motor catbox.sensor program program.Program temporal

namespace catbox.drive

/-- The position bits of a motor change only while its outputs drive it, a motor leaves its closed end only
while it is driven open, and the other tasks send the motors STOP and nothing else. -/
def Happening.physical (m : Machine) : Happening → Prop
  | .command mt msg => msg.direction = .STOP ∧ msg.cmd = motor_cmd mt
  | .word value =>
    (∀ mt, m.driving mt = none → value &&& mt.position_bits = m.pt_value &&& mt.position_bits) ∧
      ∀ mt, m.pt_value.has mt.close_bit = true → m.driving mt ≠ some true → value.has mt.close_bit = true
  | _ => True

instance (m : Machine) : (e : Happening) → Decidable (e.physical m)
  | .command mt msg => inferInstanceAs (Decidable (msg.direction = .STOP ∧ msg.cmd = motor_cmd mt))
  | .word value => inferInstanceAs (Decidable ((∀ mt : Motor, m.driving mt = none →
      value &&& mt.position_bits = m.pt_value &&& mt.position_bits) ∧
      ∀ mt : Motor, m.pt_value.has mt.close_bit = true → m.driving mt ≠ some true →
      value.has mt.close_bit = true))
  | .task _ | .timer _ | .flag _ _ | .tof _ | .clock _ => .isTrue trivial

/-- What every run keeps. -/
structure Machine.Sound (m : Machine) : Prop where
  consistent : m.Consistent
  addressed : m.Addressed

variable {m : Machine} {mt : Motor} {DEG_TO_STEPS : UInt32 → UInt32}

/-- The machine starts in a sound state, whatever its sensors show. -/
theorem boot_sound (word : PtWord) : (Machine.boot word).Sound where
  consistent :=
    { plate := boot_consistent, main_cover := boot_consistent, scpinout := boot_consistent
      waste := waste_boot_consistent, spin := spin_boot_consistent false, spin_dir := nofun }
  addressed _ _ hmsg := absurd hmsg List.not_mem_nil

/-- A motor task on the oldest message of its queue. -/
theorem consume_eq (w : World) (mt : Motor) :
    w.consume mt = { w with
      queue := Function.update w.queue mt (w.queue mt).tail
      running := Function.update w.running mt
        (obeyed (w.running mt) (w.forward mt) ((w.queue mt).head?.map Message.direction)).1
      forward := Function.update w.forward mt
        (obeyed (w.running mt) (w.forward mt) ((w.queue mt).head?.map Message.direction)).2 } := by
  unfold World.consume
  cases hqueue : w.queue mt with
  | nil =>
    have hsame : Function.update w.queue mt [] = w.queue := by
      rw [← hqueue, Function.update_eq_self]
    simp [obeyed, hsame]
  | cons msg queue =>
    simp only [List.tail_cons, List.head?_cons, Option.map_some]
    cases msg.direction with
    | STOP => simp [World.drive, obeyed]
    | _ => rfl

/-- The steps of the abstract motor tasks ask for nothing. -/
theorem physical_consume (w : World) (mt : Motor) : Plant.physical w (.consume mt) := ⟨trivial, trivial⟩

theorem physical_halt (w : World) (mt : Motor) : Plant.physical w (.halt mt) := ⟨trivial, trivial⟩

/-- An iteration of the task of a motor is a consumption of its message, and perhaps a halt. -/
theorem task_changes (h : m.Addressed) (mt : Motor) :
    Changes Plant.apply Plant.physical m.world (m.task DEG_TO_STEPS mt).world := by
  obtain ⟨hdir, hrun⟩ := task_obeys DEG_TO_STEPS h mt
  have hconsume : Changes Plant.apply Plant.physical m.world (m.world.consume mt) :=
    .single ⟨.consume mt, physical_consume _ mt, rfl⟩
  rw [consume_eq] at hconsume
  rw [world_task m mt, hdir]
  obtain hrun | hrun := hrun
  · rw [hrun]
    exact hconsume
  · rw [hrun]
    refine hconsume.tail ⟨.halt mt, physical_halt _ mt, ?_⟩
    simp only [Plant.apply, Function.update_idem]
    rfl

theorem waste_timer_runs (x : WasteMotor) :
    (x.apply .timer).waste_motor_dir = x.waste_motor_dir ∧
      ((x.apply .timer).waste_motor_run = x.waste_motor_run ∨ (x.apply .timer).waste_motor_run = false) := by
  unfold WasteMotor.apply waste_motor_timer_callback
  simp only
  split_ifs
  all_goals first
    | exact ⟨rfl, .inl rfl⟩
    | exact ⟨rfl, .inr rfl⟩

theorem spin_timer_runs (DEG_TO_STEPS : UInt32 → UInt32) (x : SpinMotor) :
    (x.apply DEG_TO_STEPS .timer).scpspin_motor_dir = x.scpspin_motor_dir ∧
      (x.apply DEG_TO_STEPS .timer).drv_dir = x.drv_dir ∧
      ((x.apply DEG_TO_STEPS .timer).scpspin_motor_run = x.scpspin_motor_run ∨
        (x.apply DEG_TO_STEPS .timer).scpspin_motor_run = false) := by
  unfold SpinMotor.apply mcpwm_timer_full_cb
  simp only
  split_ifs
  · exact ⟨rfl, rfl, .inr rfl⟩
  · exact ⟨rfl, rfl, .inl rfl⟩
  · exact ⟨rfl, rfl, .inl rfl⟩
  · exact ⟨rfl, rfl, .inl rfl⟩

/-- An event of a timer leaves its motor as it is, or halts it. -/
theorem timer_changes (m : Machine) (mt : Motor) :
    Changes Plant.apply Plant.physical m.world (m.timer DEG_TO_STEPS mt).world := by
  have hhalted (w : World) (run : Bool) (h : run = w.running mt ∨ run = false) :
      Changes Plant.apply Plant.physical w { w with running := Function.update w.running mt run } := by
    obtain rfl | rfl := h
    · rw [Function.update_eq_self]
      exact .refl
    · exact .single ⟨.halt mt, physical_halt w mt, rfl⟩
  have hworld : (m.timer DEG_TO_STEPS mt).world = { m.world with
      running := Function.update m.get_motor_run mt ((m.timer DEG_TO_STEPS mt).get_motor_run mt) } := by
    have hrun : (m.timer DEG_TO_STEPS mt).get_motor_run =
        Function.update m.get_motor_run mt ((m.timer DEG_TO_STEPS mt).get_motor_run mt) := by
      refine (Function.update_eq_iff.mpr ⟨rfl, fun other hne => ?_⟩).symm
      cases mt with
      | _ =>
        cases other with
        | _ => first | rfl | exact absurd rfl hne
    have hdir : (m.timer DEG_TO_STEPS mt).get_motor_dir = m.get_motor_dir := by
      funext other
      cases mt with
      | SCPSPIN_MOTOR =>
        cases other with
        | SCPSPIN_MOTOR => exact (spin_timer_runs DEG_TO_STEPS m.spin).1
        | _ => rfl
      | WASTE_COVER_MOTOR =>
        cases other with
        | WASTE_COVER_MOTOR => exact (waste_timer_runs m.waste).1
        | _ => rfl
      | _ => rfl
    conv_lhs => rw [Machine.world, hrun, hdir]
    cases mt with
    | _ => rfl
  rw [hworld]
  refine hhalted m.world _ ?_
  cases mt with
  | SCPSPIN_MOTOR => exact (spin_timer_runs DEG_TO_STEPS m.spin).2.2
  | WASTE_COVER_MOTOR => exact (waste_timer_runs m.waste).2
  | _ => exact .inl rfl

/-- What the outputs do not move rests in the eyes of the scenarios too. -/
theorem word_physical (h : m.Consistent) {value : PtWord} (hvalue : Happening.physical m (.word value)) :
    Plant.physical m.world (.word value) := by
  obtain ⟨hrests, hholds⟩ := hvalue
  constructor
  · intro mt hrun
    refine hrests mt ?_
    rw [driving_eq h, show m.get_motor_run mt = false from hrun]
    rfl
  · intro mt hbit hrun
    refine hholds mt hbit ?_
    rw [driving_eq h]
    have hboth : (m.get_motor_run mt && m.get_motor_dir mt) = false := hrun
    cases hr : m.get_motor_run mt with
    | false => simp
    | true =>
      rw [hr, Bool.true_and] at hboth
      simp [hboth]

/-- What happens to the machine is what may happen to its world. -/
theorem happening_changes (h : m.Sound) {e : Happening} (he : e.physical m) :
    Changes Plant.apply Plant.physical m.world (m.apply DEG_TO_STEPS e).world := by
  cases e with
  | task mt => exact task_changes h.addressed mt
  | timer mt => exact timer_changes m mt
  | command mt msg =>
    refine .single ⟨.command mt msg, ⟨he.1, trivial⟩, ?_⟩
    exact world_take m rfl rfl
  | flag f v =>
    refine .single ⟨.flag f v, ⟨trivial, trivial⟩, ?_⟩
    exact world_take m rfl rfl
  | word value => exact .single ⟨.word value, word_physical h.consistent he, rfl⟩
  | tof ring => exact .single ⟨.tof ring, ⟨trivial, trivial⟩, rfl⟩
  | clock t => exact .single ⟨.clock t, ⟨trivial, trivial⟩, rfl⟩

theorem task_consistent (h : m.Consistent) (mt : Motor) : (m.task DEG_TO_STEPS mt).Consistent := by
  cases mt with
  | PLATE_MOTOR => exact { h with plate := (dc_receive_spec plate_moves h.plate _).1 }
  | MAIN_COVER_MOTOR => exact { h with main_cover := (dc_cmd_task_spec main_cover_moves h.main_cover _).1 }
  | SCPINOUT_MOTOR => exact { h with scpinout := (dc_cmd_task_spec scpinout_moves h.scpinout _).1 }
  | WASTE_COVER_MOTOR =>
    exact { h with waste := (waste_apply_spec h.waste (.turn (m.turn .WASTE_COVER_MOTOR))).1 }
  | SCPSPIN_MOTOR =>
    refine { h with spin := spin_receive_consistent h.spin _, spin_dir := ?_ }
    change (spin_receive DEG_TO_STEPS m.spin (m.turn .SCPSPIN_MOTOR).msg).scpspin_motor_run = true →
      (spin_receive DEG_TO_STEPS m.spin (m.turn .SCPSPIN_MOTOR).msg).drv_dir =
        (spin_receive DEG_TO_STEPS m.spin (m.turn .SCPSPIN_MOTOR).msg).scpspin_motor_dir
    unfold spin_receive
    split
    · split
      · split
        · exact fun _ => rfl
        · exact fun _ => rfl
        · unfold scpspin_stop
          split_ifs
          · exact h.spin_dir
          · exact nofun
      · split
        · exact fun _ => rfl
        · exact fun _ => rfl
        · exact h.spin_dir
      · split_ifs
        · exact h.spin_dir
        · exact h.spin_dir
      · exact h.spin_dir
    · exact h.spin_dir

theorem timer_consistent (h : m.Consistent) (mt : Motor) : (m.timer DEG_TO_STEPS mt).Consistent := by
  cases mt with
  | WASTE_COVER_MOTOR => exact { h with waste := (waste_timer_spec h.waste).1 }
  | SCPSPIN_MOTOR =>
    obtain ⟨hdir, hdrv, hrun⟩ := spin_timer_runs DEG_TO_STEPS m.spin
    refine { h with spin := (spin_timer_spec DEG_TO_STEPS h.spin).1, spin_dir := fun hruns => ?_ }
    change (m.spin.apply DEG_TO_STEPS .timer).drv_dir = (m.spin.apply DEG_TO_STEPS .timer).scpspin_motor_dir
    rw [hdir, hdrv]
    obtain hsame | hhalted := hrun
    · exact h.spin_dir (hsame.symm.trans hruns)
    · rw [show (m.timer DEG_TO_STEPS .SCPSPIN_MOTOR).spin.scpspin_motor_run = false from hhalted] at hruns
      cases hruns
  | _ => exact h

/-- What the shared state becomes is no matter for the drivers. -/
theorem take_consistent (h : m.Consistent) (w : World) : (m.take w).Consistent := { h with }

/-- A message with the right command keeps the queue addressed. -/
theorem enqueue_addressed (h : m.Addressed) {msg : Message} (hmsg : msg.cmd = motor_cmd mt) :
    (m.take (m.world.enqueue mt msg)).Addressed := by
  intro other y hy
  change y ∈ Function.update m.queue mt (m.queue mt ++ [msg]) other at hy
  obtain rfl | hne := eq_or_ne other mt
  · rw [Function.update_self, List.mem_append, List.mem_singleton] at hy
    obtain hy | rfl := hy
    · exact h other y hy
    · exact hmsg
  · rw [Function.update_of_ne hne] at hy
    exact h other y hy

private theorem taken_addressed (h : m.Addressed) (mt : Motor) : (m.taken mt).Addressed := by
  intro other y hy
  change y ∈ Function.update m.queue mt (m.queue mt).tail other at hy
  obtain rfl | hne := eq_or_ne other mt
  · rw [Function.update_self] at hy
    exact h other y (List.mem_of_mem_tail hy)
  · rw [Function.update_of_ne hne] at hy
    exact h other y hy

/-- Whatever happens to the machine keeps it sound, so long as messages carry their motor's
command. -/
theorem happening_sound (h : m.Sound) {e : Happening}
    (he : ∀ mt msg, e = .command mt msg → msg.cmd = motor_cmd mt) :
    (m.apply DEG_TO_STEPS e).Sound := by
  cases e with
  | task mt =>
    refine ⟨task_consistent h.consistent mt, ?_⟩
    have htaken := taken_addressed h.addressed mt
    cases mt with
    | _ => exact htaken
  | timer mt =>
    refine ⟨timer_consistent h.consistent mt, ?_⟩
    cases mt with
    | _ => exact h.addressed
  | command mt msg => exact ⟨take_consistent h.consistent _, enqueue_addressed h.addressed (he mt msg rfl)⟩
  | flag f v => exact ⟨take_consistent h.consistent _, h.addressed⟩
  | word value => exact ⟨{ h.consistent with }, h.addressed⟩
  | tof ring => exact ⟨{ h.consistent with }, h.addressed⟩
  | clock t => exact ⟨{ h.consistent with }, h.addressed⟩

/-- A step of a scenario keeps the machine sound if its message is addressed right. -/
theorem perform_sound (h : m.Sound) {a : Act} (ha : addressed a = true) : (m.perform a).2.Sound := by
  refine ⟨take_consistent h.consistent _, ?_⟩
  cases a with
  | send mt msg => exact enqueue_addressed h.addressed (of_decide_eq_true ha)
  | _ => exact h.addressed

/-- The five motor tasks and their drivers realize the motors that the scenarios are proved about. -/
theorem machine_refines : Refines Act.perform Plant.apply Plant.physical (fun a m => Machine.perform a m)
    (Machine.apply DEG_TO_STEPS) (fun m e => e.physical m) (fun a => addressed a = true) Machine.Sound
    Machine.world where
  act a m _ _ := Prod.ext rfl (world_perform a m).symm
  act_keeps _ _ ha h := perform_sound h ha
  change _ _ h he := happening_changes h he
  change_keeps _ _ h he := happening_sound h fun _ _ hcommand => by
    subst hcommand
    exact he.2

/-- A scenario among the motor tasks. -/
def machineRun (DEG_TO_STEPS : UInt32 → UInt32) (scenario : Scenario) (m : Machine)
    (turns : List (program.Turn Happening)) : Shared Act Act.Answer Int Machine :=
  Shared.run (fun a m => Machine.perform a m) (Machine.apply DEG_TO_STEPS) ⟨scenario.code, m⟩ turns

/-- Every run of a scenario among the five motor tasks is, as the scenario sees it, a run of it among motors
that obey their commands and stop by themselves. The words of the sensors are those of real mechanics on both sides:
a motor that is not driven stays where it is, and one leaves its closed end only while it is driven open. -/
theorem machine_run_is_plant_run (DEG_TO_STEPS : UInt32 → UInt32) (scenario : Scenario)
    {m : Machine} (h : m.Sound)
    (turns : List (program.Turn Happening))
    (halong : Along (Shared.move (fun a m => Machine.perform a m) (Machine.apply DEG_TO_STEPS))
      (Shared.permits (fun _ _ => True) fun m e => e.physical m) ⟨scenario.code, m⟩ turns) :
    ∃ seen : List (program.Turn Plant),
      Along (Shared.move Act.perform Plant.apply) (Shared.permits (fun _ _ => True) Plant.physical)
        (scenario.shared m.world) seen ∧
      (plantRun scenario m.world seen).code = (machineRun DEG_TO_STEPS scenario m turns).code ∧
      (plantRun scenario m.world seen).state = (machineRun DEG_TO_STEPS scenario m turns).state.world := by
  obtain ⟨seen, hseen, hrun⟩ :=
    machine_refines.run (fun _ _ => True) turns (scenario_addresses scenario) h halong
  exact ⟨seen, hseen, congrArg Shared.code hrun, congrArg Shared.state hrun⟩

/-- The scoop is brought in and then the main cover closed: each motor leaves its open end, reaches the closed
one and is stopped there by its task, which takes the five commands of the soft start for the cover. -/
def finish_turns : List (program.Turn Happening) :=
  let own (n : Nat) : List (program.Turn Happening) := List.replicate n .own
  let words (values : List PtWord) : List (program.Turn Happening) :=
    values.map fun value => .change (.word value)
  let task (mt : Motor) : program.Turn Happening := .change (.task mt)
  own 2 ++ [task .SCPINOUT_MOTOR] ++ words [PT_BIT_MCOVER_OPEN, PT_BIT_SCP_IN ||| PT_BIT_MCOVER_OPEN] ++
    [task .SCPINOUT_MOTOR] ++ own 32 ++ List.replicate 5 (task .MAIN_COVER_MOTOR) ++
    words [PT_BIT_SCP_IN, PT_BIT_SCP_IN ||| PT_BIT_MCOVER_CLOSE] ++ [task .MAIN_COVER_MOTOR] ++ own 14

theorem finish_is_plant_run :
    ∃ seen : List (program.Turn Plant),
      Along (Shared.move Act.perform Plant.apply) (Shared.permits (fun _ _ => True) Plant.physical)
        (Scenario.shared .do_manage_finish (Machine.boot (PT_BIT_SCP_OUT ||| PT_BIT_MCOVER_OPEN)).world) seen ∧
      (plantRun .do_manage_finish (Machine.boot (PT_BIT_SCP_OUT ||| PT_BIT_MCOVER_OPEN)).world seen).code =
        (machineRun id .do_manage_finish (.boot (PT_BIT_SCP_OUT ||| PT_BIT_MCOVER_OPEN)) finish_turns).code ∧
      (plantRun .do_manage_finish (Machine.boot (PT_BIT_SCP_OUT ||| PT_BIT_MCOVER_OPEN)).world seen).state =
        (machineRun id .do_manage_finish (.boot (PT_BIT_SCP_OUT ||| PT_BIT_MCOVER_OPEN))
          finish_turns).state.world :=
  machine_run_is_plant_run id .do_manage_finish (boot_sound _) finish_turns (by decide +kernel)

end catbox.drive
