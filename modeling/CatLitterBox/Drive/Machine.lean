import CatLitterBox.Drive.SoftStart
import CatLitterBox.Drive.Spin
import CatLitterBox.Motor.Plant
import CatLitterBox.Program.Refine

open catbox.motor catbox.sensor program program.Program

namespace catbox.drive

/-- The state that the scenarios share with the rest of the firmware, with the drivers of the five motors. -/
structure Machine where
  flag : Flag → Bool
  pt_value : PtWord
  tof : TofRing
  tof_enable_f : Bool
  clock : Int
  queue : Motor → List Message
  plate : DcMotor
  main_cover : DcMotor
  scpinout : DcMotor
  waste : WasteMotor
  spin : SpinMotor

/-- After boot with the sensor word `word`, before the first message. -/
def Machine.boot (word : PtWord) : Machine where
  flag _ := false
  pt_value := word
  tof := sensor.reset_tof_ring_buffer
  tof_enable_f := false
  clock := 0
  queue _ := []
  plate := .boot
  main_cover := .boot
  scpinout := .boot
  waste := .boot
  spin := .boot false

/-- `get_dcmotor_run` and `get_stepmotor_run`. -/
def Machine.get_motor_run (m : Machine) : Motor → Bool
  | .PLATE_MOTOR => m.plate.run
  | .MAIN_COVER_MOTOR => m.main_cover.run
  | .SCPINOUT_MOTOR => m.scpinout.run
  | .SCPSPIN_MOTOR => m.spin.scpspin_motor_run
  | .WASTE_COVER_MOTOR => m.waste.waste_motor_run

/-- `get_dcmotor_dir` and `get_stepmotor_dir`. -/
def Machine.get_motor_dir (m : Machine) : Motor → Bool
  | .PLATE_MOTOR => m.plate.dir
  | .MAIN_COVER_MOTOR => m.main_cover.dir
  | .SCPINOUT_MOTOR => m.scpinout.dir
  | .SCPSPIN_MOTOR => m.spin.scpspin_motor_dir
  | .WASTE_COVER_MOTOR => m.waste.waste_motor_dir

/-- Which way the outputs drive a motor. -/
def Machine.driving (m : Machine) : Motor → Drive
  | .PLATE_MOTOR => m.plate.driving
  | .MAIN_COVER_MOTOR => m.main_cover.driving
  | .SCPINOUT_MOTOR => m.scpinout.driving
  | .SCPSPIN_MOTOR => m.spin.driving
  | .WASTE_COVER_MOTOR => m.waste.driving

/-- The machine as the scenarios see it. -/
def Machine.world (m : Machine) : World where
  flag := m.flag
  pt_value := m.pt_value
  tof := m.tof
  tof_enable_f := m.tof_enable_f
  clock := m.clock
  queue := m.queue
  running := m.get_motor_run
  forward := m.get_motor_dir

/-- What has been done to the shared state. The driver of the scoop spin reads `spin_mt_always_on`. -/
def Machine.take (m : Machine) (w : World) : Machine :=
  { m with
    flag := w.flag
    pt_value := w.pt_value
    tof := w.tof
    tof_enable_f := w.tof_enable_f
    clock := w.clock
    queue := w.queue
    spin := { m.spin with spin_mt_always_on := w.flag .spin_mt_always_on } }

/-- A step of a scenario. -/
def Machine.perform (a : Act) (m : Machine) : a.Answer × Machine :=
  ((a.perform m.world).1, m.take (a.perform m.world).2)

/-- What happens around a scenario: an iteration of the task of a motor, an event of the timer of a step motor,
a command or a flag from another task, a change of the sensors or the clock. -/
inductive Happening where
  | task (mt : Motor)
  | timer (mt : Motor)
  | command (mt : Motor) (msg : Message)
  | flag (f : Flag) (v : Bool)
  | word (value : PtWord)
  | tof (ring : TofRing)
  | clock (t : Int)

/-- What the task of a motor finds: its oldest message, if it has one, and the word of the sensors. -/
def Machine.turn (m : Machine) (mt : Motor) : Turn := ⟨(m.queue mt).head?.map received, m.pt_value⟩

/-- The task has taken its message. -/
def Machine.taken (m : Machine) (mt : Motor) : Machine :=
  { m with queue := Function.update m.queue mt (m.queue mt).tail }

section

variable (DEG_TO_STEPS : UInt32 → UInt32)

/-- One iteration of the task of a motor. -/
def Machine.task (m : Machine) (mt : Motor) : Machine :=
  match mt with
  | .PLATE_MOTOR => { m.taken mt with plate := plate_cmd_task m.plate (m.turn mt) }
  | .MAIN_COVER_MOTOR => { m.taken mt with main_cover := main_cmd_task m.main_cover (m.turn mt) }
  | .SCPINOUT_MOTOR => { m.taken mt with scpinout := scpinout_cmd_task m.scpinout (m.turn mt) }
  | .SCPSPIN_MOTOR => { m.taken mt with spin := m.spin.apply DEG_TO_STEPS (.turn (m.turn mt)) }
  | .WASTE_COVER_MOTOR => { m.taken mt with waste := m.waste.apply (.turn (m.turn mt)) }

/-- The DC motors have no timer. -/
def Machine.timer (m : Machine) (mt : Motor) : Machine :=
  match mt with
  | .SCPSPIN_MOTOR => { m with spin := m.spin.apply DEG_TO_STEPS .timer }
  | .WASTE_COVER_MOTOR => { m with waste := m.waste.apply .timer }
  | _ => m

def Machine.apply (m : Machine) : Happening → Machine
  | .task mt => m.task DEG_TO_STEPS mt
  | .timer mt => m.timer DEG_TO_STEPS mt
  | .command mt msg => m.take (m.world.enqueue mt msg)
  | .flag f v => m.take (m.world.setFlag f v)
  | .word value => { m with pt_value := value }
  | .tof ring => { m with tof := ring }
  | .clock t => { m with clock := t }

end

/-- The command that the task of a motor obeys. Of the two for the waste cover it is the one of a whole move. -/
def motor_cmd : Motor → MotorCmd
  | .PLATE_MOTOR => .PLATE_CMD
  | .MAIN_COVER_MOTOR => .MAIN_COVER_CMD
  | .SCPINOUT_MOTOR => .SCP_INOUT_CMD
  | .SCPSPIN_MOTOR => .SCP_SPIN_CMD
  | .WASTE_COVER_MOTOR => .WASTE_COVER_CMD

/-- Every message that waits is one that its motor obeys. -/
def Machine.Addressed (m : Machine) : Prop := ∀ mt, ∀ msg ∈ m.queue mt, msg.cmd = motor_cmd mt

/-- The run flags and the directions say what the outputs do. -/
structure Machine.Consistent (m : Machine) : Prop where
  plate : m.plate.Consistent
  main_cover : m.main_cover.Consistent
  scpinout : m.scpinout.Consistent
  waste : m.waste.Consistent
  spin : m.spin.Consistent
  spin_dir : m.spin.scpspin_motor_run = true → m.spin.drv_dir = m.spin.scpspin_motor_dir

/-- The run flag and the direction of a motor that has been commanded. -/
def obeyed (run dir : Bool) : Option Direction → Bool × Bool
  | some .FORWARD => (true, true)
  | some .REVERSE => (true, false)
  | some .STOP => (false, dir)
  | none => (run, dir)

/-- The direction of the message that the task of a motor finds. -/
def Machine.heard (m : Machine) (mt : Motor) : Option Direction := (m.queue mt).head?.map Message.direction

/-- A driver has obeyed, or has stopped its motor. -/
def Obeys (run dir run' dir' : Bool) (heard : Option Direction) : Prop :=
  dir' = (obeyed run dir heard).2 ∧ (run' = (obeyed run dir heard).1 ∨ run' = false)

variable {m : Machine} {mt : Motor} {DEG_TO_STEPS : UInt32 → UInt32}

/-- The drive of a motor can be read from its flags. -/
theorem driving_eq (h : m.Consistent) (mt : Motor) :
    m.driving mt = if m.get_motor_run mt then some (m.get_motor_dir mt) else none := by
  cases mt with
  | PLATE_MOTOR => exact h.plate
  | MAIN_COVER_MOTOR => exact h.main_cover
  | SCPINOUT_MOTOR => exact h.scpinout
  | WASTE_COVER_MOTOR => exact h.waste.driving
  | SCPSPIN_MOTOR =>
    change m.spin.driving = if m.spin.scpspin_motor_run then some m.spin.scpspin_motor_dir else none
    rw [spin_driving_iff h.spin]
    cases hrun : m.spin.scpspin_motor_run with
    | true => rw [if_pos rfl, if_pos rfl, h.spin_dir hrun]
    | false => rfl

/-- The flags that the machine takes over of a world that has its flags are the ones that it has. -/
theorem world_take (m : Machine) {w : World} (hrun : w.running = m.get_motor_run)
    (hdir : w.forward = m.get_motor_dir) :
    (m.take w).world = w := by
  have hrun' : (m.take w).get_motor_run = m.get_motor_run := by
    funext mt
    cases mt with
    | _ => rfl
  have hdir' : (m.take w).get_motor_dir = m.get_motor_dir := by
    funext mt
    cases mt with
    | _ => rfl
  unfold Machine.world
  rw [hrun', hdir', ← hrun, ← hdir]
  rfl

theorem perform_runs (a : Act) (w : World) :
    (a.perform w).2.running = w.running ∧ (a.perform w).2.forward = w.forward := by
  cases a with
  | _ => exact ⟨rfl, rfl⟩

/-- A step of a scenario is the one on the world that it sees. -/
theorem world_perform (a : Act) (m : Machine) : (m.perform a).2.world = (a.perform m.world).2 :=
  world_take m (perform_runs a m.world).1 (perform_runs a m.world).2

/-- The check of the limits stops the motor, or does nothing. -/
theorem limit_check_cases {M : Type} (run dir : M → Bool) (stop : M → M) (mt : Motor) (x : M) (word : PtWord) :
    limit_check run dir stop mt x word = x ∨ limit_check run dir stop mt x word = stop x := by
  unfold limit_check
  simp only
  split_ifs
  · exact .inr rfl
  · exact .inr rfl
  · exact .inl rfl
  · exact .inl rfl

/-- A message that is obeyed sets the flags as it says. -/
theorem dc_receive_obeys {d : DcDriver} (x : DcMotor) {msg : Option Message}
    (hmsg : ∀ y ∈ msg, driveCmd y.cmd = d.cmd) :
    ((dc_receive d x (msg.map received)).run, (dc_receive d x (msg.map received)).dir) =
      obeyed x.run x.dir (msg.map Message.direction) := by
  cases msg with
  | none => rfl
  | some y =>
    have hcmd : (received y).cmd = d.cmd := hmsg y rfl
    have hdirection : (received y).direction = y.direction := rfl
    simp only [Option.map_some, dc_receive, hcmd, if_true, hdirection]
    cases y.direction with
    | STOP =>
      unfold dc_command dc_stop motor_move
      simp [obeyed]
    | _ => rfl

theorem dc_cmd_task_obeys {d : DcDriver} (x : DcMotor) {msg : Option Message} (word : PtWord)
    (hmsg : ∀ y ∈ msg, driveCmd y.cmd = d.cmd) :
    Obeys x.run x.dir (dc_cmd_task d x ⟨msg.map received, word⟩).run
      (dc_cmd_task d x ⟨msg.map received, word⟩).dir
      (msg.map Message.direction) := by
  obtain ⟨hrun, hdir⟩ := Prod.mk.inj (dc_receive_obeys x hmsg)
  unfold dc_cmd_task Obeys
  obtain hkeep | hstop := limit_check_cases DcMotor.run DcMotor.dir dc_stop d.motor
    (dc_receive d x (msg.map received)) word
  · rw [hkeep]
    exact ⟨hdir, .inl hrun⟩
  · rw [hstop]
    exact ⟨hdir, .inr rfl⟩

theorem plate_cmd_task_obeys (x : DcMotor) {msg : Option Message} (word : PtWord)
    (hmsg : ∀ y ∈ msg, driveCmd y.cmd = .PLATE_CMD) :
    Obeys x.run x.dir (plate_cmd_task x ⟨msg.map received, word⟩).run
      (plate_cmd_task x ⟨msg.map received, word⟩).dir
      (msg.map Message.direction) := by
  obtain ⟨hrun, hdir⟩ := Prod.mk.inj (dc_receive_obeys (d := plate) x hmsg)
  exact ⟨hdir, .inl hrun⟩

private theorem waste_receive_obeys (x : WasteMotor) {msg : Option Message}
    (hmsg : ∀ y ∈ msg, y.cmd = .WASTE_COVER_CMD) :
    ((waste_receive x (msg.map received)).waste_motor_run,
      (waste_receive x (msg.map received)).waste_motor_dir) =
      obeyed x.waste_motor_run x.waste_motor_dir (msg.map Message.direction) := by
  cases msg with
  | none => rfl
  | some y =>
    have hsteps : waste_steps (received y) = some WASTE_TARGET_STEPS := by
      have hcmd : (received y).cmd = .WASTE_COVER_CMD := congrArg driveCmd (hmsg y rfl)
      unfold waste_steps
      rw [hcmd]
    have hdirection : (received y).direction = y.direction := rfl
    simp only [Option.map_some, waste_receive, hsteps, hdirection]
    cases y.direction with
    | _ => rfl

private theorem waste_task_obeys (x : WasteMotor) {msg : Option Message} (word : PtWord)
    (hmsg : ∀ y ∈ msg, y.cmd = .WASTE_COVER_CMD) :
    Obeys x.waste_motor_run x.waste_motor_dir (x.apply (.turn ⟨msg.map received, word⟩)).waste_motor_run
      (x.apply (.turn ⟨msg.map received, word⟩)).waste_motor_dir (msg.map Message.direction) := by
  obtain ⟨hrun, hdir⟩ := Prod.mk.inj (waste_receive_obeys x hmsg)
  change Obeys _ _ (waste_motor_cmd_task x _).waste_motor_run (waste_motor_cmd_task x _).waste_motor_dir _
  unfold waste_motor_cmd_task Obeys
  obtain hkeep | hstop := limit_check_cases WasteMotor.waste_motor_run WasteMotor.waste_motor_dir
    waste_motor_stop .WASTE_COVER_MOTOR (waste_receive x (msg.map received)) word
  · rw [hkeep]
    exact ⟨hdir, .inl hrun⟩
  · rw [hstop]
    exact ⟨hdir, .inr rfl⟩

private theorem spin_task_obeys (DEG_TO_STEPS : UInt32 → UInt32) (x : SpinMotor) {msg : Option Message} (word : PtWord)
    (hmsg : ∀ y ∈ msg, y.cmd = .SCP_SPIN_CMD) :
    Obeys x.scpspin_motor_run x.scpspin_motor_dir
      (x.apply DEG_TO_STEPS (.turn ⟨msg.map received, word⟩)).scpspin_motor_run
      (x.apply DEG_TO_STEPS (.turn ⟨msg.map received, word⟩)).scpspin_motor_dir
      (msg.map Message.direction) := by
  change Obeys _ _ (spin_receive DEG_TO_STEPS x _).scpspin_motor_run
    (spin_receive DEG_TO_STEPS x _).scpspin_motor_dir _
  cases msg with
  | none => exact ⟨rfl, .inl rfl⟩
  | some y =>
    have hcmd : (received y).cmd = .SCP_SPIN_CMD := congrArg driveCmd (hmsg y rfl)
    have hdirection : (received y).direction = y.direction := rfl
    simp only [Option.map_some, spin_receive, hcmd, hdirection]
    cases y.direction with
    | STOP =>
      unfold scpspin_stop
      split_ifs with hrun
      · exact ⟨rfl, .inr (by simpa using hrun)⟩
      · exact ⟨rfl, .inr rfl⟩
    | _ => exact ⟨rfl, .inl rfl⟩

variable (DEG_TO_STEPS) in
/-- The task of a motor takes its message and obeys it, or stops the motor. -/
theorem task_obeys (h : m.Addressed) (mt : Motor) :
    Obeys (m.get_motor_run mt) (m.get_motor_dir mt) ((m.task DEG_TO_STEPS mt).get_motor_run mt)
      ((m.task DEG_TO_STEPS mt).get_motor_dir mt) (m.heard mt) := by
  have hhead : ∀ y ∈ (m.queue mt).head?, y.cmd = motor_cmd mt := fun y hy => h mt y (List.mem_of_mem_head? hy)
  cases mt with
  | PLATE_MOTOR => exact plate_cmd_task_obeys m.plate m.pt_value fun y hy => congrArg driveCmd (hhead y hy)
  | MAIN_COVER_MOTOR => exact dc_cmd_task_obeys m.main_cover m.pt_value fun y hy => congrArg driveCmd (hhead y hy)
  | SCPINOUT_MOTOR => exact dc_cmd_task_obeys m.scpinout m.pt_value fun y hy => congrArg driveCmd (hhead y hy)
  | SCPSPIN_MOTOR => exact spin_task_obeys DEG_TO_STEPS m.spin m.pt_value hhead
  | WASTE_COVER_MOTOR => exact waste_task_obeys m.waste m.pt_value hhead

/-- A task changes nothing but its queue and its motor. -/
theorem world_task (m : Machine) (mt : Motor) :
    (m.task DEG_TO_STEPS mt).world = { m.world with
      queue := Function.update m.queue mt (m.queue mt).tail
      running := Function.update m.get_motor_run mt ((m.task DEG_TO_STEPS mt).get_motor_run mt)
      forward := Function.update m.get_motor_dir mt ((m.task DEG_TO_STEPS mt).get_motor_dir mt) } := by
  have hrun : (m.task DEG_TO_STEPS mt).get_motor_run =
      Function.update m.get_motor_run mt ((m.task DEG_TO_STEPS mt).get_motor_run mt) := by
    refine (Function.update_eq_iff.mpr ⟨rfl, fun other hne => ?_⟩).symm
    cases mt with
    | _ =>
      cases other with
      | _ => first | rfl | exact absurd rfl hne
  have hdir : (m.task DEG_TO_STEPS mt).get_motor_dir =
      Function.update m.get_motor_dir mt ((m.task DEG_TO_STEPS mt).get_motor_dir mt) := by
    refine (Function.update_eq_iff.mpr ⟨rfl, fun other hne => ?_⟩).symm
    cases mt with
    | _ =>
      cases other with
      | _ => first | rfl | exact absurd rfl hne
  conv_lhs => rw [Machine.world, hrun, hdir]
  cases mt with
  | _ => rfl

end catbox.drive
