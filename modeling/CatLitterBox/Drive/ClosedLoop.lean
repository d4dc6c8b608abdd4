import CatLitterBox.Drive.Refinement

open catbox.motor catbox.sensor program program.Program temporal

namespace catbox.drive

/-- The direction toward an end: `true` is the open one. -/
def toward (d : Bool) : Direction := if d then .FORWARD else .REVERSE

/-- What a wait for an end waits for. -/
def awaited (d : Bool) : MotorStatus := if d then .MT_OPEN else .MT_CLOSE

/-- The motors with a limit switch at both ends. -/
def limited : List Motor := [.MAIN_COVER_MOTOR, .SCPINOUT_MOTOR, .WASTE_COVER_MOTOR]

/-- The motor whose position a place of the source relies on. -/
def looks : Place → Option Motor
  | .wait_motor_operation mt _ => some mt
  | .recovery_step 1 => some .WASTE_COVER_MOTOR
  | .recovery_step 3 => some .SCPINOUT_MOTOR
  | .recovery_step 4 => some .MAIN_COVER_MOTOR
  | _ => none

/-- What a message makes of a drive. -/
def commandedBy (drive : Drive) : Option Direction → Drive
  | some .FORWARD => some true
  | some .REVERSE => some false
  | some .STOP => none
  | none => drive

/-- Where the motor goes when its task has taken all its messages. -/
def Machine.bound (m : Machine) (mt : Motor) : Drive :=
  commandedBy (m.driving mt) ((m.queue mt).getLast?.map Message.direction)

/-- The mechanics work: a motor leaves an end only while it is driven away from it, and the waste cover gets
to its end before it runs out of steps. The other tasks send the motors STOP and nothing else, and no such STOP
meets a motor with limits on its way. -/
def Happening.mechanical (m : Machine) : Happening → Prop
  | .command mt msg => (msg.direction = .STOP ∧ msg.cmd = motor_cmd mt) ∧ (mt ∈ limited → m.bound mt = none)
  | .word value => ∀ mt ∈ limited, ∀ d, AtLimit mt m.pt_value d → m.driving mt ≠ some !d → AtLimit mt value d
  | .timer .WASTE_COVER_MOTOR => ∀ d, m.driving .WASTE_COVER_MOTOR = some d → m.waste.waste_motor_steps ≤ 1 →
      AtLimit .WASTE_COVER_MOTOR m.pt_value d
  | _ => True

instance (m : Machine) : (e : Happening) → Decidable (e.mechanical m)
  | .command mt msg => inferInstanceAs (Decidable ((msg.direction = .STOP ∧ msg.cmd = motor_cmd mt) ∧
      (mt ∈ limited → m.bound mt = none)))
  | .word value => inferInstanceAs (Decidable (∀ mt ∈ limited, ∀ d : Bool, AtLimit mt m.pt_value d →
      m.driving mt ≠ some !d → AtLimit mt value d))
  | .timer .WASTE_COVER_MOTOR => inferInstanceAs (Decidable (∀ d : Bool, m.driving .WASTE_COVER_MOTOR = some d →
      m.waste.waste_motor_steps ≤ 1 → AtLimit .WASTE_COVER_MOTOR m.pt_value d))
  | .timer .PLATE_MOTOR | .timer .MAIN_COVER_MOTOR | .timer .SCPINOUT_MOTOR
  | .timer .SCPSPIN_MOTOR => .isTrue trivial
  | .task _ | .flag _ _ | .tof _ | .clock _ => .isTrue trivial

/-- A motor task has taken all its messages before the scenario looks where the motor is. Step 4 of the recovery
finds the main cover at one of its ends. -/
def prompt (a : Act) (m : Machine) : Prop :=
  match a with
  | .get_pt_status p =>
    (∀ mt, looks p = some mt → m.queue mt = []) ∧
      (p = .recovery_step 4 → AtLimit .MAIN_COVER_MOTOR m.pt_value true ∨
        AtLimit .MAIN_COVER_MOTOR m.pt_value false)
  | .get_motor_run mt p => looks p = some mt → m.queue mt = []
  | _ => True

instance (m : Machine) : (a : Act) → Decidable (prompt a m)
  | .get_pt_status p => inferInstanceAs (Decidable ((∀ mt : Motor, looks p = some mt → m.queue mt = []) ∧
      (p = .recovery_step 4 → AtLimit .MAIN_COVER_MOTOR m.pt_value true ∨
        AtLimit .MAIN_COVER_MOTOR m.pt_value false)))
  | .get_motor_run mt p => inferInstanceAs (Decidable (looks p = some mt → m.queue mt = []))
  | .send _ _ | .send_led_cmd_msg _ | .read _ _ | .write _ _ | .esp_timer_get_time | .vTaskDelay _
  | .set_tof_sensor_enable _ | .reset_tof_ring_buffer | .get_tof_ring_count | .get_tof_distance =>
    .isTrue trivial

/-- A scenario among the motor tasks, where all goes well. -/
def loop (DEG_TO_STEPS : UInt32 → UInt32) : Spec Act Act.Answer Machine :=
  .rely (fun a m => Machine.perform a m) (Changes (Machine.apply DEG_TO_STEPS) fun m e => e.mechanical m) prompt

/-- The motor will not be driven away from the end. -/
def Machine.Settling (m : Machine) (mt : Motor) (d : Bool) : Prop := m.bound mt ≠ some !d

/-- The motor has stopped at the end, and only STOPs wait for it. -/
structure Machine.Rests (m : Machine) (mt : Motor) (d : Bool) : Prop where
  position : AtLimit mt m.pt_value d
  waiting : ∀ msg ∈ m.queue mt, msg.direction = .STOP
  driving : m.driving mt = none

/-- The motor is on its way to the end, or has stopped there. -/
def Machine.Going (m : Machine) (mt : Motor) (d : Bool) : Prop := m.bound mt = some d ∨ m.Rests mt d

/-- The motor is at the end, and nothing that waits takes it away. -/
structure Machine.Held (m : Machine) (mt : Motor) (d : Bool) : Prop where
  position : AtLimit mt m.pt_value d
  waiting : ∀ msg ∈ m.queue mt, msg.direction ≠ toward !d
  driving : m.driving mt ≠ some !d

variable {m : Machine} {mt : Motor} {d : Bool} {DEG_TO_STEPS : UInt32 → UInt32}

/-- A message makes of the drive what the abstract machine says. -/
theorem dc_commanded_eq {x : DcDriver} (drive : Drive) {msg : Option Message}
    (hmsg : ∀ y ∈ msg, driveCmd y.cmd = x.cmd) :
    x.commanded drive (msg.map received) = commandedBy drive (msg.map Message.direction) := by
  cases msg with
  | none => rfl
  | some y =>
    have hcmd : (received y).cmd = x.cmd := hmsg y rfl
    have hdirection : (received y).direction = y.direction := rfl
    simp only [Option.map_some, DcDriver.commanded, hcmd, if_true, hdirection]
    cases y.direction with
    | _ => rfl

private theorem waste_commanded_eq (drive : Drive) {msg : Option Message} (hmsg : ∀ y ∈ msg, y.cmd = .WASTE_COVER_CMD) :
    waste_commanded drive (msg.map received) = commandedBy drive (msg.map Message.direction) := by
  cases msg with
  | none => rfl
  | some y =>
    have hsteps : waste_steps (received y) = some WASTE_TARGET_STEPS := by
      have hcmd : (received y).cmd = .WASTE_COVER_CMD := congrArg driveCmd (hmsg y rfl)
      unfold waste_steps
      rw [hcmd]
    have hdirection : (received y).direction = y.direction := rfl
    simp only [Option.map_some, waste_commanded, hsteps, hdirection]
    cases y.direction with
    | _ => rfl

variable (DEG_TO_STEPS) in
/-- The task of a motor with limits drives it as its message says, if the limits allow it. -/
theorem task_driving (h : m.Sound) (hmt : mt ∈ limited) :
    (m.task DEG_TO_STEPS mt).driving mt = checked mt m.pt_value (commandedBy (m.driving mt) (m.heard mt)) := by
  have hhead : ∀ y ∈ (m.queue mt).head?, y.cmd = motor_cmd mt :=
    fun y hy => h.addressed mt y (List.mem_of_mem_head? hy)
  simp only [limited, List.mem_cons, List.not_mem_nil, or_false] at hmt
  obtain rfl | rfl | rfl := hmt
  · have hdriving := (dc_cmd_task_spec main_cover_moves h.consistent.main_cover (m.turn .MAIN_COVER_MOTOR)).2
    refine hdriving.trans (congrArg (checked _ _) ?_)
    exact dc_commanded_eq (x := main_cover) _ fun y hy => congrArg driveCmd (hhead y hy)
  · have hdriving := (dc_cmd_task_spec scpinout_moves h.consistent.scpinout (m.turn .SCPINOUT_MOTOR)).2
    refine hdriving.trans (congrArg (checked _ _) ?_)
    exact dc_commanded_eq (x := scpinout) _ fun y hy => congrArg driveCmd (hhead y hy)
  · have hdriving := (waste_motor_cmd_task_spec h.consistent.waste (m.turn .WASTE_COVER_MOTOR)).2
    refine hdriving.trans (congrArg (checked _ _) ?_)
    exact waste_commanded_eq _ hhead

theorem task_queue (m : Machine) (mt other : Motor) :
    (m.task DEG_TO_STEPS mt).queue other = if other = mt then (m.queue mt).tail else m.queue other := by
  have hqueue : (m.task DEG_TO_STEPS mt).queue = Function.update m.queue mt (m.queue mt).tail := by
    cases mt with
    | _ => rfl
  rw [hqueue, Function.update_apply]

theorem task_word (m : Machine) (mt : Motor) : (m.task DEG_TO_STEPS mt).pt_value = m.pt_value := by
  cases mt with
  | _ => rfl

theorem task_driving_of_ne {other : Motor} (hne : other ≠ mt) :
    (m.task DEG_TO_STEPS mt).driving other = m.driving other := by
  cases mt with
  | _ =>
    cases other with
    | _ => first | rfl | exact absurd rfl hne

/-- Where the check of the limits leads. -/
theorem checked_cases (mt : Motor) (word : PtWord) (drive : Drive) :
    checked mt word drive = drive ∨ checked mt word drive = none ∧ ∃ d, drive = some d ∧ AtLimit mt word d := by
  cases drive with
  | none => exact .inl rfl
  | some d =>
    rw [checked_some]
    split_ifs with hlimit
    · exact .inr ⟨rfl, d, rfl, hlimit⟩
    · exact .inl rfl

variable (DEG_TO_STEPS) in
/-- An iteration of its task leaves a motor bound for where it was, or stops it at the end that it was bound
for. -/
theorem task_bound (h : m.Sound) (hmt : mt ∈ limited) :
    (m.task DEG_TO_STEPS mt).bound mt = m.bound mt ∨
      (m.task DEG_TO_STEPS mt).queue mt = [] ∧ (m.task DEG_TO_STEPS mt).driving mt = none ∧
        ∃ d, m.bound mt = some d ∧ AtLimit mt m.pt_value d := by
  have hqueue : (m.task DEG_TO_STEPS mt).queue mt = (m.queue mt).tail := by rw [task_queue, if_pos rfl]
  have hdriving := task_driving DEG_TO_STEPS h hmt
  unfold Machine.bound
  rw [hqueue]
  have hcheck := checked_cases mt m.pt_value (commandedBy (m.driving mt) (m.heard mt))
  rw [← hdriving] at hcheck
  unfold Machine.heard at hcheck
  cases hwait : m.queue mt with
  | nil =>
    rw [hwait] at hcheck
    obtain hsame | ⟨hnone, hend⟩ := hcheck
    · exact .inl hsame
    · exact .inr ⟨rfl, hnone, hend⟩
  | cons msg rest =>
    rw [hwait] at hcheck
    cases rest with
    | nil =>
      obtain hsame | ⟨hnone, hend⟩ := hcheck
      · exact .inl hsame
      · exact .inr ⟨rfl, hnone, hend⟩
    | cons next rest =>
      -- the last message, which decides, is still there
      left
      rw [List.tail_cons, List.getLast?_cons_cons]
      cases hlast : (next :: rest).getLast? with
      | none => exact absurd (List.getLast?_eq_none_iff.mp hlast) (List.cons_ne_nil _ _)
      | some last =>
        rw [Option.map_some]
        cases last.direction with
        | _ => rfl

/-- With nothing in the queue, a motor is bound for where it drives. -/
theorem bound_nil (hqueue : m.queue mt = []) : m.bound mt = m.driving mt := by
  unfold Machine.bound
  rw [hqueue]
  rfl

/-- While messages wait, the last of them decides. -/
theorem bound_waiting {m' : Machine} (hqueue : m'.queue mt = m.queue mt) (hwait : m.queue mt ≠ []) :
    m'.bound mt = m.bound mt := by
  unfold Machine.bound
  rw [hqueue]
  cases hlast : (m.queue mt).getLast? with
  | none => exact absurd (List.getLast?_eq_none_iff.mp hlast) hwait
  | some last =>
    rw [Option.map_some]
    cases last.direction with
    | _ => rfl

/-- Where the queue and the drive are the same, so is the end that the motor is bound for. -/
theorem bound_same {m' : Machine} (hqueue : m'.queue mt = m.queue mt)
    (hdriving : m'.driving mt = m.driving mt) :
    m'.bound mt = m.bound mt := by
  unfold Machine.bound
  rw [hqueue, hdriving]

variable (DEG_TO_STEPS) in
theorem timer_queue (m : Machine) (other : Motor) : (m.timer DEG_TO_STEPS other).queue = m.queue ∧
    (m.timer DEG_TO_STEPS other).pt_value = m.pt_value := by
  cases other with
  | _ => exact ⟨rfl, rfl⟩

theorem timer_driving_of_ne {other : Motor} (hne : mt ≠ other) :
    (m.timer DEG_TO_STEPS other).driving mt = m.driving mt := by
  cases other with
  | _ =>
    cases mt with
    | _ => first | rfl | exact absurd rfl hne

theorem take_driving (m : Machine) (w : World) : (m.take w).driving = m.driving := by
  funext other
  cases other with
  | _ => rfl

variable (DEG_TO_STEPS) in
/-- What may become of a motor with limits. -/
inductive Fate (m : Machine) (mt : Motor) (m' : Machine) : Prop where
  /-- Its task takes a turn. -/
  | turn (heq : m' = m.task DEG_TO_STEPS mt)
  /-- Another task sends it a STOP while it is not on its way. -/
  | stop (msg : Message) (hstop : msg.direction = .STOP) (hqueue : m'.queue mt = m.queue mt ++ [msg])
      (hdriving : m'.driving mt = m.driving mt) (hword : m'.pt_value = m.pt_value) (hbound : m.bound mt = none)
  /-- It is driven as before, and leaves no end that it is not driven away from. -/
  | keep (hqueue : m'.queue mt = m.queue mt) (hdriving : m'.driving mt = m.driving mt)
      (hkeeps : ∀ d, AtLimit mt m.pt_value d → m.driving mt ≠ some !d → AtLimit mt m'.pt_value d)
  /-- It stops at the end that it has been driven to. -/
  | halt (hqueue : m'.queue mt = m.queue mt) (hdriving : m'.driving mt = none) (hword : m'.pt_value = m.pt_value)
      (hstops : ∀ d, m.driving mt = some d → AtLimit mt m.pt_value d)

variable (DEG_TO_STEPS) in
/-- What can become of a motor with two limits in one step. -/
theorem happening_fate (h : m.Sound) (hmt : mt ∈ limited) {e : Happening} (he : e.mechanical m) :
    Fate DEG_TO_STEPS m mt (m.apply DEG_TO_STEPS e) := by
  cases e with
  | task other =>
    by_cases hother : other = mt
    · exact .turn (hother ▸ rfl)
    · have hne : mt ≠ other := Ne.symm hother
      refine .keep ?_ (task_driving_of_ne hne) fun d hd _ => ?_
      · change (m.task DEG_TO_STEPS other).queue mt = _
        rw [task_queue, if_neg hne]
      · change AtLimit mt (m.task DEG_TO_STEPS other).pt_value d
        rw [task_word]
        exact hd
  | timer other =>
    obtain ⟨hqueue, hword⟩ := timer_queue DEG_TO_STEPS m other
    have hkeep (hdriving : (m.timer DEG_TO_STEPS other).driving mt = m.driving mt) :
        Fate DEG_TO_STEPS m mt (m.timer DEG_TO_STEPS other) :=
      .keep (congrFun hqueue mt) hdriving fun d hd _ => by rw [hword]; exact hd
    by_cases hother : mt = other
    · subst hother
      cases mt with
      | WASTE_COVER_MOTOR =>
        have hdriving := (waste_timer_spec h.consistent.waste).2.1
        by_cases hlast : m.waste.waste_motor_steps ≤ 1
        · rw [if_pos hlast] at hdriving
          exact .halt (congrFun hqueue _) hdriving hword fun d hd => he d hd hlast
        · rw [if_neg hlast] at hdriving
          exact hkeep hdriving
      | SCPSPIN_MOTOR => exact absurd hmt (by decide)
      | _ => exact hkeep rfl
    · exact hkeep (timer_driving_of_ne hother)
  | command other msg =>
    have hdriving : (m.apply DEG_TO_STEPS (.command other msg)).driving mt = m.driving mt :=
      congrFun (take_driving m _) mt
    by_cases hother : other = mt
    · subst hother
      exact .stop msg he.1.1 (Function.update_self _ _ _) hdriving rfl (he.2 hmt)
    · exact .keep (Function.update_of_ne (Ne.symm hother) _ _) hdriving fun _ hd _ => hd
  | flag f v => exact .keep rfl (congrFun (take_driving m _) mt) fun _ hd _ => hd
  | word value =>
    refine .keep rfl ?_ fun d hd hne => he mt hmt d hd hne
    cases mt with
    | _ => rfl
  | tof ring =>
    refine .keep rfl ?_ fun _ hd _ => hd
    cases mt with
    | _ => rfl
  | clock t =>
    refine .keep rfl ?_ fun _ hd _ => hd
    cases mt with
    | _ => rfl

/-- The message sent last decides where a motor is bound for. -/
theorem bound_concat {m' : Machine} {msg : Message} (hqueue : m'.queue mt = m.queue mt ++ [msg]) :
    m'.bound mt = commandedBy none (some msg.direction) := by
  unfold Machine.bound
  rw [hqueue, List.getLast?_append_of_ne_nil _ (List.cons_ne_nil _ _), List.getLast?_singleton, Option.map_some]
  cases msg.direction with
  | _ => rfl

/-- What the mechanics do sends no motor away from the end that it settles at. -/
theorem Machine.Settling.happen (h : m.Sound) (hmt : mt ∈ limited) {e : Happening} (he : e.mechanical m)
    (hm : m.Settling mt d) : (m.apply DEG_TO_STEPS e).Settling mt d := by
  unfold Machine.Settling at hm ⊢
  cases happening_fate DEG_TO_STEPS h hmt he with
  | turn heq =>
    rw [heq]
    obtain hsame | ⟨hqueue, hnone, -⟩ := task_bound DEG_TO_STEPS h hmt
    · exact ne_of_eq_of_ne hsame hm
    · exact ne_of_eq_of_ne ((bound_nil hqueue).trans hnone) nofun
  | stop msg hstop hqueue =>
    rw [bound_concat hqueue, hstop]
    exact nofun
  | keep hqueue hdriving =>
    rw [bound_same hqueue hdriving]
    exact hm
  | halt hqueue hdriving =>
    by_cases hwait : m.queue mt = []
    · rw [bound_nil (hqueue.trans hwait), hdriving]
      exact nofun
    · rw [bound_waiting hqueue hwait]
      exact hm

/-- A motor at rest is not bound for anywhere. -/
theorem Machine.Rests.bound (hm : m.Rests mt d) : m.bound mt = none := by
  unfold Machine.bound
  cases hlast : (m.queue mt).getLast? with
  | none => exact hm.driving
  | some msg =>
    rw [Option.map_some, hm.waiting msg (List.mem_of_getLast? hlast)]
    rfl

/-- The task of a motor at rest leaves it there. -/
theorem Machine.Rests.turn (h : m.Sound) (hmt : mt ∈ limited) (hm : m.Rests mt d) :
    (m.task DEG_TO_STEPS mt).Rests mt d where
  position := by
    rw [task_word]
    exact hm.position
  waiting := by
    rw [task_queue, if_pos rfl]
    exact fun msg hmsg => hm.waiting msg (List.mem_of_mem_tail hmsg)
  driving := by
    rw [task_driving DEG_TO_STEPS h hmt, hm.driving]
    unfold Machine.heard
    cases hhead : (m.queue mt).head? with
    | none => rfl
    | some msg =>
      rw [Option.map_some, hm.waiting msg (List.mem_of_mem_head? hhead)]
      rfl

/-- A motor at rest at its end stays there. -/
theorem Machine.Rests.happen (h : m.Sound) (hmt : mt ∈ limited) {e : Happening} (he : e.mechanical m)
    (hm : m.Rests mt d) : (m.apply DEG_TO_STEPS e).Rests mt d := by
  cases happening_fate DEG_TO_STEPS h hmt he with
  | turn heq =>
    rw [heq]
    exact hm.turn h hmt
  | stop msg hstop hqueue hdriving hword =>
    refine ⟨?_, ?_, hdriving.trans hm.driving⟩
    · rw [hword]
      exact hm.position
    · rw [hqueue]
      intro y hy
      obtain hy | hy := List.mem_append.mp hy
      · exact hm.waiting y hy
      · rw [List.mem_singleton.mp hy, hstop]
  | keep hqueue hdriving hkeeps =>
    refine ⟨hkeeps d hm.position ?_, ?_, hdriving.trans hm.driving⟩
    · rw [hm.driving]
      exact nofun
    · rw [hqueue]
      exact hm.waiting
  | halt hqueue hdriving hword =>
    refine ⟨?_, ?_, hdriving⟩
    · rw [hword]
      exact hm.position
    · rw [hqueue]
      exact hm.waiting

/-- A motor on its way to an end is not turned round. -/
theorem Machine.Going.happen (h : m.Sound) (hmt : mt ∈ limited) {e : Happening} (he : e.mechanical m)
    (hm : m.Going mt d) : (m.apply DEG_TO_STEPS e).Going mt d := by
  obtain hgoing | hrests := hm
  · cases happening_fate DEG_TO_STEPS h hmt he with
    | turn heq =>
      rw [heq]
      obtain hsame | ⟨hqueue, hnone, d', hbound, hend⟩ := task_bound DEG_TO_STEPS h hmt
      · exact .inl (hsame.trans hgoing)
      · obtain rfl : d' = d := Option.some.inj (hbound.symm.trans hgoing)
        refine .inr ⟨?_, ?_, hnone⟩
        · rw [task_word]
          exact hend
        · rw [hqueue]
          exact nofun
    | stop msg hstop hqueue hdriving hword hbound =>
      rw [hbound] at hgoing
      cases hgoing
    | keep hqueue hdriving => exact .inl ((bound_same hqueue hdriving).trans hgoing)
    | halt hqueue hdriving hword hstops =>
      by_cases hwait : m.queue mt = []
      · refine .inr ⟨?_, ?_, hdriving⟩
        · rw [hword]
          exact hstops d ((bound_nil hwait).symm.trans hgoing)
        · rw [hqueue, hwait]
          exact nofun
      · exact .inl ((bound_waiting hqueue hwait).trans hgoing)
  · exact .inr (hrests.happen h hmt he)

/-- A drive turns away from an end only by a message that says so. -/
theorem commandedBy_ne {drive : Drive} {heard : Option Direction} (hdrive : drive ≠ some !d)
    (hheard : ∀ dir ∈ heard, dir ≠ toward !d) : commandedBy drive heard ≠ some !d := by
  cases heard with
  | none => exact hdrive
  | some dir =>
    have hne := hheard dir rfl
    cases d with
    | _ =>
      cases dir with
      | _ => first | exact absurd rfl hne | exact Option.noConfusion | simp [commandedBy]

/-- A motor that is held at an end stays there. -/
theorem Machine.Held.happen (h : m.Sound) (hmt : mt ∈ limited) {e : Happening} (he : e.mechanical m)
    (hm : m.Held mt d) : (m.apply DEG_TO_STEPS e).Held mt d := by
  cases happening_fate DEG_TO_STEPS h hmt he with
  | turn heq =>
    rw [heq]
    refine ⟨?_, fun msg hmsg => hm.waiting msg ?_, ?_⟩
    · rw [task_word]
      exact hm.position
    · rw [task_queue, if_pos rfl] at hmsg
      exact List.mem_of_mem_tail hmsg
    · have hcommanded : commandedBy (m.driving mt) (m.heard mt) ≠ some !d := by
        refine commandedBy_ne hm.driving fun dir hdir => ?_
        obtain ⟨msg, hmsg, rfl⟩ := Option.mem_map.mp hdir
        exact hm.waiting msg (List.mem_of_mem_head? hmsg)
      rw [task_driving DEG_TO_STEPS h hmt]
      obtain hsame | ⟨hnone, -⟩ := checked_cases mt m.pt_value (commandedBy (m.driving mt) (m.heard mt))
      · rw [hsame]
        exact hcommanded
      · rw [hnone]
        exact nofun
  | stop msg hstop hqueue hdriving hword =>
    refine ⟨?_, ?_, ?_⟩
    · rw [hword]
      exact hm.position
    · rw [hqueue]
      intro y hy
      obtain hy | hy := List.mem_append.mp hy
      · exact hm.waiting y hy
      · rw [List.mem_singleton.mp hy, hstop]
        cases d with
        | _ => exact Direction.noConfusion
    · rw [hdriving]
      exact hm.driving
  | keep hqueue hdriving hkeeps =>
    refine ⟨hkeeps d hm.position hm.driving, ?_, ?_⟩
    · rw [hqueue]
      exact hm.waiting
    · rw [hdriving]
      exact hm.driving
  | halt hqueue hdriving hword =>
    refine ⟨?_, ?_, ?_⟩
    · rw [hword]
      exact hm.position
    · rw [hqueue]
      exact hm.waiting
    · rw [hdriving]
      exact nofun

end catbox.drive
