import CatLitterBox.Diag.Routine

open catbox.motor catbox.sensor program

namespace catbox.diag.routine

abbrev routine_spec : Spec Step Step.Answer (List Event) := .history Careful

/-- The step commands no other motor, and leaves the distance sensor alone. -/
def only (mt : Motor) : Step → Bool
  | .send m _ => m = mt
  | .set_tof_sensor_enable _ | .system_reset => false
  | _ => true

/-- The step commands no motor, and leaves the distance sensor alone. -/
def quiet : Step → Bool
  | .send .. | .set_tof_sensor_enable _ | .system_reset => false
  | _ => true

/-- All motors but one are settled. -/
structure Others (mt : Motor) (h : List Event) : Prop where
  settled : ∀ other, other ≠ mt → settled other h = true
  sensor : sensor_off h = true

structure All (h : List Event) : Prop where
  settled : ∀ mt, settled mt h = true
  sensor : sensor_off h = true

variable {h : List Event} {mt : Motor} {a : Step} {r : a.Answer} {α : Type}

/-- A motor that has come to rest is at rest until it is commanded. -/
theorem settled_cons (ha : ∀ msg, a ≠ .send mt msg) (hs : settled mt h = true) :
    settled mt (⟨a, r⟩ :: h) = true := by
  cases a with
  | send m msg =>
    refine (if_neg ?_).trans hs
    rintro rfl
    exact ha msg rfl
  | get_pt_status =>
    change (settled mt h || _ || _) = true
    rw [hs]
    rfl
  | get_motor_run m =>
    change (settled mt h || _) = true
    rw [hs]
    rfl
  | esp_timer_get_time =>
    change (settled mt h || _) = true
    rw [hs]
    rfl
  | _ => exact hs

theorem stopped_cons (ha : ∀ msg, a ≠ .send mt msg) (hs : stopped mt h = true) :
    stopped mt (⟨a, r⟩ :: h) = true := by
  cases a with
  | send m msg =>
    refine (if_neg ?_).trans hs
    rintro rfl
    exact ha msg rfl
  | _ => exact hs

theorem sensor_cons (ha : ∀ enable, a ≠ .set_tof_sensor_enable enable) (hs : sensor_off h = true) :
    sensor_off (⟨a, r⟩ :: h) = true := by
  cases a with
  | set_tof_sensor_enable enable => exact absurd rfl (ha enable)
  | _ => exact hs

theorem only_ne {other : Motor} (ha : only mt a = true) (hne : other ≠ mt) (msg : Message) :
    a ≠ .send other msg := by
  rintro rfl
  exact hne (of_decide_eq_true ha)

theorem only_sensor (ha : only mt a = true) (enable : Bool) : a ≠ .set_tof_sensor_enable enable := by
  rintro rfl
  cases ha

theorem quiet_only (ha : quiet a = true) (mt : Motor) : only mt a = true := by
  cases a with
  | send _ _ => cases ha
  | set_tof_sensor_enable _ => cases ha
  | system_reset => cases ha
  | _ => rfl

/-- With every motor settled, all others are. -/
theorem All.others (hall : All h) (mt : Motor) : Others mt h := ⟨fun other _ => hall.settled other, hall.sensor⟩

/-- A motor that settles completes the others. -/
theorem Others.all (hothers : Others mt h) (hs : routine.settled mt h = true) : All h where
  settled other := by
    by_cases hother : other = mt
    · rw [hother]
      exact hs
    · exact hothers.settled other hother
  sensor := hothers.sensor

/-- What is done to one motor leaves the others settled. -/
theorem Others.cons (hothers : Others mt h) (ha : only mt a = true) : Others mt (⟨a, r⟩ :: h) where
  settled other hne := settled_cons (only_ne ha hne) (hothers.settled other hne)
  sensor := sensor_cons (only_sensor ha) hothers.sensor

theorem Others.careful (hothers : Others mt h) (hmt : mt ≠ .MAIN_COVER_MOTOR) (ha : only mt a = true) :
    Careful a h := by
  cases a with
  | send m msg =>
    obtain rfl : m = mt := of_decide_eq_true ha
    exact ⟨hmt, hothers.settled⟩
  | system_reset => cases ha
  | _ => trivial

/-- Code for one motor leaves the others settled. -/
theorem wp_only (mt : Motor) {c : Code α} (hmt : mt ≠ .MAIN_COVER_MOTOR)
    (hc : c.Every fun a => only mt a = true)
    (hothers : Others mt h) : c.wp routine_spec (fun _ t => Others mt t) h :=
  Program.wp_history_of_every hc (fun _ _ ha ht => ht.careful hmt ha) (fun _ _ _ ha ht => ht.cons ha) hothers
    fun _ _ ht => ht

/-- A step that commands no motor leaves all of them settled. -/
theorem All.cons (hall : All h) (ha : quiet a = true) : All (⟨a, r⟩ :: h) where
  settled mt := settled_cons (fun msg heq => by rw [heq] at ha; cases ha) (hall.settled mt)
  sensor := sensor_cons (fun enable heq => by rw [heq] at ha; cases ha) hall.sensor

private theorem quiet_careful (ha : quiet a = true) : Careful a h := by
  cases a with
  | send _ _ => cases ha
  | set_tof_sensor_enable _ => cases ha
  | system_reset => cases ha
  | _ => trivial

theorem all_quiet (a : Step) (r : a.Answer) (h : List Event) (ha : quiet a = true) (hall : All h) :
    All (⟨a, r⟩ :: h) := hall.cons ha

/-- Code that commands no motor. -/
theorem wp_quiet {c : Code α} {I : List Event → Prop} (hI : ∀ a r h, quiet a = true → I h → I (⟨a, r⟩ :: h))
    (hc : c.Every fun a => quiet a = true) (hi : I h) : c.wp routine_spec (fun _ t => I t) h :=
  Program.wp_history_of_every hc (fun _ _ ha _ => quiet_careful ha) (fun a r s ha hs => hI a r s ha hs) hi
    fun _ _ ht => ht

/-- A command, when all the other motors are settled. -/
theorem wp_send {msg : Message} {f : Unit → Code α} {Q : α → List Event → Prop}
    (hothers : Others (motor_of msg.cmd) h) (hmt : motor_of msg.cmd ≠ .MAIN_COVER_MOTOR)
    (hf : (f ()).wp routine_spec Q (⟨.send (motor_of msg.cmd) msg, ()⟩ :: h)) :
    ((send msg).bind f).wp routine_spec Q h :=
  Program.wp_history_bind ⟨hmt, hothers.settled⟩ fun _ => hf

/-- A message to a motor leaves the others settled. -/
theorem wp_sent {msg : Message} {Q : Unit → List Event → Prop} (hothers : Others (motor_of msg.cmd) h)
    (hmt : motor_of msg.cmd ≠ .MAIN_COVER_MOTOR) (hQ : Q () (⟨.send (motor_of msg.cmd) msg, ()⟩ :: h)) :
    (send msg).wp routine_spec Q h := by
  refine ⟨⟨hmt, hothers.settled⟩, fun _ t ht => ?_⟩
  rw [show t = ⟨.send (motor_of msg.cmd) msg, ()⟩ :: h from ht]
  exact hQ

theorem wp_pt_check {f : Int → Code α} {Q : α → List Event → Prop}
    (hf : ∀ word : PtWord, (f (pt_check_word mt word)).wp routine_spec Q (⟨.get_pt_status, word⟩ :: h)) :
    ((pt_check mt).bind f).wp routine_spec Q h :=
  Program.wp_seq (Program.wp_history_bind trivial hf)

theorem pt_check_quiet (mt : Motor) : (pt_check mt).Every fun a => quiet a = true :=
  Program.every_perform_bind rfl fun _ => trivial

theorem wait_diag_operation_quiet (mt : Motor) (timeout : Int) (status : MotorStatus) :
    (wait_diag_operation mt timeout status).Every fun a => quiet a = true := by
  refine Program.every_perform_bind rfl fun _ => Program.every_perform_bind rfl fun start => ?_
  refine Program.every_repeated fun _ => ?_
  refine Program.every_perform_bind rfl fun _ => Program.every_bind (pt_check_quiet mt) fun ret => ?_
  refine Program.every_ite trivial (Program.every_perform_bind rfl fun now => ?_)
  exact Program.every_ite trivial (Program.every_perform_bind rfl fun running => trivial)

theorem every_only {c : Code α} (hc : c.Every fun a => quiet a = true) (mt : Motor) :
    c.Every fun a => only mt a = true := Program.every_mono (fun _ ha => quiet_only ha mt) hc

/-- A look at a motor that is out of the way. -/
theorem settled_seen {word : PtWord} (hseen : mt = .SCPINOUT_MOTOR ∧ pt_check_word mt word = 1 ∨
      mt = .WASTE_COVER_MOTOR ∧ pt_check_word mt word = -1) :
    settled mt (⟨.get_pt_status, word⟩ :: h) = true := by
  change (settled mt h || _ || _) = true
  obtain ⟨rfl, hword⟩ | ⟨rfl, hword⟩ := hseen
  · simp [hword]
  · simp [hword]

/-- A motor that has been sent a STOP is settled. -/
theorem settled_stop {msg : Message} (hmsg : msg.direction = .STOP) :
    settled mt (⟨.send mt msg, ()⟩ :: h) = true := by
  refine (if_pos rfl).trans ?_
  rw [hmsg]
  rfl

theorem stopped_stop {msg : Message} (hmsg : msg.direction = .STOP) :
    stopped mt (⟨.send mt msg, ()⟩ :: h) = true := by
  refine (if_pos rfl).trans ?_
  rw [hmsg]
  rfl

/-- The scoop goes out, all the other motors being settled, and the clock has said `start` since. -/
structure Outward (start : Int) (h : List Event) : Prop where
  others : Others .SCPINOUT_MOTOR h
  sent : sent_out h = true
  read : start ∈ outward h

/-- A step that commands nothing leaves the scoop on its way. -/
theorem Outward.cons {start : Int} (hout : Outward start h) (ha : quiet a = true) : Outward start (⟨a, r⟩ :: h) where
  others := hout.others.cons (quiet_only ha _)
  sent := by
    cases a with
    | send m msg => cases ha
    | _ => exact hout.sent
  read := by
    cases a with
    | send m msg => cases ha
    | esp_timer_get_time =>
      change start ∈ if sent_out h then _ else _
      rw [if_pos hout.sent]
      exact List.mem_cons_of_mem _ hout.read
    | _ => exact hout.read

private theorem settled_still {running : Bool} (hrunning : running = false) :
    settled mt (⟨.get_motor_run mt, running⟩ :: h) = true := by
  change (settled mt h || _) = true
  simp [hrunning]

/-- The scoop has been on its way for ten seconds. -/
theorem Outward.expire {start now : Int} (hout : Outward start h) (hlong : 10000 ≤ (now - start).tdiv 1000) :
    settled .SCPINOUT_MOTOR (⟨.esp_timer_get_time, now⟩ :: h) = true := by
  have hany : ((outward h).any fun start => 10000 ≤ (now - start).tdiv 1000) = true :=
    List.any_eq_true.mpr ⟨start, hout.read, decide_eq_true hlong⟩
  change (settled .SCPINOUT_MOTOR h || _) = true
  rw [hany]
  exact Bool.or_true _

/-- The wait for the scoop ends when it is seen out, when its time is over or when it stands still. -/
theorem wp_wait_out (hothers : Others .SCPINOUT_MOTOR h) (hsent : sent_out h = true) :
    (wait_diag_operation .SCPINOUT_MOTOR 10000 .MT_OPEN).wp routine_spec (fun _ t => All t) h := by
  refine Program.wp_history_bind trivial fun _ => Program.wp_history_bind trivial fun (start : Int) => ?_
  have hread : start ∈ outward (⟨.esp_timer_get_time, start⟩ :: ⟨.vTaskDelay 40, ()⟩ :: h) := by
    change start ∈ if sent_out h then _ else _
    rw [if_pos hsent]
    exact List.mem_cons_self
  refine Program.wp_repeated (fun _ => Outward start) ⟨(hothers.cons rfl).cons rfl, hsent, hread⟩ fun _ t ht => ?_
  refine Program.wp_history_bind trivial fun _ => wp_pt_check fun word => ?_
  have hlooked : Outward start (⟨.get_pt_status, word⟩ :: ⟨.vTaskDelay 10, ()⟩ :: t) := (ht.cons rfl).cons rfl
  refine Program.wp_ite (fun hseen => ?_) fun _ => ?_
  · have hword : pt_check_word .SCPINOUT_MOTOR word = 1 := by
      obtain ⟨hopen, -⟩ | ⟨-, hclose⟩ := hseen
      · exact hopen
      · cases hclose
    exact hlooked.others.all (settled_seen (.inl ⟨rfl, hword⟩))
  · refine Program.wp_history_bind trivial fun (now : Int) => Program.wp_ite (fun hlong => ?_) fun _ => ?_
    · exact (hlooked.cons rfl).others.all (hlooked.expire hlong)
    · refine Program.wp_history_bind trivial fun (running : Bool) => ?_
      have hturned := (hlooked.cons (a := .esp_timer_get_time) (r := now) rfl).cons
        (a := .get_motor_run .SCPINOUT_MOTOR) (r := running) rfl
      cases running with
      | true => exact hturned
      | false => exact hturned.others.all (settled_still rfl)

/-- The scoop is out of the way after `scoop_out`, as far as the routine can tell. -/
theorem wp_scoop_out (hothers : Others .SCPINOUT_MOTOR h) : scoop_out.wp routine_spec (fun _ t => All t) h := by
  refine wp_pt_check fun word => ?_
  have hlooked : Others .SCPINOUT_MOTOR (⟨.get_pt_status, word⟩ :: h) := hothers.cons rfl
  refine Program.wp_ite (fun hret => ?_) fun hret => ?_
  · exact wp_send hlooked nofun (Program.wp_seq (wp_wait_out (hlooked.cons rfl) rfl))
  · exact hlooked.all (settled_seen (.inl ⟨rfl, not_not.mp hret⟩))

/-- While the routine waits, no other motor is commanded. -/
theorem wp_waited {timeout : Int} {status : MotorStatus} {f : Int → Code α} {Q : α → List Event → Prop}
    (hothers : Others mt h) (hmt : mt ≠ .MAIN_COVER_MOTOR)
    (hf : ∀ n t, Others mt t → (f n).wp routine_spec Q t) :
    ((wait_diag_operation mt timeout status).bind f).wp routine_spec Q h :=
  Program.wp_seq (Program.wp_mono hf (wp_only mt hmt
    (every_only (wait_diag_operation_quiet mt timeout status) mt) hothers))

theorem wp_waste_close (hothers : Others .WASTE_COVER_MOTOR h) :
    waste_close.wp routine_spec (fun _ t => All t) h := by
  refine wp_pt_check fun word => ?_
  have hlooked : Others .WASTE_COVER_MOTOR (⟨.get_pt_status, word⟩ :: h) := hothers.cons rfl
  refine Program.wp_ite (fun hret => ?_) fun hret => ?_
  · refine wp_send hlooked nofun (wp_waited (hlooked.cons rfl) nofun fun _ t ht => ?_)
    exact wp_sent ht nofun ((ht.cons rfl).all (settled_stop rfl))
  · exact hlooked.all (settled_seen (.inr ⟨rfl, not_not.mp hret⟩))

/-- The scoop does not turn any more when the wait for it is over. -/
theorem wp_spin_ended {I : List Event → Prop} (hI : ∀ a r h, quiet a = true → I h → I (⟨a, r⟩ :: h))
    (hothers : Others .SCPSPIN_MOTOR h) (hi : I h) : spin_ended.wp routine_spec (fun _ t => All t ∧ I t) h := by
  refine Program.wp_repeated (fun _ t => Others .SCPSPIN_MOTOR t ∧ I t) ⟨hothers, hi⟩ fun _ t ht => ?_
  refine Program.wp_history_bind trivial fun _ => Program.wp_history_bind trivial fun (running : Bool) => ?_
  have hnext : Others .SCPSPIN_MOTOR (⟨.get_motor_run .SCPSPIN_MOTOR, running⟩ ::
      ⟨.vTaskDelay MOTOR_CMD_TRANSFER_DELAY, ()⟩ :: t) := (ht.1.cons rfl).cons rfl
  have hkept := hI (.get_motor_run .SCPSPIN_MOTOR) running _ rfl
      (hI (.vTaskDelay MOTOR_CMD_TRANSFER_DELAY) () t rfl ht.2)
  cases running with
  | true => exact ⟨hnext, hkept⟩
  | false =>
    refine ⟨hnext.all ?_, hkept⟩
    change (_ || _) = true
    exact Bool.or_true _

/-- The search for the origin may leave the scoop turning. -/
theorem find_origin_only : find_origin.Every fun a => only .SCPSPIN_MOTOR a = true := by
  refine Program.every_perform_bind rfl fun word => Program.every_ite trivial ?_
  refine Program.every_perform_bind rfl fun _ => Program.every_repeated fun _ => ?_
  refine Program.every_perform_bind rfl fun _ => Program.every_perform_bind rfl fun word => ?_
  refine Program.every_ite (Program.every_perform_bind rfl fun _ => trivial) ?_
  exact Program.every_perform_bind rfl fun running => trivial

/-- Still stopped, when the scoop has been driven in and stopped and only the spin has been commanded since. -/
theorem stopped_quiet (a : Step) (r : a.Answer) (h : List Event) (ha : quiet a = true)
    (hs : stopped .SCPINOUT_MOTOR h = true) : stopped .SCPINOUT_MOTOR (⟨a, r⟩ :: h) = true := by
  refine stopped_cons (fun msg heq => ?_) hs
  rw [heq] at ha
  cases ha

theorem wp_finish_waste (hothers : Others .WASTE_COVER_MOTOR h) :
    finish_waste.wp routine_spec (fun _ t => All t ∧ stopped .SCPINOUT_MOTOR t = true) h := by
  refine Program.wp_seq (Program.wp_mono ?_ (wp_waste_close hothers))
  intro _ t hclosed
  refine Program.wp_seq (Program.wp_mono ?_ (wp_only .SCPSPIN_MOTOR nofun find_origin_only
    (hclosed.others .SCPSPIN_MOTOR)))
  intro _ t horigin
  refine wp_send horigin nofun (Program.wp_seq (Program.wp_mono ?_ (wp_spin_ended (I := fun _ => True)
    (fun _ _ _ _ _ => trivial) (horigin.cons rfl) trivial)))
  rintro _ t ⟨hback, -⟩
  refine wp_send (hback.others _) nofun (wp_waited ((hback.others _).cons rfl) nofun fun _ t hin => ?_)
  refine wp_send hin nofun ?_
  have hstopped : All (⟨.send .SCPINOUT_MOTOR (diag_message .SCP_INOUT_CMD 0 .STOP 0), ()⟩ :: t) :=
    (hin.cons rfl).all (settled_stop rfl)
  refine wp_send (hstopped.others _) nofun ?_
  exact wp_spin_ended stopped_quiet ((hstopped.others _).cons rfl) (stopped_cons nofun (stopped_stop rfl))

/-- The motor that a mode tests; the first mode tests none. -/
def tested : DiagMode → Motor
  | .DIAG_SENSOR_RF_MODE | .DIAG_PLATE_MODE => .PLATE_MOTOR
  | .DIAG_SCPINOUT_MODE => .SCPINOUT_MOTOR
  | .DIAG_SCPSPIN_MODE => .SCPSPIN_MOTOR
  | .DIAG_WASTE_MODE => .WASTE_COVER_MOTOR

theorem tested_ne (mode : DiagMode) : tested mode ≠ .MAIN_COVER_MOTOR := by
  cases mode <;> nofun

private theorem mem_side_message {diag_func pt : Int} {position : Bool} {to_side : Direction → Message} {msg : Message}
    (hmem : msg ∈ side_message diag_func pt position to_side) : ∃ side, msg = to_side side := by
  unfold side_message at hmem
  split_ifs at hmem
  · cases hmem
  · exact ⟨.FORWARD, List.mem_singleton.mp hmem⟩
  · cases hmem
  · exact ⟨.REVERSE, List.mem_singleton.mp hmem⟩
  · cases hmem

theorem next_diag_func_tested {mode : DiagMode} {diag_func pt : Int} {msg : Message}
    (hmem : msg ∈ (diag.next_diag_func mode diag_func pt).2) : motor_of msg.cmd = tested mode := by
  cases mode with
  | DIAG_SENSOR_RF_MODE => cases hmem
  | _ =>
    simp only [diag.next_diag_func] at hmem
    obtain ⟨side, rfl⟩ := mem_side_message hmem
    rfl

private theorem send_all_only {messages : List Message} (hmotor : ∀ msg ∈ messages, motor_of msg.cmd = mt) :
    (send_all messages).Every fun a => only mt a = true := by
  induction messages with
  | nil => trivial
  | cons msg messages ih =>
    refine Program.every_perform_bind (decide_eq_true (hmotor msg List.mem_cons_self)) fun _ => ?_
    exact ih fun msg hmem => hmotor msg (List.mem_cons_of_mem _ hmem)

private theorem look_quiet (mode : DiagMode) : (look mode).Every fun a => quiet a = true := by
  cases mode with
  | DIAG_SCPINOUT_MODE => exact pt_check_quiet _
  | DIAG_WASTE_MODE => exact pt_check_quiet _
  | _ => trivial

private theorem next_diag_func_only (mode : DiagMode) (diag_func : Int) :
    (next_diag_func mode diag_func).Every fun a => only (tested mode) a = true := by
  refine Program.every_bind (every_only (look_quiet mode) _) fun pt => ?_
  exact Program.every_bind (send_all_only fun _ => next_diag_func_tested) fun _ => trivial

theorem diag_sensor_rf_quiet (mode : DiagMode) : (diag_sensor_rf mode).Every fun a => quiet a = true := by
  refine Program.every_ite ?_ trivial
  exact Program.every_perform_bind rfl fun _ => Program.every_perform_bind rfl fun _ =>
    Program.every_perform rfl

/-- A turn of a mode's loop commands the motor that the mode tests, if any. -/
theorem diag_turn_only (mode : DiagMode) (diag_func : Int) :
    (diag_turn mode diag_func).Every fun a => only (tested mode) a = true := by
  refine Program.every_perform_bind rfl fun (left : Bool) => Program.every_ite ?_ ?_
  · exact Program.every_perform_bind rfl fun _ => trivial
  · refine Program.every_bind ?_ fun diag_func => Program.every_bind (every_only (diag_sensor_rf_quiet mode) _)
      fun _ => Program.every_perform_bind rfl fun _ => trivial
    refine Program.every_perform_bind rfl fun (requested : Bool) => Program.every_ite ?_ trivial
    exact Program.every_bind (next_diag_func_only mode _) fun _ =>
      Program.every_perform_bind rfl fun _ => trivial

theorem pt_send_only {msg : Message} {looked : Motor} {seen : Int} (hmsg : motor_of msg.cmd = mt) :
    (((pt_check looked).bind fun ret => if ret ≠ seen then send msg else return ()).Every
      fun a => only mt a = true) :=
  Program.every_bind (every_only (pt_check_quiet looked) mt) fun _ =>
    Program.every_ite (Program.every_perform (decide_eq_true hmsg)) trivial

/-- A mode that tests a motor begins: the scoop is out of the way before another motor is commanded. -/
theorem wp_start_diag_mode {mode : DiagMode} (hmode : mode ≠ .DIAG_SENSOR_RF_MODE) (hall : All h) :
    (start_diag_mode mode).wp routine_spec (fun _ t => Others (tested mode) t) h := by
  cases mode with
  | DIAG_SENSOR_RF_MODE => exact absurd rfl hmode
  | DIAG_PLATE_MODE => exact wp_sent (hall.others _) nofun ((hall.others _).cons rfl)
  | DIAG_SCPINOUT_MODE => exact wp_only .SCPINOUT_MOTOR nofun (pt_send_only rfl) (hall.others _)
  | DIAG_SCPSPIN_MODE =>
    refine Program.wp_seq (Program.wp_mono (fun _ t hout => ?_) (wp_scoop_out (hall.others _)))
    exact wp_sent (hout.others _) nofun ((hout.others _).cons rfl)
  | DIAG_WASTE_MODE =>
    refine Program.wp_seq (Program.wp_mono (fun _ t hout => ?_) (wp_scoop_out (hall.others _)))
    exact wp_only .WASTE_COVER_MOTOR nofun (pt_send_only rfl) (hout.others _)

private theorem wp_finish_diag_mode {mode : DiagMode} (hmode : mode ≠ .DIAG_SENSOR_RF_MODE)
    (hothers : Others (tested mode) h) : (finish_diag_mode mode).wp routine_spec
      (fun _ t => All t ∧ (mode = .DIAG_WASTE_MODE → stopped .SCPINOUT_MOTOR t = true)) h := by
  cases mode with
  | DIAG_SENSOR_RF_MODE => exact absurd rfl hmode
  | DIAG_PLATE_MODE => exact wp_sent hothers nofun ⟨(hothers.cons rfl).all (settled_stop rfl), nofun⟩
  | DIAG_SCPINOUT_MODE => exact Program.wp_mono (fun _ _ hall => ⟨hall, nofun⟩) (wp_scoop_out hothers)
  | DIAG_SCPSPIN_MODE => exact wp_sent hothers nofun ⟨(hothers.cons rfl).all (settled_stop rfl), nofun⟩
  | DIAG_WASTE_MODE => exact Program.wp_mono (fun _ _ hall => ⟨hall.1, fun _ => hall.2⟩) (wp_finish_waste hothers)

/-- A mode begins and ends with all motors settled. -/
theorem wp_do_diag_mode {mode : DiagMode} (hmode : mode ≠ .DIAG_SENSOR_RF_MODE) (hall : All h) :
    (do_diag_mode mode).wp routine_spec
      (fun _ t => All t ∧ (mode = .DIAG_WASTE_MODE → stopped .SCPINOUT_MOTOR t = true)) h := by
  refine Program.wp_seq (Program.wp_mono (fun _ t hstarted => ?_) (wp_start_diag_mode hmode hall))
  refine Program.wp_seq (Program.wp_mono (fun _ u hleft => ?_) (wp_only (tested mode) (tested_ne mode)
    (Program.every_repeated (diag_turn_only mode)) hstarted))
  exact wp_finish_diag_mode hmode hleft

private theorem diag_turn_quiet (diag_func : Int) :
    (diag_turn .DIAG_SENSOR_RF_MODE diag_func).Every fun a => quiet a = true := by
  refine Program.every_perform_bind rfl fun (left : Bool) => Program.every_ite ?_ ?_
  · exact Program.every_perform_bind rfl fun _ => trivial
  · refine Program.every_bind ?_ fun diag_func => Program.every_bind (diag_sensor_rf_quiet _)
      fun _ => Program.every_perform_bind rfl fun _ => trivial
    exact Program.every_perform_bind rfl fun (requested : Bool) =>
      Program.every_ite (Program.every_perform_bind rfl fun _ => trivial) trivial

/-- The first mode commands no motor, and switches the distance sensor off again. -/
theorem wp_sensor_mode (hall : All h) :
    (do_diag_mode .DIAG_SENSOR_RF_MODE).wp routine_spec (fun _ t => All t) h := by
  refine Program.wp_history_bind trivial fun _ => ?_
  refine Program.wp_seq (Program.wp_mono (fun _ t hsettled => ?_)
    (wp_quiet (I := fun t => ∀ mt, settled mt t = true)
      (fun a r h ha hs mt => settled_cons (fun msg heq => by rw [heq] at ha; cases ha) (hs mt))
      (Program.every_repeated diag_turn_quiet) fun mt => settled_cons nofun (hall.settled mt)))
  refine ⟨trivial, fun _ u hu => ?_⟩
  rw [show u = ⟨.set_tof_sensor_enable false, ()⟩ :: t from hu]
  exact ⟨fun mt => settled_cons nofun (hsettled mt), rfl⟩

private theorem key_released_quiet : key_released.Every fun a => quiet a = true := by
  refine Program.every_repeated fun _ => Program.every_perform_bind rfl fun (pressed : Bool) => ?_
  exact Program.every_ite (Program.every_perform_bind rfl fun _ => trivial)
    (Program.every_perform_bind rfl fun _ => trivial)

private theorem wp_diag_process_task : diag_process_task.wp routine_spec (fun _ _ => True) [] := by
  have hstart : All [] := ⟨fun _ => rfl, rfl⟩
  refine Program.wp_history_bind trivial fun _ => ?_
  refine Program.wp_seq (Program.wp_mono (fun _ t hreleased => ?_)
    (wp_quiet all_quiet key_released_quiet (hstart.cons rfl)))
  refine Program.wp_history_bind trivial fun _ => Program.wp_history_bind trivial fun _ => ?_
  refine Program.wp_seq (Program.wp_mono (fun _ t hsensor => ?_)
    (wp_sensor_mode ((hreleased.cons rfl).cons rfl)))
  refine Program.wp_seq (Program.wp_mono (fun _ t hplate => ?_) (wp_do_diag_mode nofun hsensor))
  refine Program.wp_seq (Program.wp_mono (fun _ t hinout => ?_) (wp_do_diag_mode nofun hplate.1))
  refine Program.wp_seq (Program.wp_mono (fun _ t hspin => ?_) (wp_do_diag_mode nofun hinout.1))
  refine Program.wp_seq (Program.wp_mono (fun _ t hwaste => ?_) (wp_do_diag_mode nofun hspin.1))
  exact ⟨⟨hwaste.1.settled, hwaste.2 rfl, hwaste.1.sensor⟩, fun _ _ _ => trivial⟩

/-- Whatever the sensors, the motors, the clock and the keys answer, the routine commands a motor only while all
the others have come to rest as far as it knows, and never the main cover. A scoop that was sent out counts from when
it is seen out or still, or when its ten seconds are over. The firmware is started again only with everything at
rest, the scoop stopped and the distance sensor off. -/
theorem every_step_careful (oracle : (a : Step) → List Event → a.Answer) (n : Nat) :
    Program.Respects Careful (diag_process_task.recorded oracle n).2 :=
  Program.respects_recorded wp_diag_process_task n

end catbox.diag.routine
