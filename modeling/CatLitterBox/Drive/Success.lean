import CatLitterBox.Drive.Arrival

open catbox.motor catbox.sensor program program.Program temporal

namespace catbox.drive

/-- Where a scenario that succeeds leaves the motors. `motor_calibration` moves the scoop only if it is out. -/
def goal : Scenario → List (Motor × Bool)
  | .do_clean | .do_clean_resume_recovery =>
    [(.MAIN_COVER_MOTOR, false), (.SCPINOUT_MOTOR, false), (.WASTE_COVER_MOTOR, false)]
  | .motor_calibration => []
  | .motor_calibration_recovery => [(.SCPINOUT_MOTOR, false)]
  | .do_manage_start => [(.SCPINOUT_MOTOR, true), (.MAIN_COVER_MOTOR, true)]
  | .do_manage_finish => [(.MAIN_COVER_MOTOR, false), (.SCPINOUT_MOTOR, false)]

/-- Of the results, only 0 promises something. -/
def Achieves (K : List (Motor × Bool)) (r : Int) (m : Machine) : Prop := r = 0 → ∃ L, Kept L K m

variable {α : Type} {m s : Machine} {mt : Motor} {d : Bool} {L : List Motor} {K : List (Motor × Bool)}
  {Q : α → Machine → Prop} {DEG_TO_STEPS : UInt32 → UInt32}

/-- A scenario that has failed has nothing to achieve. -/
theorem achieves_failed {r : Int} (hr : r ≠ 0) : Achieves K r m := fun hzero => absurd hzero hr

theorem Kept.forget (h : Kept L K m) : Kept [] [] m := ⟨h.sound, nofun, nofun, nofun, nofun⟩

/-- A scenario may rely on less. -/
theorem Kept.weaken {L' : List Motor} {K' : List (Motor × Bool)} (h : Kept L K m) (hL : ∀ mt ∈ L', mt ∈ L)
    (hK : ∀ e ∈ K', e ∈ K) : Kept L' K' m where
  sound := h.sound
  settles mt hmt := h.settles mt (hL mt hmt)
  settling mt hmt := h.settling mt (hL mt hmt)
  limits e he := h.limits e (hK e he)
  held e he := h.held e (hK e he)

/-- A command to a motor that goes to the same end, or that nothing is kept of. -/
theorem gentle_send {msg : Message} (hcmd : msg.cmd = motor_cmd mt) (hL : mt ∈ L → msg.direction ≠ .FORWARD)
    (hK : ∀ d, (mt, d) ∈ K → msg.direction ≠ toward !d) : Gentle L K (.send mt msg) :=
  ⟨courteous_send hL hK, decide_eq_true hcmd⟩

theorem gentle_stop {msg : Message} (hcmd : msg.cmd = motor_cmd mt) (h : msg.direction = .STOP) :
    Gentle L K (.send mt msg) := ⟨courteous_stop h, decide_eq_true hcmd⟩

/-- Where nothing is kept, a message need only be obeyed. -/
theorem gentle_free {msg : Message} (hcmd : msg.cmd = motor_cmd mt) : Gentle [] [] (.send mt msg) :=
  gentle_send hcmd (fun hmem => absurd hmem List.not_mem_nil) fun _ hmem => absurd hmem List.not_mem_nil

/-- A motor that is stopped, or sent to its closed end, will not be driven open. -/
theorem wp_settles {a : Act} {f : a.Answer → Code α} {dir : Direction} (hmt : mt ∈ limited) (ha : Gentle L K a)
    (hcommand : a.command mt = some dir) (hdir : dir ≠ .FORWARD) (hs : Kept L K s)
    (hf : ∀ r t, Kept (mt :: L) K t → (f r).wp (loop DEG_TO_STEPS) Q t) :
    (a.code.bind f).wp (loop DEG_TO_STEPS) Q s := by
  apply wp_perform_bind trivial
  rintro r t ⟨u, hsu, -, hanswer⟩
  obtain rfl : (u.perform a).2 = t := congrArg Prod.snd hanswer
  have ht : Kept L K (u.perform a).2 := (hs.changes hsu).perform ha
  have hsettling : (u.perform a).2.Settling mt false := by
    unfold Machine.Settling
    rw [command_bound hcommand u]
    cases dir with
    | FORWARD => exact absurd rfl hdir
    | _ => simp [commandedBy]
  exact hf r _
    { ht with
      settles := List.forall_mem_cons.mpr ⟨hmt, ht.settles⟩
      settling := List.forall_mem_cons.mpr ⟨hsettling, ht.settling⟩ }

/-- A command toward an end, of a motor that is not kept at the other one. -/
theorem gentle_toward {msg : Message} (hcmd : msg.cmd = motor_cmd mt) (hdir : msg.direction = toward d)
    (hL : d = true → mt ∉ L) (hK : (mt, !d) ∉ K) : Gentle L K (.send mt msg) := by
  refine ⟨courteous_send (fun hmem => ?_) fun d' hmem => ?_, decide_eq_true hcmd⟩
  · rw [hdir]
    cases d with
    | true => exact absurd hmem (hL rfl)
    | false => exact Direction.noConfusion
  · rw [hdir]
    intro heq
    cases d with
    | true =>
      cases d' with
      | true => cases heq
      | false => exact hK hmem
    | false =>
      cases d' with
      | true => exact hK hmem
      | false => cases heq

theorem command_toward {msg : Message} (hdir : msg.direction = toward d) :
    Act.command mt (.send mt msg) = some (toward d) := by
  rw [Act.command, if_pos rfl, hdir]

/-- The soft start sets the main cover going, and its ramp does not send it back. -/
theorem wp_soft {target_speed : Nat} {f : Unit → Code α} (hL : d = true → .MAIN_COVER_MOTOR ∉ L)
    (hK : (.MAIN_COVER_MOTOR, !d) ∉ K) (hs : Kept L K s)
    (hf : ∀ r t, Travels L K .MAIN_COVER_MOTOR d t → (f r).wp (loop DEG_TO_STEPS) Q t) :
    ((drive_main_cover_soft (toward d) target_speed).bind f).wp (loop DEG_TO_STEPS) Q s := by
  have hmt : Motor.MAIN_COVER_MOTOR ∈ limited := by decide
  have hsend (msg : Message) (hcmd : msg.cmd = .MAIN_COVER_CMD) (hdir : msg.direction = toward d) :
      Gentle L K (.send .MAIN_COVER_MOTOR msg) := gentle_toward hcmd hdir hL hK
  apply wp_seq
  refine wp_kept_bind (observes_gentle.delay _) hs fun _ t ht => ?_
  refine wp_sets_going (hsend _ rfl rfl) (command_toward rfl) ht fun _ t ht => ?_
  refine wp_travels_bind hmt (observes_gentle.delay _) (.inl rfl) ht fun _ t ht => ?_
  refine wp_repeated (fun _ => Travels L K .MAIN_COVER_MOTOR d) ht fun duty t ht => ?_
  refine wp_ite (fun _ => ?_) fun _ => hf () t ht
  refine wp_travels_bind hmt (hsend _ rfl rfl) (.inr (command_toward rfl)) ht fun _ t ht => ?_
  exact wp_travels_bind hmt (observes_gentle.delay _) (.inl rfl) ht fun _ t ht => ht

/-- A command toward an end, a delay and the wait for that end, in a sequence whose failure ends it. -/
theorem wp_goes {msg : Message} {ms : Nat} {timeout : Int} {c e : Code α} (hmt : mt ∈ limited)
    (hcmd : msg.cmd = motor_cmd mt) (hdir : msg.direction = toward d) (hL : d = true → mt ∉ L)
    (hK : (mt, !d) ∉ K) (hs : Kept L K s) (hfail : ∀ t, Kept L K t → c.wp (loop DEG_TO_STEPS) Q t)
    (hok : ∀ t, Kept L ((mt, d) :: K) t → e.wp (loop DEG_TO_STEPS) Q t) :
    ((Act.code (.send mt msg)).bind fun _ => (vTaskDelay ms).bind fun _ =>
      (wait_motor_operation mt timeout (awaited d)).bind fun ret => if ret != 0 then c else e).wp
      (loop DEG_TO_STEPS) Q s := by
  refine wp_sets_going (gentle_toward hcmd hdir hL hK) (command_toward hdir) hs fun _ t ht => ?_
  refine wp_travels_bind hmt (observes_gentle.delay _) (.inl rfl) ht fun _ t ht => ?_
  exact wp_arrives hmt ht hfail hok

theorem do_manage_start_achieves (h : m.Sound) :
    do_manage_start.wp (loop DEG_TO_STEPS) (Achieves (goal .do_manage_start)) m := by
  have hexit (t : Machine) :
      (manage_exit.bind fun ret => .ret ret).wp (loop DEG_TO_STEPS) (Achieves (goal .do_manage_start)) t :=
    wp_seq (wp_perform_bind trivial fun _ _ _ => achieves_failed (by decide))
  have hs : Kept [] [] m := ⟨h, nofun, nofun, nofun, nofun⟩
  refine wp_kept_bind (gentle_of_none (fun _ => rfl) rfl) hs fun _ t ht => ?_
  refine wp_kept_bind (gentle_of_none (fun _ => rfl) rfl) ht fun _ t ht => ?_
  refine wp_soft (d := true) (by decide) (by decide) ht fun _ t ht => ?_
  refine wp_travels_bind (by decide) (observes_gentle.delay _) (.inl rfl) ht fun _ t ht => ?_
  refine wp_arrives (by decide) ht (fun t _ => hexit t) fun t ht => ?_
  refine wp_kept_bind (gentle_stop rfl rfl) ht fun _ t ht => ?_
  refine wp_goes (d := true) (by decide) rfl rfl (by decide) (by decide) ht (fun t _ => hexit t) fun t ht => ?_
  refine wp_kept_bind (gentle_stop rfl rfl) ht fun _ t ht => ?_
  exact wp_kept_bind (gentle_of_none (fun _ => rfl) rfl) ht fun _ t ht _ => ⟨_, ht⟩

theorem do_manage_finish_achieves (h : m.Sound) :
    do_manage_finish.wp (loop DEG_TO_STEPS) (Achieves (goal .do_manage_finish)) m := by
  have hexit (t : Machine) :
      (manage_exit.bind fun ret => .ret ret).wp (loop DEG_TO_STEPS) (Achieves (goal .do_manage_finish)) t :=
    wp_seq (wp_perform_bind trivial fun _ _ _ => achieves_failed (by decide))
  have hs : Kept [] [] m := ⟨h, nofun, nofun, nofun, nofun⟩
  refine wp_kept_bind (gentle_of_none (fun _ => rfl) rfl) hs fun _ t ht => ?_
  refine wp_goes (d := false) (by decide) rfl rfl (by decide) (by decide) ht (fun t _ => hexit t) fun t ht => ?_
  refine wp_kept_bind (gentle_stop rfl rfl) ht fun _ t ht => ?_
  refine wp_soft (d := false) (by decide) (by decide) ht fun _ t ht => ?_
  refine wp_travels_bind (by decide) (observes_gentle.delay _) (.inl rfl) ht fun _ t ht => ?_
  refine wp_arrives (by decide) ht (fun t _ => hexit t) fun t ht => ?_
  refine wp_kept_bind (gentle_stop rfl rfl) ht fun _ t ht => ?_
  refine wp_kept_bind (gentle_of_none (fun _ => rfl) rfl) ht fun _ t ht => ?_
  exact wp_kept_bind (gentle_of_none (fun _ => rfl) rfl) ht fun _ t ht _ => ⟨_, ht⟩

/-- What the calibrations do to the motors that are kept. -/
theorem calibrates_courteous (hL : .SCPSPIN_MOTOR ∉ L)
    (hK : ∀ e ∈ K, e.1 ≠ .SCPSPIN_MOTOR ∧ e.2 = false) : Calibrates (Courteous L K) where
  pt _ := courteous_of_none fun _ => rfl
  run _ _ := courteous_of_none fun _ => rfl
  time := courteous_of_none fun _ => rfl
  delay _ := courteous_of_none fun _ => rfl
  read _ _ := courteous_of_none fun _ => rfl
  spin _ := courteous_send (fun hmem => absurd hmem hL) fun _ hmem => absurd rfl (hK _ hmem).1
  scoop _ hmsg := by
    refine courteous_send (fun _ => hmsg) fun d hmem => ?_
    obtain rfl : d = false := (hK _ hmem).2
    exact hmsg
  clear := courteous_of_none fun _ => rfl

/-- The search for the origin of the spin motor sends no motor where it should not go. -/
theorem origin_gentle {dir : Direction} (h : Calibrates (Courteous L K)) :
    (scp_spin_find_st_origin dir).Every (Gentle L K) :=
  gentle_every (scp_spin_find_st_origin_addresses dir) (scp_spin_find_st_origin_every h.toObserves h.spin)

/-- A wait is gentle. -/
theorem wait_gentle {timeout : Int} {status : MotorStatus} :
    (wait_motor_operation mt timeout status).Every (Gentle L K) :=
  wait_motor_operation_every observes_gentle

theorem motor_calibration_recovery_achieves (h : m.Sound) :
    motor_calibration_recovery.wp (loop DEG_TO_STEPS) (Achieves (goal .motor_calibration_recovery)) m := by
  have hcalm {K : List (Motor × Bool)} (hK : ∀ e ∈ K, e.1 ≠ .SCPSPIN_MOTOR ∧ e.2 = false) :
      Calibrates (Courteous [] K) := calibrates_courteous (by decide) hK
  have habort (t : Machine) :
      (calib_abort.bind fun ret => .ret ret).wp (loop DEG_TO_STEPS)
        (Achieves (goal .motor_calibration_recovery)) t := by
    refine wp_seq (wp_perform_bind trivial fun _ _ _ => ?_)
    exact wp_perform_bind trivial fun _ _ _ => achieves_failed (by decide)
  have hspin {K : List (Motor × Bool)} (hK : .SCPSPIN_MOTOR ∉ K.map Prod.fst) (msg : Message)
      (hmsg : msg.cmd = .SCP_SPIN_CMD) : Gentle [] K (.send .SCPSPIN_MOTOR msg) :=
    gentle_send hmsg nofun fun d hmem => absurd (List.mem_map_of_mem (f := Prod.fst) hmem) hK
  have hs : Kept [] [] m := ⟨h, nofun, nofun, nofun, nofun⟩
  refine wp_kept_bind (gentle_of_none (fun _ => rfl) rfl) hs fun _ t ht => ?_
  refine wp_seq (wp_kept (origin_gentle (hcalm (by decide))) ht fun ret t ht =>
    wp_ite (fun _ => habort t) fun _ => ?_)
  refine wp_kept_bind (observes_gentle.read _ _) ht fun stop t ht => wp_ite (fun _ => habort t) fun _ => ?_
  refine wp_kept_bind (observes_gentle.delay _) ht fun _ t ht => ?_
  refine wp_kept_bind (hspin (by decide) _ rfl) ht fun _ t ht => ?_
  refine wp_kept_bind (observes_gentle.delay _) ht fun _ t ht => ?_
  refine wp_seq (wp_kept wait_gentle ht fun ret t ht => wp_ite (fun _ => habort t) fun _ => ?_)
  refine wp_kept_bind (hspin (by decide) _ rfl) ht fun _ t ht => ?_
  refine wp_kept_bind (observes_gentle.delay _) ht fun _ t ht => ?_
  refine wp_kept_bind (observes_gentle.read _ _) ht fun stop t ht => wp_ite (fun _ => habort t) fun _ => ?_
  refine wp_goes (d := false) (by decide) rfl rfl (by decide) (by decide) ht
    (fun t _ => habort t) fun t ht => ?_
  -- from here on the scoop is held in
  have hclosed : ∀ e ∈ [(Motor.SCPINOUT_MOTOR, false)], e.1 ≠ .SCPSPIN_MOTOR ∧ e.2 = false := by decide
  refine wp_kept_bind (gentle_stop rfl rfl) ht fun _ t ht => ?_
  refine wp_kept_bind (observes_gentle.delay _) ht fun _ t ht => ?_
  refine wp_kept_bind (observes_gentle.read _ _) ht fun stop t ht => wp_ite (fun _ => habort t) fun _ => ?_
  refine wp_seq (wp_kept (origin_gentle (hcalm hclosed)) ht fun ret t ht =>
    wp_ite (fun _ => habort t) fun _ => ?_)
  refine wp_kept_bind (observes_gentle.delay _) ht fun _ t ht => ?_
  refine wp_kept_bind (hspin (by decide) _ rfl) ht fun _ t ht => ?_
  refine wp_kept_bind (observes_gentle.delay _) ht fun _ t ht => ?_
  refine wp_seq (wp_kept wait_gentle ht fun ret t ht => wp_ite (fun _ => habort t) fun _ => ?_)
  refine wp_kept_bind (hspin (by decide) _ rfl) ht fun _ t ht => ?_
  exact wp_kept_bind (observes_gentle.delay _) ht fun _ t ht _ => ⟨_, ht⟩

/-- A read of the word where the closed end of a motor is looked for, which nothing will leave. -/
theorem wp_look {p : Place} {f : PtWord → Code α} (hp : looks p = some mt) (hmt : mt ∈ L) (hs : Kept L K s)
    (hf : ∀ (word : PtWord) t, Kept L K t → (AtLimit mt word false → Kept L ((mt, false) :: K) t) →
      (p = .recovery_step 4 → AtLimit .MAIN_COVER_MOTOR word true ∨ AtLimit .MAIN_COVER_MOTOR word false) →
      (f word).wp (loop DEG_TO_STEPS) Q t) :
    ((get_pt_status p).bind f).wp (loop DEG_TO_STEPS) Q s := by
  apply wp_perform_bind trivial
  rintro word t ⟨u, hsu, hprompt, hanswer⟩
  obtain ⟨rfl, rfl⟩ := Prod.mk.inj hanswer
  have hu : Kept L K u := hs.changes hsu
  have hlook (hend : AtLimit mt u.pt_value false) : Kept L ((mt, false) :: K) u :=
    { hu with
      limits := List.forall_mem_cons.mpr ⟨hu.settles mt hmt, hu.limits⟩
      held := by
        refine List.forall_mem_cons.mpr ⟨⟨hend, fun msg hmsg => ?_, ?_⟩, hu.held⟩
        · rw [hprompt.1 mt hp] at hmsg
          exact absurd hmsg List.not_mem_nil
        · rw [← bound_nil (hprompt.1 mt hp)]
          exact hu.settling mt hmt }
  exact hf _ _ (hu.perform (observes_gentle.pt _))
    (fun hend => (hlook hend).perform (observes_gentle.pt _)) hprompt.2

theorem recovery_close_waste_keeps {Q : Bool → Machine → Prop} (hs : Kept limited [] s)
    (hfail : ∀ t, Q true t)
    (hok : ∀ t, Kept limited [(.WASTE_COVER_MOTOR, false)] t → Q false t) :
    recovery_close_waste.wp (loop DEG_TO_STEPS) Q s := by
  refine wp_look rfl (by decide) hs fun pt t ht hclosed _ => wp_ite (fun hpt => hok t (hclosed ?_)) fun _ => ?_
  · exact (atLimit_iff limited_waste pt false).mpr hpt
  refine wp_goes (d := false) (by decide) rfl rfl nofun (by decide) ht (fun t _ => hfail t) fun t ht => ?_
  refine wp_kept_bind (gentle_stop rfl rfl) ht fun _ t ht => ?_
  exact wp_kept_bind (observes_gentle.delay _) ht fun _ t ht => hok t ht

theorem recovery_calibrate_gentle (h : Calibrates (Courteous L K)) : recovery_calibrate.Every (Gentle L K) := by
  have hcalibrate := gentle_every motor_calibration_recovery_addresses (motor_calibration_recovery_every h)
  refine every_bind hcalibrate fun ret => every_ite trivial ?_
  exact every_perform_bind (observes_gentle.delay _) fun _ => trivial

private theorem recovery_scoop_in_keeps {Q : Bool → Machine → Prop} (hK : (.SCPINOUT_MOTOR, true) ∉ K)
    (hs : Kept limited K s) (hfail : ∀ t, Q true t)
    (hok : ∀ t, Kept limited ((.SCPINOUT_MOTOR, false) :: K) t → Q false t) :
    recovery_scoop_in.wp (loop DEG_TO_STEPS) Q s := by
  refine wp_look rfl (by decide) hs fun pt t ht hclosed _ => wp_ite (fun hpt => hok t (hclosed ?_)) fun _ => ?_
  · exact (atLimit_iff limited_scpinout pt false).mpr hpt
  refine wp_goes (d := false) (by decide) rfl rfl nofun hK ht (fun t _ => hfail t) fun t ht => ?_
  refine wp_kept_bind (gentle_stop rfl rfl) ht fun _ t ht => ?_
  exact wp_kept_bind (observes_gentle.delay _) ht fun _ t ht => hok t ht

/-- Step 4 skips a cover that does not report open. It then reports closed. -/
theorem recovery_close_cover_keeps {Q : Bool → Machine → Prop} (hK : (.MAIN_COVER_MOTOR, true) ∉ K)
    (hs : Kept limited K s) (hfail : ∀ t, Q true t)
    (hok : ∀ t, Kept limited ((.MAIN_COVER_MOTOR, false) :: K) t → Q false t) :
    recovery_close_cover.wp (loop DEG_TO_STEPS) Q s := by
  refine wp_look rfl (by decide) hs fun pt t ht hclosed hends =>
    wp_ite (fun hpt => hok t (hclosed ?_)) fun _ => ?_
  · obtain hopen | hclose := hends rfl
    · have hbit : pt.has PT_BIT_MCOVER_OPEN = true := ((atLimit_iff limited_main pt true).mp hopen).1
      rw [hbit] at hpt
      cases hpt
    · exact hclose
  refine wp_soft (d := false) nofun hK ht fun _ t ht => ?_
  refine wp_travels_bind (by decide) (observes_gentle.delay _) (.inl rfl) ht fun _ t ht => ?_
  refine wp_arrives (by decide) ht (fun t _ => hfail t) fun t ht => ?_
  refine wp_kept_bind (gentle_stop rfl rfl) ht fun _ t ht => ?_
  exact wp_kept_bind (observes_gentle.delay _) ht fun _ t ht => hok t ht

/-- A recovery that succeeds has closed both covers and moved the scoop in. -/
theorem do_clean_resume_recovery_achieves (hs : Kept limited [] s) :
    do_clean_resume_recovery.wp (loop DEG_TO_STEPS) (Achieves (goal .do_clean_resume_recovery)) s := by
  have habort (t : Machine) :
      (recovery_abort.bind fun ret => .ret ret).wp (loop DEG_TO_STEPS)
        (Achieves (goal .do_clean_resume_recovery)) t := by
    apply wp_seq
    iterate 10 refine wp_perform_bind trivial fun _ _ _ => ?_
    exact achieves_failed (by decide)
  have hreset {t : Machine} (ht : Kept limited (goal .do_clean_resume_recovery) t) :
      recovery_reset.wp (loop DEG_TO_STEPS) (Achieves (goal .do_clean_resume_recovery)) t := by
    refine wp_kept ?_ ht fun r t ht _ => ⟨_, ht⟩
    iterate 5 refine every_perform_bind (gentle_of_none (fun _ => rfl) rfl) fun _ => ?_
    iterate 5 refine every_perform_bind (gentle_stop rfl rfl) fun _ => ?_
    exact every_perform_bind (gentle_of_none (fun _ => rfl) rfl) fun _ => trivial
  have hcalm : Calibrates (Courteous limited [(.WASTE_COVER_MOTOR, false)]) :=
    calibrates_courteous (by decide) (by decide)
  refine wp_kept_bind (gentle_of_none (fun _ => rfl) rfl) hs fun _ t ht => ?_
  refine wp_kept_bind (observes_gentle.delay _) ht fun _ t ht => ?_
  refine wp_seq (recovery_close_waste_keeps ht habort fun t ht => ?_)
  refine wp_seq (wp_kept (recovery_calibrate_gentle hcalm) ht fun exit t ht =>
    wp_ite (fun _ => habort t) fun _ => ?_)
  refine wp_seq (recovery_scoop_in_keeps (by decide) ht habort fun t ht => ?_)
  exact wp_seq (recovery_close_cover_keeps (by decide) ht habort fun t ht => hreset ht)

/-- The exit of an emergency stops the motors before a recovery looks at them. -/
theorem estop_exit_achieves (hs : Kept [] [] s) :
    estop_exit.wp (loop DEG_TO_STEPS) (Achieves (goal .do_clean)) s := by
  refine wp_kept_bind (gentle_of_none (fun _ => rfl) rfl) hs fun _ t ht => ?_
  refine wp_kept_bind (observes_gentle.read _ _) ht fun is_recovery_mode t ht => ?_
  iterate 3 refine wp_kept_bind (gentle_of_none (fun _ => rfl) rfl) (by assumption) fun _ _ _ => ?_
  refine wp_kept_bind (gentle_stop rfl rfl) (by assumption) fun _ t ht => ?_
  refine wp_settles (show Motor.MAIN_COVER_MOTOR ∈ limited by decide) (gentle_stop rfl rfl) rfl
    (by decide) ht fun _ t ht => ?_
  refine wp_settles (show Motor.SCPINOUT_MOTOR ∈ limited by decide) (gentle_stop rfl rfl) rfl
    (by decide) ht fun _ t ht => ?_
  refine wp_settles (show Motor.WASTE_COVER_MOTOR ∈ limited by decide) (gentle_stop rfl rfl) rfl
    (by decide) ht fun _ t ht => ?_
  refine wp_kept_bind (gentle_stop rfl rfl) ht fun _ t ht => wp_ite (fun _ => ?_) fun _ => ?_
  · exact do_clean_resume_recovery_achieves (ht.weaken (by decide) nofun)
  · exact wp_perform_bind trivial fun _ _ _ => achieves_failed (by decide)

/-- Before its first try the waste cover has been sent to its closed end. -/
def Trying (retry : Nat) (m : Machine) : Prop :=
  Kept [] [] m ∧ (retry = 0 → m.Going .WASTE_COVER_MOTOR false)

/-- A try that succeeds has waited for the waste cover to close. -/
theorem close_waste_try_keeps {retry : Nat} (hs : Trying retry s) :
    (close_waste_try retry).wp (loop DEG_TO_STEPS)
    (fun o t => o.elim (fun retry => Trying retry t) fun b =>
      Kept [] [] t ∧ (b = true → Kept [] [(.WASTE_COVER_MOTOR, false)] t)) s := by
  have hagain {t : Machine} {K : List (Motor × Bool)} (ht : Kept [] K t) : Trying (retry + 1) t :=
    ⟨ht.forget, nofun⟩
  have hwait {u : Machine} (hu : Travels [] [] .WASTE_COVER_MOTOR false u) :
      ((wait_motor_operation .WASTE_COVER_MOTOR 15000 .MT_CLOSE).bind fun ret =>
        if ret == 0 then
          send_waste_motor_msg .WASTE_COVER_CMD 0 .STOP 0 >>= fun _ => vTaskDelay 150 >>= fun _ =>
            pt_check .WASTE_COVER_MOTOR .do_clean >>= fun ret =>
              if ret == -1 then pure (.inr true) else pure (.inl (retry + 1))
        else pure (.inl (retry + 1)) : Code (Nat ⊕ Bool)).wp (loop DEG_TO_STEPS)
        (fun o t => o.elim (fun retry => Trying retry t) fun b =>
          Kept [] [] t ∧ (b = true → Kept [] [(.WASTE_COVER_MOTOR, false)] t)) u := by
    refine wp_seq (wait_arrives (d := false) (by decide) hu (fun t ht => hagain ht) fun t ht => ?_)
    refine wp_kept_bind (gentle_stop rfl rfl) ht fun _ t ht => ?_
    refine wp_kept_bind (observes_gentle.delay _) ht fun _ t ht => ?_
    refine wp_seq (wp_kept (pt_check_every observes_gentle.toSamples) ht fun ret t ht => ?_)
    exact wp_ite (fun _ => ⟨ht.forget, fun _ => ht⟩) fun _ => hagain ht
  refine wp_ite (fun _ => wp_ite (fun _ => ?_) fun hfirst => ?_) fun _ => ⟨hs.1, nofun⟩
  · refine wp_kept_bind (gentle_free rfl) hs.1 fun _ t ht => ?_
    refine wp_kept_bind (observes_gentle.delay _) ht fun _ t ht => ?_
    refine wp_sets_going (d := false) (gentle_free rfl) (command_toward rfl) ht fun _ t ht => ?_
    exact wp_travels_bind (by decide) (observes_gentle.delay _) (.inl rfl) ht fun _ t ht => hwait ht
  · exact hwait ⟨hs.1, hs.2 (by omega)⟩

private theorem clean_close_waste_keeps {cycle : Nat} {Q : Bool → Machine → Prop} (hs : Kept [] [] s)
    (hfail : ∀ t, Kept [] [] t → Q true t) (hok : ∀ t, Kept [] [(.WASTE_COVER_MOTOR, false)] t → Q false t) :
    (clean_close_waste cycle).wp (loop DEG_TO_STEPS) Q s := by
  have hloop {u : Machine} (hu : Travels [] [] .WASTE_COVER_MOTOR false u) :
      ((Program.repeated close_waste_try 0).bind fun success =>
        if !success then pure true else vTaskDelay 100 >>= fun _ => pure false : Code Bool).wp
        (loop DEG_TO_STEPS) Q u := by
    refine wp_seq (wp_repeated Trying ⟨hu.1, fun _ => hu.2⟩ fun retry t ht =>
      wp_mono ?_ (close_waste_try_keeps ht))
    rintro (retry | success) t ht
    · exact ht
    · refine wp_ite (fun _ => hfail t ht.1) fun hsuccess => ?_
      have hclosed := ht.2 (by simpa using hsuccess)
      exact wp_kept_bind (observes_gentle.delay _) hclosed fun _ t ht => hok t ht
  refine wp_sets_going (d := false) (gentle_free rfl) (command_toward rfl) hs fun _ t ht => ?_
  refine wp_travels_bind (by decide) (observes_gentle.delay _) (.inl rfl) ht fun _ t ht => ?_
  refine wp_ite (fun _ => ?_) fun _ => hloop ht
  exact wp_travels_bind (by decide) (gentle_free rfl) (.inl rfl) ht fun _ t ht => hloop ht

/-- A cycle that does not fail ends with the waste cover closed. -/
theorem clean_cycle_keeps {cycle : Nat} {Q : Bool → Machine → Prop} (hs : Kept [] [] s)
    (hfail : ∀ t, Kept [] [] t → Q true t) (hok : ∀ t, Kept [] [(.WASTE_COVER_MOTOR, false)] t → Q false t) :
    (clean_cycle cycle).wp (loop DEG_TO_STEPS) Q s := by
  refine wp_seq (wp_addressed (clean_collect_addresses cycle) hs fun exit t ht => ?_)
  refine wp_ite (fun _ => hfail t ht) fun _ => ?_
  refine wp_seq (wp_addressed clean_dump_addresses ht fun exit t ht => ?_)
  refine wp_ite (fun _ => hfail t ht) fun _ => ?_
  refine wp_seq (wp_addressed clean_retry_scoop_out_addresses ht fun exit t ht => ?_)
  exact wp_ite (fun _ => hfail t ht) fun _ => clean_close_waste_keeps ht hfail hok

private theorem check_tof_gentle : CHECK_TOF_PAUSE.Every (Gentle L K) := by
  refine gentle_every CHECK_TOF_PAUSE_addresses ?_
  have hnone {a : Act} (h : ∀ mt, a.command mt = none) : Courteous L K a := courteous_of_none h
  refine CHECK_TOF_PAUSE_every_of_stop ?_ ?_ (fun _ _ => courteous_stop) (fun _ => hnone fun _ => rfl) ?_
  · exact
      { pt := fun _ => hnone fun _ => rfl, run := fun _ _ => hnone fun _ => rfl, time := hnone fun _ => rfl
        delay := fun _ => hnone fun _ => rfl, read := fun _ _ => hnone fun _ => rfl }
  · exact
      { enable := hnone fun _ => rfl, reset := hnone fun _ => rfl, count := hnone fun _ => rfl
        pass := fun _ => hnone fun _ => rfl, distance := hnone fun _ => rfl }
  · exact hnone fun _ => rfl

theorem clean_scoop_in_keeps {Q : Bool → Machine → Prop} (hs : Kept [] [(.WASTE_COVER_MOTOR, false)] s)
    (hfail : ∀ t, Kept [] [] t → Q true t)
    (hok : ∀ t, Kept [] [(.SCPINOUT_MOTOR, false), (.WASTE_COVER_MOTOR, false)] t → Q false t) :
    clean_scoop_in.wp (loop DEG_TO_STEPS) Q s := by
  refine wp_kept_bind (gentle_send rfl (by simp) (by simp)) hs fun _ t ht => ?_
  refine wp_kept_bind (observes_gentle.delay _) ht fun _ t ht => ?_
  refine wp_seq (wp_kept wait_gentle ht fun ret t ht => wp_ite (fun _ => hfail t ht.forget) fun _ => ?_)
  refine wp_kept_bind (gentle_of_none (fun _ => rfl) rfl) ht fun _ t ht => ?_
  refine wp_seq (wp_kept check_tof_gentle ht fun obstacle t ht =>
    wp_ite (fun _ => hfail t ht.forget) fun _ => ?_)
  refine wp_goes (d := false) (by decide) rfl rfl nofun (by decide) ht
    (fun t ht => hfail t ht.forget) fun t ht => ?_
  refine wp_kept_bind (gentle_stop rfl rfl) ht fun _ t ht => ?_
  refine wp_kept_bind (gentle_send rfl (by simp) (by simp)) ht fun _ t ht => ?_
  refine wp_kept_bind (observes_gentle.delay _) ht fun _ t ht =>
    wp_seq (wp_kept wait_gentle ht fun ret t ht => ?_)
  change Q (ret != 0) t
  cases ret != 0 with
  | true => exact hfail t ht.forget
  | false => exact hok t ht

private theorem clean_close_cover_keeps {Q : Bool → Machine → Prop}
    (hs : Kept [] [(.SCPINOUT_MOTOR, false), (.WASTE_COVER_MOTOR, false)] s)
    (hfail : ∀ t, Kept [] [] t → Q true t) (hok : ∀ t, Kept [] (goal .do_clean) t → Q false t) :
    clean_close_cover.wp (loop DEG_TO_STEPS) Q s := by
  have hcalm : Calibrates (Courteous [] [(.SCPINOUT_MOTOR, false), (.WASTE_COVER_MOTOR, false)]) :=
    calibrates_courteous (by decide) (by decide)
  have hcalibrate := gentle_every motor_calibration_addresses (motor_calibration_every hcalm)
  refine wp_seq (wp_kept hcalibrate hs fun ret t ht => wp_ite (fun _ => hfail t ht.forget) fun _ => ?_)
  refine wp_soft (d := false) nofun (by decide) ht fun _ t ht => ?_
  refine wp_travels_bind (by decide) (observes_gentle.delay _) (.inl rfl) ht fun _ t ht => ?_
  refine wp_arrives (by decide) ht (fun t ht => hfail t ht.forget) fun t ht => ?_
  exact wp_kept_bind (gentle_stop rfl rfl) ht fun _ t ht => hok t ht

private theorem clean_end_achieves (hs : Kept [] (goal .do_clean) s) :
    clean_end.wp (loop DEG_TO_STEPS) (Achieves (goal .do_clean)) s := by
  refine wp_kept ?_ hs fun r t ht _ => ⟨_, ht⟩
  refine every_perform_bind (gentle_stop rfl rfl) fun _ => ?_
  iterate 5 refine every_perform_bind (gentle_of_none (fun _ => rfl) rfl) fun _ => ?_
  trivial

private theorem do_clean_achieves (h : m.Sound) : do_clean.wp (loop DEG_TO_STEPS) (Achieves (goal .do_clean)) m := by
  have hbegin : Addresses clean_begin := by
    iterate 7 refine every_perform_bind rfl fun _ => ?_
    exact every_perform rfl
  have hexit (t : Machine) (ht : Kept [] [] t) :
      estop_exit.wp (loop DEG_TO_STEPS) (Achieves (goal .do_clean)) t := estop_exit_achieves ht
  have hs : Kept [] [] m := ⟨h, nofun, nofun, nofun, nofun⟩
  refine wp_seq (wp_addressed hbegin hs fun _ t ht => wp_seq ?_)
  refine wp_seq (wp_addressed clean_open_cover_addresses ht fun exit t ht => ?_)
  refine wp_ite (fun _ => hexit t ht) fun _ => ?_
  refine wp_seq (clean_cycle_keeps ht hexit fun t ht => ?_)
  refine wp_seq (clean_cycle_keeps ht.forget hexit fun t ht => ?_)
  refine wp_seq (clean_scoop_in_keeps ht hexit fun t ht => ?_)
  exact clean_close_cover_keeps ht hexit fun t ht => clean_end_achieves ht

private theorem motor_calibration_achieves (h : m.Sound) :
    motor_calibration.wp (loop DEG_TO_STEPS) (Achieves (goal .motor_calibration)) m :=
  wp_addressed motor_calibration_addresses ⟨h, nofun, nofun, nofun, nofun⟩ fun _ _ ht _ => ⟨_, ht⟩

variable (DEG_TO_STEPS) in
private theorem scenario_achieves (scenario : Scenario) (h : m.Sound)
    (hstart : scenario = .do_clean_resume_recovery → ∀ mt ∈ limited, m.Settling mt false) :
    scenario.code.wp (loop DEG_TO_STEPS) (Achieves (goal scenario)) m := by
  cases scenario with
  | do_clean => exact do_clean_achieves h
  | do_clean_resume_recovery =>
    exact do_clean_resume_recovery_achieves ⟨h, fun _ hmt => hmt, hstart rfl, nofun, nofun⟩
  | motor_calibration => exact motor_calibration_achieves h
  | motor_calibration_recovery => exact motor_calibration_recovery_achieves h
  | do_manage_start => exact do_manage_start_achieves h
  | do_manage_finish => exact do_manage_finish_achieves h

-- A STOP that meets the cover on its way, after the last look at the flags, is taken for its arrival.
example :
    let stopped := machineRun id .do_manage_finish (.boot (PT_BIT_SCP_OUT ||| PT_BIT_MCOVER_OPEN))
      (finish_turns.take 43 ++ List.replicate 8 .own ++ [.change (.flag .emergency_stop_flag true),
        .change (.command .MAIN_COVER_MOTOR ⟨.MAIN_COVER_CMD, 0, .STOP, 0, none, none⟩),
        .change (.task .MAIN_COVER_MOTOR), .change (.clock 400000)] ++ List.replicate 12 .own)
    stopped.code.result = some 0 ∧ ¬ AtLimit .MAIN_COVER_MOTOR stopped.state.pt_value false := by
  decide +kernel

end catbox.drive
