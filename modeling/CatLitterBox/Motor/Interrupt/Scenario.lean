import CatLitterBox.Motor.Interrupt.Basic
import CatLitterBox.Motor.Scenario

open catbox.sensor program program.Program

namespace catbox.motor

namespace Interrupts

variable {S : Type} {M : Spec Act Act.Answer S} {hook : (a : Act) → a.Answer → S → Prop}
  {level : Nat → S → Prop} {α : Type}

/-- A wait whose failure leads to `e`, and `c` otherwise. -/
theorem checked_wait (h : Interrupts M hook level) {mt : Motor} {timeout : Int} {status : MotorStatus}
    {e c : Code α} {Q : α → S → Prop} (hexit : ∀ t, level 8 t → e.wp M Q t) (he : e.After M hook Q)
    (hc : c.After M hook Q) :
    ((wait_motor_operation mt timeout status).bind fun ret => if ret != 0 then e else c).After M hook Q :=
  after_bind (h.wait _ _ _ _ (.inr hexit)) fun _ => after_ite he hc

/-- A poll of the stop flag that leads to `e` when it is set, and to `c` otherwise. -/
theorem checked_stop (h : Interrupts M hook level) {p : Place} {e c : Code α} {Q : α → S → Prop}
    (hexit : ∀ t, level 8 t → e.wp M Q t) (he : e.After M hook Q) (hc : c.After M hook Q) :
    ((read .emergency_stop_flag p).bind fun stop => if stop then e else c).After M hook Q := by
  refine after_perform_bind (fun r t hr => ?_) fun _ => after_ite he hc
  obtain ⟨hr, ht⟩ : r = true ∧ level 10 t := h.stop p r t hr
  subst hr
  exact hexit t (h.mono_of_le (by omega) ht)

theorem stop_allowed (h : Interrupts M hook level) {n : Nat} {mt : Motor} {msg : Message} {s : S}
    (hs : level (n + 1) s) (hmsg : msg.direction = .STOP) : M.allow (.send mt msg) s :=
  h.allow n _ s hs (by simp [Act.drives, hmsg]) rfl

theorem calib_abort_wp (h : Interrupts M hook level) {Q : Int → S → Prop}
    (hQ : ∀ t, level 6 t → Q (-1) t) (s : S) (hs : level 8 s) : calib_abort.wp M Q s := by
  refine wp_perform_bind (h.stop_allowed hs rfl) fun _ t ht => ?_
  have ht : level 7 t := h.tick 7 _ s _ t rfl hs ht
  refine wp_perform_bind (h.stop_allowed ht rfl) fun _ u hu => ?_
  exact hQ u (h.tick 6 _ t _ u rfl ht hu)

theorem calib_abort_after (h : Interrupts M hook level) {Q : Int → S → Prop} :
    calib_abort.After M hook Q :=
  after_skip (h.quiet _ rfl) fun _ => after_skip (h.quiet _ rfl) fun _ => trivial

theorem search_st_bit_after (h : Interrupts M hook level) {want : Bool} {Q : Bool → S → Prop}
    (hQ : ∀ t, level 8 t → Q true t) : (search_st_bit want).After M hook Q := by
  refine after_skip (h.quiet _ rfl) fun st_time => ⟨fun _ => ?_, fun _ => trivial⟩
  refine after_skip (h.quiet _ rfl) fun now => after_ite ?_ trivial
  refine after_perform_bind (fun r t hr => ?_) fun stop => after_ite ?_ ?_
  · obtain ⟨hr, ht⟩ : r = true ∧ level 10 t := h.stop _ r t hr
    subst hr
    refine wp_perform_bind (h.stop_allowed ht rfl) fun _ u hu => hQ u ?_
    exact h.mono 8 u (h.tick 9 _ t _ u rfl ht hu)
  · exact after_skip (h.quiet _ rfl) fun _ => trivial
  · refine after_skip (h.quiet _ rfl) fun word => after_ite trivial ?_
    exact after_skip (h.quiet _ rfl) fun _ => trivial

theorem scp_spin_find_st_origin_after (h : Interrupts M hook level) {dir : Direction} {Q : Int → S → Prop}
    (hQ : ∀ t, level 8 t → Q (-1) t) : (scp_spin_find_st_origin dir).After M hook Q := by
  refine ⟨fun depth => h.checked_stop hQ trivial ?_, fun _ => trivial⟩
  refine after_skip (h.quiet _ rfl) fun word => after_ite (after_bind ?_ fun _ => trivial) ?_
  · refine after_skip (h.quiet _ rfl) fun _ => ?_
    refine after_bind (h.search_st_bit_after hQ) fun stop => after_ite trivial ?_
    refine after_skip (h.quiet _ rfl) fun _ => after_skip (h.quiet _ rfl) fun _ => ?_
    refine h.checked_stop hQ trivial (after_skip (h.quiet _ rfl) fun _ => ?_)
    refine after_bind (h.search_st_bit_after hQ) fun stop => after_ite trivial ?_
    exact after_skip (h.quiet _ rfl) fun _ => trivial
  · refine after_skip (h.quiet _ rfl) fun _ => ?_
    refine after_bind (h.search_st_bit_after hQ) fun stop => after_ite trivial ?_
    refine after_skip (h.quiet _ rfl) fun _ => after_skip (h.quiet _ rfl) fun _ => ?_
    exact h.checked_stop hQ trivial trivial

/-- A search for the origin whose failure leads to `e`, and `c` otherwise. -/
theorem checked_origin (h : Interrupts M hook level) {dir : Direction} {e c : Code α} {Q : α → S → Prop}
    (hexit : ∀ t, level 8 t → e.wp M Q t) (he : e.After M hook Q) (hc : c.After M hook Q) :
    ((scp_spin_find_st_origin dir).bind fun ret => if ret != 0 then e else c).After M hook Q :=
  after_bind (h.scp_spin_find_st_origin_after hexit) fun _ => after_ite he hc

private theorem calibrate_scoop_out_after (h : Interrupts M hook level) {Q : Bool → S → Prop}
    (hQ : ∀ t, level 8 t → Q true t) : calibrate_scoop_out.After M hook Q := by
  refine h.checked_origin hQ trivial (h.checked_stop hQ trivial ?_)
  refine after_skip (h.quiet _ rfl) fun _ => after_skip (h.quiet _ rfl) fun _ => ?_
  refine h.checked_wait hQ trivial (h.checked_stop hQ trivial ?_)
  refine after_skip (h.quiet _ rfl) fun _ => after_skip (h.quiet _ rfl) fun _ => ?_
  refine h.checked_wait hQ trivial (after_skip (h.quiet _ rfl) fun _ => h.checked_stop hQ trivial ?_)
  exact after_bind (h.scp_spin_find_st_origin_after hQ) fun _ => trivial

theorem motor_calibration_after (h : Interrupts M hook level) {Q : Int → S → Prop}
    (hQ : ∀ t, level 6 t → Q (-1) t) :
    motor_calibration.After M hook Q := by
  have hexit (t : S) (ht : level 8 t) : calib_abort.wp M Q t := h.calib_abort_wp hQ t ht
  refine after_skip (h.quiet _ rfl) fun _ => after_skip (h.quiet _ rfl) fun pt => ?_
  refine after_bind ?_ fun abort => after_ite h.calib_abort_after ?_
  · refine after_ite (after_bind (h.scp_spin_find_st_origin_after hexit) fun _ => trivial) ?_
    exact h.calibrate_scoop_out_after hexit
  apply h.checked_stop hexit h.calib_abort_after
  refine after_skip (h.quiet _ rfl) fun _ => after_skip (h.quiet _ rfl) fun _ => ?_
  apply h.checked_wait hexit h.calib_abort_after
  exact h.checked_stop hexit h.calib_abort_after trivial

theorem motor_calibration_recovery_after (h : Interrupts M hook level) {Q : Int → S → Prop}
    (hQ : ∀ t, level 6 t → Q (-1) t) : motor_calibration_recovery.After M hook Q := by
  have hexit (t : S) (ht : level 8 t) : calib_abort.wp M Q t := h.calib_abort_wp hQ t ht
  have habort : calib_abort.After M hook Q := h.calib_abort_after
  refine after_skip (h.quiet _ rfl) fun _ => h.checked_origin hexit habort (h.checked_stop hexit habort ?_)
  refine after_skip (h.quiet _ rfl) fun _ => after_skip (h.quiet _ rfl) fun _ => ?_
  refine after_skip (h.quiet _ rfl) fun _ => h.checked_wait hexit habort ?_
  refine after_skip (h.quiet _ rfl) fun _ => after_skip (h.quiet _ rfl) fun _ => ?_
  apply h.checked_stop hexit habort
  refine after_skip (h.quiet _ rfl) fun _ => after_skip (h.quiet _ rfl) fun _ => ?_
  apply h.checked_wait hexit habort
  refine after_skip (h.quiet _ rfl) fun _ => after_skip (h.quiet _ rfl) fun _ => ?_
  refine h.checked_stop hexit habort (h.checked_origin hexit habort ?_)
  refine after_skip (h.quiet _ rfl) fun _ => after_skip (h.quiet _ rfl) fun _ => ?_
  refine after_skip (h.quiet _ rfl) fun _ => h.checked_wait hexit habort ?_
  exact after_skip (h.quiet _ rfl) fun _ => after_skip (h.quiet _ rfl) fun _ => trivial

theorem recovery_abort_after (h : Interrupts M hook level) {Q : Int → S → Prop} :
    motor.recovery_abort.After M hook Q := by
  refine after_of_every (every_mono (p := fun a => a.reads = false) (fun a => h.quiet a) ?_)
  simp [motor.recovery_abort, Act.reads]

theorem recovery_close_waste_after (h : Interrupts M hook level) {Q : Bool → S → Prop}
    (hQ : ∀ t, level 6 t → Q true t) : recovery_close_waste.After M hook Q := by
  have hexit := h.weaken hQ
  refine after_skip (h.quiet _ rfl) fun pt => after_ite trivial ?_
  refine after_skip (h.quiet _ rfl) fun _ => after_skip (h.quiet _ rfl) fun _ => ?_
  refine h.checked_wait hexit trivial ?_
  exact after_skip (h.quiet _ rfl) fun _ => after_skip (h.quiet _ rfl) fun _ => trivial

theorem recovery_scoop_in_after (h : Interrupts M hook level) {Q : Bool → S → Prop}
    (hQ : ∀ t, level 6 t → Q true t) : recovery_scoop_in.After M hook Q := by
  have hexit := h.weaken hQ
  refine after_skip (h.quiet _ rfl) fun pt => after_ite trivial ?_
  refine after_skip (h.quiet _ rfl) fun _ => after_skip (h.quiet _ rfl) fun _ => ?_
  refine h.checked_wait hexit trivial ?_
  exact after_skip (h.quiet _ rfl) fun _ => after_skip (h.quiet _ rfl) fun _ => trivial

theorem drive_main_cover_soft_after (h : Interrupts M hook level) {dir : Direction} {target_speed : Nat}
    {Q : Unit → S → Prop} : (drive_main_cover_soft dir target_speed).After M hook Q := by
  refine after_skip (h.quiet _ rfl) fun _ => after_skip (h.quiet _ rfl) fun _ => ?_
  refine after_skip (h.quiet _ rfl) fun _ => ⟨fun duty => after_ite ?_ trivial, fun _ => trivial⟩
  exact after_skip (h.quiet _ rfl) fun _ => after_skip (h.quiet _ rfl) fun _ => trivial

private theorem recovery_close_cover_after (h : Interrupts M hook level) {Q : Bool → S → Prop}
    (hQ : ∀ t, level 6 t → Q true t) : recovery_close_cover.After M hook Q := by
  have hexit := h.weaken hQ
  refine after_skip (h.quiet _ rfl) fun pt => after_ite trivial ?_
  refine after_bind h.drive_main_cover_soft_after fun _ => after_skip (h.quiet _ rfl) fun _ => ?_
  refine h.checked_wait hexit trivial ?_
  exact after_skip (h.quiet _ rfl) fun _ => after_skip (h.quiet _ rfl) fun _ => trivial

theorem do_clean_resume_recovery_after (h : Interrupts M hook level) :
    do_clean_resume_recovery.After M hook fun _ _ => True := by
  have hexit := h.recovery_abort
  have habort : motor.recovery_abort.After M hook fun _ _ => True := h.recovery_abort_after
  refine after_skip (h.quiet _ rfl) fun _ => after_skip (h.quiet _ rfl) fun _ => ?_
  refine after_bind (h.recovery_close_waste_after hexit) fun _ => after_ite habort ?_
  refine after_bind ?_ fun _ => after_ite habort ?_
  · refine after_bind (h.motor_calibration_recovery_after hexit) fun _ => after_ite trivial ?_
    exact after_skip (h.quiet _ rfl) fun _ => trivial
  refine after_bind (h.recovery_scoop_in_after hexit) fun _ => after_ite habort ?_
  refine after_bind (h.recovery_close_cover_after hexit) fun _ => after_ite habort ?_
  refine after_of_every (every_mono (p := fun a => a.reads = false) (fun a => h.quiet a) ?_)
  simp [recovery_reset, Act.reads]

theorem pt_check_after (h : Interrupts M hook level) {mt : Motor} {p : Place} {Q : Int → S → Prop} :
    (pt_check mt p).After M hook Q := after_skip (h.quiet _ rfl) fun _ => trivial

theorem clean_open_cover_after (h : Interrupts M hook level) {Q : Bool → S → Prop}
    (hQ : ∀ t, level 6 t → Q true t) : clean_open_cover.After M hook Q := by
  refine after_bind h.drive_main_cover_soft_after fun _ => after_skip (h.quiet _ rfl) fun _ => ?_
  refine after_bind (h.wait _ _ _ _ (.inr fun t ht => ?_)) fun ret => ?_
  · refine wp_perform_bind (h.stop_allowed ht rfl) fun _ u hu => ?_
    have hu : level 7 u := h.tick 7 _ t _ u rfl ht hu
    exact wp_perform_bind (h.allow 6 _ u hu rfl rfl) fun _ v hv => hQ v (h.tick 6 _ u _ v rfl hu hv)
  refine after_skip (h.quiet _ rfl) fun _ => after_skip (h.quiet _ rfl) fun _ => after_ite trivial ?_
  refine after_bind h.pt_check_after fun ret => after_ite trivial ?_
  exact after_skip (h.quiet _ rfl) fun _ => trivial

/-- A check of `CHECK_ESTOP`, and `c` when nothing is requested. -/
theorem checked_estop (h : Interrupts M hook level) {c : Code Bool} {Q : Bool → S → Prop}
    (hQ : ∀ t, level 8 t → Q true t) (hc : c.After M hook Q) :
    ((stop_requested .check_estop).bind fun stop => if stop then .ret true else c).After M hook Q :=
  after_bind (h.check _ hQ) fun _ => after_ite trivial hc

/-- An action that only the first cycle takes, before `c`. -/
theorem optional_action (h : Interrupts M hook level) {P : Prop} [Decidable P] {a : Act} {c : Code α}
    {Q : α → S → Prop} (ha : a.reads = false) (hc : c.After M hook Q) :
    (if P then a.code.bind fun _ => c else c).After M hook Q :=
  after_ite (after_skip (h.quiet a ha) fun _ => hc) hc

theorem clean_collect_after (h : Interrupts M hook level) {cycle : Nat} {Q : Bool → S → Prop}
    (hQ : ∀ t, level 6 t → Q true t) : (clean_collect cycle).After M hook Q := by
  have hexit := h.weaken hQ
  apply h.optional_action rfl
  refine h.duration _ _ _ hexit (after_skip (h.quiet _ rfl) fun _ => after_skip (h.quiet _ rfl) fun _ => ?_)
  refine h.checked_wait hexit trivial (after_skip (h.quiet _ rfl) fun _ => h.checked_estop hexit ?_)
  refine h.duration _ _ _ hexit (after_skip (h.quiet _ rfl) fun _ => after_skip (h.quiet _ rfl) fun _ => ?_)
  refine h.checked_wait hexit trivial ?_
  refine after_skip (h.quiet _ rfl) fun _ => after_skip (h.quiet _ rfl) fun _ => ?_
  refine h.checked_wait hexit trivial (after_skip (h.quiet _ rfl) fun _ => ?_)
  exact after_skip (h.quiet _ rfl) fun _ => trivial

theorem clean_dump_after (h : Interrupts M hook level) {Q : Bool → S → Prop}
    (hQ : ∀ t, level 6 t → Q true t) : clean_dump.After M hook Q := by
  have hexit := h.weaken hQ
  refine after_bind (h.tof _ hexit) fun obstacle => after_ite trivial ?_
  refine after_skip (h.quiet _ rfl) fun _ => after_skip (h.quiet _ rfl) fun _ => ?_
  refine h.checked_wait hexit trivial (after_skip (h.quiet _ rfl) fun _ => ?_)
  refine after_skip (h.quiet _ rfl) fun _ => after_skip (h.quiet _ rfl) fun _ => ?_
  refine h.checked_wait hexit trivial ?_
  refine after_skip (h.quiet _ rfl) fun _ => after_skip (h.quiet _ rfl) fun _ => ?_
  refine h.checked_wait hexit trivial ?_
  refine after_skip (h.quiet _ rfl) fun _ => after_skip (h.quiet _ rfl) fun _ => ?_
  exact h.checked_wait hexit trivial (after_skip (h.quiet _ rfl) fun _ => trivial)

theorem clean_retry_scoop_out_after (h : Interrupts M hook level) {Q : Bool → S → Prop}
    (hQ : ∀ t, level 6 t → Q true t) : clean_retry_scoop_out.After M hook Q := by
  have hexit := h.weaken hQ
  refine after_bind h.pt_check_after fun ret => after_ite trivial ?_
  refine after_skip (h.quiet _ rfl) fun _ => after_skip (h.quiet _ rfl) fun _ => ?_
  exact h.checked_wait hexit trivial (after_skip (h.quiet _ rfl) fun _ => trivial)

/-- No poll of the closing wait is seen, so a failed try asks nothing of the next one. -/
theorem close_waste_try_after (h : Interrupts M hook level) {retry : Nat} {Q : Nat ⊕ Bool → S → Prop} :
    (close_waste_try retry).After M hook Q := by
  have hwait {c d : Code (Nat ⊕ Bool)} (hc : c.After M hook Q) (hd : d.After M hook Q) :
      ((wait_motor_operation .WASTE_COVER_MOTOR 15000 .MT_CLOSE).bind fun ret =>
        if ret == 0 then c else d).After M hook Q :=
    after_bind (h.wait _ _ _ _ (.inl rfl)) fun _ => after_ite hc hd
  have hclosed : (send_waste_motor_msg .WASTE_COVER_CMD 0 .STOP 0 >>= fun _ => vTaskDelay 150 >>= fun _ =>
      pt_check .WASTE_COVER_MOTOR .do_clean >>= fun ret =>
        if ret == -1 then pure (.inr true) else pure (.inl (retry + 1))).After M hook Q := by
    refine after_skip (h.quiet _ rfl) fun _ => after_skip (h.quiet _ rfl) fun _ => ?_
    exact after_bind h.pt_check_after fun ret => after_ite trivial trivial
  refine after_ite (after_ite ?_ (hwait hclosed trivial)) trivial
  refine after_skip (h.quiet _ rfl) fun _ => after_skip (h.quiet _ rfl) fun _ => ?_
  refine after_skip (h.quiet _ rfl) fun _ => after_skip (h.quiet _ rfl) fun _ => ?_
  exact hwait hclosed trivial

private theorem clean_close_waste_after (h : Interrupts M hook level) {cycle : Nat} {Q : Bool → S → Prop} :
    (clean_close_waste cycle).After M hook Q := by
  refine after_skip (h.quiet _ rfl) fun _ => after_skip (h.quiet _ rfl) fun _ => ?_
  apply h.optional_action rfl
  refine after_bind ⟨fun retry => h.close_waste_try_after, fun _ => trivial⟩ fun success => ?_
  exact after_ite trivial (after_skip (h.quiet _ rfl) fun _ => trivial)

theorem clean_cycle_after (h : Interrupts M hook level) {cycle : Nat} {Q : Bool → S → Prop}
    (hQ : ∀ t, level 6 t → Q true t) : (clean_cycle cycle).After M hook Q := by
  refine after_bind (h.clean_collect_after hQ) fun _ => after_ite trivial ?_
  refine after_bind (h.clean_dump_after hQ) fun _ => after_ite trivial ?_
  refine after_bind (h.clean_retry_scoop_out_after hQ) fun _ => after_ite trivial ?_
  exact h.clean_close_waste_after

private theorem clean_scoop_in_after (h : Interrupts M hook level) {Q : Bool → S → Prop}
    (hQ : ∀ t, level 6 t → Q true t) : clean_scoop_in.After M hook Q := by
  have hexit := h.weaken hQ
  refine after_skip (h.quiet _ rfl) fun _ => after_skip (h.quiet _ rfl) fun _ => ?_
  refine h.checked_wait hexit trivial (after_skip (h.quiet _ rfl) fun _ => ?_)
  refine after_bind (h.tof _ hexit) fun obstacle => after_ite trivial ?_
  refine after_skip (h.quiet _ rfl) fun _ => after_skip (h.quiet _ rfl) fun _ => ?_
  refine h.checked_wait hexit trivial (after_skip (h.quiet _ rfl) fun _ => ?_)
  refine after_skip (h.quiet _ rfl) fun _ => after_skip (h.quiet _ rfl) fun _ => ?_
  exact after_bind (h.wait _ _ _ _ (.inr hexit)) fun _ => trivial

private theorem clean_close_cover_after (h : Interrupts M hook level) {Q : Bool → S → Prop}
    (hQ : ∀ t, level 6 t → Q true t) : clean_close_cover.After M hook Q := by
  have hexit := h.weaken hQ
  refine after_bind (h.motor_calibration_after hQ) fun _ => after_ite trivial ?_
  refine after_bind h.drive_main_cover_soft_after fun _ => after_skip (h.quiet _ rfl) fun _ => ?_
  exact h.checked_wait hexit trivial (after_skip (h.quiet _ rfl) fun _ => trivial)

private theorem clean_sequence_after (h : Interrupts M hook level) {Q : Bool → S → Prop}
    (hQ : ∀ t, level 6 t → Q true t) : clean_sequence.After M hook Q := by
  refine after_bind (h.clean_open_cover_after hQ) fun _ => after_ite trivial ?_
  refine after_bind (h.clean_cycle_after hQ) fun _ => after_ite trivial ?_
  refine after_bind (h.clean_cycle_after hQ) fun _ => after_ite trivial ?_
  exact after_bind (h.clean_scoop_in_after hQ) fun _ => after_ite trivial (h.clean_close_cover_after hQ)

/-- From any poll in the common exit on, a request to stop lets nothing happen that is forbidden. -/
theorem estop_exit_after (h : Interrupts M hook level) : motor.estop_exit.After M hook fun _ _ => True := by
  refine after_skip (h.quiet _ rfl) fun _ => after_skip h.exit fun is_recovery_mode => ?_
  refine after_skip (h.quiet _ rfl) fun _ => after_skip (h.quiet _ rfl) fun _ => ?_
  refine after_skip (h.quiet _ rfl) fun _ => after_skip (h.quiet _ rfl) fun _ => ?_
  refine after_skip (h.quiet _ rfl) fun _ => after_skip (h.quiet _ rfl) fun _ => ?_
  refine after_skip (h.quiet _ rfl) fun _ => after_skip (h.quiet _ rfl) fun _ => ?_
  exact after_ite h.do_clean_resume_recovery_after (after_skip (h.quiet _ rfl) fun _ => trivial)

/-- So it does from any poll in `do_clean` on. -/
theorem do_clean_after (h : Interrupts M hook level) : do_clean.After M hook fun _ _ => True := by
  refine after_bind (after_of_every (every_mono (p := fun a => a.reads = false) (fun a => h.quiet a) ?_)) ?_
  · simp [clean_begin, clear_emergency_stop, Act.reads]
  intro _
  refine after_bind (h.clean_sequence_after h.estop_exit) fun _ => after_ite h.estop_exit_after ?_
  refine after_of_every (every_mono (p := fun a => a.reads = false) (fun a => h.quiet a) ?_)
  simp [clean_end, Act.reads]

private theorem do_manage_start_after (h : Interrupts M hook level)
    (hexit : ∀ t, level 8 t → manage_exit.wp M (fun _ _ => True) t) :
    do_manage_start.After M hook fun _ _ => True := by
  have habort : manage_exit.After M hook fun _ _ => True := after_skip (h.quiet _ rfl) fun _ => trivial
  refine after_skip (h.quiet _ rfl) fun _ => after_skip (h.quiet _ rfl) fun _ => ?_
  refine after_bind h.drive_main_cover_soft_after fun _ => after_skip (h.quiet _ rfl) fun _ => ?_
  refine h.checked_wait hexit habort (after_skip (h.quiet _ rfl) fun _ => ?_)
  refine after_skip (h.quiet _ rfl) fun _ => after_skip (h.quiet _ rfl) fun _ => ?_
  refine h.checked_wait hexit habort (after_skip (h.quiet _ rfl) fun _ => ?_)
  exact after_skip (h.quiet _ rfl) fun _ => trivial

private theorem do_manage_finish_after (h : Interrupts M hook level)
    (hexit : ∀ t, level 8 t → manage_exit.wp M (fun _ _ => True) t) :
    do_manage_finish.After M hook fun _ _ => True := by
  have habort : manage_exit.After M hook fun _ _ => True := after_skip (h.quiet _ rfl) fun _ => trivial
  refine after_skip (h.quiet _ rfl) fun _ => after_skip (h.quiet _ rfl) fun _ => ?_
  refine after_skip (h.quiet _ rfl) fun _ => ?_
  refine h.checked_wait hexit habort (after_skip (h.quiet _ rfl) fun _ => ?_)
  refine after_bind h.drive_main_cover_soft_after fun _ => after_skip (h.quiet _ rfl) fun _ => ?_
  refine h.checked_wait hexit habort (after_skip (h.quiet _ rfl) fun _ => ?_)
  exact after_skip (h.quiet _ rfl) fun _ => after_skip (h.quiet _ rfl) fun _ => trivial

/-- In every scenario, a poll that sees the request leads to an exit that keeps `M`. -/
theorem scenario_after (h : Interrupts M hook level)
    (hexit : ∀ t, level 8 t → manage_exit.wp M (fun _ _ => True) t) (scenario : Scenario) :
    scenario.code.After M hook fun _ _ => True := by
  cases scenario with
  | do_clean => exact h.do_clean_after
  | do_clean_resume_recovery => exact h.do_clean_resume_recovery_after
  | motor_calibration => exact h.motor_calibration_after fun _ _ => trivial
  | motor_calibration_recovery => exact h.motor_calibration_recovery_after fun _ _ => trivial
  | do_manage_start => exact h.do_manage_start_after hexit
  | do_manage_finish => exact h.do_manage_finish_after hexit

end Interrupts

end catbox.motor
