import CatLitterBox.Motor.Frame.Clean
import CatLitterBox.Motor.Frame.Reached
import CatLitterBox.Motor.Plant

open catbox.sensor program program.Program temporal

namespace catbox.motor

/-- The motor whose closed end a place of the source looks for. -/
def Place.closes : Place → Option Motor
  | .wait_motor_operation mt .MT_CLOSE => some mt
  | .recovery_step 1 => some .WASTE_COVER_MOTOR
  | .recovery_step 3 => some .SCPINOUT_MOTOR
  | .recovery_step 4 => some .MAIN_COVER_MOTOR
  | _ => none

/-- The sensors do not mislead the scenario at a step: where it looks for the closed end
of a motor, the motor is not being driven open, and a motor that stands still is at that
end; at step 4 of the recovery, the main cover is at one of its ends. -/
def Act.faithful (a : Act) (w : World) : Prop :=
  match a with
  | .get_pt_status p =>
    (∀ mt, p.closes = some mt → w.pt_value.has mt.close_bit = true → ¬ w.opening mt) ∧
    (p = .recovery_step 4 → w.pt_value.has PT_BIT_MCOVER_OPEN = true ∨
      w.pt_value.has PT_BIT_MCOVER_CLOSE = true)
  | .get_motor_run mt p => p.closes = some mt → w.running mt = false → w.Closed mt
  | _ => True

instance (w : World) : (a : Act) → Decidable (a.faithful w)
  | .get_pt_status p => inferInstanceAs (Decidable ((∀ mt, p.closes = some mt → _ = true → ¬ w.opening mt) ∧
      (p = .recovery_step 4 → _ = true ∨ _ = true)))
  | .get_motor_run mt p =>
    inferInstanceAs (Decidable (p.closes = some mt → w.running mt = false → w.Closed mt))
  | .send _ _ | .send_led_cmd_msg _ | .read _ _ | .write _ _ | .esp_timer_get_time | .vTaskDelay _
  | .set_tof_sensor_enable _ | .reset_tof_ring_buffer | .get_tof_ring_count | .get_tof_distance =>
    .isTrue trivial

def Plant.physical (w : World) (e : Plant) : Prop := e.consistent w ∧ e.holding w

instance (w : World) (e : Plant) : Decidable (e.physical w) := inferInstanceAs (Decidable (_ ∧ _))

/-- A scenario among motors and sensors that do not mislead it. -/
def origin : Spec Act Act.Answer World := .rely Act.perform (Changes Plant.apply Plant.physical) Act.faithful

def ClosedAll (K : List Motor) (w : World) : Prop := ∀ mt ∈ K, w.Closed mt

/-- The step drives none of the motors forward. -/
def Spares (K : List Motor) (a : Act) : Prop := ∀ mt ∈ K, a.command mt ≠ some .FORWARD

variable {α : Type} {K : List Motor} {s : World}

/-- The physical changes leave the motors at their closed ends. -/
theorem ClosedAll.changes {t : World} (hst : Changes Plant.apply Plant.physical s t) (hs : ClosedAll K s) :
    ClosedAll K t := by
  refine hst.keep (fun w e he hw mt hmt => ?_) hs
  exact (hw mt hmt).change he.1 he.2

theorem closedAll_cons {mt : Motor} {w : World} (h : w.Closed mt) (hK : ClosedAll K w) :
    ClosedAll (mt :: K) w :=
  List.forall_mem_cons.mpr ⟨h, hK⟩

theorem keeps_closedAll {a : Act} (ha : Spares K a) : origin.Keeps (ClosedAll K) a := by
  refine keeps_rely (fun _ _ hst hs => hs.changes hst) fun w _ hw mt hmt => ?_
  exact (hw mt hmt).perform (ha mt hmt)

/-- A part that drives none of the closed motors forward leaves them closed. -/
theorem wp_spares {c : Code α} {Q : α → World → Prop} (hc : c.Every (Spares K)) (hs : ClosedAll K s)
    (hQ : ∀ x t, ClosedAll K t → Q x t) : c.wp origin Q s :=
  wp_of_keeps (every_mono (fun _ => keeps_closedAll) hc) hs hQ

/-- Of a part that nothing is known to be closed before, nothing need be shown. -/
theorem wp_anything {c : Code α} {Q : α → World → Prop} (hQ : ∀ x t, Q x t) : c.wp origin Q s :=
  wp_spares (K := []) (every_mono (fun _ _ _ h => (nomatch h)) (every_true c)) (nofun) fun x t _ => hQ x t

theorem wp_spares_bind {a : Act} {f : a.Answer → Code α} {Q : α → World → Prop} (ha : Spares K a)
    (hs : ClosedAll K s) (hf : ∀ r t, ClosedAll K t → (f r).wp origin Q t) : (a.code.bind f).wp origin Q s :=
  wp_perform_bind trivial fun r t htrans => hf r t ((keeps_closedAll ha s hs).2 r t htrans)

/-- A read of the word where the closed end of a motor is looked for. -/
theorem wp_look {p : Place} {mt : Motor} {f : PtWord → Code α} {Q : α → World → Prop}
    (hp : p.closes = some mt)
    (hs : ClosedAll K s)
    (hf : ∀ (word : PtWord) t, ClosedAll K t → (word.has mt.close_bit = true → ClosedAll (mt :: K) t) →
      (p = .recovery_step 4 → word.has PT_BIT_MCOVER_OPEN = true ∨ word.has PT_BIT_MCOVER_CLOSE = true) →
      (f word).wp origin Q t) :
    ((get_pt_status p).bind f).wp origin Q s := by
  apply wp_perform_bind trivial
  rintro word t ⟨u, hsu, hfaithful, hanswer⟩
  obtain ⟨rfl, rfl⟩ := Prod.mk.inj hanswer
  have hu : ClosedAll K u := hs.changes hsu
  exact hf _ _ hu (fun hbit => closedAll_cons ⟨hbit, hfaithful.1 mt hp hbit⟩ hu) hfaithful.2

theorem observes_spares : Observes (Spares K) :=
  { pt := fun _ _ _ => (nomatch ·), run := fun _ _ _ _ => (nomatch ·), time := fun _ _ => (nomatch ·)
    delay := fun _ _ _ => (nomatch ·), read := fun _ _ _ _ => (nomatch ·) }

theorem spares_send {mt : Motor} {msg : Message} (h : mt ∈ K → msg.direction ≠ .FORWARD) :
    Spares K (.send mt msg) := by
  intro m hm hcommand
  by_cases heq : mt = m
  · rw [Act.command, if_pos heq] at hcommand
    exact h (heq ▸ hm) (Option.some.inj hcommand)
  · rw [Act.command, if_neg heq] at hcommand
    cases hcommand

theorem calibrates_spares (hspin : .SCPSPIN_MOTOR ∉ K) : Calibrates (Spares K) where
  toObserves := observes_spares
  spin _ := spares_send fun h => absurd h hspin
  scoop _ hmsg := spares_send fun _ => hmsg
  clear _ _ := (nomatch ·)

/-- A wait for the closed end of a motor that succeeds leaves it closed. -/
theorem wait_closes {mt : Motor} {timeout : Int} {Q : Int → World → Prop} (hs : ClosedAll K s)
    (hfail : ∀ t, Q (-1) t) (hok : ∀ t, ClosedAll (mt :: K) t → Q 0 t) :
    (wait_motor_operation mt timeout .MT_CLOSE).wp origin Q s := by
  have hkeeps (L : List Motor) : Observes (origin.Keeps (ClosedAll L)) :=
    { pt := fun _ => keeps_closedAll (observes_spares.pt _)
      run := fun _ _ => keeps_closedAll (observes_spares.run _ _)
      time := keeps_closedAll observes_spares.time
      delay := fun _ => keeps_closedAll (observes_spares.delay _)
      read := fun _ _ => keeps_closedAll (observes_spares.read _ _) }
  refine wp_wait_close (hkeeps K) (hkeeps (mt :: K)) ?_ ?_ hs (fun t _ => hfail t) hok
  · rintro u word t hu ⟨v, huv, hfaithful, hanswer⟩ hbit
    obtain ⟨rfl, rfl⟩ := Prod.mk.inj hanswer
    exact closedAll_cons ⟨hbit, hfaithful.1 mt rfl hbit⟩ (hu.changes huv)
  · rintro u t hu ⟨v, huv, hfaithful, hanswer⟩
    obtain ⟨hstill, rfl⟩ := Prod.mk.inj hanswer
    exact closedAll_cons (hfaithful rfl hstill) (hu.changes huv)

/-- The same within a sequence whose failure ends it. -/
theorem wp_closes {mt : Motor} {timeout : Int} {c d : Code α} {Q : α → World → Prop} (hs : ClosedAll K s)
    (hfail : ∀ t, c.wp origin Q t) (hok : ∀ t, ClosedAll (mt :: K) t → d.wp origin Q t) :
    ((wait_motor_operation mt timeout .MT_CLOSE).bind fun ret => if ret != 0 then c else d).wp origin Q s :=
  wp_seq (wait_closes hs hfail hok)

theorem recovery_close_waste_closes {Q : Bool → World → Prop} (hfail : ∀ t, Q true t)
    (hok : ∀ t, ClosedAll [.WASTE_COVER_MOTOR] t → Q false t) : recovery_close_waste.wp origin Q s := by
  refine wp_look (K := []) rfl nofun fun pt t ht hclosed _ => ?_
  refine wp_ite (fun hpt => hok t (hclosed hpt)) fun _ => ?_
  refine wp_spares_bind (spares_send nofun) ht fun _ t ht => ?_
  refine wp_spares_bind (observes_spares.delay _) ht fun _ t ht => wp_closes ht hfail fun t ht => ?_
  refine wp_spares_bind (spares_send fun _ => nofun) ht fun _ t ht => ?_
  exact wp_spares_bind (observes_spares.delay _) ht fun _ t ht => hok t ht

theorem recovery_calibrate_spares (hspin : .SCPSPIN_MOTOR ∉ K) : recovery_calibrate.Every (Spares K) := by
  refine every_bind (motor_calibration_recovery_every (calibrates_spares hspin)) fun _ => every_ite trivial ?_
  exact every_perform_bind (observes_spares.delay _) fun _ => trivial

theorem recovery_scoop_in_closes {Q : Bool → World → Prop} (hs : ClosedAll K s) (hfail : ∀ t, Q true t)
    (hok : ∀ t, ClosedAll (.SCPINOUT_MOTOR :: K) t → Q false t) : recovery_scoop_in.wp origin Q s := by
  refine wp_look rfl hs fun pt t ht hclosed _ => wp_ite (fun hpt => hok t (hclosed hpt)) fun _ => ?_
  refine wp_spares_bind (spares_send fun _ => nofun) ht fun _ t ht => ?_
  refine wp_spares_bind (observes_spares.delay _) ht fun _ t ht => wp_closes ht hfail fun t ht => ?_
  refine wp_spares_bind (spares_send fun _ => nofun) ht fun _ t ht => ?_
  exact wp_spares_bind (observes_spares.delay _) ht fun _ t ht => hok t ht

/-- Step 4 skips a cover that does not report open. It then reports closed. -/
theorem recovery_close_cover_closes {Q : Bool → World → Prop} (hs : ClosedAll K s) (hfail : ∀ t, Q true t)
    (hok : ∀ t, ClosedAll (.MAIN_COVER_MOTOR :: K) t → Q false t) : recovery_close_cover.wp origin Q s := by
  have hsoft : (drive_main_cover_soft .REVERSE 100).Every (Spares K) :=
    drive_main_cover_soft_every observes_spares.toSamples fun msg hmsg => spares_send fun _ => by simp [hmsg]
  refine wp_look rfl hs fun pt t ht hclosed hends => wp_ite (fun hpt => hok t (hclosed ?_)) fun _ => ?_
  · obtain hopen | hclose := hends rfl
    · rw [hopen] at hpt
      cases hpt
    · exact hclose
  · refine wp_seq (wp_spares hsoft ht fun _ t ht => ?_)
    refine wp_spares_bind (observes_spares.delay _) ht fun _ t ht => wp_closes ht hfail fun t ht => ?_
    refine wp_spares_bind (spares_send fun _ => nofun) ht fun _ t ht => ?_
    exact wp_spares_bind (observes_spares.delay _) ht fun _ t ht => hok t ht

/-- The scenario ends in the origin: of its results, only 0 promises something. -/
def inOrigin (r : Int) (t : World) : Prop :=
  r = 0 → ClosedAll [.MAIN_COVER_MOTOR, .SCPINOUT_MOTOR, .WASTE_COVER_MOTOR] t

theorem spares_stop {mt : Motor} {msg : Message} (h : msg.direction = .STOP) : Spares K (.send mt msg) :=
  spares_send fun _ => by simp [h]

theorem do_clean_resume_recovery_closes : do_clean_resume_recovery.wp origin inOrigin s := by
  have habort (t : World) : recovery_abort.wp origin inOrigin t := by
    iterate 10 refine wp_spares_bind (K := []) nofun nofun fun _ _ _ => ?_
    exact fun hzero => absurd hzero (by decide)
  have hreset (t : World) (ht : ClosedAll [.MAIN_COVER_MOTOR, .SCPINOUT_MOTOR, .WASTE_COVER_MOTOR] t) :
      recovery_reset.wp origin inOrigin t := by
    refine wp_spares ?_ ht fun r t ht _ => ht
    iterate 5 refine every_perform_bind (fun _ _ => (nomatch ·)) fun _ => ?_
    iterate 5 refine every_perform_bind (spares_stop rfl) fun _ => ?_
    exact every_perform_bind (fun _ _ => (nomatch ·)) fun _ => trivial
  refine wp_spares_bind (K := []) nofun nofun fun _ _ _ => ?_
  refine wp_spares_bind (K := []) nofun nofun fun _ _ _ => ?_
  refine wp_seq (recovery_close_waste_closes (fun t => habort t) fun t ht => ?_)
  refine wp_seq (wp_spares (recovery_calibrate_spares (by decide)) ht fun exit t ht => ?_)
  refine wp_ite (fun _ => habort t) fun _ => ?_
  refine wp_seq (recovery_scoop_in_closes ht (fun t => habort t) fun t ht => ?_)
  exact wp_seq (recovery_close_cover_closes ht (fun t => habort t) fun t ht => hreset t ht)

theorem estop_exit_closes : estop_exit.wp origin inOrigin s := by
  refine wp_spares_bind (K := []) nofun nofun fun _ _ _ => ?_
  refine wp_spares_bind (K := []) nofun nofun fun is_recovery_mode _ _ => ?_
  iterate 8 refine wp_spares_bind (K := []) nofun nofun fun _ _ _ => ?_
  refine wp_ite (fun _ => do_clean_resume_recovery_closes) fun _ => ?_
  exact wp_spares_bind (K := []) nofun nofun fun _ _ _ hzero => absurd hzero (by decide)

/-- A try that succeeds has waited for the waste cover to close. -/
theorem close_waste_try_closes {retry : Nat} : (close_waste_try retry).wp origin
    (fun o t => o.elim (fun _ => True) fun b => b = true → ClosedAll [.WASTE_COVER_MOTOR] t) s := by
  have hwait (u : World) : ((wait_motor_operation .WASTE_COVER_MOTOR 15000 .MT_CLOSE).bind fun ret =>
      if ret == 0 then
        send_waste_motor_msg .WASTE_COVER_CMD 0 .STOP 0 >>= fun _ => vTaskDelay 150 >>= fun _ =>
          pt_check .WASTE_COVER_MOTOR .do_clean >>= fun ret =>
            if ret == -1 then pure (.inr true) else pure (.inl (retry + 1))
      else pure (.inl (retry + 1)) : Code (Nat ⊕ Bool)).wp origin
      (fun o t => o.elim (fun _ => True) fun b => b = true → ClosedAll [.WASTE_COVER_MOTOR] t) u := by
    refine wp_seq (wait_closes (K := []) nofun (fun _ => trivial) fun t ht => ?_)
    refine wp_spares_bind (spares_stop rfl) ht fun _ t ht => ?_
    refine wp_spares_bind (observes_spares.delay _) ht fun _ t ht => ?_
    refine wp_seq (wp_spares (pt_check_every observes_spares.toSamples) ht fun ret t ht => ?_)
    exact wp_ite (fun _ _ => ht) fun _ => trivial
  refine wp_ite (fun _ => wp_ite (fun _ => ?_) fun _ => hwait s) fun _ hsuccess => nomatch hsuccess
  iterate 4 refine wp_spares_bind (K := []) nofun nofun fun _ _ _ => ?_
  exact hwait _

/-- A cycle that does not fail ends with the waste cover closed. -/
theorem clean_cycle_closes {cycle : Nat} {Q : Bool → World → Prop} (hfail : ∀ t, Q true t)
    (hok : ∀ t, ClosedAll [.WASTE_COVER_MOTOR] t → Q false t) : (clean_cycle cycle).wp origin Q s := by
  have hloop (u : World) : ((Program.repeated close_waste_try 0).bind fun success =>
      if !success then pure true else vTaskDelay 100 >>= fun _ => pure false : Code Bool).wp origin Q u := by
    refine wp_seq (wp_repeated (fun _ _ => True) trivial fun retry t _ => wp_mono ?_ close_waste_try_closes)
    rintro (retry | success) t ht
    · trivial
    · refine wp_ite (fun _ => hfail t) fun hsuccess => ?_
      exact wp_spares_bind (observes_spares.delay _) (ht (by simpa using hsuccess)) fun _ t ht => hok t ht
  refine wp_seq (wp_anything fun exit t => wp_ite (fun _ => hfail t) fun _ => ?_)
  refine wp_seq (wp_anything fun exit t => wp_ite (fun _ => hfail t) fun _ => ?_)
  refine wp_seq (wp_anything fun exit t => wp_ite (fun _ => hfail t) fun _ => ?_)
  refine wp_spares_bind (K := []) nofun nofun fun _ _ _ => ?_
  refine wp_spares_bind (K := []) nofun nofun fun _ _ _ => ?_
  exact wp_ite (fun _ => wp_spares_bind (K := []) nofun nofun fun _ _ _ => hloop _) fun _ => hloop _

theorem clean_scoop_in_closes {Q : Bool → World → Prop} (hs : ClosedAll [.WASTE_COVER_MOTOR] s)
    (hfail : ∀ t, Q true t) (hok : ∀ t, ClosedAll [.SCPINOUT_MOTOR, .WASTE_COVER_MOTOR] t → Q false t) :
    clean_scoop_in.wp origin Q s := by
  have hwait {L : List Motor} : (wait_motor_operation .SCPSPIN_MOTOR 8000 .MT_MIDDLE).Every (Spares L) :=
    wait_motor_operation_every observes_spares
  have hcheck : CHECK_TOF_PAUSE.Every (Spares [.WASTE_COVER_MOTOR]) := by
    refine CHECK_TOF_PAUSE_every_of_stop observes_spares ?_ (fun _ _ => spares_stop)
      (fun _ _ _ => (nomatch ·)) ?_
    · exact
        { enable := fun _ _ => (nomatch ·), reset := fun _ _ => (nomatch ·), count := fun _ _ => (nomatch ·)
          pass := fun _ _ _ => (nomatch ·), distance := fun _ _ => (nomatch ·) }
    · exact fun _ _ => (nomatch ·)
  refine wp_spares_bind (spares_send (by decide)) hs fun _ t ht => ?_
  refine wp_spares_bind (observes_spares.delay _) ht fun _ t ht => ?_
  refine wp_seq (wp_spares hwait ht fun ret t ht => wp_ite (fun _ => hfail t) fun _ => ?_)
  refine wp_spares_bind (fun _ _ => (nomatch ·)) ht fun _ t ht => ?_
  refine wp_seq (wp_spares hcheck ht fun obstacle t ht => wp_ite (fun _ => hfail t) fun _ => ?_)
  refine wp_spares_bind (spares_send (by decide)) ht fun _ t ht => ?_
  refine wp_spares_bind (observes_spares.delay _) ht fun _ t ht => wp_closes ht hfail fun t ht => ?_
  refine wp_spares_bind (spares_stop rfl) ht fun _ t ht => ?_
  refine wp_spares_bind (spares_send (by decide)) ht fun _ t ht => ?_
  refine wp_spares_bind (observes_spares.delay _) ht fun _ t ht =>
    wp_seq (wp_spares hwait ht fun ret t ht => ?_)
  change Q (ret != 0) t
  cases ret != 0 with
  | true => exact hfail t
  | false => exact hok t ht

private theorem clean_close_cover_closes {Q : Bool → World → Prop} (hs : ClosedAll K s) (hspin : .SCPSPIN_MOTOR ∉ K)
    (hfail : ∀ t, Q true t) (hok : ∀ t, ClosedAll (.MAIN_COVER_MOTOR :: K) t → Q false t) :
    clean_close_cover.wp origin Q s := by
  have hsoft : (drive_main_cover_soft .REVERSE 100).Every (Spares K) :=
    drive_main_cover_soft_every observes_spares.toSamples fun msg hmsg => spares_send fun _ => by simp [hmsg]
  refine wp_seq (wp_spares (motor_calibration_every (calibrates_spares hspin)) hs fun ret t ht => ?_)
  refine wp_ite (fun _ => hfail t) fun _ => wp_seq (wp_spares hsoft ht fun _ t ht => ?_)
  refine wp_spares_bind (observes_spares.delay _) ht fun _ t ht => wp_closes ht hfail fun t ht => ?_
  exact wp_spares_bind (spares_stop rfl) ht fun _ t ht => hok t ht

private theorem clean_end_closes (hs : ClosedAll [.MAIN_COVER_MOTOR, .SCPINOUT_MOTOR, .WASTE_COVER_MOTOR] s) :
    clean_end.wp origin inOrigin s := by
  refine wp_spares ?_ hs fun r t ht _ => ht
  refine every_perform_bind (spares_stop rfl) fun _ => ?_
  iterate 4 refine every_perform_bind (fun _ _ => (nomatch ·)) fun _ => ?_
  exact every_perform_bind (fun _ _ => (nomatch ·)) fun _ => trivial

theorem do_clean_closes : do_clean.wp origin inOrigin s := by
  have hexit (t : World) : estop_exit.wp origin inOrigin t := estop_exit_closes
  refine wp_seq (wp_anything fun _ t => wp_seq ?_)
  refine wp_seq (wp_anything fun exit t => wp_ite (fun _ => hexit t) fun _ => ?_)
  refine wp_seq (wp_anything fun exit t => wp_ite (fun _ => hexit t) fun _ => ?_)
  refine wp_seq (clean_cycle_closes hexit fun t ht => ?_)
  refine wp_seq (clean_scoop_in_closes ht hexit fun t ht => ?_)
  exact clean_close_cover_closes ht (by decide) hexit fun t ht => clean_end_closes ht

/-- The scenarios that should leave the machine in its origin. -/
def Scenario.homes (scenario : Scenario) : Prop := scenario = .do_clean ∨ scenario = .do_clean_resume_recovery

def Scenario.shared (scenario : Scenario) (w : World) : Shared Act Act.Answer Int World := ⟨scenario.code, w⟩

/-- The scenario after the turns, from its start in the state `w`. -/
def plantRun (scenario : Scenario) (w : World) (turns : List (Turn Plant)) :
    Shared Act Act.Answer Int World :=
  (scenario.shared w).run Act.perform Plant.apply turns

/-- The word shows the three moving parts in their origin. -/
def InOrigin (word : PtWord) : Prop :=
  word.has PT_BIT_WASTE_CLOSE = true ∧ word.has PT_BIT_SCP_IN = true ∧ word.has PT_BIT_MCOVER_CLOSE = true

instance (word : PtWord) : Decidable (InOrigin word) := inferInstanceAs (Decidable (_ ∧ _ ∧ _))

private theorem inOrigin_iff {word : PtWord} : InOrigin word ↔ boot_unaligned word = false := by
  simp only [InOrigin, boot_unaligned, Bool.or_eq_false_iff, Bool.not_eq_false']
  exact ⟨fun ⟨hwaste, hscoop, hcover⟩ => ⟨⟨hwaste, hcover⟩, hscoop⟩,
    fun ⟨⟨hwaste, hcover⟩, hscoop⟩ => ⟨hwaste, hscoop, hcover⟩⟩

/-- Every successful clean or recovery among motors and sensors that do not mislead it
ends in the origin: the check at boot would not start a recovery. -/
theorem success_ends_in_origin {scenario : Scenario} (hscenario : scenario.homes) (w : World)
    (turns : List (Turn Plant))
    (halong : Along (Shared.move Act.perform Plant.apply) (Shared.permits Act.faithful Plant.physical)
      (scenario.shared w) turns)
    (hresult : (plantRun scenario w turns).code.result = some 0) :
    InOrigin (plantRun scenario w turns).state.pt_value ∧
      boot_unaligned (plantRun scenario w turns).state.pt_value = false := by
  have hcode : scenario.code.wp origin inOrigin w := by
    obtain rfl | rfl := hscenario
    · exact do_clean_closes
    · exact do_clean_resume_recovery_closes
  obtain ⟨t, ht, henv⟩ := Shared.holds_run (c := scenario.shared w) ⟨w, hcode, .refl⟩ halong
  have hclosed : ClosedAll [.MAIN_COVER_MOTOR, .SCPINOUT_MOTOR, .WASTE_COVER_MOTOR]
      (plantRun scenario w turns).state := ClosedAll.changes henv (wp_result ht hresult rfl)
  have horigin : InOrigin (plantRun scenario w turns).state.pt_value := by
    refine ⟨(hclosed .WASTE_COVER_MOTOR ?_).bit, (hclosed .SCPINOUT_MOTOR ?_).bit,
      (hclosed .MAIN_COVER_MOTOR ?_).bit⟩
    · decide
    · decide
    · decide
  exact ⟨horigin, inOrigin_iff.mp horigin⟩

/-- A recovery with the parts it looks at already in place, except perhaps for the main
cover: the scoop leaves the ST sensor and returns to it twice, and each of its turns ends
by itself. -/
def recovery_turns (word : PtWord) : List (Turn Plant) :=
  let own (n : Nat) : List (Turn Plant) := List.replicate n .own
  let spin : List (Turn Plant) := [.change (.consume .SCPSPIN_MOTOR)]
  let scoop : List (Turn Plant) := [.change (.consume .SCPINOUT_MOTOR)]
  let leave : List (Turn Plant) := [.change (.word word)]
  let enter : List (Turn Plant) := spin ++ spin ++ [.change (.word (word ||| PT_BIT_SCP_SPIN_ST))]
  let turned (t : Int) : List (Turn Plant) :=
    spin ++ spin ++ [.change (.halt .SCPSPIN_MOTOR), .change (.clock t)]
  own 8 ++ spin ++ leave ++ own 9 ++ enter ++ own 12 ++ turned 400000 ++ own 15 ++ scoop ++ own 14 ++ scoop ++
    own 6 ++ spin ++ spin ++ leave ++ own 9 ++ enter ++ own 11 ++ turned 800000 ++ own 27

/-- A recovery that finds the main cover open and drives it shut. -/
def closing_turns : List (Turn Plant) :=
  recovery_turns (PT_BIT_WASTE_CLOSE ||| PT_BIT_SCP_IN ||| PT_BIT_MCOVER_OPEN) ++ List.replicate 3 .own ++
    List.replicate 5 (.change (.consume .MAIN_COVER_MOTOR)) ++
    [.change (.word (PT_BIT_WASTE_CLOSE ||| PT_BIT_SCP_IN ||| PT_BIT_MCOVER_CLOSE ||| PT_BIT_SCP_SPIN_ST))] ++
    List.replicate 28 .own

theorem recovery_ends_in_origin :
    InOrigin (plantRun .do_clean_resume_recovery
        (.boot (PT_BIT_WASTE_CLOSE ||| PT_BIT_SCP_IN ||| PT_BIT_MCOVER_OPEN ||| PT_BIT_SCP_SPIN_ST))
        closing_turns).state.pt_value ∧
      boot_unaligned (plantRun .do_clean_resume_recovery
        (.boot (PT_BIT_WASTE_CLOSE ||| PT_BIT_SCP_IN ||| PT_BIT_MCOVER_OPEN ||| PT_BIT_SCP_SPIN_ST))
        closing_turns).state.pt_value = false :=
  success_ends_in_origin (.inr rfl) _ _ (by decide +kernel) (by decide +kernel)

/-- A recovery that starts with the main cover between its two ends succeeds and leaves it
there: step 4 closes only a cover that reports open. -/
theorem recovery_leaves_cover_between :
    ¬ ∀ (scenario : Scenario), scenario.homes → ∀ (w : World) (turns : List (Turn Plant)),
      Along (Shared.move Act.perform Plant.apply) (Shared.permits (fun _ _ => True) Plant.consistent)
      (scenario.shared w) turns →
      (plantRun scenario w turns).code.result = some 0 →
        InOrigin (plantRun scenario w turns).state.pt_value := by
  intro h
  have horigin := h .do_clean_resume_recovery (.inr rfl)
      (.boot (PT_BIT_WASTE_CLOSE ||| PT_BIT_SCP_IN ||| PT_BIT_SCP_SPIN_ST))
    (recovery_turns (PT_BIT_WASTE_CLOSE ||| PT_BIT_SCP_IN)) (by decide +kernel) (by decide +kernel)
  exact absurd horigin (by decide +kernel)

end catbox.motor
