import CatLitterBox.Motor.Frame.Clean
import CatLitterBox.Motor.Frame.Reached
import CatLitterBox.Motor.Run

open catbox.sensor program program.Program

namespace catbox.motor

def Act.scoopForward (a : Act) : Prop := a.command .SCPINOUT_MOTOR = some .FORWARD

def Act.coverReverse (a : Act) : Prop := a.command .MAIN_COVER_MOTOR = some .REVERSE

/-- Since the last FORWARD command to the scoop, or since the start, a sensor word with
SCP_IN has been read. -/
def ScoopSeenIn (trace : List Event) : Prop :=
  ∃ (newer older : List Event) (p : Place) (word : PtWord),
    trace = newer ++ ⟨.get_pt_status p, word⟩ :: older ∧ word.has PT_BIT_SCP_IN = true ∧
      ∀ e ∈ newer, ¬ e.1.scoopForward

/-- What the interlock asks: the main cover is closed over a scoop that was seen in. -/
def interlocked : Spec Act Act.Answer (List Event) := .history fun a t => a.coverReverse → ScoopSeenIn t

/-- The wait for the scoop to come in finds its motor standing still, and SCP_IN has not
been seen since the scoop was last driven out. -/
def stalled_out (a : Act) (r : a.Answer) (t : List Event) : Prop :=
  match a, r with
  | .get_motor_run mt p, r =>
    mt = .SCPINOUT_MOTOR ∧ p = .wait_motor_operation .SCPINOUT_MOTOR .MT_CLOSE ∧ r = false ∧ ¬ ScoopSeenIn t
  | _, _ => False

variable {α : Type} {s : List Event}

/-- The scoop has been seen in as long as nothing has moved it forward since. -/
theorem ScoopSeenIn.cons {e : Event} (h : ScoopSeenIn s) (he : ¬ e.1.scoopForward) :
    ScoopSeenIn (e :: s) := by
  obtain ⟨newer, older, p, word, rfl, hword, hnewer⟩ := h
  refine ⟨e :: newer, older, p, word, rfl, hword, ?_⟩
  intro e' he'
  obtain rfl | he' := List.mem_cons.mp he'
  · exact he
  · exact hnewer e' he'

theorem scoopSeenIn_of_read {p : Place} {word : PtWord} (h : word.has PT_BIT_SCP_IN = true) :
    ScoopSeenIn (⟨.get_pt_status p, word⟩ :: s) := ⟨[], s, p, word, rfl, h, by simp⟩

/-- A program that never closes the cover needs nothing of the history. -/
theorem wp_interlocked_of_every {c : Code α} {Q : α → List Event → Prop}
    (hc : c.Every fun a => ¬ a.coverReverse)
    (hQ : ∀ x t, Q x t) : c.wp (interlocked.until stalled_out) Q s :=
  wp_until_of_every (I := fun _ => True) hc (fun _ _ ha _ h => absurd h ha) (fun _ _ _ _ _ => trivial) trivial
    fun x t _ => hQ x t

/-- A program that never drives the scoop out may close the cover once the scoop was seen in. -/
theorem wp_seen_of_every {c : Code α} {Q : α → List Event → Prop} (hc : c.Every fun a => ¬ a.scoopForward)
    (hs : ScoopSeenIn s) (hQ : ∀ x t, ScoopSeenIn t → Q x t) : c.wp (interlocked.until stalled_out) Q s :=
  wp_until_of_every hc (fun _ _ _ h _ => h) (fun _ _ _ ha h => h.cons ha) hs hQ

theorem observes_coverReverse : Observes fun a => ¬ a.coverReverse :=
  { pt := fun _ => (nomatch ·), run := fun _ _ => (nomatch ·), time := (nomatch ·),
    delay := fun _ => (nomatch ·)
    read := fun _ _ => (nomatch ·) }

/-- A wait for the scoop to come in that succeeds has seen it in. -/
theorem wait_scoop_in_seen {timeout : Int} {Q : Int → List Event → Prop} (hfail : ∀ t, Q (-1) t)
    (hseen : ∀ t, ScoopSeenIn t → Q 0 t) :
    (wait_motor_operation .SCPINOUT_MOTOR timeout .MT_CLOSE).wp (interlocked.until stalled_out) Q s := by
  have hany {a : Act} (ha : ¬ a.coverReverse) : (interlocked.until stalled_out).Keeps (fun _ => True) a :=
    fun _ _ => ⟨fun h => absurd h ha, fun _ _ _ => trivial⟩
  have hkeep {a : Act} (ha : ¬ a.coverReverse) (hscoop : ¬ a.scoopForward) :
      (interlocked.until stalled_out).Keeps ScoopSeenIn a := by
    refine fun u hu => ⟨fun h => absurd h ha, fun r t htrans => ?_⟩
    obtain ⟨rfl, -⟩ := htrans
    exact hu.cons hscoop
  refine wp_wait_close (I := fun _ => True) (C := ScoopSeenIn) ?_ ?_ ?_ ?_ trivial (fun t _ => hfail t) hseen
  · exact
      { pt := fun _ => hany (nomatch ·), run := fun _ _ => hany (nomatch ·), time := hany (nomatch ·)
        delay := fun _ => hany (nomatch ·), read := fun _ _ => hany (nomatch ·) }
  · exact
      { pt := fun _ => hkeep (nomatch ·) (nomatch ·), run := fun _ _ => hkeep (nomatch ·) (nomatch ·)
        time := hkeep (nomatch ·) (nomatch ·), delay := fun _ => hkeep (nomatch ·) (nomatch ·)
        read := fun _ _ => hkeep (nomatch ·) (nomatch ·) }
  · intro u word t _ htrans hword
    obtain ⟨rfl, -⟩ := htrans
    exact scoopSeenIn_of_read hword
  · -- a motor that stands still has been seen in, or the answer is hooked
    intro u t _ htrans
    obtain ⟨-, hhook⟩ := htrans
    by_contra hunseen
    exact hhook ⟨rfl, rfl, rfl, hunseen⟩

/-- The same within a sequence whose failure ends it. -/
theorem wp_scoop_in {timeout : Int} {c d : Code α} {Q : α → List Event → Prop}
    (hfail : ∀ t, c.wp (interlocked.until stalled_out) Q t)
    (hseen : ∀ t, ScoopSeenIn t → d.wp (interlocked.until stalled_out) Q t) :
    ((wait_motor_operation .SCPINOUT_MOTOR timeout .MT_CLOSE).bind fun ret => if ret != 0 then c else d).wp
      (interlocked.until stalled_out) Q s :=
  wp_seq (wait_scoop_in_seen hfail hseen)

/-- What closes nothing: the parts of the scenarios before the scoop comes in. -/
theorem cleans_coverReverse : Cleans fun a => ¬ a.coverReverse where
  read _ _ := (nomatch ·)
  pt _ := (nomatch ·)
  run _ _ := (nomatch ·)
  time := (nomatch ·)
  delay _ := (nomatch ·)
  spin _ := (nomatch ·)
  scoop _ _ := (nomatch ·)
  clear := (nomatch ·)
  enable := (nomatch ·)
  reset := (nomatch ·)
  count := (nomatch ·)
  pass _ := (nomatch ·)
  distance := (nomatch ·)
  cover _ hmsg := fun h => hmsg (Option.some.inj h)
  scoopOut _ := (nomatch ·)
  waste _ := (nomatch ·)
  plate _ _ := (nomatch ·)
  led _ := (nomatch ·)
  always _ := (nomatch ·)
  pause := (nomatch ·)

/-- What leaves the scoop in: the parts of the scenarios that close the cover. -/
theorem calibrates_scoopForward : Calibrates fun a => ¬ a.scoopForward where
  read _ _ := (nomatch ·)
  pt _ := (nomatch ·)
  run _ _ := (nomatch ·)
  time := (nomatch ·)
  delay _ := (nomatch ·)
  spin _ := (nomatch ·)
  scoop _ hmsg := fun h => hmsg (Option.some.inj h)
  clear := (nomatch ·)

theorem recovery_close_cover_every {q : Act → Prop} (h : Observes q)
    (hcover : ∀ msg, q (.send .MAIN_COVER_MOTOR msg)) :
    recovery_close_cover.Every q := by
  refine every_perform_bind (h.pt _) fun pt => every_ite trivial ?_
  refine every_bind (drive_main_cover_soft_every h.toSamples fun msg _ => hcover msg) fun _ => ?_
  refine every_perform_bind (h.delay _) fun _ => checked_wait_every h trivial ?_
  exact every_perform_bind (hcover _) fun _ => every_perform_bind (h.delay _) fun _ => trivial

/-- Steps 1 and 2 of the recovery. -/
theorem recovery_close_waste_every {q : Act → Prop} (h : Observes q)
    (hwaste : ∀ msg, q (.send .WASTE_COVER_MOTOR msg)) :
    recovery_close_waste.Every q := by
  refine every_perform_bind (h.pt _) fun pt => every_ite trivial ?_
  refine every_perform_bind (hwaste _) fun _ => every_perform_bind (h.delay _) fun _ => ?_
  exact checked_wait_every h trivial (every_perform_bind (hwaste _) fun _ =>
    every_perform_bind (h.delay _) fun _ => trivial)

private theorem recovery_calibrate_every {q : Act → Prop} (h : Calibrates q) : recovery_calibrate.Every q :=
  every_bind (motor_calibration_recovery_every h) fun _ =>
    every_ite trivial (every_perform_bind (h.delay _) fun _ => trivial)

/-- Step 3 of the recovery ends with the scoop seen in, or with its failure. -/
theorem recovery_scoop_in_seen {Q : Bool → List Event → Prop} (hfail : ∀ t, Q true t)
    (hseen : ∀ t, ScoopSeenIn t → Q false t) : recovery_scoop_in.wp (interlocked.until stalled_out) Q s := by
  refine wp_until_bind (nomatch ·) fun pt _ => ?_
  refine wp_ite (fun hpt => hseen _ (scoopSeenIn_of_read hpt)) fun _ => ?_
  refine wp_until_bind (nomatch ·) fun _ _ => ?_
  refine wp_until_bind (nomatch ·) fun _ _ => ?_
  refine wp_scoop_in hfail fun t ht => ?_
  refine wp_until_bind (nomatch ·) fun _ _ => wp_until_bind (nomatch ·) fun _ _ => ?_
  refine hseen _ ((ht.cons ?_).cons ?_)
  · exact (nomatch ·)
  · exact (nomatch ·)

/-- The recovery may start from anywhere: step 3 looks at the scoop. -/
theorem do_clean_resume_recovery_interlocked :
    do_clean_resume_recovery.wp (interlocked.until stalled_out) (fun _ _ => True) s := by
  have habort (t : List Event) : recovery_abort.wp (interlocked.until stalled_out) (fun _ _ => True) t := by
    iterate 10 refine wp_until_bind (nomatch ·) fun _ _ => ?_
    trivial
  have hwaste : recovery_close_waste.Every fun a => ¬ a.coverReverse :=
    recovery_close_waste_every observes_coverReverse fun _ => (nomatch ·)
  have hcalibrate : recovery_calibrate.Every fun a => ¬ a.coverReverse :=
    recovery_calibrate_every cleans_coverReverse.toCalibrates
  have hcover : recovery_close_cover.Every fun a => ¬ a.scoopForward :=
    recovery_close_cover_every calibrates_scoopForward.toObserves fun _ => (nomatch ·)
  refine wp_until_bind (nomatch ·) fun _ _ => wp_until_bind (nomatch ·) fun _ _ => ?_
  refine wp_seq (wp_interlocked_of_every hwaste fun exit t => wp_ite (fun _ => habort t) fun _ => ?_)
  refine wp_seq (wp_interlocked_of_every hcalibrate fun exit t => wp_ite (fun _ => habort t) fun _ => ?_)
  refine wp_seq (recovery_scoop_in_seen habort fun t ht => ?_)
  refine wp_seq (wp_seen_of_every hcover ht fun exit t _ => wp_ite (fun _ => habort t) fun _ => ?_)
  iterate 11 refine wp_until_bind (nomatch ·) fun _ _ => ?_
  trivial

theorem estop_exit_interlocked : estop_exit.wp (interlocked.until stalled_out) (fun _ _ => True) s := by
  refine wp_until_bind (nomatch ·) fun _ _ => wp_until_bind (nomatch ·) fun is_recovery_mode _ => ?_
  iterate 8 refine wp_until_bind (nomatch ·) fun _ _ => ?_
  exact wp_ite (fun _ => do_clean_resume_recovery_interlocked) fun _ =>
    wp_until_bind (nomatch ·) fun _ _ => trivial

/-- The normal sequence from the last scoop move on. -/
theorem clean_scoop_in_seen {Q : Bool → List Event → Prop} (hfail : ∀ t, Q true t)
    (hseen : ∀ t, ScoopSeenIn t → Q false t) : clean_scoop_in.wp (interlocked.until stalled_out) Q s := by
  have hobserves : Observes fun a => ¬ a.scoopForward := calibrates_scoopForward.toObserves
  have hspin : (wait_motor_operation .SCPSPIN_MOTOR 8000 .MT_MIDDLE).Every fun a => ¬ a.coverReverse :=
    wait_motor_operation_every observes_coverReverse
  refine wp_until_bind (nomatch ·) fun _ _ => wp_until_bind (nomatch ·) fun _ _ => ?_
  refine wp_seq (wp_interlocked_of_every hspin fun ret t => wp_ite (fun _ => hfail t) fun _ => ?_)
  have hcheck : CHECK_TOF_PAUSE.Every fun a => ¬ a.coverReverse := CHECK_TOF_PAUSE_every cleans_coverReverse
  refine wp_until_bind (nomatch ·) fun _ _ => ?_
  refine wp_seq (wp_interlocked_of_every hcheck fun obstacle t => wp_ite (fun _ => hfail t) fun _ => ?_)
  refine wp_until_bind (nomatch ·) fun _ _ => ?_
  refine wp_until_bind (nomatch ·) fun _ _ => ?_
  refine wp_scoop_in hfail fun t ht => ?_
  refine wp_seen_of_every ?_ ht fun exit t ht => ?_
  · refine every_perform_bind (nomatch ·) fun _ => every_perform_bind (nomatch ·) fun _ => ?_
    exact every_perform_bind (nomatch ·) fun _ =>
      every_bind (wait_motor_operation_every hobserves) fun _ => trivial
  · cases exit with
    | true => exact hfail t
    | false => exact hseen t ht

private theorem clean_sequence_interlocked {Q : Bool → List Event → Prop} (hQ : ∀ x t, Q x t) :
    clean_sequence.wp (interlocked.until stalled_out) Q s := by
  have h := cleans_coverReverse
  have hclose : clean_close_cover.Every fun a => ¬ a.scoopForward :=
    clean_close_cover_every calibrates_scoopForward fun _ => (nomatch ·)
  refine wp_seq (wp_interlocked_of_every (clean_open_cover_every h) fun exit t =>
    wp_ite (fun _ => hQ true t) fun _ => ?_)
  refine wp_seq (wp_interlocked_of_every (clean_cycle_every h) fun exit t =>
    wp_ite (fun _ => hQ true t) fun _ => ?_)
  refine wp_seq (wp_interlocked_of_every (clean_cycle_every h) fun exit t =>
    wp_ite (fun _ => hQ true t) fun _ => ?_)
  refine wp_seq (clean_scoop_in_seen (hQ true) fun t ht => ?_)
  exact wp_seen_of_every hclose ht fun exit t _ => hQ exit t

theorem do_clean_interlocked : do_clean.wp (interlocked.until stalled_out) (fun _ _ => True) s := by
  have hbegin : clean_begin.Every fun a => ¬ a.coverReverse := by
    refine every_perform_bind (nomatch ·) fun _ => every_perform_bind (nomatch ·) fun _ => ?_
    refine every_perform_bind (nomatch ·) fun _ => every_perform_bind (nomatch ·) fun _ => ?_
    refine every_perform_bind (nomatch ·) fun _ => every_perform_bind (nomatch ·) fun _ => ?_
    exact every_perform_bind (nomatch ·) fun _ => every_perform (nomatch ·)
  refine wp_seq (wp_interlocked_of_every hbegin fun _ t =>
    wp_seq (clean_sequence_interlocked fun exit t => ?_))
  refine wp_ite (fun _ => estop_exit_interlocked) fun _ => ?_
  iterate 6 refine wp_until_bind (nomatch ·) fun _ _ => ?_
  trivial

private theorem do_manage_finish_interlocked :
    do_manage_finish.wp (interlocked.until stalled_out) (fun _ _ => True) s := by
  have hobserves : Observes fun a => ¬ a.scoopForward := calibrates_scoopForward.toObserves
  have hexit : manage_exit.Every fun a => ¬ a.scoopForward := every_perform_bind (nomatch ·) fun _ => trivial
  iterate 3 refine wp_until_bind (nomatch ·) fun _ _ => ?_
  refine wp_scoop_in (fun t => wp_until_bind (nomatch ·) fun _ _ => trivial) fun t ht => ?_
  refine wp_seen_of_every ?_ ht fun _ _ _ => trivial
  refine every_perform_bind (nomatch ·) fun _ => ?_
  refine every_bind (drive_main_cover_soft_every hobserves.toSamples fun _ _ => (nomatch ·)) fun _ => ?_
  refine every_perform_bind (nomatch ·) fun _ => checked_wait_every hobserves hexit ?_
  refine every_perform_bind (nomatch ·) fun _ => every_perform_bind (nomatch ·) fun _ => ?_
  exact every_perform_bind (nomatch ·) fun _ => trivial

/-- The scenarios that close the main cover after they moved the scoop. -/
def Scenario.closesCover (scenario : Scenario) : Prop :=
  scenario = .do_clean ∨ scenario = .do_clean_resume_recovery ∨ scenario = .do_manage_finish

private theorem scenario_interlocked {scenario : Scenario} (h : scenario.closesCover) :
    scenario.code.wp (interlocked.until stalled_out) (fun _ _ => True) [] := by
  obtain rfl | rfl | rfl := h
  · exact do_clean_interlocked
  · exact do_clean_resume_recovery_interlocked
  · exact do_manage_finish_interlocked

/-- In every run in which no wait for the scoop to come in finds its motor standing still
with SCP_IN unseen since the scoop was last driven out, the main cover is closed only over
a scoop that was seen in. -/
theorem cover_closes_over_scoop_in {scenario : Scenario} (hscenario : scenario.closesCover) (w : World)
    (moves : List Move) (hstalled : Unhooked stalled_out (run scenario w moves).trace) {a : Act}
    (hnext : (run scenario w moves).code.next = some a) (hclose : a.coverReverse) :
    ScoopSeenIn (run scenario w moves).trace := by
  have hcode := run_until (scenario_interlocked hscenario) w moves hstalled
  exact wp_next hcode hnext hclose

/-- A `do_manage_finish` whose scoop is in from the start, at the first command to the cover. -/
theorem manage_finish_closes_over_scoop_in :
    ScoopSeenIn (run .do_manage_finish (.boot PT_BIT_SCP_IN) (List.replicate 17 .scenario)).trace := by
  refine cover_closes_over_scoop_in (.inr (.inr rfl)) (.boot PT_BIT_SCP_IN) _ ?_ rfl rfl
  iterate 15 refine ⟨id, ?_⟩
  trivial

/-- The event is a sensor word with SCP_IN. -/
def Event.sees_scoop_in (e : Event) : Bool :=
  match e with
  | ⟨.get_pt_status _, word⟩ => word.has PT_BIT_SCP_IN
  | _ => false

private theorem not_scoopSeenIn {trace : List Event} (h : ∀ e ∈ trace, Event.sees_scoop_in e = false) :
    ¬ ScoopSeenIn trace := by
  rintro ⟨newer, older, p, word, rfl, hword, -⟩
  have hblind : Event.sees_scoop_in ⟨.get_pt_status p, word⟩ = false := h _ (by simp)
  exact absurd (hblind.symm.trans hword) Bool.false_ne_true

/-- A scoop motor that stands still, by a foreign STOP or a stall, ends the wait of
`do_manage_finish` with success, and the cover closes over a scoop seen nowhere. -/
theorem manage_finish_closes_over_stalled_scoop :
    ¬ ∀ (scenario : Scenario), scenario.closesCover → ∀ (w : World) (moves : List Move) (a : Act),
      (run scenario w moves).code.next = some a → a.coverReverse →
        ScoopSeenIn (run scenario w moves).trace := by
  intro h
  have hseen := h .do_manage_finish (.inr (.inr rfl)) (.boot 0) (List.replicate 5 .scenario ++
    .others { World.boot 0 with clock := 400000 } :: List.replicate 13 .scenario)
    (.send .MAIN_COVER_MOTOR ⟨.MAIN_COVER_CMD, 0, .REVERSE, 100, none, none⟩) rfl rfl
  exact not_scoopSeenIn (by decide) hseen

end catbox.motor
