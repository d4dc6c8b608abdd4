import CatLitterBox.Motor.Frame.Wait
import CatLitterBox.Sensor.TofDistance

open catbox.sensor program program.Program

namespace catbox.motor

/-- A check of `CHECK_TOF_PAUSE` in progress. -/
structure CheckConfig where
  code : Code Bool
  world : World

/-- What may happen during a check: a step of it, a distance sample stored by the sensor
task, or any change of the shared state outside the ring. -/
inductive CheckMove where
  | step
  | sample (tof_value : Int)
  | others (w : World)

def CheckMove.apply (c : CheckConfig) : CheckMove → CheckConfig
  | .step =>
    { code := (c.code.advance Act.perform c.world).1
      world := (c.code.advance Act.perform c.world).2 }
  | .sample tof_value => { c with world := { c.world with tof := tof_proc true tof_value c.world.tof } }
  | .others w => { c with world := { w with tof := c.world.tof } }

def checkRun (w : World) (moves : List CheckMove) : CheckConfig :=
  moves.foldl CheckMove.apply { code := CHECK_TOF_PAUSE, world := w }

/-- What `get_fresh_tof_distance` and the test of `CHECK_TOF_PAUSE` make of a distance. -/
def fresh_distance (valid_dist : Int) : Int := if valid_dist ≥ 0 ∧ valid_dist ≤ 2000 then valid_dist else -1

/-- The pause that an obstacle leads to. -/
def tof_pause : Code Bool := do
  pause_all_motors
  send_led_cmd_msg .LED_PAUSE_CMD
  write .clean_pause_flag true
  wait_while_paused .check_tof_pause

/-- The check from the measured distance on. -/
def tof_judge (valid_dist : Int) : Code Bool :=
  if tof_obstacle (fresh_distance valid_dist) then tof_pause else .ret false

/-- The read of the distance leads to the judgement of it. -/
def judged (a : Act) (r : a.Answer) (c : Code Bool) : Prop :=
  match a, r with
  | .get_tof_distance, r => c = tof_judge r
  | _, _ => True

private theorem CHECK_TOF_PAUSE_leads : CHECK_TOF_PAUSE.Leads (· = .get_tof_distance) judged := by
  have hobserves : Observes fun a => ¬ a = .get_tof_distance :=
    { pt := by simp, run := by simp, time := by simp, delay := by simp, read := by simp }
  have hpause : tof_pause.Every fun a => ¬ a = .get_tof_distance := by
    refine every_bind ?_ fun _ => every_perform_bind (by simp) fun _ =>
      every_perform_bind (by simp) fun _ => ?_
    · simp [pause_all_motors]
    · exact wait_while_paused_every hobserves
  have hjudge (r : Int) : (tof_judge r).Leads (· = .get_tof_distance) judged :=
    leads_of_every (every_ite hpause trivial)
  have hfresh : wait_fresh_samples.Every fun a => ¬ a = .get_tof_distance := by
    refine every_repeated fun wait_ms => every_perform_bind (by simp) fun count => every_ite ?_ trivial
    exact every_perform_bind (by simp) fun _ => trivial
  have hcheck : CHECK_TOF_PAUSE = .act (.set_tof_sensor_enable true) fun _ =>
    .act .reset_tof_ring_buffer fun _ =>
      wait_fresh_samples.bind fun _ => .act .get_tof_distance tof_judge := by
    have hfun : tof_judge = fun r =>
      Program.bind (if r ≥ 0 ∧ r ≤ 2000 then .ret r else .ret (-1)) fun tof_dist =>
        if tof_obstacle tof_dist then tof_pause else .ret false := by
      funext r
      unfold tof_judge fresh_distance
      split
      · rfl
      · rfl
    rw [hfun]
    rfl
  rw [hcheck]
  refine ⟨by simp, fun _ => ⟨by simp, fun _ => leads_bind hfresh fun _ => ⟨fun _ r => rfl, hjudge⟩⟩⟩

theorem checkRun_leads (w : World) (moves : List CheckMove) :
    (checkRun w moves).code.Leads (· = .get_tof_distance) judged := by
  refine List.foldlRecOn (motive := fun c => c.code.Leads (· = .get_tof_distance) judged)
    moves CheckMove.apply ?_ ?_
  · exact CHECK_TOF_PAUSE_leads
  · intro c hc m _
    cases m with
    | step => exact leads_advance hc
    | sample tof_value => exact hc
    | others w' => exact hc

/-- The ring is clear of obstacles: some sample counts and all that count are beyond 550 mm. -/
def TofClear (ring : TofRing) : Prop := ring.distances.Nonempty ∧ ∀ v ∈ ring.distances, 550 < v

/-- The ring is measured: some sample counts and none of them is 0. -/
def TofMeasured (ring : TofRing) : Prop := ring.distances.Nonempty ∧ 0 ∉ ring.distances

theorem TofClear.measured {ring : TofRing} (h : TofClear ring) : TofMeasured ring := by
  refine ⟨h.1, fun hzero => ?_⟩
  have := h.2 0 hzero
  omega

private theorem tof_judge_result (valid_dist : Int) :
    (tof_judge valid_dist).result = some false ↔ tof_obstacle (fresh_distance valid_dist) = false := by
  unfold tof_judge
  cases tof_obstacle (fresh_distance valid_dist) with
  | true => exact ⟨fun h => (nomatch h), fun h => (nomatch h)⟩
  | false => exact ⟨fun _ => rfl, fun _ => rfl⟩

/-- The judgement lets the scoop move on a distance beyond the threshold, but also on 0
and on the -1 of a ring without a valid sample. -/
theorem tof_judge_result_iff (ring : TofRing) :
    (tof_judge (sensor.get_tof_distance ring)).result = some false ↔ TofClear ring ∨ ¬ TofMeasured ring := by
  rw [tof_judge_result]
  by_cases hnonempty : ring.distances.Nonempty
  · obtain ⟨hmem, hlower⟩ := get_tof_distance_isLeast hnonempty
    obtain ⟨-, ⟨hpos, hmax⟩, -⟩ := TofRing.mem_distances.mp hmem
    have hclear : TofClear ring ↔ 550 < sensor.get_tof_distance ring :=
      ⟨fun h => h.2 _ hmem, fun h => ⟨hnonempty, fun v hv => h.trans_le (hlower hv)⟩⟩
    have hmeasured : TofMeasured ring ↔ sensor.get_tof_distance ring ≠ 0 := by
      refine ⟨fun h hzero => h.2 (hzero ▸ hmem), fun h => ⟨hnonempty, fun hzero => h ?_⟩⟩
      have hle := hlower hzero
      omega
    have hfresh : fresh_distance (sensor.get_tof_distance ring) = sensor.get_tof_distance ring :=
      if_pos ⟨hpos, hmax⟩
    rw [hclear, hmeasured, hfresh]
    simp only [tof_obstacle, Bool.and_eq_false_iff, decide_eq_false_iff_not]
    omega
  · have hdist : sensor.get_tof_distance ring = -1 :=
      get_tof_distance_of_empty (Set.not_nonempty_iff_eq_empty.mp hnonempty)
    rw [hdist]
    exact ⟨fun _ => .inr fun h => hnonempty h.1, fun _ => by decide⟩

/-- The obstacle check is fail-safe exactly on measured rings: from the read of the
distance it goes on without a pause only over a clear ring, if and only if the ring at
the read holds a valid sample and none that is 0. -/
theorem tof_check_fail_safe_iff (w : World) (moves : List CheckMove)
    (hread : (checkRun w moves).code.next = some .get_tof_distance) :
    ((checkRun w (moves ++ [.step])).code.result = some false → TofClear (checkRun w moves).world.tof) ↔
      TofMeasured (checkRun w moves).world.tof := by
  have hstep : (checkRun w (moves ++ [.step])).code =
      tof_judge (sensor.get_tof_distance (checkRun w moves).world.tof) := by
    have hjudged := leads_next (f := Act.perform) (w := (checkRun w moves).world)
        (checkRun_leads w moves) hread rfl
    simp only [checkRun, List.foldl_append, List.foldl_cons, List.foldl_nil]
    exact hjudged
  rw [hstep, tof_judge_result_iff]
  constructor
  · intro h
    by_contra hmeasured
    exact hmeasured (h (.inr hmeasured)).measured
  · rintro hmeasured (hclear | hnot)
    · exact hclear
    · exact absurd hmeasured hnot

/-- A check during which five samples of 800 mm arrive. -/
theorem tof_check_clear_sample :
    ((checkRun (.boot 0) ((List.replicate 2 .step ++ List.replicate 5 (.sample 800) ++
      List.replicate 2 .step) ++
        [.step])).code.result = some false →
      TofClear (checkRun (.boot 0)
        (List.replicate 2 .step ++ List.replicate 5 (.sample 800) ++ List.replicate 2 .step)).world.tof) ↔
      TofMeasured (checkRun (.boot 0)
        (List.replicate 2 .step ++ List.replicate 5 (.sample 800) ++ List.replicate 2 .step)).world.tof :=
  tof_check_fail_safe_iff (.boot 0) _ rfl

/-- Five samples of 2500 mm, beyond the valid range, let the scoop move. -/
theorem tof_check_passes_invalid :
    ¬ ∀ (w : World) (moves : List CheckMove), (checkRun w moves).code.next = some .get_tof_distance →
      (checkRun w (moves ++ [.step])).code.result = some false → TofClear (checkRun w moves).world.tof := by
  intro h
  obtain ⟨⟨v, hv⟩, -⟩ := h (.boot 0)
    (List.replicate 2 .step ++ List.replicate 5 (.sample 2500) ++ List.replicate 2 .step) rfl rfl
  obtain ⟨-, hvalid, i, hi⟩ := TofRing.mem_distances.mp hv
  have hring : ∀ i, ¬ tof_valid ((checkRun (.boot 0)
      (List.replicate 2 .step ++ List.replicate 5 (.sample 2500) ++ List.replicate 2 .step)).world.tof.buf
        i) := by
    decide
  exact hring i (hi ▸ hvalid)

end catbox.motor
