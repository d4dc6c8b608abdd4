import CatLitterBox.Motor.Failing
import CatLitterBox.Program.Oracle

open catbox.sensor program program.Program

namespace catbox.motor

/-- The sensor word that an event reads, if it is such a read. -/
def Event.word : Event → Option PtWord
  | ⟨.get_pt_status _, word⟩ => some word
  | _ => none

/-- The time that an event reads, if it is such a read. -/
def Event.time : Event → Option Int
  | ⟨.esp_timer_get_time, now⟩ => some now
  | _ => none

/-- The sensor word that was read last. -/
def lastWord (trace : List Event) : Option PtWord := trace.findSome? Event.word

/-- The time that was read first. -/
def firstTime : List Event → Option Int
  | [] => none
  | e :: trace => (firstTime trace).or e.time

/-- The word shows the motor at the end that is waited for. -/
def Reports (mt : Motor) (status : MotorStatus) (word : PtWord) : Prop :=
  match status with
  | .MT_OPEN => pt_check_word mt word = 1
  | .MT_CLOSE => pt_check_word mt word = -1
  | .MT_MIDDLE => False

/-- The word that was read last shows it there. -/
def Arrived (mt : Motor) (status : MotorStatus) (trace : List Event) : Prop :=
  ∃ word, lastWord trace = some word ∧ Reports mt status word

/-- What was read last is that the motor stands still, and the time before it is more than 300 ms
after the first one. -/
def StoodStill (mt : Motor) (trace : List Event) : Prop :=
  ∃ p now start before, trace = ⟨.get_motor_run mt p, false⟩ :: ⟨.esp_timer_get_time, now⟩ :: before ∧
    firstTime before = some start ∧ (now - start).tdiv 1000 > 300

variable {mt : Motor} {status : MotorStatus} {word : PtWord} {s : List Event} {start : Int}

@[simp] theorem lastWord_cons (e : Event) (trace : List Event) :
    lastWord (e :: trace) = e.word.or (lastWord trace) := by
  unfold lastWord
  rw [List.findSome?_cons]
  cases e.word with
  | none => rfl
  | some word => rfl

/-- The start of a wait stays the first time that it has read. -/
theorem firstTime_cons (e : Event) (h : firstTime s = some start) : firstTime (e :: s) = some start := by
  rw [firstTime, h]
  rfl

theorem reports_of_at_target (h : at_target status (pt_check_word mt word) = true) : Reports mt status word := by
  unfold at_target at h
  cases status with
  | MT_OPEN =>
    have hopen : pt_check_word mt word = 1 := by simpa using h
    exact hopen
  | MT_CLOSE =>
    have hclose : pt_check_word mt word = -1 := by simpa using h
    exact hclose
  | MT_MIDDLE => simp at h

/-- The reads between two samples keep the start. -/
theorem wp_waiting {α : Type} {c : Code α} {Q : α → List Event → Prop} (hs : firstTime s = some start)
    (hQ : ∀ a t, firstTime t = some start → Q a t) : c.wp recorded Q s :=
  wp_history_of_every (I := fun t => firstTime t = some start) (every_true c) (fun _ _ _ _ => trivial)
    (fun _ _ _ _ h => firstTime_cons _ h) hs hQ

def endsArrived (mt : Motor) (status : MotorStatus) (r : Int) (t : List Event) : Prop :=
  r = 0 → Arrived mt status t ∨ StoodStill mt t

/-- A sample ends the wait with 0 only on a word that shows the end or on a motor that stands still. -/
theorem wait_motor_sample_arrives {timeout : Int} (hs : firstTime s = some start) :
    (wait_motor_sample mt timeout status start).wp recorded
      (fun o t => o.elim (fun _ => firstTime t = some start) fun r => endsArrived mt status r t) s := by
  refine wp_history_bind trivial fun _ => wp_seq (wp_history_bind trivial fun word => ?_)
  refine wp_history_bind trivial fun now => wp_seq ?_
  have hnow : ∀ e : Event, firstTime (e :: s) = some start := fun e => firstTime_cons e hs
  refine wp_ite (fun hlong => wp_history_bind trivial fun running => ?_) fun _ => ?_
  · refine wp_ite (fun hend _ => ?_) fun _ => wp_ite (fun _ hzero => absurd hzero (by decide)) fun _ => ?_
    · obtain htarget | hstill := Bool.or_eq_true_iff.mp hend
      · exact .inl ⟨word, rfl, reports_of_at_target htarget⟩
      · obtain rfl : running = false := by simpa using hstill
        exact .inr ⟨_, now, start, _, rfl, firstTime_cons _ (hnow _), hlong⟩
    · exact firstTime_cons _ (firstTime_cons _ (firstTime_cons _ (hnow _)))
  · refine wp_ite (fun hend _ => ?_) fun _ => wp_ite (fun _ hzero => absurd hzero (by decide)) fun _ => ?_
    · obtain htarget | hstill := Bool.or_eq_true_iff.mp hend
      · exact .inl ⟨word, rfl, reports_of_at_target htarget⟩
      · cases hstill
    · exact firstTime_cons _ (firstTime_cons _ (hnow _))

private theorem wait_motor_operation_ends {timeout : Int} :
    (wait_motor_operation mt timeout status).wp recorded (endsArrived mt status) [] := by
  refine wp_history_bind trivial fun _ => wp_history_bind trivial fun start => ?_
  have hfailed : ∀ t, endsArrived mt status (-1) t := fun t hzero => absurd hzero (by decide)
  refine wp_repeated (fun _ t => firstTime t = some start) rfl fun _ t ht => ?_
  refine wp_seq (wp_waiting ht fun stop t ht => wp_ite (fun _ => hfailed t) fun _ => ?_)
  refine wp_seq (wp_waiting ht fun stop t ht => wp_ite (fun _ => hfailed t) fun _ => ?_)
  refine wp_seq (wp_waiting ht fun stop t ht => wp_ite (fun _ => hfailed t) fun _ => ?_)
  exact wait_motor_sample_arrives ht

/-- Whatever a wait reads, it returns 0 only if the last word shows the end that it waits for, or if it
has found the motor standing still after 300 ms. -/
theorem wait_motor_operation_arrives (mt : Motor) (timeout : Int) (status : MotorStatus)
    (oracle : (a : Act) → List Event → a.Answer) (n : Nat)
    (h : ((wait_motor_operation mt timeout status).recorded oracle n).1.result = some 0) :
    Arrived mt status ((wait_motor_operation mt timeout status).recorded oracle n).2 ∨
      StoodStill mt ((wait_motor_operation mt timeout status).recorded oracle n).2 :=
  wp_result (Program.wp_recorded wait_motor_operation_ends n) h rfl

/-- Answers with some words and times, of motors that stand still, without a stop or a pause. -/
def readings (word : List Event → PtWord) (time : List Event → Int) : (a : Act) → List Event → a.Answer
  | .read _ _, _ => false
  | .get_pt_status _, trace => word trace
  | .get_motor_run _ _, _ => false
  | .esp_timer_get_time, trace => time trace
  | .get_tof_ring_count, _ => (0 : Nat)
  | .get_tof_distance, _ => (0 : Int)
  | .send _ _, _ => ()
  | .send_led_cmd_msg _, _ => ()
  | .write _ _, _ => ()
  | .vTaskDelay _, _ => ()
  | .set_tof_sensor_enable _, _ => ()
  | .reset_tof_ring_buffer, _ => ()

/-- The scoop shows neither end, and the second time that is read is 301 ms after the first one. -/
def stuck_scoop : (a : Act) → List Event → a.Answer :=
  readings (fun _ => 0) fun trace => if (firstTime trace).isSome then 301000 else 0

theorem wait_for_stuck_scoop_arrives :
    Arrived .SCPINOUT_MOTOR .MT_CLOSE
        ((wait_motor_operation .SCPINOUT_MOTOR 15000 .MT_CLOSE).recorded stuck_scoop 13).2 ∨
      StoodStill .SCPINOUT_MOTOR
        ((wait_motor_operation .SCPINOUT_MOTOR 15000 .MT_CLOSE).recorded stuck_scoop 13).2 :=
  wait_motor_operation_arrives .SCPINOUT_MOTOR 15000 .MT_CLOSE stuck_scoop 13 rfl

/-- A wait for a scoop that stands still on its way in returns 0. -/
theorem stuck_scoop_counts : ¬ ∀ (mt : Motor) (timeout : Int) (status : MotorStatus)
    (oracle : (a : Act) → List Event → a.Answer) (n : Nat),
    mt ∈ [Motor.WASTE_COVER_MOTOR, .MAIN_COVER_MOTOR, .SCPINOUT_MOTOR] →
    status ∈ [MotorStatus.MT_OPEN, .MT_CLOSE] →
    ((wait_motor_operation mt timeout status).recorded oracle n).1.result = some 0 →
    Arrived mt status ((wait_motor_operation mt timeout status).recorded oracle n).2 := by
  intro hall
  obtain ⟨word, hword, hreports⟩ :=
    hall .SCPINOUT_MOTOR 15000 .MT_CLOSE stuck_scoop 13 (by decide) (by decide) rfl
  obtain rfl : (0 : PtWord) = word := Option.some.inj hword
  have hclose : pt_check_word .SCPINOUT_MOTOR 0 = -1 := hreports
  exact absurd hclose (by decide)

end catbox.motor
