import CatLitterBox.Drive.Dc
import CatLitterBox.Motor.Scenario
import CatLitterBox.Program.Total

open catbox.motor catbox.sensor program program.Program

namespace catbox.drive

/-- The command in the numbering of the drivers. -/
def driveCmd : MotorCmd → DriveCmd
  | .WASTE_COVER_CMD => .WASTE_COVER_CMD
  | .PLATE_CMD => .PLATE_CMD
  | .SCP_INOUT_CMD => .SCP_INOUT_CMD
  | .SCP_SPIN_CMD => .SCP_SPIN_CMD
  | .MAIN_COVER_CMD => .MAIN_COVER_CMD
  | .WASTE_STEP_CMD => .WASTE_STEP_CMD

/-- The message of a scenario as its motor task receives it. -/
def received (msg : Message) : DriveMessage where
  cmd := driveCmd msg.cmd
  angle := .ofNat msg.angle
  direction := msg.direction
  timeout := .ofNat msg.timeout

/-- The message that a step sends to the main cover, if it sends one. -/
def main_message (e : Event) : Option Message :=
  match e.1 with
  | .send .MAIN_COVER_MOTOR msg => some msg
  | _ => none

/-- The messages sent to the main cover, oldest first. -/
def main_messages (t : List Event) : List Message := (t.filterMap main_message).reverse

/-- The speeds passed in them: what `main.h` declares as `speed` comes in the field of the timeout. -/
def requested (t : List Event) : List Nat := (main_messages t).map Message.timeout

/-- The duty of the outputs in percent. -/
def DcMotor.duty (m : DcMotor) : Nat := m.comparator * 100 / 400

/-- The duty that `main_cmd_task` applies for each message that it receives. -/
def applied : DcMotor → List Turn → List Nat
  | _, [] => []
  | m, t :: turns =>
    (t.msg.map fun msg => (dc_receive main_cover m (some msg)).duty).toList ++ applied (main_cmd_task m t) turns

/-- The iterations receive the messages that have been sent, in their order, among idle ones. -/
def Consumes (turns : List Turn) (t : List Event) : Prop :=
  turns.filterMap Turn.msg = (main_messages t).map received

/-- A command of the soft start. -/
def soft_message (dir : Direction) (duty : Nat) : Message :=
  { cmd := .MAIN_COVER_CMD, angle := 0, direction := dir, timeout := duty, speed := none, cal := none }

/-- The first `k` duties of a ramp. -/
def ramp (start_speed k : Nat) : List Nat := (List.range k).map fun i => start_speed + 10 * i

/-- The start kick and the ramp from `min(70, target)` to the target at most. -/
def soft_start (target_speed : Nat) : List Nat :=
  100 :: ramp (min 70 target_speed) ((target_speed - min 70 target_speed) / 10 + 1)

variable {dir : Direction} {target_speed : Nat} {m : DcMotor} {turns : List Turn}
  {oracle : (a : Act) → List Event → a.Answer} {t : List Event}

theorem main_messages_send (msg : Message) (r : Unit) :
    main_messages (⟨.send .MAIN_COVER_MOTOR msg, r⟩ :: t) = main_messages t ++ [msg] := by
  simp [main_messages, main_message]

private theorem main_messages_delay (ms : Nat) (r : Unit) :
    main_messages (⟨.vTaskDelay ms, r⟩ :: t) = main_messages t := rfl

private theorem ramp_succ (start_speed k : Nat) :
    ramp start_speed (k + 1) = ramp start_speed k ++ [start_speed + 10 * k] := by
  simp [ramp, List.range_succ]

/-- The ramp sends its duties up to the target. -/
theorem soft_ramp_ends (sent : List Message) (start_speed : Nat) (hle : start_speed ≤ target_speed)
    (ht : main_messages t = sent) :
    (soft_ramp dir target_speed start_speed).Ends oracle
      (fun _ u => main_messages u =
        sent ++ (ramp start_speed ((target_speed - start_speed) / 10 + 1)).map (soft_message dir)) t := by
  refine ends_repeated
    (fun duty u => ∃ k, duty = start_speed + 10 * k ∧ 10 * k ≤ target_speed - start_speed + 10 ∧
      main_messages u = sent ++ (ramp start_speed k).map (soft_message dir))
    (fun duty _ => target_speed + 10 - duty) ⟨0, rfl, by omega, by simp [ht, ramp]⟩ ?_
  rintro duty u ⟨k, rfl, hk, hu⟩
  refine ends_ite (fun hduty => ?_) fun hover => ?_
  · refine ends_perform_bind (ends_perform_bind (ends_ret ⟨⟨k + 1, by omega, by omega, ?_⟩, by omega⟩))
    rw [main_messages_delay, main_messages_send, hu, ramp_succ, List.map_append, List.append_assoc]
    rfl
  · have hlast : k = (target_speed - start_speed) / 10 + 1 := by omega
    exact ends_ret (hlast ▸ hu)

/-- The soft start comes to its end, and has sent the kick and the ramp. -/
theorem drive_main_cover_soft_sends (oracle : (a : Act) → List Event → a.Answer) (dir : Direction)
    (target_speed : Nat) :
    (drive_main_cover_soft dir target_speed).Ends oracle
      (fun _ t => main_messages t = (soft_start target_speed).map (soft_message dir)) [] := by
  have hstart : (if target_speed < 70 then target_speed else 70) = min 70 target_speed := by
    split_ifs <;> omega
  refine ends_perform_bind (ends_perform_bind (ends_perform_bind ?_))
  simp only [hstart]
  exact soft_ramp_ends [soft_message dir 100] _ (Nat.min_le_right 70 target_speed) rfl

/-- The duty of a command is the one of its direction, whatever speed it asks for. -/
theorem duty_of_command (m : DcMotor) (duty : Nat) :
    (dc_receive main_cover m (some (received (soft_message dir duty)))).duty =
      if dir = .STOP then 0 else 60 := by
  cases dir with
  | _ =>
    simp [dc_receive, received, soft_message, driveCmd, main_cover, dc_command, dc_stop,
      motor_move, DcMotor.duty]

/-- Every command of the soft start is applied as the first one. -/
theorem applied_eq {duties : List Nat}
    (hturns : turns.filterMap Turn.msg = (duties.map (soft_message dir)).map received) :
    applied m turns = List.replicate duties.length (if dir = .STOP then 0 else 60) := by
  induction turns generalizing m duties with
  | nil =>
    have hnone : duties = [] := List.map_eq_nil_iff.mp (List.map_eq_nil_iff.mp hturns.symm)
    rw [hnone]
    rfl
  | cons turn turns ih =>
    cases hmsg : turn.msg with
    | none =>
      rw [List.filterMap_cons_none hmsg] at hturns
      simp only [applied, hmsg, Option.map_none, Option.toList_none, List.nil_append]
      exact ih hturns
    | some msg =>
      rw [List.filterMap_cons_some hmsg] at hturns
      cases duties with
      | nil => cases hturns
      | cons duty duties =>
        obtain ⟨rfl, hrest⟩ := List.cons.inj hturns
        simp only [applied, hmsg, Option.map_some, Option.toList_some, duty_of_command]
        rw [ih hrest]
        rfl

/-- The duties that are applied do not follow those that are sent: the start kick already is not. -/
theorem applied_ne_requested (hsent : main_messages t = (soft_start target_speed).map (soft_message dir))
    (hturns : Consumes turns t) : applied m turns ≠ requested t := by
  unfold Consumes at hturns
  rw [hsent] at hturns
  rw [applied_eq hturns, requested, hsent]
  intro heq
  have hkick := List.head_eq_of_cons_eq heq
  split_ifs at hkick
  · cases hkick
  · cases hkick

/-- Whatever the direction and the target, the soft start does not ramp: its commands are consumed
with one and the same duty. -/
theorem soft_start_never_ramps (dir : Direction) (target_speed : Nat)
    (oracle : (a : Act) → List Event → a.Answer) :
    (drive_main_cover_soft dir target_speed).Ends oracle
      (fun _ t => ∀ m turns, Consumes turns t → applied m turns ≠ requested t) [] := by
  obtain ⟨a, t, hend, hsent⟩ := drive_main_cover_soft_sends oracle dir target_speed
  exact ⟨a, t, hend, fun m turns hturns => applied_ne_requested hsent hturns⟩

/-- `do_manage_start` opens the main cover with the target 100: it asks for 100, 70, 80, 90 and 100,
and gets 60. -/
theorem soft_start_flat :
    ¬ ∀ (dir : Direction) (target_speed : Nat) (oracle : (a : Act) → List Event → a.Answer),
      target_speed ≤ 100 →
      (drive_main_cover_soft dir target_speed).Ends oracle
        (fun _ t => ∀ m turns, Consumes turns t → applied m turns = requested t) [] := by
  intro h
  let oracle (a : Act) (_ : List Event) : a.Answer := (a.perform (.boot 0)).1
  obtain ⟨-, t, hramps, hsent⟩ :=
    ends_unique (h .FORWARD 100 oracle (by decide)) (drive_main_cover_soft_sends oracle .FORWARD 100)
  let turns : List Turn := (main_messages t).map fun msg => ⟨some (received msg), 0⟩
  have hturns : Consumes turns t := by simp [Consumes, turns, List.filterMap_map]
  exact applied_ne_requested hsent hturns (hramps .boot turns hturns)

end catbox.drive
