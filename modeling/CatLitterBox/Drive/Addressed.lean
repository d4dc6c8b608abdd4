import CatLitterBox.Drive.Machine
import CatLitterBox.Motor.Frame.Clean

open catbox.motor catbox.sensor program program.Program

namespace catbox.drive

/-- What a step sends to a motor is a command that the task of the motor obeys. -/
def addressed : Act → Bool
  | .send mt msg => msg.cmd = motor_cmd mt
  | _ => true

/-- Every message of the code is obeyed by the motor that it goes to. -/
abbrev Addresses {α : Type} (c : Code α) : Prop := c.Every fun a => addressed a = true

variable {α : Type}

theorem observes_addressed : Observes fun a => addressed a = true :=
  { pt := fun _ => rfl, run := fun _ _ => rfl, time := rfl, delay := fun _ => rfl, read := fun _ _ => rfl }

theorem measures_addressed : MeasuresTof fun a => addressed a = true :=
  { enable := rfl, reset := rfl, count := rfl, pass := fun _ => rfl, distance := rfl }

/-- A wait whose failure ends the code. -/
theorem wait_addresses {mt : Motor} {timeout : Int} {status : MotorStatus} {c d : Code α} (hc : Addresses c)
    (hd : Addresses d) :
    Addresses ((wait_motor_operation mt timeout status).bind fun ret => if ret != 0 then c else d) :=
  checked_wait_every observes_addressed hc hd

/-- Both sides of a test for a stop have to address their messages right. -/
theorem estop_addresses {c d : Code α} {p : Place} (hc : Addresses c) (hd : Addresses d) :
    Addresses ((stop_requested p).bind fun stop => if stop then c else d) :=
  every_bind (stop_requested_every observes_addressed) fun _ => every_ite hc hd

theorem duration_addresses {ms : Nat} {c d : Code α} (hc : Addresses c) (hd : Addresses d) :
    Addresses ((wait_duration ms).bind fun ret => if ret != 0 then c else d) :=
  every_bind (wait_duration_every observes_addressed) fun _ => every_ite hc hd

theorem drive_main_cover_soft_addresses (dir : Direction) (target_speed : Nat) :
    Addresses (drive_main_cover_soft dir target_speed) := by
  iterate 3 refine every_perform_bind rfl fun _ => ?_
  refine every_repeated fun duty => every_ite ?_ trivial
  iterate 2 refine every_perform_bind rfl fun _ => ?_
  trivial

private theorem pause_all_motors_addresses : Addresses pause_all_motors := by
  iterate 4 refine every_perform_bind rfl fun _ => ?_
  exact every_perform rfl

/-- The check of the TOF sensor addresses its messages to the motors that they are for. -/
theorem CHECK_TOF_PAUSE_addresses : Addresses CHECK_TOF_PAUSE := by
  refine every_bind (get_fresh_tof_distance_every measures_addressed) fun dist => every_ite ?_ trivial
  refine every_bind pause_all_motors_addresses fun _ => ?_
  iterate 2 refine every_perform_bind rfl fun _ => ?_
  exact wait_while_paused_every observes_addressed

theorem tof_addresses {c d : Code α} (hc : Addresses c) (hd : Addresses d) :
    Addresses (CHECK_TOF_PAUSE.bind fun obstacle => if obstacle then c else d) :=
  every_bind CHECK_TOF_PAUSE_addresses fun _ => every_ite hc hd

private theorem search_st_bit_addresses (want : Bool) : Addresses (search_st_bit want) := by
  refine every_perform_bind rfl fun st_time => every_repeated fun _ => ?_
  refine every_perform_bind rfl fun now => every_ite ?_ trivial
  refine every_perform_bind rfl fun stop => every_ite (every_perform_bind rfl fun _ => trivial) ?_
  exact every_perform_bind rfl fun word => every_ite trivial (every_perform_bind rfl fun _ => trivial)

theorem search_addresses {want : Bool} {c d : Code α} (hc : Addresses c) (hd : Addresses d) :
    Addresses ((search_st_bit want).bind fun stop => if stop then c else d) :=
  every_bind (search_st_bit_addresses want) fun _ => every_ite hc hd

/-- So does the search for the origin of the spin motor. -/
theorem scp_spin_find_st_origin_addresses (dir : Direction) : Addresses (scp_spin_find_st_origin dir) := by
  refine every_repeated fun depth => every_perform_bind rfl fun stop => every_ite trivial ?_
  refine every_perform_bind rfl fun word => every_ite (every_bind ?_ fun _ => trivial) ?_
  · refine every_perform_bind rfl fun _ => search_addresses trivial ?_
    iterate 2 refine every_perform_bind rfl fun _ => ?_
    refine every_perform_bind rfl fun stop => every_ite trivial ?_
    refine every_perform_bind rfl fun _ => search_addresses trivial ?_
    exact every_perform_bind rfl fun _ => trivial
  · refine every_perform_bind rfl fun _ => search_addresses trivial ?_
    iterate 2 refine every_perform_bind rfl fun _ => ?_
    exact every_perform_bind rfl fun stop => every_ite trivial trivial

theorem origin_addresses {dir : Direction} {c d : Code α} (hc : Addresses c) (hd : Addresses d) :
    Addresses ((scp_spin_find_st_origin dir).bind fun ret => if ret != 0 then c else d) :=
  every_bind (scp_spin_find_st_origin_addresses dir) fun _ => every_ite hc hd

theorem abort_addresses : Addresses (calib_abort.bind fun ret => .ret ret) := by
  refine every_bind ?_ fun _ => trivial
  iterate 2 refine every_perform_bind rfl fun _ => ?_
  trivial

private theorem calibrate_scoop_out_addresses : Addresses calibrate_scoop_out := by
  refine origin_addresses trivial (every_perform_bind rfl fun stop => every_ite trivial ?_)
  iterate 2 refine every_perform_bind rfl fun _ => ?_
  refine wait_addresses trivial (every_perform_bind rfl fun stop => every_ite trivial ?_)
  iterate 2 refine every_perform_bind rfl fun _ => ?_
  refine wait_addresses trivial (every_perform_bind rfl fun _ => every_perform_bind rfl fun stop => ?_)
  exact every_ite trivial (every_bind (scp_spin_find_st_origin_addresses _) fun _ => trivial)

/-- The calibration addresses its messages right, too. -/
theorem motor_calibration_addresses : Addresses motor_calibration := by
  refine every_perform_bind rfl fun _ => every_perform_bind rfl fun pt => every_bind ?_ fun abort => ?_
  · refine every_ite (every_bind ?_ fun _ => trivial) calibrate_scoop_out_addresses
    exact scp_spin_find_st_origin_addresses _
  refine every_ite abort_addresses (every_perform_bind rfl fun stop => every_ite abort_addresses ?_)
  iterate 2 refine every_perform_bind rfl fun _ => ?_
  refine wait_addresses abort_addresses (every_perform_bind rfl fun stop => ?_)
  exact every_ite abort_addresses trivial

/-- So does the calibration of the recovery. -/
theorem motor_calibration_recovery_addresses : Addresses motor_calibration_recovery := by
  refine every_perform_bind rfl fun _ => origin_addresses abort_addresses ?_
  refine every_perform_bind rfl fun stop => every_ite abort_addresses ?_
  iterate 3 refine every_perform_bind rfl fun _ => ?_
  refine wait_addresses abort_addresses ?_
  iterate 2 refine every_perform_bind rfl fun _ => ?_
  refine every_perform_bind rfl fun stop => every_ite abort_addresses ?_
  iterate 2 refine every_perform_bind rfl fun _ => ?_
  refine wait_addresses abort_addresses ?_
  iterate 2 refine every_perform_bind rfl fun _ => ?_
  refine every_perform_bind rfl fun stop => every_ite abort_addresses (origin_addresses abort_addresses ?_)
  iterate 3 refine every_perform_bind rfl fun _ => ?_
  refine wait_addresses abort_addresses ?_
  iterate 2 refine every_perform_bind rfl fun _ => ?_
  trivial

theorem do_clean_resume_recovery_addresses : Addresses do_clean_resume_recovery := by
  have habort : Addresses (recovery_abort.bind fun ret => .ret ret) := by
    refine every_bind ?_ fun _ => trivial
    iterate 10 refine every_perform_bind rfl fun _ => ?_
    trivial
  have hreset : Addresses recovery_reset := by
    iterate 11 refine every_perform_bind rfl fun _ => ?_
    trivial
  have hwaste : Addresses recovery_close_waste := by
    refine every_perform_bind rfl fun pt => every_ite trivial ?_
    iterate 2 refine every_perform_bind rfl fun _ => ?_
    refine wait_addresses trivial ?_
    iterate 2 refine every_perform_bind rfl fun _ => ?_
    trivial
  have hscoop : Addresses recovery_scoop_in := by
    refine every_perform_bind rfl fun pt => every_ite trivial ?_
    iterate 2 refine every_perform_bind rfl fun _ => ?_
    refine wait_addresses trivial ?_
    iterate 2 refine every_perform_bind rfl fun _ => ?_
    trivial
  have hcover : Addresses recovery_close_cover := by
    refine every_perform_bind rfl fun pt => every_ite trivial ?_
    refine every_bind (drive_main_cover_soft_addresses _ _) fun _ => every_perform_bind rfl fun _ => ?_
    refine wait_addresses trivial ?_
    iterate 2 refine every_perform_bind rfl fun _ => ?_
    trivial
  have hcalibrate : Addresses recovery_calibrate := by
    refine every_bind motor_calibration_recovery_addresses fun ret => every_ite trivial ?_
    exact every_perform_bind rfl fun _ => trivial
  iterate 2 refine every_perform_bind rfl fun _ => ?_
  refine every_bind hwaste fun exit => every_ite habort (every_bind hcalibrate fun exit => every_ite habort ?_)
  refine every_bind hscoop fun exit => every_ite habort (every_bind hcover fun exit => every_ite habort ?_)
  exact hreset

/-- The opening of the cover addresses its messages right. -/
theorem clean_open_cover_addresses : Addresses clean_open_cover := by
  refine every_bind (drive_main_cover_soft_addresses _ _) fun _ => every_perform_bind rfl fun _ => ?_
  refine every_bind (wait_motor_operation_every observes_addressed) fun ret => ?_
  iterate 2 refine every_perform_bind rfl fun _ => ?_
  refine every_ite trivial (every_bind (pt_check_every observes_addressed.toSamples) fun ret => ?_)
  exact every_ite trivial (every_perform_bind rfl fun _ => trivial)

/-- So does a cycle of the collection. -/
theorem clean_collect_addresses (cycle : Nat) : Addresses (clean_collect cycle) := by
  refine every_optional rfl (duration_addresses trivial (estop_addresses trivial ?_))
  iterate 2 refine every_perform_bind rfl fun _ => ?_
  refine wait_addresses trivial (every_perform_bind rfl fun _ => estop_addresses trivial ?_)
  refine duration_addresses trivial (estop_addresses trivial ?_)
  iterate 2 refine every_perform_bind rfl fun _ => ?_
  refine wait_addresses trivial ?_
  iterate 2 refine every_perform_bind rfl fun _ => ?_
  refine wait_addresses trivial ?_
  iterate 2 refine every_perform_bind rfl fun _ => ?_
  trivial

/-- So does the emptying into the waste. -/
theorem clean_dump_addresses : Addresses clean_dump := by
  refine tof_addresses trivial ?_
  iterate 2 refine every_perform_bind rfl fun _ => ?_
  refine wait_addresses trivial (every_perform_bind rfl fun _ => ?_)
  iterate 2 refine every_perform_bind rfl fun _ => ?_
  refine wait_addresses trivial ?_
  iterate 2 refine every_perform_bind rfl fun _ => ?_
  refine wait_addresses trivial ?_
  iterate 2 refine every_perform_bind rfl fun _ => ?_
  exact wait_addresses trivial (every_perform_bind rfl fun _ => trivial)

/-- So does the second try to move the scoop out. -/
theorem clean_retry_scoop_out_addresses : Addresses clean_retry_scoop_out := by
  refine every_bind (pt_check_every observes_addressed.toSamples) fun ret => every_ite trivial ?_
  iterate 2 refine every_perform_bind rfl fun _ => ?_
  exact wait_addresses trivial (every_perform_bind rfl fun _ => trivial)

private theorem close_waste_try_addresses (retry : Nat) : Addresses (close_waste_try retry) := by
  have hclosed : Addresses (send_waste_motor_msg .WASTE_COVER_CMD 0 .STOP 0 >>= fun _ =>
      vTaskDelay 150 >>= fun _ =>
      pt_check .WASTE_COVER_MOTOR .do_clean >>= fun ret =>
        if ret == -1 then pure (.inr true) else pure (.inl (retry + 1)) : Code (Nat ⊕ Bool)) := by
    iterate 2 refine every_perform_bind rfl fun _ => ?_
    exact every_bind (pt_check_every observes_addressed.toSamples) fun ret => every_ite trivial trivial
  refine every_ite (every_ite ?_ (every_bind (wait_motor_operation_every observes_addressed) fun ret => ?_))
    trivial
  · iterate 4 refine every_perform_bind rfl fun _ => ?_
    exact every_bind (wait_motor_operation_every observes_addressed) fun ret => every_ite hclosed trivial
  · exact every_ite hclosed trivial

private theorem clean_close_waste_addresses (cycle : Nat) : Addresses (clean_close_waste cycle) := by
  iterate 2 refine every_perform_bind rfl fun _ => ?_
  refine every_optional rfl (every_bind (every_repeated close_waste_try_addresses) fun success => ?_)
  exact every_ite trivial (every_perform_bind rfl fun _ => trivial)

theorem clean_cycle_addresses (cycle : Nat) : Addresses (clean_cycle cycle) := by
  refine every_bind (clean_collect_addresses cycle) fun exit => every_ite trivial ?_
  refine every_bind clean_dump_addresses fun exit => every_ite trivial ?_
  refine every_bind clean_retry_scoop_out_addresses fun exit => every_ite trivial ?_
  exact clean_close_waste_addresses cycle

private theorem clean_scoop_in_addresses : Addresses clean_scoop_in := by
  iterate 2 refine every_perform_bind rfl fun _ => ?_
  refine wait_addresses trivial (every_perform_bind rfl fun _ => tof_addresses trivial ?_)
  iterate 2 refine every_perform_bind rfl fun _ => ?_
  refine wait_addresses trivial (every_perform_bind rfl fun _ => ?_)
  iterate 2 refine every_perform_bind rfl fun _ => ?_
  exact every_bind (wait_motor_operation_every observes_addressed) fun _ => trivial

private theorem clean_close_cover_addresses : Addresses clean_close_cover := by
  refine every_bind motor_calibration_addresses fun ret => every_ite trivial ?_
  refine every_bind (drive_main_cover_soft_addresses _ _) fun _ => every_perform_bind rfl fun _ => ?_
  exact wait_addresses trivial (every_perform_bind rfl fun _ => trivial)

theorem do_clean_addresses : Addresses do_clean := by
  have hexit : Addresses estop_exit := by
    iterate 10 refine every_perform_bind rfl fun _ => ?_
    exact every_ite do_clean_resume_recovery_addresses (every_perform_bind rfl fun _ => trivial)
  have hend : Addresses clean_end := by
    iterate 6 refine every_perform_bind rfl fun _ => ?_
    trivial
  have hbegin : Addresses clean_begin := by
    iterate 7 refine every_perform_bind rfl fun _ => ?_
    exact every_perform rfl
  have hsequence : Addresses clean_sequence := by
    refine every_bind clean_open_cover_addresses fun exit => every_ite trivial ?_
    refine every_bind (clean_cycle_addresses 1) fun exit => every_ite trivial ?_
    refine every_bind (clean_cycle_addresses 2) fun exit => every_ite trivial ?_
    exact every_bind clean_scoop_in_addresses fun exit => every_ite trivial clean_close_cover_addresses
  exact every_bind hbegin fun _ => every_bind hsequence fun exit => every_ite hexit hend

theorem manage_exit_addresses : Addresses (manage_exit.bind fun ret => .ret ret) :=
  every_bind (every_perform_bind rfl fun _ => trivial) fun _ => trivial

private theorem do_manage_start_addresses : Addresses do_manage_start := by
  iterate 2 refine every_perform_bind rfl fun _ => ?_
  refine every_bind (drive_main_cover_soft_addresses _ _) fun _ => every_perform_bind rfl fun _ => ?_
  refine wait_addresses manage_exit_addresses ?_
  iterate 3 refine every_perform_bind rfl fun _ => ?_
  refine wait_addresses manage_exit_addresses ?_
  iterate 2 refine every_perform_bind rfl fun _ => ?_
  trivial

private theorem do_manage_finish_addresses : Addresses do_manage_finish := by
  iterate 3 refine every_perform_bind rfl fun _ => ?_
  refine wait_addresses manage_exit_addresses (every_perform_bind rfl fun _ => ?_)
  refine every_bind (drive_main_cover_soft_addresses _ _) fun _ => every_perform_bind rfl fun _ => ?_
  refine wait_addresses manage_exit_addresses ?_
  iterate 3 refine every_perform_bind rfl fun _ => ?_
  trivial

/-- The motors obey every message of every scenario. -/
theorem scenario_addresses (scenario : Scenario) : Addresses scenario.code := by
  cases scenario with
  | do_clean => exact do_clean_addresses
  | do_clean_resume_recovery => exact do_clean_resume_recovery_addresses
  | motor_calibration => exact motor_calibration_addresses
  | motor_calibration_recovery => exact motor_calibration_recovery_addresses
  | do_manage_start => exact do_manage_start_addresses
  | do_manage_finish => exact do_manage_finish_addresses

end catbox.drive
