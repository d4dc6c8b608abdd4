import CatLitterBox.Config.AppConfig
import CatLitterBox.Firmware.Tasks

open catbox.motor catbox.firmware

namespace catbox.config

/-- The reset reasons that the two headers name. -/
inductive Reason where
  | REASON_NORMAL
  | REASON_FAULT
  | REASON_FACTORY_RESTORE
  | REASON_OTA
  | REASON_DIAG
  | REASON_TEST
  | REASON_MAX
deriving DecidableEq, Repr

/-- The enumeration of the reset reasons in each header, in its order. -/
def Header.reasons : Header → List Reason
  | .main_h => [.REASON_NORMAL, .REASON_DIAG, .REASON_OTA, .REASON_FACTORY_RESTORE]
  | .app_config_flash_h =>
    [.REASON_NORMAL, .REASON_FAULT, .REASON_FACTORY_RESTORE, .REASON_OTA, .REASON_DIAG,
      .REASON_TEST, .REASON_MAX]

/-- The value of an enumerator for a module that includes the header. -/
def Header.code (h : Header) (r : Reason) : Nat := h.reasons.idxOf r

/-- `app_config_t` of `main.h`, member by member. -/
structure AppConfig where
  reset_reason : Int
  MIN_VALID_WASTE_RAW : UInt32
  CLUMPING_WAIT_MIN : UInt32
  m1_jam_current : UInt32
  m2_jam_current : UInt32
  m3_jam_current : UInt32
  m4_jam_current : UInt32
  m5_jam_current : UInt32
  CAT_ENTRY_MIN_WEIGHT : UInt32
  WASTE_TYPE_RATIO_TH : UInt32
  EFFECTIVE_DWELL_TIME : UInt32
  gate_way_rssi_th : Int
  tof_sense_threshold_l : UInt32
  tof_sense_threshold_r : UInt32
  motion_data_time : UInt32
deriving DecidableEq

/-- The initial value of `app_config`. -/
def app_config : AppConfig where
  reset_reason := Header.app_config_flash_h.code .REASON_NORMAL
  MIN_VALID_WASTE_RAW := 50
  CLUMPING_WAIT_MIN := 10
  m1_jam_current := 495
  m2_jam_current := 495
  m3_jam_current := 495
  m4_jam_current := 495
  m5_jam_current := 495
  CAT_ENTRY_MIN_WEIGHT := 500
  WASTE_TYPE_RATIO_TH := 20
  EFFECTIVE_DWELL_TIME := 5
  gate_way_rssi_th := -85
  tof_sense_threshold_l := 250
  tof_sense_threshold_r := 250
  motion_data_time := 1800

/-- The configuration in memory and in the flash, `app_save_flag`, the variable
`reset_reason` of `main.c`, and what the device sends to its LED and its `ui_task`. -/
structure Device where
  app_config : AppConfig
  nvs : AppConfig
  app_save_flag : Bool
  reset_reason : Nat
  led_cmd_msg : List LedCmd
  ui_cmd_msg : List UiCmd

def Device.app_nvs_save_set (d : Device) : Device := { d with app_save_flag := true }

/-- A turn of `flash_task`, for the configuration. -/
def Device.flash_task (d : Device) : Device :=
  if d.app_save_flag then { d with app_save_flag := false, nvs := d.app_config } else d

/-- The assignments of the REASON_FACTORY_RESTORE branch of `system_reset`. -/
def AppConfig.restore (app : AppConfig) : AppConfig :=
  { app with
    MIN_VALID_WASTE_RAW := 50
    CLUMPING_WAIT_MIN := 10
    m1_jam_current := 495
    m2_jam_current := 495
    m3_jam_current := 495
    m4_jam_current := 495
    m5_jam_current := 495
    CAT_ENTRY_MIN_WEIGHT := 500
    WASTE_TYPE_RATIO_TH := 20
    EFFECTIVE_DWELL_TIME := 5
    gate_way_rssi_th := -85
    tof_sense_threshold_l := 250
    tof_sense_threshold_r := 250
    motion_data_time := 1800 }

/-- The branch that `system_reset` takes; REASON_NORMAL stands for its last `else`. -/
def reset_branch (reason : Int) : Reason :=
  if reason = Header.main_h.code .REASON_DIAG then .REASON_DIAG
  else if reason = Header.main_h.code .REASON_OTA then .REASON_OTA
  else if reason = Header.main_h.code .REASON_FACTORY_RESTORE then .REASON_FACTORY_RESTORE
  else .REASON_NORMAL

/-- `system_reset` up to `esp_restart`. Each branch waits for 500 ms or more, so that
`flash_task`, which looks every 100 ms, saves the configuration. -/
def system_reset (d : Device) (reason : Int) : Device :=
  let requested : Device := { d with app_config.reset_reason := reason }
  let saved : Device :=
    match reset_branch reason with
    | .REASON_DIAG => { requested.app_nvs_save_set with led_cmd_msg := d.led_cmd_msg ++ [.LED_QCQUIT_CMD] }
    | .REASON_FACTORY_RESTORE =>
        { requested with app_config := requested.app_config.restore }.app_nvs_save_set
    | _ => requested.app_nvs_save_set
  saved.flash_task

/-- `check_boot_mode`, with the turn of `flash_task` that its delay leaves room for. -/
def check_boot_mode (d : Device) : Device :=
  let mode := d.app_config.reset_reason
  let booted : Device := { d with reset_reason := d.reset_reason ||| 1 <<< mode.toNat }
  if mode ≠ Header.main_h.code .REASON_NORMAL then
    ({ booted with app_config.reset_reason := Header.main_h.code .REASON_NORMAL }.app_nvs_save_set).flash_task
  else booted

/-- What `app_main` does with the reset reason: `load_app_configuration`,
`check_boot_mode`, and the pairing command after a factory restore, unless the CLEAN key
is held. -/
def app_main (d : Device) (keyclean : Bool) : Device :=
  let loaded : Device :=
    { app_config := d.nvs, nvs := d.nvs, app_save_flag := false, reset_reason := 0,
      led_cmd_msg := [], ui_cmd_msg := [] }
  let booted := check_boot_mode loaded
  if !keyclean && booted.reset_reason.testBit (Header.main_h.code .REASON_FACTORY_RESTORE) then
    { booted with ui_cmd_msg := [.UI_PAIRING_CMD] }
  else booted

/-- The reasons for which a module requests a reset. -/
inductive Request where
  | factory_restore
  | ota
  | diag
deriving DecidableEq, Repr

def Request.reason : Request → Reason
  | .factory_restore => .REASON_FACTORY_RESTORE
  | .ota => .REASON_OTA
  | .diag => .REASON_DIAG

/-- The device after a module that includes the header has requested the reset. -/
def Device.restarted (d : Device) (h : Header) (r : Request) (keyclean : Bool) : Device :=
  app_main (system_reset d (h.code r.reason)) keyclean

/-- The tunables after a restart: those of before, or the defaults after a factory restore. -/
def Request.tunables (r : Request) (app : AppConfig) : AppConfig :=
  { (if r = .factory_restore then app_config else app) with reset_reason := 0 }

/-- `system_reset` and the boot take the request for what its module named. -/
structure Honoured (d : Device) (h : Header) (r : Request) (keyclean : Bool) : Prop where
  branch : reset_branch (h.code r.reason) = r.reason
  boot : (d.restarted h r keyclean).reset_reason = 1 <<< Header.main_h.code r.reason
  tunables : (d.restarted h r keyclean).app_config = r.tunables d.app_config
  saved : (d.restarted h r keyclean).nvs = r.tunables d.app_config
  pairing : .UI_PAIRING_CMD ∈ (d.restarted h r keyclean).ui_cmd_msg ↔ r = .factory_restore ∧ keyclean = false

/-- What `system_reset` leaves in the flash. -/
theorem system_reset_nvs (d : Device) (reason : Int) : (system_reset d reason).nvs =
    { (if reset_branch reason = .REASON_FACTORY_RESTORE then app_config else d.app_config) with
      reset_reason := reason } := by
  unfold system_reset
  cases hbranch : reset_branch reason with
  | REASON_FACTORY_RESTORE =>
    rw [if_pos rfl]
    rfl
  | _ =>
    rw [if_neg (by simp)]
    rfl

private theorem check_boot_mode_spec (d : Device) (hsaved : d.nvs = d.app_config) :
    (check_boot_mode d).app_config = { d.app_config with reset_reason := 0 } ∧
      (check_boot_mode d).nvs = { d.app_config with reset_reason := 0 } ∧
      (check_boot_mode d).reset_reason = d.reset_reason ||| 1 <<< d.app_config.reset_reason.toNat ∧
      (check_boot_mode d).ui_cmd_msg = d.ui_cmd_msg := by
  unfold check_boot_mode
  simp only
  split_ifs with hmode
  · exact ⟨rfl, rfl, rfl, rfl⟩
  · have hnormal : d.app_config.reset_reason = 0 := by
      by_contra hne
      exact hmode hne
    have hsame : ({ d.app_config with reset_reason := 0 } : AppConfig) = d.app_config := by rw [← hnormal]
    exact ⟨hsame.symm, hsaved.trans hsame.symm, rfl, rfl⟩

/-- What a boot makes of the reason that it finds in the flash. -/
theorem app_main_spec (d : Device) (keyclean : Bool) :
    (app_main d keyclean).app_config = { d.nvs with reset_reason := 0 } ∧
      (app_main d keyclean).nvs = { d.nvs with reset_reason := 0 } ∧
      (app_main d keyclean).reset_reason = 1 <<< d.nvs.reset_reason.toNat ∧
      (.UI_PAIRING_CMD ∈ (app_main d keyclean).ui_cmd_msg ↔
        keyclean = false ∧ (1 <<< d.nvs.reset_reason.toNat).testBit 3 = true) := by
  have hboot := check_boot_mode_spec
    { app_config := d.nvs, nvs := d.nvs, app_save_flag := false, reset_reason := 0,
      led_cmd_msg := [], ui_cmd_msg := [] } rfl
  simp only [Nat.zero_or] at hboot
  have hcode : Header.main_h.code .REASON_FACTORY_RESTORE = 3 := by decide
  unfold app_main
  simp only [hcode]
  generalize check_boot_mode _ = booted at hboot ⊢
  obtain ⟨hconfig, hnvs, hreason, hui⟩ := hboot
  rw [← hreason]
  by_cases hpairing : keyclean = false ∧ booted.reset_reason.testBit 3 = true
  · obtain ⟨rfl, hbit⟩ := hpairing
    rw [if_pos (by simp [hbit])]
    exact ⟨hconfig, hnvs, rfl, by simp [hbit]⟩
  · rw [if_neg (by simpa using hpairing), hui]
    exact ⟨hconfig, hnvs, rfl, by simpa using hpairing⟩

private theorem main_h_honoured (d : Device) (r : Request) (keyclean : Bool) : Honoured d .main_h r keyclean := by
  obtain ⟨hconfig, hnvs, hreason, hpairing⟩ :=
    app_main_spec (system_reset d (Header.main_h.code r.reason)) keyclean
  have hsaved := system_reset_nvs d (Header.main_h.code r.reason)
  have hbranch : reset_branch (Header.main_h.code r.reason) = r.reason := by
    cases r with
    | _ => decide
  have htunables : ({ (system_reset d (Header.main_h.code r.reason)).nvs with reset_reason := 0 } :
    AppConfig) =
      r.tunables d.app_config := by
    rw [hsaved, hbranch]
    cases r with
    | _ => rfl
  have hcode : (system_reset d (Header.main_h.code r.reason)).nvs.reset_reason.toNat =
      Header.main_h.code r.reason := by
    rw [hsaved]
    rfl
  constructor
  · exact hbranch
  · unfold Device.restarted
    rw [hreason, hcode]
  · exact hconfig.trans htunables
  · exact hnvs.trans htunables
  · unfold Device.restarted
    rw [hpairing, hcode]
    cases r with
    | _ => cases keyclean <;> decide

/-- A reset is honoured exactly if the module that requests it includes `main.h`. The two headers
number the reasons differently, so what another module names is taken for something else, by
`system_reset` or at the next boot. -/
theorem reset_honoured_iff (d : Device) (h : Header) (r : Request) (keyclean : Bool) :
    Honoured d h r keyclean ↔ h = .main_h := by
  constructor
  · intro hhonoured
    cases h with
    | main_h => rfl
    | app_config_flash_h =>
      have hbranch := hhonoured.branch
      cases r with
      | factory_restore => exact absurd hbranch (by decide)
      | ota => exact absurd hbranch (by decide)
      | diag => exact absurd hbranch (by decide)
  · rintro rfl
    exact main_h_honoured d r keyclean

/-- After an OTA update, which `http_ota.c` requests by the numbers of
`app_config_flash.h`, a weight threshold of the user is back at its default. -/
theorem ota_restores_defaults :
    ¬ ∀ (d : Device) (h : Header) (r : Request) (keyclean : Bool), Honoured d h r keyclean := by
  intro hall
  let d : Device := {
    app_config := { app_config with CAT_ENTRY_MIN_WEIGHT := 800 }
    nvs := app_config
    app_save_flag := false
    reset_reason := 0
    led_cmd_msg := []
    ui_cmd_msg := [] }
  have htunables := (hall d .app_config_flash_h .ota false).tunables
  have hweight : (d.restarted .app_config_flash_h .ota false).app_config.CAT_ENTRY_MIN_WEIGHT = 800 := by
    rw [htunables]
    rfl
  exact absurd hweight (by decide)

end catbox.config
