import CatLitterBox.Memory.Layout

open layout

namespace catbox.config

/-- The members of the two structures `app_config_t`. -/
inductive ConfigField where
  | reset_reason
  | MIN_VALID_WASTE_RAW
  | CLUMPING_WAIT_MIN
  | m1_jam_current
  | m2_jam_current
  | m3_jam_current
  | m4_jam_current
  | m5_jam_current
  | CAT_ENTRY_MIN_WEIGHT
  | WASTE_TYPE_RATIO_TH
  | EFFECTIVE_DWELL_TIME
  | gate_way_rssi_th
  | tof_sense_threshold_l
  | tof_sense_threshold_r
  | motion_data_time
  | env_mode
  | mqtt_url
deriving DecidableEq, Repr

/-- `int`, `int32_t` and `uint32_t` on the target, and the two arrays of `char`. -/
def ConfigField.type : ConfigField → CType
  | .env_mode => .chars 16 (by decide)
  | .mqtt_url => .chars 128 (by decide)
  | _ => .scalar 4 (by decide)

/-- The headers that define `app_config_t`. -/
inductive Header where
  | main_h
  | app_config_flash_h
deriving DecidableEq, Repr

/-- The members of `app_config_t` in the order of each definition. -/
def app_config_t : Header → List ConfigField
  | .main_h =>
    [.reset_reason, .MIN_VALID_WASTE_RAW, .CLUMPING_WAIT_MIN, .m1_jam_current,
      .m2_jam_current, .m3_jam_current,
      .m4_jam_current, .m5_jam_current, .CAT_ENTRY_MIN_WEIGHT, .WASTE_TYPE_RATIO_TH, .EFFECTIVE_DWELL_TIME,
      .gate_way_rssi_th, .tof_sense_threshold_l, .tof_sense_threshold_r, .motion_data_time]
  | .app_config_flash_h =>
    [.MIN_VALID_WASTE_RAW, .CLUMPING_WAIT_MIN, .m1_jam_current, .m2_jam_current,
      .m3_jam_current, .m4_jam_current,
      .m5_jam_current, .CAT_ENTRY_MIN_WEIGHT, .WASTE_TYPE_RATIO_TH, .EFFECTIVE_DWELL_TIME, .reset_reason,
      .gate_way_rssi_th, .tof_sense_threshold_l, .tof_sense_threshold_r,
      .motion_data_time, .env_mode, .mqtt_url]

/-- A member of both definitions. -/
def ConfigField.shared (f : ConfigField) : Prop := ∀ h, f ∈ app_config_t h

/-- The four members behind `reset_reason` in both definitions. -/
def trailing_fields : List ConfigField :=
  [.gate_way_rssi_th, .tof_sense_threshold_l, .tof_sense_threshold_r, .motion_data_time]

private theorem shared_iff {f : ConfigField} : f.shared ↔ f ≠ .env_mode ∧ f ≠ .mqtt_url := by
  constructor
  · intro hshared
    have hmain := hshared .main_h
    constructor
    · rintro rfl
      exact absurd hmain (by decide)
    · rintro rfl
      exact absurd hmain (by decide)
  · rintro ⟨henv, hurl⟩ h
    cases f with
    | env_mode => exact absurd rfl henv
    | mqtt_url => exact absurd rfl hurl
    | _ => cases h <;> decide

private theorem offset_eq_iff {f : ConfigField} (hf : f.shared) :
    offset ConfigField.type app_config_t .main_h f =
      offset ConfigField.type app_config_t .app_config_flash_h f ↔
      f ∈ trailing_fields := by
  obtain ⟨henv, hurl⟩ := shared_iff.mp hf
  cases f with
  | env_mode => exact absurd rfl henv
  | mqtt_url => exact absurd rfl hurl
  | _ => decide

/-- The two definitions of `app_config_t` agree on a member of both exactly if it is one of
the last four of `main.h`. -/
theorem app_config_coherent_iff (f : ConfigField) (hf : f.shared) :
    Coherent ConfigField.type app_config_t f ↔ f ∈ trailing_fields := by
  rw [coherent_iff hf, ← offset_eq_iff hf]
  constructor
  · intro hsame
    exact hsame .main_h .app_config_flash_h
  · intro heq d e
    cases d with
    | main_h => cases e with
      | main_h => rfl
      | app_config_flash_h => exact heq
    | app_config_flash_h => cases e with
      | main_h => exact heq.symm
      | app_config_flash_h => rfl

theorem motion_data_time_coherent :
    Coherent ConfigField.type app_config_t .motion_data_time ↔
    ConfigField.motion_data_time ∈ trailing_fields :=
  app_config_coherent_iff .motion_data_time (by intro h; cases h <;> decide)

/-- A weight threshold written through one definition is not read through the other. -/
theorem cat_entry_weight_incoherent :
    ¬ ∀ f : ConfigField, f.shared → Coherent ConfigField.type app_config_t f := by
  intro hall
  have hshared : ConfigField.CAT_ENTRY_MIN_WEIGHT.shared := by
    intro h
    cases h <;> decide
  have hsame := (coherent_iff hshared).mp (hall _ hshared)
  exact absurd (hsame .main_h .app_config_flash_h) (by decide)

end catbox.config
