import CatLitterBox.Config.Flush
import CatLitterBox.LoadCell.Tare

open catbox.loadcell memory text

namespace catbox.nvs

def NVS_REG_NAMESPACE : String := "storage"

def NVS_REG_KEY : String := "is_registered"

/-- The library on the states of a partition that has been initialized. `nvs_flash_erase` is taken together with
the `nvs_flash_init`, or the reset, that follows each of its calls. -/
structure NvsPartition (S : Type) extends NvsLibrary S where
  nvs_flash_erase : S → S
  nvs_flash_init : S → S

/-- What the partition promises where the flash works: every write is accepted, and an entry is read as it has
been written. -/
structure NvsPartition.Working {S : Type} (nvs : NvsPartition S) : Prop
    extends nvs.toNvsLibrary.Documented where
  accepts : ∀ s name key value, ¬ WriteRefused nvs.toNvsLibrary name key value s
  opens : ∀ s name key, nvs.entry s name key ≠ none → (nvs.nvs_open s name .NVS_READONLY).1 = .ESP_OK
  sizes : ∀ s name key bytes, nvs.entry s name key = some (.blob bytes) →
    (nvs.nvs_get_blob_size s name key).1.1 = .ESP_OK
  gets : ∀ s name key bytes, nvs.entry s name key = some (.blob bytes) →
    (nvs.nvs_get_blob s name key bytes.length).1.1 = .ESP_OK
  gets_u32 : ∀ s name key value v, nvs.entry s name key = some (.u32 value) →
    (nvs.nvs_get_u32 s name key v).1 = (.ESP_OK, value)
  missing_u32 : ∀ s name key v, nvs.entry s name key = none →
    (nvs.nvs_get_u32 s name key v).1.1 ≠ .ESP_OK ∧ (nvs.nvs_get_u32 s name key v).1.2 = v
  erases : ∀ s name key, nvs.entry (nvs.nvs_flash_erase s) name key = none
  init_keeps : ∀ s, nvs.entry (nvs.nvs_flash_init s) = nvs.entry s

/-- The initializer of `app_config`, word by word, and its two empty texts. -/
def app_config_initializer : Bytes :=
  packInts 4 [50, 10, 495, 495, 495, 495, 495, 500, 20, 5, 0, -85, 250, 250, 1800] ++
    List.replicate (16 + 128) 0

/-- What the initializers leave in the object. -/
def ConfigObject.initial : ConfigObject → NvsValue
  | .app => .blob app_config_initializer
  | .wifi => .blob (List.replicate sizeof_app_wifi_config_t 0)
  | .ble => .blob (List.replicate sizeof_app_ble_config_t 0)
  | .motor => .u32 0

/-- The value fits the object. -/
def ConfigObject.Holds : ConfigObject → NvsValue → Prop
  | .motor, .u32 _ => True
  | .motor, _ => False
  | o, .blob bytes => bytes.length = o.size
  | _, _ => False

/-- The object as the value of its entry. -/
def ConfigObject.value {S : Type} (c : Configuration S) : ConfigObject → NvsValue
  | .app => .blob c.app_config
  | .wifi => .blob c.wifi_config
  | .ble => .blob c.ble_config
  | .motor => .u32 c.motor_save_time

/-- Only a value that fits is put into the object. -/
def ConfigObject.put {S : Type} (c : Configuration S) : ConfigObject → NvsValue → Configuration S
  | .app, .blob bytes => { c with app_config := bytes }
  | .wifi, .blob bytes => { c with wifi_config := bytes }
  | .ble, .blob bytes => { c with ble_config := bytes }
  | .motor, .u32 value => { c with motor_save_time := value }
  | _, _ => c

section app_config_flash

variable {S : Type} (nvs : NvsPartition S)

def save_app_configuration (c : Configuration S) : Configuration S :=
  { c with store := write_nvs_blob nvs.toNvsLibrary APP_NAMESPACE APP_KEY_CONFIGURATION c.app_config c.store }

def save_wifi_configuration (c : Configuration S) : Configuration S :=
  { c with store := write_nvs_blob nvs.toNvsLibrary APP_NAMESPACE APP_KEY_WIFI_CONFIG c.wifi_config c.store }

def save_ble_configuration (c : Configuration S) : Configuration S :=
  { c with store := write_nvs_blob nvs.toNvsLibrary APP_NAMESPACE APP_KEY_BLE_CONFIG c.ble_config c.store }

def save_motor_time (c : Configuration S) : Configuration S :=
  { c with store := write_nvs_uint nvs.toNvsLibrary APP_NAMESPACE APP_KEY_MOTOR_TIME c.motor_save_time c.store }

def erase_app_configuration (c : Configuration S) : Configuration S :=
  save_app_configuration nvs { c with app_config := List.replicate sizeof_app_config_t 0 }

def erase_wifi_configuration (c : Configuration S) : Configuration S :=
  save_wifi_configuration nvs { c with wifi_config := List.replicate sizeof_app_wifi_config_t 0 }

def erase_ble_configuration (c : Configuration S) : Configuration S :=
  save_ble_configuration nvs { c with ble_config := List.replicate sizeof_app_ble_config_t 0 }

def ConfigObject.save : ConfigObject → Configuration S → Configuration S
  | .app => save_app_configuration nvs
  | .wifi => save_wifi_configuration nvs
  | .ble => save_ble_configuration nvs
  | .motor => save_motor_time nvs

/-- No function erases the motor time. -/
def ConfigObject.erase : ConfigObject → Configuration S → Configuration S
  | .app => erase_app_configuration nvs
  | .wifi => erase_wifi_configuration nvs
  | .ble => erase_ble_configuration nvs
  | .motor => id

def write_nvs_registration_flag (done : Bool) (st : Store S) : Store S :=
  write_nvs_uint nvs.toNvsLibrary NVS_REG_NAMESPACE NVS_REG_KEY (if done then 1 else 0) st

/-- With what it leaves in `done`. -/
def read_nvs_registration_flag (s : S) : Bool × S :=
  let read := read_nvs_uint nvs.toNvsLibrary NVS_REG_NAMESPACE NVS_REG_KEY 0 s
  (read.1.1 = .ESP_OK ∧ read.1.2 = 1, read.2)

/-- The objects as their initializers leave them. -/
def Configuration.initial (st : Store S) : Configuration S where
  store := st
  app_config := app_config_initializer
  wifi_config := List.replicate sizeof_app_wifi_config_t 0
  ble_config := List.replicate sizeof_app_ble_config_t 0
  motor_save_time := 0

/-- The loaders, in the order of `NVS_Flash_init`. -/
def NVS_Flash_init (c : Configuration S) : Configuration S :=
  [ConfigObject.app, .wifi, .ble, .motor].foldl (fun c o => o.load nvs.toNvsLibrary c) c

/-- A reset, and what `app_main` then does up to its loaders. The partition is found in order. -/
def restart (c : Configuration S) : Configuration S :=
  NVS_Flash_init nvs (.initial { c.store with flash := nvs.nvs_flash_init c.store.flash })

/-- What the firmware does with its objects and their entries. -/
inductive StoreCall where
  | change (o : ConfigObject) (value : NvsValue)
  | save (o : ConfigObject)
  | erase (o : ConfigObject)
  | save_lc_calibration_to_nvs (state : Int) (offsets : List Int)
  | write_nvs_registration_flag (done : Bool)
  | nvs_flash_erase
  | restart

def Configuration.call (c : Configuration S) : StoreCall → Configuration S
  | .change o value => o.put c value
  | .save o => o.save nvs c
  | .erase o => o.erase nvs c
  | .save_lc_calibration_to_nvs state offsets =>
    { c with store := loadcell.save_lc_calibration_to_nvs nvs.toNvsLibrary state offsets c.store }
  | .write_nvs_registration_flag done => { c with store := write_nvs_registration_flag nvs done c.store }
  | .nvs_flash_erase => { c with store := { c.store with flash := nvs.nvs_flash_erase c.store.flash } }
  | .restart => restart nvs c

def Configuration.calls (c : Configuration S) (calls : List StoreCall) : Configuration S :=
  calls.foldl (Configuration.call nvs) c

end app_config_flash

/-- What the objects hold and what their entries do, as the firmware is meant to see them. -/
structure Remembered where
  memory : ConfigObject → NvsValue
  saved : ConfigObject → Option NvsValue
  calibration : Int → Option (List Int)
  registered : Option Bool

/-- With nothing saved. -/
def Remembered.nothing : Remembered := ⟨ConfigObject.initial, fun _ => none, fun _ => none, none⟩

/-- What an object holds after a restart. -/
def Remembered.recalled (d : Remembered) (o : ConfigObject) : NvsValue := (d.saved o).getD o.initial

def ConfigObject.erased : ConfigObject → NvsValue
  | .app => .blob (List.replicate sizeof_app_config_t 0)
  | .wifi => .blob (List.replicate sizeof_app_wifi_config_t 0)
  | .ble => .blob (List.replicate sizeof_app_ble_config_t 0)
  | .motor => .u32 0

/-- A save remembers what the object holds, and a restart recalls what has been saved. An object that has not
been saved is, from the restart on. -/
def Remembered.call (d : Remembered) : StoreCall → Remembered
  | .change o value => { d with memory := Function.update d.memory o value }
  | .save o => { d with saved := Function.update d.saved o (some (d.memory o)) }
  | .erase o =>
    { d with
      memory := Function.update d.memory o o.erased
      saved := Function.update d.saved o (some o.erased) }
  | .save_lc_calibration_to_nvs state offsets =>
    { d with calibration := Function.update d.calibration state (some offsets) }
  | .write_nvs_registration_flag done => { d with registered := some done }
  | .nvs_flash_erase => { d with saved := fun _ => none, calibration := fun _ => none, registered := none }
  | .restart => { d with memory := d.recalled, saved := fun o => some (d.recalled o) }

def Remembered.calls (d : Remembered) (calls : List StoreCall) : Remembered := calls.foldl Remembered.call d

/-- The number of the state is in its key as a whole. -/
def Keyed (state : Int) : Prop := 0 ≤ state ∧ state < 10 ^ 8

instance (state : Int) : Decidable (Keyed state) := inferInstanceAs (Decidable (_ ∧ _))

/-- Four offsets, each an `int`. -/
def Offsets (offsets : List Int) : Prop := offsets.length = 4 ∧ ∀ n ∈ offsets, Fits 4 n

/-- What the callers pass. -/
def StoreCall.Proper : StoreCall → Prop
  | .change o value => o.Holds value
  | .erase o => o ≠ .motor
  | .save_lc_calibration_to_nvs state offsets => Keyed state ∧ Offsets offsets
  | _ => True

/-- The configuration is the one that is to be remembered. -/
structure Recalls {S : Type} (nvs : NvsPartition S) (c : Configuration S) (d : Remembered) : Prop where
  memory : ∀ o : ConfigObject, o.value c = d.memory o
  fits : ∀ o : ConfigObject, o.Holds (d.memory o)
  entry : ∀ o : ConfigObject, nvs.entry c.store.flash APP_NAMESPACE o.key = d.saved o
  saved_fits : ∀ o : ConfigObject, ∀ value ∈ d.saved o, o.Holds value
  calibration : ∀ state, Keyed state → nvs.entry c.store.flash APP_NAMESPACE (nvs_key state) =
    (d.calibration state).map fun offsets => .blob (packInts 4 offsets)
  offsets : ∀ state, ∀ offsets ∈ d.calibration state, Offsets offsets
  registered : nvs.entry c.store.flash NVS_REG_NAMESPACE NVS_REG_KEY =
    d.registered.map fun done => .u32 (if done then 1 else 0)

variable {S : Type} {nvs : NvsPartition S} {c : Configuration S} {d : Remembered} {o p : ConfigObject}
  {name key : String} {value : NvsValue} {st : Store S} {s : S} {object bytes : Bytes} {size : Nat}

theorem nvs_key_toList (state : Int) : (nvs_key state).toList = ("lc_cal_" ++ toString state).toList.take 15 :=
  String.toList_ofList

/-- States have keys of their own, as long as the keys are not cut off. -/
theorem nvs_key_injective {a b : Int} (ha : Keyed a) (hb : Keyed b) (h : nvs_key a = nvs_key b) : a = b := by
  have hwhole {n : Int} (hn : Keyed n) : (nvs_key n).toList = "lc_cal_".toList ++ Nat.toDigits 10 n.toNat := by
    obtain ⟨k, rfl⟩ := Int.eq_ofNat_of_zero_le hn.1
    have hlength : (Nat.toDigits 10 k).length ≤ 8 := by
      rw [Nat.length_toDigits_le_iff (by decide) (by decide)]
      have hlt := hn.2
      omega
    rw [nvs_key_toList, String.toList_append]
    change List.take 15 ("lc_cal_".toList ++ k.repr.toList) = _
    rw [Nat.toList_repr]
    apply List.take_of_length_le
    rw [List.length_append]
    exact Nat.add_le_add_left hlength 7
  have hsame : "lc_cal_".toList ++ Nat.toDigits 10 a.toNat = "lc_cal_".toList ++ Nat.toDigits 10 b.toNat := by
    rw [← hwhole ha, ← hwhole hb, h]
  have hdigits := congrArg (Nat.ofDigitChars 10 · 0) (List.append_cancel_left hsame)
  simp only [Nat.ofDigitChars_ten_toDigits] at hdigits
  have hpos := ha.1
  have hpos' := hb.1
  omega

/-- No object has the key of a calibration. -/
theorem key_ne_nvs_key (o : ConfigObject) (state : Int) : o.key ≠ nvs_key state := by
  intro h
  have hhead : (nvs_key state).toList.head? = some 'l' := by
    rw [nvs_key_toList, String.toList_append]
    rfl
  rw [← h] at hhead
  cases o with
  | _ => exact absurd hhead (by decide)

theorem ConfigObject.key_injective (h : o.key = p.key) : o = p := by
  cases o with
  | _ =>
    cases p with
    | _ => first | rfl | exact absurd h (by decide)

/-- The entries of other keys stay as they were. -/
theorem replaced_of_key_ne {entries : String → String → Option NvsValue} {key' : String} (h : key' ≠ key) :
    replaced entries name key value name key' = entries name key' := by
  simp [replaced, Function.update_of_ne h]

theorem replaced_of_name_ne {entries : String → String → Option NvsValue} {name' key' : String}
    (h : name' ≠ name) : replaced entries name key value name' key' = entries name' key' := by
  simp [replaced, Function.update_of_ne h]

/-- A value that fits is what the object then holds. -/
theorem put_value (h : o.Holds value) : p.value (o.put c value) =
    Function.update (fun p => p.value c) o value p := by
  cases o with
  | _ =>
    cases value with
    | _ =>
      cases p with
      | _ => first | rfl | exact absurd h id

theorem put_store (o : ConfigObject) (c : Configuration S) (value : NvsValue) :
    (o.put c value).store = c.store := by
  cases o with
  | _ =>
    cases value with
    | _ => rfl

/-- What is written is there, under its name and key. -/
theorem write_entry (hnvs : nvs.Working) (name key : String) (value : NvsValue) (st : Store S) :
    nvs.entry (write_nvs nvs.toNvsLibrary name key value st).flash =
      replaced (nvs.entry st.flash) name key value :=
  (write_nvs_done hnvs.toDocumented (hnvs.accepts st.flash name key value)).2

/-- What has been saved in the size of the buffer is read. -/
theorem read_saved (object : Bytes) (size : Nat) (hnvs : nvs.Working)
    (hentry : nvs.entry s name key = some (.blob bytes))
    (hbytes : bytes.length = size) (hobject : object.length = size) :
    (read_nvs_blob nvs.toNvsLibrary name key object size s).1 = (.ESP_OK, bytes) := by
  have hopen := hnvs.opens s name key (by simp [hentry])
  have hopened : nvs.entry (nvs.nvs_open s name .NVS_READONLY).2 name key = some (.blob bytes) := by
    rw [hnvs.open_keeps]
    exact hentry
  have hsize := hnvs.sizes _ name key bytes hopened
  have hsized : nvs.entry (nvs.nvs_get_blob_size (nvs.nvs_open s name .NVS_READONLY).2 name key).2 name key =
      some (.blob bytes) := by
    rw [hnvs.size_keeps]
    exact hopened
  obtain ⟨found, hfound, hlength⟩ := hnvs.size_ok _ _ _ hsize
  rw [hopened] at hfound
  obtain rfl := NvsValue.blob.inj (Option.some.inj hfound)
  have hok : (read_nvs_blob nvs.toNvsLibrary name key object size s).1.1 = .ESP_OK := by
    refine (read_nvs_blob_ok_iff object).mpr ⟨hopen, hsize, .inr ⟨by omega, ?_⟩⟩
    rw [hlength]
    exact hnvs.gets _ name key bytes hsized
  exact Prod.ext hok (read_nvs_blob_eq hnvs.toDocumented hentry (hobject.trans hbytes.symm) hok)

/-- Where there is no entry, the read fails and leaves the buffer alone. -/
theorem read_missing (object : Bytes) (size : Nat) (hnvs : nvs.Working) (hentry : nvs.entry s name key = none) :
    (read_nvs_blob nvs.toNvsLibrary name key object size s).1.1 ≠ .ESP_OK ∧
      (read_nvs_blob nvs.toNvsLibrary name key object size s).1.2 = object := by
  have hsize : (nvs.nvs_get_blob_size (nvs.nvs_open s name .NVS_READONLY).2 name key).1.1 ≠ .ESP_OK := by
    intro hok
    obtain ⟨found, hfound, -⟩ := hnvs.size_ok _ _ _ hok
    rw [hnvs.open_keeps, hentry] at hfound
    cases hfound
  unfold read_nvs_blob
  simp only [hsize, false_and, if_false]
  split_ifs with hopen hmissing
  · exact ⟨hopen, rfl⟩
  · exact ⟨hsize, rfl⟩
  · exact ⟨hsize, rfl⟩

/-- A loader of a blob takes what has been saved, and saves what it finds in the object where nothing has. -/
theorem load_blob_spec (hnvs : nvs.Working) (hobject : object.length = size)
    (hentry : ∀ value ∈ nvs.entry st.flash APP_NAMESPACE key,
      ∃ bytes, value = .blob bytes ∧ bytes.length = size) :
    NvsValue.blob (load_blob nvs.toNvsLibrary key object size st).1 =
        (nvs.entry st.flash APP_NAMESPACE key).getD (.blob object) ∧
      nvs.entry (load_blob nvs.toNvsLibrary key object size st).2.flash =
        replaced (nvs.entry st.flash) APP_NAMESPACE key
          ((nvs.entry st.flash APP_NAMESPACE key).getD (.blob object)) := by
  have hkeeps := read_nvs_blob_entry hnvs.toDocumented APP_NAMESPACE key object size st.flash
  unfold load_blob
  simp only
  cases hfound : nvs.entry st.flash APP_NAMESPACE key with
  | none =>
    obtain ⟨hfailed, hleft⟩ := read_missing object size hnvs hfound
    rw [hleft, if_pos hfailed]
    refine ⟨rfl, ?_⟩
    rw [write_nvs_blob, write_entry hnvs, hkeeps]
    rfl
  | some value =>
    obtain ⟨bytes, rfl, hbytes⟩ := hentry value hfound
    rw [read_saved object size hnvs hfound hbytes hobject, if_neg (by simp)]
    refine ⟨rfl, hkeeps.trans ?_⟩
    simp only [Option.getD_some, replaced]
    rw [← hfound, Function.update_eq_self, Function.update_eq_self]

/-- A number that has been saved is read. -/
theorem read_nvs_uint_saved (hnvs : nvs.Working) {n v : UInt32}
    (hentry : nvs.entry s name key = some (.u32 n)) :
    (read_nvs_uint nvs.toNvsLibrary name key v s).1 = (.ESP_OK, n) := by
  unfold read_nvs_uint
  simp only
  rw [if_neg (not_not.mpr (hnvs.opens s name key (by simp [hentry])))]
  refine hnvs.gets_u32 _ name key n v ?_
  rw [hnvs.open_keeps]
  exact hentry

theorem read_nvs_uint_missing (hnvs : nvs.Working) {v : UInt32} (hentry : nvs.entry s name key = none) :
    (read_nvs_uint nvs.toNvsLibrary name key v s).1.1 ≠ .ESP_OK ∧
      (read_nvs_uint nvs.toNvsLibrary name key v s).1.2 = v := by
  unfold read_nvs_uint
  simp only
  split_ifs with hopen
  · exact ⟨hopen, rfl⟩
  · refine hnvs.missing_u32 _ name key v ?_
    rw [hnvs.open_keeps]
    exact hentry

theorem load_motor_time_spec (hnvs : nvs.Working)
    (hentry : ∀ value ∈ nvs.entry c.store.flash APP_NAMESPACE APP_KEY_MOTOR_TIME, ∃ n, value = .u32 n) :
    NvsValue.u32 (load_motor_time nvs.toNvsLibrary c).motor_save_time =
        (nvs.entry c.store.flash APP_NAMESPACE APP_KEY_MOTOR_TIME).getD (.u32 c.motor_save_time) ∧
      nvs.entry (load_motor_time nvs.toNvsLibrary c).store.flash =
        replaced (nvs.entry c.store.flash) APP_NAMESPACE APP_KEY_MOTOR_TIME
          ((nvs.entry c.store.flash APP_NAMESPACE APP_KEY_MOTOR_TIME).getD (.u32 c.motor_save_time)) := by
  have hkeeps := read_nvs_uint_entry hnvs.toDocumented APP_NAMESPACE APP_KEY_MOTOR_TIME c.motor_save_time
    c.store.flash
  unfold load_motor_time
  simp only
  cases hfound : nvs.entry c.store.flash APP_NAMESPACE APP_KEY_MOTOR_TIME with
  | none =>
    obtain ⟨hfailed, hleft⟩ := read_nvs_uint_missing (v := c.motor_save_time) hnvs hfound
    rw [hleft, if_pos hfailed]
    refine ⟨rfl, ?_⟩
    rw [write_nvs_uint, write_entry hnvs, hkeeps]
    rfl
  | some value =>
    obtain ⟨n, rfl⟩ := hentry value hfound
    rw [read_nvs_uint_saved hnvs hfound, if_neg (by simp)]
    refine ⟨rfl, hkeeps.trans ?_⟩
    simp only [Option.getD_some, replaced]
    rw [← hfound, Function.update_eq_self, Function.update_eq_self]

/-- What fits an object other than the motor's is a blob of the object's size. -/
theorem ConfigObject.Holds.blob (ho : o ≠ .motor) (h : o.Holds value) :
    ∃ bytes, value = .blob bytes ∧ bytes.length = o.size := by
  cases o with
  | motor => exact absurd rfl ho
  | _ =>
    cases value with
    | blob bytes => exact ⟨bytes, rfl, h⟩
    | _ => exact h.elim

/-- What fits the motor's object is a number. -/
theorem ConfigObject.Holds.u32 (h : ConfigObject.motor.Holds value) : ∃ n, value = .u32 n := by
  cases value with
  | u32 n => exact ⟨n, rfl⟩
  | _ => exact h.elim

/-- A loader changes its object and the entry of it only. Both are then what the entry was, or what the object
held where there was none. -/
theorem load_spec (hnvs : nvs.Working) (hobject : o.Holds (o.value c))
    (hentry : ∀ value ∈ nvs.entry c.store.flash APP_NAMESPACE o.key, o.Holds value) :
    let value := (nvs.entry c.store.flash APP_NAMESPACE o.key).getD (o.value c)
    (∀ p : ConfigObject, p.value (o.load nvs.toNvsLibrary c) = Function.update (fun p => p.value c) o value p) ∧
      nvs.entry (o.load nvs.toNvsLibrary c).store.flash =
        replaced (nvs.entry c.store.flash) APP_NAMESPACE o.key value := by
  cases o with
  | motor =>
    obtain ⟨hvalue, hstore⟩ := load_motor_time_spec hnvs fun value hvalue => (hentry value hvalue).u32
    refine ⟨fun p => ?_, hstore⟩
    cases p with
    | motor => exact hvalue
    | _ => rfl
  | app =>
    obtain ⟨hvalue, hstore⟩ := load_blob_spec hnvs hobject fun value hvalue =>
      (hentry value hvalue).blob (by decide)
    refine ⟨fun p => ?_, hstore⟩
    cases p with
    | app => exact hvalue
    | _ => rfl
  | wifi =>
    obtain ⟨hvalue, hstore⟩ := load_blob_spec hnvs hobject fun value hvalue =>
      (hentry value hvalue).blob (by decide)
    refine ⟨fun p => ?_, hstore⟩
    cases p with
    | wifi => exact hvalue
    | _ => rfl
  | ble =>
    obtain ⟨hvalue, hstore⟩ := load_blob_spec hnvs hobject fun value hvalue =>
      (hentry value hvalue).blob (by decide)
    refine ⟨fun p => ?_, hstore⟩
    cases p with
    | ble => exact hvalue
    | _ => rfl

/-- An object and its entry take a value that fits. -/
theorem Recalls.store (c' : Configuration S) (h : Recalls nvs c d) (hvalue : o.Holds value)
    (hobjects : ∀ p : ConfigObject, p.value c' = Function.update d.memory o value p)
    (hentry : nvs.entry c'.store.flash = replaced (nvs.entry c.store.flash) APP_NAMESPACE o.key value) :
    Recalls nvs c' { d with
      memory := Function.update d.memory o value
      saved := Function.update d.saved o (some value) } where
  memory := hobjects
  fits p := by
    obtain rfl | hne := eq_or_ne p o
    · simpa using hvalue
    · simpa [hne] using h.fits p
  entry p := by
    rw [hentry]
    obtain rfl | hne := eq_or_ne p o
    · simp
    · rw [replaced_of_key_ne fun hkey => hne (ConfigObject.key_injective hkey), h.entry p]
      simp [hne]
  saved_fits p v hv := by
    change v ∈ Function.update d.saved o (some value) p at hv
    obtain rfl | hne := eq_or_ne p o
    · simp only [Function.update_self, Option.mem_some_iff] at hv
      exact hv ▸ hvalue
    · rw [Function.update_of_ne hne] at hv
      exact h.saved_fits p v hv
  calibration state hstate := by
    rw [hentry, replaced_of_key_ne (key_ne_nvs_key o state).symm]
    exact h.calibration state hstate
  offsets := h.offsets
  registered := by
    rw [hentry, replaced_of_name_ne (by decide)]
    exact h.registered

private theorem save_spec (hnvs : nvs.Working) (o : ConfigObject) (c : Configuration S) :
    (∀ p : ConfigObject, p.value (o.save nvs c) = p.value c) ∧
      nvs.entry (o.save nvs c).store.flash =
        replaced (nvs.entry c.store.flash) APP_NAMESPACE o.key (o.value c) := by
  cases o with
  | _ =>
    refine ⟨fun p => ?_, write_entry hnvs ..⟩
    cases p with
    | _ => rfl

/-- A save makes what the device holds that which is to be remembered. -/
theorem Recalls.save (hnvs : nvs.Working) (h : Recalls nvs c d) (o : ConfigObject) :
    Recalls nvs (o.save nvs c) (d.call (.save o)) := by
  obtain ⟨hobjects, hentry⟩ := save_spec hnvs o c
  rw [h.memory] at hentry
  have hstored := Recalls.store (o.save nvs c) h (h.fits o)
    (fun p => by rw [hobjects, h.memory, Function.update_eq_self]) hentry
  rwa [Function.update_eq_self] at hstored

/-- An object that can be erased is first put to zero, and then saved. -/
theorem erase_eq (ho : o ≠ .motor) (c : Configuration S) : o.erase nvs c = o.save nvs (o.put c o.erased) := by
  cases o with
  | motor => exact absurd rfl ho
  | _ => rfl

private theorem erased_holds (o : ConfigObject) : o.Holds o.erased := by
  cases o with
  | motor => trivial
  | _ => exact List.length_replicate

/-- A change in memory is to be remembered only once it has been saved. -/
theorem Recalls.change (h : Recalls nvs c d) (hvalue : o.Holds value) :
    Recalls nvs (o.put c value) (d.call (.change o value)) where
  memory p := by
    rw [put_value hvalue, funext h.memory]
    rfl
  fits p := by
    change p.Holds (Function.update d.memory o value p)
    obtain rfl | hne := eq_or_ne p o
    · simpa using hvalue
    · simpa [hne] using h.fits p
  entry := by
    rw [put_store]
    exact h.entry
  saved_fits := h.saved_fits
  calibration := by
    rw [put_store]
    exact h.calibration
  offsets := h.offsets
  registered := by
    rw [put_store]
    exact h.registered

/-- What is erased is remembered no longer. -/
theorem Recalls.erase (hnvs : nvs.Working) (h : Recalls nvs c d) (ho : o ≠ .motor) :
    Recalls nvs (o.erase nvs c) (d.call (.erase o)) := by
  have hsaved := (h.change (erased_holds o)).save hnvs o
  rw [erase_eq ho]
  simpa [Remembered.call] using hsaved

/-- What a loader does to what is remembered. -/
def Remembered.load (d : Remembered) (o : ConfigObject) : Remembered :=
  { d with
    memory := Function.update d.memory o ((d.saved o).getD (d.memory o))
    saved := Function.update d.saved o (some ((d.saved o).getD (d.memory o))) }

/-- A load brings back what was saved, or the default. -/
theorem Recalls.load (hnvs : nvs.Working) (h : Recalls nvs c d) (o : ConfigObject) :
    Recalls nvs (o.load nvs.toNvsLibrary c) (d.load o) := by
  have hobject : o.Holds (o.value c) := by
    rw [h.memory]
    exact h.fits o
  have hsaved : ∀ value ∈ nvs.entry c.store.flash APP_NAMESPACE o.key, o.Holds value := by
    rw [h.entry]
    exact h.saved_fits o
  obtain ⟨hobjects, hentry⟩ := load_spec hnvs hobject hsaved
  rw [h.entry, h.memory, funext h.memory] at hobjects
  rw [h.entry, h.memory] at hentry
  refine Recalls.store _ h ?_ hobjects hentry
  cases hv : d.saved o with
  | none => exact h.fits o
  | some value => exact h.saved_fits o value hv

theorem Recalls.loads (hnvs : nvs.Working) (h : Recalls nvs c d) (objects : List ConfigObject) :
    Recalls nvs (objects.foldl (fun c o => o.load nvs.toNvsLibrary c) c) (objects.foldl Remembered.load d) := by
  induction objects generalizing c d with
  | nil => exact h
  | cons o objects ih => exact ih (h.load hnvs o)

theorem initial_holds (o : ConfigObject) : o.Holds o.initial := by
  cases o with
  | motor => trivial
  | app =>
    change app_config_initializer.length = _
    rw [app_config_initializer, List.length_append, packInts_length, List.length_replicate]
    rfl
  | _ => exact List.length_replicate

/-- A reset loses what the objects hold, and nothing else. -/
theorem Recalls.reset (hnvs : nvs.Working) (h : Recalls nvs c d) :
    Recalls nvs (.initial { c.store with flash := nvs.nvs_flash_init c.store.flash })
      { d with memory := ConfigObject.initial } where
  memory o := by
    cases o with
    | _ => rfl
  fits := initial_holds
  entry := by
    change ∀ o : ConfigObject, nvs.entry (nvs.nvs_flash_init c.store.flash) APP_NAMESPACE o.key = d.saved o
    rw [hnvs.init_keeps]
    exact h.entry
  saved_fits := h.saved_fits
  calibration := by
    change ∀ state, Keyed state → nvs.entry (nvs.nvs_flash_init c.store.flash) APP_NAMESPACE (nvs_key state) = _
    rw [hnvs.init_keeps]
    exact h.calibration
  offsets := h.offsets
  registered := by
    change nvs.entry (nvs.nvs_flash_init c.store.flash) NVS_REG_NAMESPACE NVS_REG_KEY = _
    rw [hnvs.init_keeps]
    exact h.registered

/-- The four loaders, one after another, recall every object. -/
theorem loads_eq (d : Remembered) :
    [ConfigObject.app, .wifi, .ble, .motor].foldl Remembered.load { d with memory := ConfigObject.initial } =
      d.call .restart := by
  simp only [List.foldl_cons, List.foldl_nil, Remembered.load, Remembered.call, Remembered.mk.injEq, and_true]
  constructor
  · funext o
    cases o with
    | _ => rfl
  · funext o
    cases o with
    | _ => rfl

/-- After a restart the memory holds what the flash remembers. -/
theorem Recalls.restart (hnvs : nvs.Working) (h : Recalls nvs c d) :
    Recalls nvs (restart nvs c) (d.call .restart) := by
  rw [← loads_eq]
  exact (h.reset hnvs).loads hnvs _

theorem Recalls.save_lc_calibration (hnvs : nvs.Working) (h : Recalls nvs c d)
    {state : Int} {offsets : List Int}
    (hstate : Keyed state) (hoffsets : Offsets offsets) :
    Recalls nvs (c.call nvs (.save_lc_calibration_to_nvs state offsets))
      (d.call (.save_lc_calibration_to_nvs state offsets)) := by
  have hentry : nvs.entry (c.call nvs (.save_lc_calibration_to_nvs state offsets)).store.flash =
      replaced (nvs.entry c.store.flash) APP_NAMESPACE (nvs_key state) (.blob (packInts 4 offsets)) :=
    write_entry hnvs ..
  refine ⟨h.memory, h.fits, fun o => ?_, h.saved_fits, fun other hother => ?_, fun other found hfound => ?_, ?_⟩
  · rw [hentry, replaced_of_key_ne (key_ne_nvs_key o state)]
    exact h.entry o
  · rw [hentry, Remembered.call]
    obtain rfl | hne := eq_or_ne other state
    · simp
    · rw [replaced_of_key_ne fun hkey => hne (nvs_key_injective hother hstate hkey), h.calibration other hother]
      simp [hne]
  · change found ∈ Function.update d.calibration state (some offsets) other at hfound
    obtain rfl | hne := eq_or_ne other state
    · simp only [Function.update_self, Option.mem_some_iff] at hfound
      exact hfound ▸ hoffsets
    · rw [Function.update_of_ne hne] at hfound
      exact h.offsets other found hfound
  · rw [hentry, replaced_of_name_ne (by decide)]
    exact h.registered

theorem Recalls.write_registration (hnvs : nvs.Working) (h : Recalls nvs c d) (done : Bool) :
    Recalls nvs (c.call nvs (.write_nvs_registration_flag done))
    (d.call (.write_nvs_registration_flag done)) := by
  have hentry : nvs.entry (c.call nvs (.write_nvs_registration_flag done)).store.flash =
      replaced (nvs.entry c.store.flash) NVS_REG_NAMESPACE NVS_REG_KEY (.u32 (if done then 1 else 0)) :=
    write_entry hnvs ..
  refine ⟨h.memory, h.fits, fun o => ?_, h.saved_fits, fun state hstate => ?_, h.offsets, ?_⟩
  · rw [hentry, replaced_of_name_ne (by decide)]
    exact h.entry o
  · rw [hentry, replaced_of_name_ne (by decide)]
    exact h.calibration state hstate
  · rw [hentry, replaced_self]
    rfl

theorem Recalls.flash_erase (hnvs : nvs.Working) (h : Recalls nvs c d) :
    Recalls nvs (c.call nvs .nvs_flash_erase) (d.call .nvs_flash_erase) where
  memory := h.memory
  fits := h.fits
  entry o := hnvs.erases c.store.flash APP_NAMESPACE o.key
  saved_fits _ _ hsaved := nomatch hsaved
  calibration state _ := hnvs.erases c.store.flash APP_NAMESPACE (nvs_key state)
  offsets _ _ hfound := nomatch hfound
  registered := hnvs.erases c.store.flash NVS_REG_NAMESPACE NVS_REG_KEY

/-- Each call of the store keeps the configuration as it is to be remembered. -/
theorem Recalls.call (hnvs : nvs.Working) (h : Recalls nvs c d) {call : StoreCall} (hcall : call.Proper) :
    Recalls nvs (c.call nvs call) (d.call call) := by
  cases call with
  | change o value => exact h.change hcall
  | save o => exact h.save hnvs o
  | erase o => exact h.erase hnvs hcall
  | save_lc_calibration_to_nvs state offsets => exact h.save_lc_calibration hnvs hcall.1 hcall.2
  | write_nvs_registration_flag done => exact h.write_registration hnvs done
  | nvs_flash_erase => exact h.flash_erase hnvs
  | restart => exact h.restart hnvs

/-- And so does every sequence of them. -/
theorem Recalls.calls (hnvs : nvs.Working) (h : Recalls nvs c d) {calls : List StoreCall}
    (hcalls : ∀ call ∈ calls, call.Proper) : Recalls nvs (c.calls nvs calls) (d.calls calls) := by
  induction calls generalizing c d with
  | nil => exact h
  | cons call calls ih =>
    obtain ⟨hcall, hrest⟩ := List.forall_mem_cons.mp hcalls
    exact ih (h.call hnvs hcall) hrest

/-- With an empty flash there is nothing to remember. -/
theorem Recalls.nothing (hempty : ∀ name key, nvs.entry st.flash name key = none) :
    Recalls nvs (.initial st) .nothing where
  memory o := by
    cases o with
    | _ => rfl
  fits := initial_holds
  entry o := hempty APP_NAMESPACE o.key
  saved_fits _ _ hsaved := nomatch hsaved
  calibration state _ := hempty APP_NAMESPACE (nvs_key state)
  offsets _ _ hfound := nomatch hfound
  registered := hempty NVS_REG_NAMESPACE NVS_REG_KEY

/-- The calibration of a state that has been saved is loaded. -/
theorem Recalls.load_lc_calibration (hnvs : nvs.Working) (h : Recalls nvs c d)
    {state : Int} (hstate : Keyed state)
    {offsets array : List Int} (hsaved : d.calibration state = some offsets) (harray : array.length = 4) :
    (load_lc_calibration_from_nvs nvs.toNvsLibrary state array c.store.flash).1 = (.ESP_OK, offsets) := by
  obtain ⟨hlength, hfits⟩ := h.offsets state offsets hsaved
  have hentry : nvs.entry c.store.flash APP_NAMESPACE (nvs_key state) = some (.blob (packInts 4 offsets)) := by
    rw [h.calibration state hstate, hsaved]
    rfl
  have hread := read_saved (packInts 4 array) (4 * 4) hnvs hentry
    (by rw [packInts_length, hlength]) (by rw [packInts_length, harray])
  have hunpacked := unpackInts_packInts hfits
  rw [hlength] at hunpacked
  unfold load_lc_calibration_from_nvs
  simp only
  rw [hread, hunpacked]

theorem Recalls.read_registration (hnvs : nvs.Working) (h : Recalls nvs c d) :
    (read_nvs_registration_flag nvs c.store.flash).1 = true ↔ d.registered = some true := by
  unfold read_nvs_registration_flag
  cases hdone : d.registered with
  | none =>
    have hentry : nvs.entry c.store.flash NVS_REG_NAMESPACE NVS_REG_KEY = none := by
      rw [h.registered, hdone]
      rfl
    obtain ⟨hfailed, -⟩ := read_nvs_uint_missing (v := 0) hnvs hentry
    simp [hfailed]
  | some done =>
    have hentry : nvs.entry c.store.flash NVS_REG_NAMESPACE NVS_REG_KEY =
        some (.u32 (if done then 1 else 0)) := by
      rw [h.registered, hdone]
      rfl
    have hread := read_nvs_uint_saved (v := 0) hnvs hentry
    cases done with
    | _ => simp [hread]

/-- After a restart each object holds what it held when it was last saved, or erased, or restarted, and its
initial value if the partition has been erased since. The calibrations and the registration are what was last
written of them. -/
theorem restart_recalls (hnvs : nvs.Working) (hempty : ∀ name key, nvs.entry st.flash name key = none)
    (calls : List StoreCall) (hcalls : ∀ call ∈ calls, call.Proper) :
    let c := (Configuration.initial st).calls nvs (calls ++ [.restart])
    let d := Remembered.nothing.calls calls
    (∀ o : ConfigObject, o.value c = d.recalled o) ∧
      (∀ state, Keyed state → ∀ offsets ∈ d.calibration state, ∀ array : List Int, array.length = 4 →
        (load_lc_calibration_from_nvs nvs.toNvsLibrary state array c.store.flash).1 = (.ESP_OK, offsets)) ∧
      ((read_nvs_registration_flag nvs c.store.flash).1 = true ↔ d.registered = some true) := by
  have hrestarted := ((Recalls.nothing hempty).calls hnvs hcalls).restart hnvs
  have hcalls : (Configuration.initial st).calls nvs (calls ++ [.restart]) =
      restart nvs ((Configuration.initial st).calls nvs calls) := by
    rw [Configuration.calls, List.foldl_append]
    rfl
  have hregistered := hrestarted.read_registration hnvs
  simp only
  rw [hcalls]
  exact ⟨hrestarted.memory, fun state hstate offsets hsaved array harray =>
    hrestarted.load_lc_calibration hnvs hstate hsaved harray, hregistered⟩

/-- A flash that works, with its entries in namespaces that exist. -/
structure OpenedFlash extends Flash where
  opened : ∀ name key, entries name key ≠ none → name ∈ namespaces

def OpenedFlash.erased : OpenedFlash := ⟨⟨[], fun _ _ => none⟩, fun _ _ h => absurd rfl h⟩

def OpenedFlash.opening (f : OpenedFlash) (name : String) : OpenedFlash where
  namespaces := name :: f.namespaces
  entries := f.entries
  opened other key h := List.mem_cons_of_mem name (f.opened other key h)

def OpenedFlash.setting (f : OpenedFlash) (name key : String) (value : NvsValue) (h : name ∈ f.namespaces) :
    OpenedFlash where
  namespaces := f.namespaces
  entries := replaced f.entries name key value
  opened other key' hother := by
    obtain rfl | hne := eq_or_ne other name
    · exact h
    · rw [replaced_of_name_ne hne] at hother
      exact f.opened other key' hother

/-- The partition of a flash that works. -/
def partition : NvsPartition OpenedFlash where
  entry f := f.entries
  nvs_open f name mode :=
    if name ∈ f.namespaces then (.ESP_OK, f)
    else
      match mode with
      | .NVS_READONLY => (.ESP_ERR_NVS_NOT_FOUND, f)
      | .NVS_READWRITE => (.ESP_OK, f.opening name)
  nvs_get_blob_size f name key := ((flash.nvs_get_blob_size f.toFlash name key).1, f)
  nvs_get_blob f name key n := ((flash.nvs_get_blob f.toFlash name key n).1, f)
  nvs_get_u32 f name key v := ((flash.nvs_get_u32 f.toFlash name key v).1, f)
  nvs_set f name key value :=
    if h : name ∈ f.namespaces then (.ESP_OK, f.setting name key value h) else (.other 0x1107, f)
  nvs_commit f _ := (.ESP_OK, f)
  nvs_flash_erase _ := .erased
  nvs_flash_init f := f

private theorem partition_open_entry (f : OpenedFlash) (name : String) (mode : OpenMode) :
    (partition.nvs_open f name mode).2.entries = f.entries := by
  simp only [partition]
  split_ifs
  · rfl
  · cases mode <;> rfl

private theorem partition_documented : partition.toNvsLibrary.Documented where
  open_keeps := partition_open_entry
  size_keeps _ _ _ := rfl
  blob_keeps _ _ _ _ := rfl
  u32_keeps _ _ _ _ := rfl
  commit_keeps _ _ := rfl
  set_refused f name key value h := by
    simp only [partition] at h ⊢
    split_ifs at h ⊢
    · exact absurd rfl h
    · rfl
  set_ok f name key value h := by
    simp only [partition] at h ⊢
    split_ifs at h ⊢
    rfl
  size_ok f := flash_documented.size_ok f.toFlash
  blob_ok f := flash_documented.blob_ok f.toFlash

private theorem partition_works : partition.Working where
  toDocumented := partition_documented
  accepts f name key value := by
    have hopened : (partition.nvs_open f name .NVS_READWRITE).1 = .ESP_OK ∧
        name ∈ (partition.nvs_open f name .NVS_READWRITE).2.namespaces := by
      simp only [partition]
      split_ifs with hmem
      · exact ⟨rfl, hmem⟩
      · exact ⟨rfl, List.mem_cons_self⟩
    rintro (hopen | hset)
    · exact hopen hopened.1
    · refine hset (congrArg Prod.fst (dif_pos hopened.2))
  opens f name key h := by
    simp only [partition]
    rw [if_pos (f.opened name key h)]
  sizes f name key bytes h := by
    have hentry : f.entries name key = some (.blob bytes) := h
    simp [partition, flash, hentry]
  gets f name key bytes h := by
    have hentry : f.entries name key = some (.blob bytes) := h
    simp [partition, flash, hentry]
  gets_u32 f name key value v h := by
    have hentry : f.entries name key = some (.u32 value) := h
    simp [partition, flash, hentry]
  missing_u32 f name key v h := by
    have hentry : f.entries name key = none := h
    simp [partition, flash, hentry]
  erases _ _ _ := rfl
  init_keeps _ := rfl

/-- A device name that has been saved, and then changed without a save, and a registration. -/
def renamed : List StoreCall :=
  [.change .ble (.blob (List.replicate 32 7)), .save .ble, .change .ble (.blob (List.replicate 32 9)),
    .write_nvs_registration_flag true]

theorem renamed_recalled :
    let c := (Configuration.initial ⟨.erased, []⟩).calls partition (renamed ++ [.restart])
    let d := Remembered.nothing.calls renamed
    (∀ o : ConfigObject, o.value c = d.recalled o) ∧
      (∀ state, Keyed state → ∀ offsets ∈ d.calibration state, ∀ array : List Int, array.length = 4 →
        (load_lc_calibration_from_nvs partition.toNvsLibrary state array c.store.flash).1 =
          (.ESP_OK, offsets)) ∧
      ((read_nvs_registration_flag partition c.store.flash).1 = true ↔ d.registered = some true) :=
  restart_recalls partition_works (fun _ _ => rfl) renamed
    (by
      intro call hcall
      simp only [renamed, List.mem_cons, List.not_mem_nil, or_false] at hcall
      obtain rfl | rfl | rfl | rfl := hcall
      · exact List.length_replicate
      · trivial
      · exact List.length_replicate
      · trivial)

end catbox.nvs
