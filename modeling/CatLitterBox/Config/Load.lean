import CatLitterBox.Config.Nvs

open text

namespace catbox.nvs

def APP_NAMESPACE : String := "WAVEON"

def APP_KEY_CONFIGURATION : String := "CONFIG"
def APP_KEY_WIFI_CONFIG : String := "WIFI"
def APP_KEY_BLE_CONFIG : String := "BLE"
def APP_KEY_MOTOR_TIME : String := "MOTOR_TIME"

def BLE_DEVICENAME_LEN : Nat := 32
def WIFI_PASSWORD_LEN : Nat := 64

/-- `sizeof(app_config_t)` in `app_config_flash.h`: fifteen words and two texts. -/
def sizeof_app_config_t : Nat := 15 * 4 + 16 + 128

def sizeof_app_wifi_config_t : Nat := BLE_DEVICENAME_LEN + WIFI_PASSWORD_LEN

def sizeof_app_ble_config_t : Nat := BLE_DEVICENAME_LEN

/-- The NVS and the objects of `app_config_flash.c`, byte by byte. -/
structure Configuration (S : Type) where
  store : Store S
  app_config : Bytes
  wifi_config : Bytes
  ble_config : Bytes
  motor_save_time : UInt32

inductive ConfigObject where
  | app
  | wifi
  | ble
  | motor
deriving DecidableEq, Repr

def ConfigObject.key : ConfigObject → String
  | .app => APP_KEY_CONFIGURATION
  | .wifi => APP_KEY_WIFI_CONFIG
  | .ble => APP_KEY_BLE_CONFIG
  | .motor => APP_KEY_MOTOR_TIME

section loaders

variable {S : Type} (nvs : NvsLibrary S)

/-- The common shape of the three loaders of blobs, with what they leave in the object. -/
def load_blob (key : String) (object : Bytes) (size : Nat) (st : Store S) : Bytes × Store S :=
  let read := read_nvs_blob nvs APP_NAMESPACE key object size st.flash
  let st := { st with flash := read.2 }
  (read.1.2, if read.1.1 ≠ .ESP_OK then write_nvs_blob nvs APP_NAMESPACE key read.1.2 st else st)

def load_app_configuration (c : Configuration S) : Configuration S :=
  let loaded := load_blob nvs APP_KEY_CONFIGURATION c.app_config sizeof_app_config_t c.store
  { c with app_config := loaded.1, store := loaded.2 }

def load_wifi_configuration (c : Configuration S) : Configuration S :=
  let loaded := load_blob nvs APP_KEY_WIFI_CONFIG c.wifi_config sizeof_app_wifi_config_t c.store
  { c with wifi_config := loaded.1, store := loaded.2 }

def load_ble_configuration (c : Configuration S) : Configuration S :=
  let loaded := load_blob nvs APP_KEY_BLE_CONFIG c.ble_config sizeof_app_ble_config_t c.store
  { c with ble_config := loaded.1, store := loaded.2 }

def load_motor_time (c : Configuration S) : Configuration S :=
  let read := read_nvs_uint nvs APP_NAMESPACE APP_KEY_MOTOR_TIME c.motor_save_time c.store.flash
  let st := { c.store with flash := read.2 }
  { c with
    motor_save_time := read.1.2
    store :=
      if read.1.1 ≠ .ESP_OK then write_nvs_uint nvs APP_NAMESPACE APP_KEY_MOTOR_TIME read.1.2 st else st }

def ConfigObject.load (o : ConfigObject) (c : Configuration S) : Configuration S :=
  match o with
  | .app => load_app_configuration nvs c
  | .wifi => load_wifi_configuration nvs c
  | .ble => load_ble_configuration nvs c
  | .motor => load_motor_time nvs c

/-- The entry exists. -/
def Present (key : String) (st : Store S) : Prop := nvs.entry st.flash APP_NAMESPACE key ≠ none

/-- Nothing has been written between the two, and every entry is as it was. -/
def Untouched (before after : Store S) : Prop :=
  after.written = before.written ∧ nvs.entry after.flash = nvs.entry before.flash

/-- Every call that reads the object succeeds, and its entry is no larger than the object. -/
def ConfigObject.Readable (o : ConfigObject) (c : Configuration S) : Prop :=
  match o with
  | .app => BlobReadable nvs APP_NAMESPACE APP_KEY_CONFIGURATION sizeof_app_config_t c.store.flash
  | .wifi => BlobReadable nvs APP_NAMESPACE APP_KEY_WIFI_CONFIG sizeof_app_wifi_config_t c.store.flash
  | .ble => BlobReadable nvs APP_NAMESPACE APP_KEY_BLE_CONFIG sizeof_app_ble_config_t c.store.flash
  | .motor => UintReadable nvs APP_NAMESPACE APP_KEY_MOTOR_TIME c.motor_save_time c.store.flash

/-- After the read of a blob the library refuses to write. -/
def BlobRefused (key : String) (object : Bytes) (size : Nat) (s : S) : Prop :=
  let read := read_nvs_blob nvs APP_NAMESPACE key object size s
  WriteRefused nvs APP_NAMESPACE key (.blob read.1.2) read.2

/-- After the read of the object the library refuses to write. -/
def ConfigObject.Refused (o : ConfigObject) (c : Configuration S) : Prop :=
  match o with
  | .app => BlobRefused nvs APP_KEY_CONFIGURATION c.app_config sizeof_app_config_t c.store.flash
  | .wifi => BlobRefused nvs APP_KEY_WIFI_CONFIG c.wifi_config sizeof_app_wifi_config_t c.store.flash
  | .ble => BlobRefused nvs APP_KEY_BLE_CONFIG c.ble_config sizeof_app_ble_config_t c.store.flash
  | .motor =>
    let read := read_nvs_uint nvs APP_NAMESPACE APP_KEY_MOTOR_TIME c.motor_save_time c.store.flash
    WriteRefused nvs APP_NAMESPACE APP_KEY_MOTOR_TIME (.u32 read.1.2) read.2

end loaders

variable {S : Type} {nvs : NvsLibrary S} {key : String} {object : Bytes} {size : Nat} {st : Store S} {s : S}
  {value : NvsValue} {c : Configuration S} {o : ConfigObject}

/-- What is written after a read is refused, or touches the store. -/
theorem untouched_write_iff (hnvs : nvs.Documented) (hread : nvs.entry s = nvs.entry st.flash) :
    Untouched nvs st (write_nvs nvs APP_NAMESPACE key value { st with flash := s }) ↔
      WriteRefused nvs APP_NAMESPACE key value s := by
  constructor
  · rintro ⟨hwritten, -⟩
    by_contra hdone
    let before : Store S := { st with flash := s }
    have hmore : (write_nvs nvs APP_NAMESPACE key value before).written =
        st.written ++ [(APP_NAMESPACE, key, value)] := (write_nvs_done hnvs hdone).1
    rw [hwritten] at hmore
    simp at hmore
  · intro hrefused
    let before : Store S := { st with flash := s }
    obtain ⟨hwritten, hentry⟩ : Untouched nvs before (write_nvs nvs APP_NAMESPACE key value before) :=
      write_nvs_refused hnvs hrefused
    exact ⟨hwritten, hentry.trans hread⟩

/-- The write of the defaults depends on the result of the read. -/
theorem untouched_unless_read_iff {err : EspErr} (hnvs : nvs.Documented)
    (hread : nvs.entry s = nvs.entry st.flash) :
    Untouched nvs st
        (if err ≠ .ESP_OK then write_nvs nvs APP_NAMESPACE key value { st with flash := s }
          else { st with flash := s }) ↔
      err = .ESP_OK ∨ WriteRefused nvs APP_NAMESPACE key value s := by
  by_cases hok : err = .ESP_OK
  · rw [if_neg (not_not.mpr hok)]
    exact iff_of_true ⟨rfl, hread⟩ (.inl hok)
  · rw [if_pos hok]
    exact (untouched_write_iff hnvs hread).trans (or_iff_right hok).symm

/-- Loading a blob leaves the flash untouched if it is there, or cannot be written. -/
theorem load_blob_untouched_iff (hnvs : nvs.Documented) :
    Untouched nvs st (load_blob nvs key object size st).2 ↔
      BlobReadable nvs APP_NAMESPACE key size st.flash ∨ BlobRefused nvs key object size st.flash := by
  unfold load_blob BlobRefused
  rw [← read_nvs_blob_ok_iff object]
  exact untouched_unless_read_iff hnvs (read_nvs_blob_entry hnvs APP_NAMESPACE key object size st.flash)

private theorem load_motor_time_untouched_iff (hnvs : nvs.Documented) :
    Untouched nvs c.store (load_motor_time nvs c).store ↔
      ConfigObject.motor.Readable nvs c ∨ ConfigObject.motor.Refused nvs c := by
  unfold load_motor_time ConfigObject.Readable ConfigObject.Refused
  simp only
  rw [← read_nvs_uint_ok_iff]
  exact untouched_unless_read_iff hnvs
    (read_nvs_uint_entry hnvs APP_NAMESPACE APP_KEY_MOTOR_TIME c.motor_save_time c.store.flash)

theorem load_untouched_iff (hnvs : nvs.Documented) (o : ConfigObject) (c : Configuration S) :
    Untouched nvs c.store (o.load nvs c).store ↔ o.Readable nvs c ∨ o.Refused nvs c := by
  cases o with
  | app => exact load_blob_untouched_iff hnvs
  | wifi => exact load_blob_untouched_iff hnvs
  | ble => exact load_blob_untouched_iff hnvs
  | motor => exact load_motor_time_untouched_iff hnvs

/-- A store with one entry. -/
def Flash.single (key : String) (value : NvsValue) : Flash where
  namespaces := [APP_NAMESPACE]
  entries := replaced (fun _ _ => none) APP_NAMESPACE key value

/-- After boot, with the defaults in the objects. -/
def Configuration.boot (f : Flash) : Configuration Flash where
  store := ⟨f, []⟩
  app_config := List.replicate sizeof_app_config_t 0
  wifi_config := List.replicate sizeof_app_wifi_config_t 0
  ble_config := List.replicate sizeof_app_ble_config_t 0
  motor_save_time := 0

end catbox.nvs
