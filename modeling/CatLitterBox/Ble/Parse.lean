import CatLitterBox.Ble.Crypto
import CatLitterBox.Wifi.Station

open text json catbox.wifi

namespace catbox.ble

/-! Event codes of `Motion_Packet_t`. -/

def MOTION_START_RESPONSE : UInt8 := 0x10
def MOTION_DATA : UInt8 := 0x11
def HEALTH_DATA_RESPONSE : UInt8 := 0x13
def MOTION_START_REQUEST : UInt8 := 0x20
def MOTION_DATA_ACK : UInt8 := 0x21

/-- The values of `wifi_auth_mode_t` that the scan handler tells apart. -/
inductive AuthMode where
  | WIFI_AUTH_WEP
  | WIFI_AUTH_WPA_PSK
  | WIFI_AUTH_WPA2_PSK
  | WIFI_AUTH_WPA_WPA2_PSK
  | WIFI_AUTH_WPA3_PSK
  | WIFI_AUTH_WPA2_WPA3_PSK
  | other
deriving DecidableEq, Repr

/-- The members of `wifi_ap_record_t` that the scan handler reads. -/
structure ApRecord where
  ssid : Bytes
  rssi : Int
  authmode : AuthMode

/-- The strings that these handlers write into the configurations. -/
structure Config where
  env_mode : Bytes
  conn_ssid : Bytes
  conn_password : Bytes

/-- What the surroundings supply while a message is handled: the random bytes, the old
contents of the decoding buffers, the bytes behind the message, the access points of
`ap_list` after a scan, the event bits after `Wifi_Connect`, and the configuration that a
restart would load. -/
structure Surroundings where
  exchange : Entropy
  event_iv : Bytes
  iv : Bytes
  tag : Bytes
  ciphertext : Bytes
  beyond : Nat → UInt8
  ap_list : List ApRecord
  bits : WifiBits
  flash : Config

/-- The variables of `ble_task.c`, `ble_parse.c` and `ble_crypto.c`, and the
configuration. -/
structure Device (Ecdh : Type) where
  session : Session Ecdh
  is_phone_connected : Bool
  g_ble_max_payload : UInt16
  g_start_ota_flag : Bool
  total_count : UInt32
  input_count : UInt32
  Motion_Timeout_timer : Bool
  config : Config

/-- What the handlers do outside their variables. A command and an event carry the key of
the AES-GCM that has decrypted or encrypted them. -/
inductive Effect where
  | key_exchange_ack (payload : Bytes)
  | encrypted_event (key event_type payload : Bytes)
  | set_env (key env : Bytes)
  | wifi_prov (key ssid pwd : Bytes)
  | Wifi_Connect (ssid password : Bytes)
  | wifi_scan_start
  | wifi_nvs_save_set
  | write_nvs_registration_flag
  | motion_msg_send (cmd sub_cmd : UInt8)
  | tracker_mqtt_queue_send (mac : Bytes) (packet : Bytes)
  /-- The access through a NULL pointer, which restarts the device. -/
  | LoadProhibited
deriving DecidableEq

variable {Ecdh : Type} (L : Library Ecdh)

/-- The device after a boot. -/
def Device.boot (config : Config) : Device Ecdh where
  session := Session.boot L
  is_phone_connected := false
  g_ble_max_payload := 20
  g_start_ota_flag := false
  total_count := 0
  input_count := 0
  Motion_Timeout_timer := false
  config := config

/-- The result of `ble_decrypt_json_data`. -/
inductive Decrypted where
  | plaintext (text : Bytes)
  | NULL
  | LoadProhibited
deriving DecidableEq

/-- A field without `valuestring` is given to `strlen`. The statuses of the base64 routines
are ignored. -/
def ble_decrypt_json_data (w : Surroundings) (session_key : Bytes) (data_obj : Option cJSON) : Decrypted :=
  match data_obj with
  | none => .NULL
  | some data_obj =>
    match L.cJSON_GetObjectItem data_obj (ascii "iv"), L.cJSON_GetObjectItem data_obj (ascii "ciphertext"),
      L.cJSON_GetObjectItem data_obj (ascii "tag") with
    | some iv_item, some ct_item, some tag_item =>
      match ct_item.valuestring, iv_item.valuestring, tag_item.valuestring with
      | some ct_text, some iv_text, some tag_text =>
        let iv := (L.base64_decode 16 iv_text w.iv).2
        let tag := (L.base64_decode 16 tag_text w.tag).2
        let ciphertext := (L.base64_decode ct_text.length ct_text w.ciphertext).2
        match L.gcm_auth_decrypt session_key iv tag ciphertext with
        | some plaintext => .plaintext (cstring plaintext)
        | none => .NULL
      | _, _, _ => .LoadProhibited
    | _, _, _ => .NULL

/-- The JSON text that `ble_send_encrypted_event` queues. -/
def encrypted_json (event_type iv_b64 ct_b64 tag_b64 : Bytes) : Bytes :=
  ascii "\x7b\"event_type\":\"" ++ event_type ++ ascii "\",\"data\":\x7b\"iv\":\"" ++ iv_b64 ++
    ascii "\",\"ciphertext\":\"" ++ ct_b64 ++ ascii "\",\"tag\":\"" ++ tag_b64 ++ ascii "\"\x7d\x7d"

def ble_send_encrypted_event (w : Surroundings) (session_key event_type plain_data : Bytes) : Effect :=
  let (ciphertext, tag) := L.gcm_crypt_and_tag session_key w.event_iv plain_data
  .encrypted_event session_key event_type
    (encrypted_json event_type (L.base64_encode w.event_iv)
      (L.base64_encode ciphertext) (L.base64_encode tag))

/-- The JSON text of a `key_exchange_ack`. -/
def key_exchange_ack_json (dev_pub_key_b64 : Bytes) : Bytes :=
  ascii "\x7b\"event_type\":\"key_exchange_ack\",\"data\":\x7b\"pub_key\":\"" ++ dev_pub_key_b64 ++
    ascii "\"\x7d\x7d"

/-! The branches of `BLE_APP_Command`, with the object `root` of the message. -/

def mtu_info (root : cJSON) (d : Device Ecdh) : Device Ecdh × List Effect :=
  match (L.cJSON_GetObjectItem root (ascii "data")).bind (L.cJSON_GetObjectItem · (ascii "max_payload")) with
  | some (.number valueint) => ({ d with g_ble_max_payload := UInt16.ofInt valueint }, [])
  | _ => (d, [])

/-- The status of the computation is ignored. -/
def key_exchange (w : Surroundings) (root : cJSON) (d : Device Ecdh) : Device Ecdh × List Effect :=
  match (L.cJSON_GetObjectItem root (ascii "data")).bind (L.string_item · (ascii "pub_key")) with
  | none => (d, [])
  | some app_pub_key =>
    match ble_crypto_init_and_get_pubkey L w.exchange with
    | (session, none) => ({ d with session }, [])
    | (session, some dev_pub_key_b64) =>
      ({ d with session := (ble_crypto_compute_session_key L w.exchange app_pub_key session).1 },
        [.key_exchange_ack (key_exchange_ack_json dev_pub_key_b64)])

def set_env (w : Surroundings) (root : cJSON) (d : Device Ecdh) : Device Ecdh × List Effect :=
  match ble_decrypt_json_data L w d.session.session_key (L.cJSON_GetObjectItem root (ascii "data")) with
  | .NULL => (d, [])
  | .LoadProhibited => (Device.boot L w.flash, [.LoadProhibited])
  | .plaintext plaintext =>
    match (L.cJSON_Parse plaintext).bind (L.string_item · (ascii "env")) with
    | none => (d, [])
    | some env =>
      let ack := ble_send_encrypted_event L w d.session.session_key (ascii "env_ack")
        (ascii "\x7b\"result\":\"ok\"\x7d")
      if env = ascii "dev" ∨ env = ascii "prod" then
        ({ d with config.env_mode := env }, [.set_env d.session.session_key env, ack])
      else (d, [ack])

def auth_str : AuthMode → Bytes
  | .WIFI_AUTH_WEP => ascii "wep"
  | .WIFI_AUTH_WPA_PSK => ascii "wpa"
  | .WIFI_AUTH_WPA2_PSK | .WIFI_AUTH_WPA_WPA2_PSK => ascii "wpa2"
  | .WIFI_AUTH_WPA3_PSK | .WIFI_AUTH_WPA2_WPA3_PSK => ascii "wpa3"
  | .other => ascii "open"

def ap_item (ap : ApRecord) : cJSON :=
  .object [(ascii "ssid", .string (cstring ap.ssid)), (ascii "rssi", .number ap.rssi),
    (ascii "auth", .string (auth_str ap.authmode))]

/-- At most ten access points, in the order of `ap_list`. -/
def scan_wifi (w : Surroundings) (d : Device Ecdh) : Device Ecdh × List Effect :=
  let data_obj : cJSON := .object [(ascii "aps", .array ((w.ap_list.take 10).map ap_item))]
  (d, [.wifi_scan_start,
    ble_send_encrypted_event L w d.session.session_key (ascii "wifi_list")
      (L.cJSON_PrintUnformatted data_obj)])

/-- The verdict of `wifi_prov` from the event bits. -/
def wifi_result (bits : WifiBits) : Bytes :=
  if bits.WIFI_CONNECTED_BIT then ascii "\x7b\"result\":\"ok\"\x7d"
  else if bits.WIFI_FAIL_BIT then ascii "\x7b\"result\":\"auth_fail\"\x7d"
  else ascii "\x7b\"result\":\"timeout\"\x7d"

/-- The configuration with new credentials, cut to the sizes of their arrays. -/
def Config.credentials (config : Config) (ssid password : Bytes) : Config :=
  { config with conn_ssid := ssid.take 31, conn_password := password.take 63 }

def wifi_prov (w : Surroundings) (root : cJSON) (d : Device Ecdh) : Device Ecdh × List Effect :=
  match ble_decrypt_json_data L w d.session.session_key (L.cJSON_GetObjectItem root (ascii "data")) with
  | .NULL => (d, [])
  | .LoadProhibited => (Device.boot L w.flash, [.LoadProhibited])
  | .plaintext plaintext =>
    match L.cJSON_Parse plaintext with
    | none => (d, [])
    | some prov_json =>
      match L.string_item prov_json (ascii "ssid") with
      | none => (d, [])
      | some ssid =>
        let pwd := (L.string_item prov_json (ascii "pwd")).getD []
        ({ d with config := d.config.credentials ssid pwd },
          [.wifi_prov d.session.session_key ssid pwd, .Wifi_Connect ssid pwd] ++
            (if w.bits.WIFI_CONNECTED_BIT then [.wifi_nvs_save_set] else []) ++
            [ble_send_encrypted_event L w d.session.session_key (ascii "wifi_result") (wifi_result w.bits)])

/-- The JSON commands. -/
def app_json_command (w : Surroundings) (root : cJSON) (d : Device Ecdh) : Device Ecdh × List Effect :=
  match L.string_item root (ascii "event_type") with
  | none => (d, [])
  | some event_type =>
    if event_type = ascii "mtu_info" then mtu_info L root d
    else if event_type = ascii "key_exchange" then key_exchange L w root d
    else if event_type = ascii "set_env" then set_env L w root d
    else if event_type = ascii "scan_wifi" then scan_wifi L w d
    else if event_type = ascii "wifi_prov" then wifi_prov L w root d
    else (d, [])

/-- The tokens of `strtok` with the blank as delimiter. -/
def tokens (text : Bytes) : List Bytes := (text.splitOn 32).filter (· ≠ [])

/-- The commands that are no JSON. -/
def app_text_command (buf : Bytes) (d : Device Ecdh) : Device Ecdh × List Effect :=
  if buf = ascii "scan" then (d, [.wifi_scan_start])
  else
    let line := buf.takeWhile fun c => c ≠ 13 ∧ c ≠ 10
    if line = ascii "OTA" then ({ d with g_start_ota_flag := true }, [])
    else
      match tokens line with
      | cmd :: _ :: ssid :: pass :: _ =>
        if cmd = ascii "CONNECT_AP" then
          ({ d with config := d.config.credentials ssid pass }, [.wifi_nvs_save_set, .Wifi_Connect ssid pass])
        else (d, [])
      | _ => (d, [])

/-- The message is cut to the 255 bytes that `buf` holds. -/
def BLE_APP_Command (w : Surroundings) (data : Bytes) (d : Device Ecdh) : Device Ecdh × List Effect :=
  let buf := cstring (data.take 255)
  match L.cJSON_Parse buf with
  | some root => app_json_command L w root d
  | none => app_text_command buf d

/-- The byte at an offset of the message, which may lie behind its end. -/
def byte (w : Surroundings) (data : Bytes) (offset : Nat) : UInt8 := data.getD offset (w.beyond offset)

/-- `motion_req.total_points`. -/
def total_points (w : Surroundings) (data : Bytes) : UInt16 :=
  (byte w data 2).toUInt16 ||| (byte w data 3).toUInt16 <<< 8

/-- The twenty bytes of the `Motion_Packet_t` at the start of the message. -/
def Motion_Packet (w : Surroundings) (data : Bytes) : Bytes := (List.range 20).map (byte w data)

/-- `esp_timer_stop`, and `esp_timer_start_once` if the state is true. -/
def Device.Motion_Timer_Set (d : Device Ecdh) (state : Bool) : Device Ecdh :=
  { d with Motion_Timeout_timer := state }

def motion_start_response (w : Surroundings) (data : Bytes) (d : Device Ecdh) : Device Ecdh × List Effect :=
  let points := (total_points w data).toUInt32
  if points ≠ 0 then
    (({ d with total_count := points + (9 - points % 9), input_count := 0 } :
      Device Ecdh).Motion_Timer_Set true, [])
  else (d, [])

def motion_data (w : Surroundings) (mac data : Bytes) (d : Device Ecdh) : Device Ecdh × List Effect :=
  let counted : Device Ecdh := { d with input_count := d.input_count + 9 }
  let queued : List Effect := [.tracker_mqtt_queue_send mac (Motion_Packet w data)]
  if counted.input_count = counted.total_count then
    (counted, queued ++ [.motion_msg_send MOTION_DATA_ACK (byte w data 1)])
  else (counted.Motion_Timer_Set true, queued)

def BLE_Receive_data (w : Surroundings) (mac data : Bytes) (d : Device Ecdh) : Device Ecdh × List Effect :=
  if byte w data 0 = MOTION_START_RESPONSE then motion_start_response w data d
  else if byte w data 0 = MOTION_DATA then motion_data w mac data d
  else if byte w data 0 = HEALTH_DATA_RESPONSE then (d, [])
  else BLE_APP_Command L w data d

/-- `Motion_Timeout_callback`. -/
def Motion_Timeout_callback (d : Device Ecdh) : Device Ecdh × List Effect :=
  ({ d with Motion_Timeout_timer := false }, [.motion_msg_send MOTION_START_REQUEST 2])

/-- The plaintext of a `prov_complete`. -/
def prov_complete_json (thing_name : Bytes) : Bytes :=
  ascii "\x7b\"thing_name\":\"" ++ thing_name ++ ascii "\"\x7d"

/-- `registration_callback`, for a device of that name. -/
def registration_callback (w : Surroundings) (thing_name result : Bytes) (d : Device Ecdh) :
    Device Ecdh × List Effect :=
  if result = ascii "ok" then
    (d, [.write_nvs_registration_flag,
      ble_send_encrypted_event L w d.session.session_key (ascii "prov_complete")
        (prov_complete_json thing_name)])
  else (d, [])

/-- `mqtt_rx_messege`. The callbacks of the other event types only log. -/
def mqtt_rx_messege (w : Surroundings) (thing_name payload : Bytes) (d : Device Ecdh) :
    Device Ecdh × List Effect :=
  if payload = [] then (d, [])
  else
    match L.cJSON_Parse (cstring payload) with
    | none => (d, [])
    | some root =>
      match L.string_item root (ascii "event_type"), L.string_item root (ascii "result") with
      | some event_type, some result =>
        if event_type = ascii "registration" then registration_callback L w thing_name result d else (d, [])
      | _, _ => (d, [])

end catbox.ble
