import CatLitterBox.Ble.Gating

open text json

namespace catbox.mqtt

open catbox.ble

/-- The tracker commands of `messege_tx_mqtt_cmd_e`. -/
inductive TrackerCmd where
  | TRACKER_MESSEGE_ACTIVITY
  | TRACKER_MESSEGE_DIAGNOSTICS
  | TRACKER_MESSEGE_HEALTH
deriving DecidableEq

/-- `tracker_mqtt_packet_t`, without the members `data` and `data_len`, which are always NULL
and 0. The packet is the twenty bytes of a `Motion_Packet_t`. -/
structure TrackerPacket where
  cmd : TrackerCmd
  mac : Bytes
  packet : Bytes

/-! Members of `Motion_Packet_t` by their offsets in the packed structure. -/

def uint8_at (packet : Bytes) (offset : Nat) : Nat := (packet.getD offset 0).toNat

def uint16_at (packet : Bytes) (offset : Nat) : Nat :=
  uint8_at packet offset + 256 * uint8_at packet (offset + 1)

def event_code (packet : Bytes) : UInt8 := packet.getD 0 0
def motion_req_interval (packet : Bytes) : Nat := uint8_at packet 1
def motion_req_total_points (packet : Bytes) : Nat := uint16_at packet 2
def motion_data_seq (packet : Bytes) : Nat := uint8_at packet 1
/-- The word `pack_data_i`. -/
def motion_data_word (packet : Bytes) (i : Nat) : Nat := uint16_at packet (2 + 2 * i)
def health_uptime_sec (packet : Bytes) : Nat := uint16_at packet 1 + 65536 * uint16_at packet 3
def health_Bat_Level (packet : Bytes) : Nat := uint8_at packet 5
def health_version (packet : Bytes) : Nat × Nat × Nat :=
  (uint8_at packet 7, uint8_at packet 8, uint8_at packet 9)
def health_target_rssi (packet : Bytes) : Int := (packet.getD 10 0).toInt8.toInt
def health_fault_flag (packet : Bytes) : Nat := uint8_at packet 11

/-- The fields of `fault_code`. -/
structure FaultBits where
  Bat_Status : Nat
  IMU_Err : Bool
  BLE_Err : Bool
  storage : Bool
  reset_reason : Nat

def fault_bits (byte : Nat) : FaultBits where
  Bat_Status := byte % 4
  IMU_Err := byte.testBit 2
  BLE_Err := byte.testBit 3
  storage := byte.testBit 4
  reset_reason := byte / 32 % 4

/-- A number in decimal digits. -/
def decimal (n : Nat) : Bytes := ascii (toString n)

/-- A byte by the format "%02X". -/
def hex_byte (c : UInt8) : Bytes :=
  let digit (n : UInt8) : UInt8 := if n < 10 then 48 + n else 55 + n
  [digit (c / 16), digit (c % 16)]

def hex_mac (mac : Bytes) : Bytes := mac.flatMap hex_byte

/-- The version by the format "v%d.%d.%d", cut to the buffer. -/
def version_text (size : Nat) (packet : Bytes) : Bytes :=
  let (major, minor, patch) := health_version packet
  (ascii "v" ++ decimal major ++ ascii "." ++ decimal minor ++ ascii "." ++ decimal patch).take (size - 1)

def TEST_UUID : Bytes := ascii "d8146a41-fcbc-4038-a942-fb2ad64891db"

/-- The variables of the tracker messages in `tx_mqtt.c`. -/
structure Responses where
  motion_res : Bytes
  health_res : Bytes

/-- Their values after a boot. -/
def Responses.boot : Responses := ⟨zeros 20, zeros 20⟩

def TrackerCmd.event_type : TrackerCmd → Bytes
  | .TRACKER_MESSEGE_ACTIVITY => ascii "activity"
  | .TRACKER_MESSEGE_DIAGNOSTICS => ascii "diagnostics"
  | .TRACKER_MESSEGE_HEALTH => ascii "health"

/-- `Get_cJSON_Header` for a tracker command. It knows no event type for the diagnostics. -/
def Get_cJSON_Header (res : Responses) (cmd : TrackerCmd) (timestamp : Nat) : Option (List (Bytes × cJSON)) :=
  if cmd = .TRACKER_MESSEGE_DIAGNOSTICS then none
  else
    some [(ascii "id", .string TEST_UUID), (ascii "env", .string (ascii "alpha")),
      (ascii "device_type", .string (ascii "tracker")), (ascii "event_type", .string cmd.event_type),
      (ascii "firmware", .string (version_text 20 res.health_res)), (ascii "timestamp", .number timestamp)]

def create_t100_subsystems_json (fault : FaultBits) : cJSON :=
  let status (bad : Bool) : cJSON := .string (if bad then ascii "fault" else ascii "ok")
  .object [(ascii "power", status (fault.Bat_Status > 1)), (ascii "imu", status fault.IMU_Err),
    (ascii "ble", status fault.BLE_Err), (ascii "storage", status fault.storage)]

/-- The number of words that an activity message takes from its packet. -/
def current_pkt_points (res : Responses) : Nat :=
  if motion_req_total_points res.motion_res < 9 then motion_req_total_points res.motion_res else 9

/-- The words of an activity message. -/
def activity_points (res : Responses) (packet : Bytes) : List Nat :=
  (List.range (current_pkt_points res)).map (motion_data_word packet)

/-- The alert of a diagnostics message: its fault code and the subsystem. -/
def tracker_alert (fault : FaultBits) : Bytes × Bytes :=
  if fault.IMU_Err then (ascii "IMU_ERR", ascii "imu")
  else if fault.BLE_Err then (ascii "BLE_ERR", ascii "ble")
  else (ascii "NONE", ascii "none")

def Get_cJSON_Data_for_Tracker (res : Responses) (p : TrackerPacket) : List (Bytes × cJSON) :=
  let packet := p.packet
  let fault := fault_bits (health_fault_flag packet)
  match p.cmd with
  | .TRACKER_MESSEGE_ACTIVITY =>
    [(ascii "tracker_id", .string (ascii "TRACKER_" ++ hex_mac p.mac)),
      (ascii "activity_id", .string TEST_UUID),
      (ascii "seq_num", .number (motion_data_seq packet)),
      (ascii "interval_min", .number (motion_req_interval res.motion_res)),
      (ascii "total_points", .number (motion_req_total_points res.motion_res)),
      (ascii "points", .array ((activity_points res packet).map fun word : Nat => cJSON.number word)),
      (ascii "battery_pct", .number (health_Bat_Level res.health_res))]
  | .TRACKER_MESSEGE_DIAGNOSTICS =>
    [(ascii "seq_num", .number 1), (ascii "uptime_sec", .number (health_uptime_sec packet)),
      (ascii "reset_reason", .number fault.reset_reason),
        (ascii "rssi_dbm", .number (health_target_rssi packet)),
      (ascii "subsystems", create_t100_subsystems_json fault), (ascii "mode", .string (ascii "operational")),
      (ascii "alert_level", .string (ascii "normal")), (ascii "fault_code", .string (tracker_alert fault).1),
      (ascii "affected_subsystem", .string (tracker_alert fault).2),
      (ascii "context", .object [(ascii "raw_fault_byte", .number (health_fault_flag packet))])]
  | .TRACKER_MESSEGE_HEALTH =>
    [(ascii "seq_num", .number 2), (ascii "uptime_sec", .number (health_uptime_sec packet)),
      (ascii "reset_reason", .number fault.reset_reason),
        (ascii "rssi_dbm", .number (health_target_rssi packet)),
      (ascii "subsystems", create_t100_subsystems_json fault),
        (ascii "battery_pct", .number (health_Bat_Level packet)),
      (ascii "fw_version", .string (version_text 16 packet)),
      (ascii "gateway_rssi_dbm", .number (health_target_rssi packet))]

/-- A message given to `PublishToTopic`. -/
structure Message where
  topic : Bytes
  root : cJSON

/-- The topic of a tracker message; there is none for the diagnostics. -/
def tracker_topic (p : TrackerPacket) : Option Bytes :=
  match p.cmd with
  | .TRACKER_MESSEGE_ACTIVITY => some (ascii "things/tracker/TRACKER_" ++ hex_mac p.mac ++ ascii "/activity")
  | .TRACKER_MESSEGE_HEALTH => some (ascii "things/tracker/TRACKER_" ++ hex_mac p.mac ++ ascii "/health")
  | .TRACKER_MESSEGE_DIAGNOSTICS => none

/-- `Send_cJSON_Messege_for_tracker`: the variables afterwards, and the message that it
publishes. -/
def Send_cJSON_Messege_for_tracker (res : Responses) (p : TrackerPacket) (timestamp : Nat) :
    Responses × Option Message :=
  let res := if p.cmd = .TRACKER_MESSEGE_HEALTH then { res with health_res := p.packet } else res
  if event_code p.packet = MOTION_START_RESPONSE then ({ res with motion_res := p.packet }, none)
  else
    match Get_cJSON_Header res p.cmd timestamp, tracker_topic p with
    | some header, some topic =>
      (res, some ⟨topic, .object (header ++ [(ascii "data", .object (Get_cJSON_Data_for_Tracker res p))])⟩)
    | _, _ => (res, none)

/-- The array `points` of a message. -/
def Message.points (m : Message) : List Int :=
  match (object_item m.root (ascii "data")).bind (object_item · (ascii "points")) with
  | some (.array items) => items.filterMap fun item => match item with
    | .number word => some word
    | _ => none
  | _ => []

private theorem points_of_items (words : List Nat) :
    (words.map fun word : Nat => cJSON.number word).filterMap (fun item =>
    match item with
    | .number word => some word
    | _ => none) = words.map fun word : Nat => (word : Int) := by
  rw [List.filterMap_map]
  induction words with
  | nil => rfl
  | cons word words ih =>
    rw [List.filterMap_cons, List.map_cons, ← ih]
    rfl

/-- What an activity message carries in its array `points`. -/
theorem activity_message_points (res : Responses) (p : TrackerPacket) (timestamp : Nat)
    (hcmd : p.cmd = .TRACKER_MESSEGE_ACTIVITY) (hcode : event_code p.packet ≠ MOTION_START_RESPONSE) :
    ∃ m, Send_cJSON_Messege_for_tracker res p timestamp = (res, some m) ∧
      m.points = (activity_points res p.packet).map fun word : Nat => (word : Int) := by
  have hhealth : ¬ TrackerCmd.TRACKER_MESSEGE_ACTIVITY = .TRACKER_MESSEGE_HEALTH := by decide
  have hdiagnostics : ¬ TrackerCmd.TRACKER_MESSEGE_ACTIVITY = .TRACKER_MESSEGE_DIAGNOSTICS := by decide
  unfold Send_cJSON_Messege_for_tracker Get_cJSON_Header tracker_topic Get_cJSON_Data_for_Tracker
  simp only [hcmd, if_neg hcode, if_neg hhealth, if_neg hdiagnostics]
  refine ⟨_, rfl, ?_⟩
  rw [← points_of_items]
  rfl

end catbox.mqtt
