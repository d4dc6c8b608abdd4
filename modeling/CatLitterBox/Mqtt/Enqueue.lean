import CatLitterBox.Mqtt.Operations
import CatLitterBox.Mqtt.Tracker
import Mathlib.Logic.Function.Basic

open text

namespace catbox.mqtt

/-- `messege_tx_mqtt_cmd_e`. -/
inductive MessegeCmd where
  | box (cmd : session.Cmd)
  | AWS_MESSEGE_AWS_JOBS_GET
  | tracker (cmd : TrackerCmd)

structure mqtt_packet_t where
  cmd : MessegeCmd
  data : Option Nat
  data_len : UInt32

/-- The blocks of the heap by their addresses. -/
abbrev Heap := Nat → Option Bytes

/-- The queue, which is `NULL` before it is created, and the heap. -/
structure Tx where
  mqtt_tx_queue : Option (List mqtt_packet_t)
  heap : Heap

/-- An answer of `calloc`: nothing, or an address at which there is no block. -/
abbrev Tx.Calloc (s : Tx) := Option { p : Nat // s.heap p = none }

def MQTT_TX_QUEUE_LENGTH : Nat := 10

/-- The packet and the heap when it is sent. -/
def Tx.mqtt_packet (s : Tx) (cmd : MessegeCmd) (data : Option Bytes) (data_len : UInt32) (calloc : s.Calloc) :
    mqtt_packet_t × Heap :=
  match data, calloc with
  | some bytes, some p =>
    if data_len > 0 then (⟨cmd, some p, data_len⟩, Function.update s.heap p (some (bytes.take data_len.toNat)))
    else (⟨cmd, none, data_len⟩, s.heap)
  | _, _ => (⟨cmd, none, data_len⟩, s.heap)

/-- `free`, of `NULL` too. -/
def Heap.free (heap : Heap) (data : Option Nat) : Heap :=
  match data with
  | some p => Function.update heap p none
  | none => heap

def mqtt_queue_send (s : Tx) (cmd : MessegeCmd) (data : Option Bytes) (data_len : UInt32) (calloc : s.Calloc) :
    Tx × Bool :=
  match s.mqtt_tx_queue with
  | none => (s, false)
  | some packets =>
    let (packet, heap) := s.mqtt_packet cmd data data_len calloc
    if packets.length < MQTT_TX_QUEUE_LENGTH then (⟨some (packets ++ [packet]), heap⟩, true)
    else (⟨some packets, heap.free packet.data⟩, false)

/-- A number of a message: a `float` by its bits, or an integer. -/
inductive Number where
  | float (bits : UInt32)
  | int (value : Int)
deriving DecidableEq

inductive Item where
  | string (text : Bytes)
  | number (value : Number)
  | object (members : List (Bytes × Item))

/-- What the messages read of the board, and what lies behind the blocks of the heap. -/
structure Board where
  mac : Bytes
  timestamp_sec : Nat
  reset_reason : Nat
  free_heap : Nat
  tracker_found : Bool
  beyond : Nat → UInt8

/-- A word of four bytes, in the order of the processor. -/
def word_at (bytes : Nat → UInt8) (offset : Nat) : UInt32 :=
  (bytes offset).toUInt32 ||| (bytes (offset + 1)).toUInt32 <<< 8 |||
    (bytes (offset + 2)).toUInt32 <<< 16 ||| (bytes (offset + 3)).toUInt32 <<< 24

def int_member (name : String) (value : Int) : Bytes × Item := (ascii name, .number (.int value))
def float_member (name : String) (bits : UInt32) : Bytes × Item := (ascii name, .number (.float bits))
def string_member (name : String) (text : Bytes) : Bytes × Item := (ascii name, .string text)

/-- The members of a usage, from a `USAGE_Packet_t` if there is one. -/
def usage_members (b : Board) (data : Option Bytes) : List (Bytes × Item) :=
  match data with
  | some bytes =>
    let usage := fun offset => bytes.getD offset (b.beyond offset)
    [string_member "usage_id" TEST_UUID,
      string_member "session_type" (if b.tracker_found then ascii "normal" else ascii "unknown"),
      string_member "access_id_refs" [],
      string_member "tracker_id" (ascii "TRACKER_112233445566"),
      float_member "cat_weight" (word_at usage 0),
      float_member "waste_raw" (word_at usage 4),
      int_member "duration_sec" (word_at usage 8).toNat]
  | none =>
    [string_member "usage_id" TEST_UUID, string_member "session_type" (ascii "unknown"),
      int_member "cat_weight" 3500, int_member "waste_raw" 10, int_member "duration_sec" 120]

/-- The members of a cleaning, from a `CLEAN_RESULT_Packet_t` if there is one. -/
def clean_result_members (b : Board) (data : Option Bytes) : List (Bytes × Item) :=
  match data with
  | some bytes =>
    let clean := fun offset => bytes.getD offset (b.beyond offset)
    [string_member "clean_id" TEST_UUID, string_member "trigger" (ascii "device_button"),
      string_member "target_usage_ids" [],
      float_member "disposed" (word_at clean 0),
      float_member "waste_ratio" (word_at clean 4),
      int_member "waste_type" (clean 8).toNat,
      int_member "send_level" (clean 9).toNat,
      string_member "request_token_ref" TEST_UUID]
  | none =>
    [string_member "clean_id" TEST_UUID, string_member "trigger" (ascii "device_button"),
      int_member "disposed" 10, int_member "waste_ratio" 1, int_member "waste_type" 1,
        int_member "send_level" 0]

/-- The members of the object, none where the function returns `NULL`. -/
def Get_cJSON_Data (b : Board) (heap : Heap) (mqtt_packet : mqtt_packet_t) : Option (List (Bytes × Item)) :=
  match mqtt_packet.cmd with
  | .box .MESSEGE_REGISTRATION =>
    some [string_member "mac" (hex_mac b.mac), string_member "hw_rev" (ascii "r1.0"),
      int_member "paired_at" 1747396800]
  | .box .MESSEGE_BOOT =>
    some [string_member "boot_reason" (ascii "power_on"), int_member "uptime_sec" b.timestamp_sec,
      string_member "power_source" (ascii "ADAPTER"), int_member "reset_reason" b.reset_reason]
  | .box .MESSEGE_ACCESS =>
    some [string_member "access_id" TEST_UUID,
      string_member "source" (if b.tracker_found then ascii "tracker" else ascii "sensor"),
      string_member "beacon_id" (ascii "TRACKER_112233445566"), int_member "rssi_dbm" 0]
  | .box .MESSEGE_USAGE => some (usage_members b (mqtt_packet.data.bind heap))
  | .box .MESSEGE_CLEAN_RESULT => some (clean_result_members b (mqtt_packet.data.bind heap))
  | .box .MESSEGE_DIAGNOSTICS =>
    some [string_member "alert_level" (ascii "critical"), string_member "fault_code" (ascii "LOADCELL_ERR"),
      string_member "affected_subsystem" (ascii "loadcell"), (ascii "context", .object []),
      int_member "uptime_sec" 1747396800, int_member "reset_reason" b.reset_reason, int_member "rssi_dbm" 0,
      (ascii "subsystems", .object [])]
  | .box .MESSEGE_HEALTH =>
    some [int_member "uptime_sec" b.timestamp_sec, int_member "reset_reason" b.reset_reason,
      int_member "rssi_dbm" (-70),
      (ascii "subsystems", .object [string_member "motor" (ascii "ok"), string_member "loadcell" (ascii "ok"),
        string_member "tof" (ascii "ok"), string_member "ble" (ascii "ok")]),
      string_member "power_source" (ascii "ADAPTER"), int_member "sand_level" 0, int_member "bin_weight" 0,
      int_member "cover_open" 0, int_member "maintenance_mode" 0, int_member "uv_status" 0,
      int_member "free_heap" b.free_heap]
  | .AWS_MESSEGE_AWS_JOBS_GET | .tracker _ => none

/-- What a producer supplies: a block of some bytes, and their number. -/
structure Supplied where
  bytes : Bytes
  data_len : UInt32
  length : bytes.length = data_len.toNat
  positive : data_len > 0

/-- The call with data of a producer. -/
abbrev Tx.supply (s : Tx) (cmd : MessegeCmd) (data : Supplied) (calloc : s.Calloc) : Tx × Bool :=
  mqtt_queue_send s cmd (some data.bytes) data.data_len calloc

/-- Either the queue has gained one item with a copy of the bytes, or nothing has changed. -/
def AllOrNothing (s : Tx) (cmd : MessegeCmd) (data : Supplied) (outcome : Tx × Bool) : Prop :=
  (∃ packets p, s.mqtt_tx_queue = some packets ∧ s.heap p = none ∧
    outcome = (⟨some (packets ++ [⟨cmd, some p, data.data_len⟩]), Function.update s.heap p (some data.bytes)⟩,
      true)) ∨
  outcome = (s, false)

/-- The measurements of a packet are those that are published where there are none. -/
def Defaults (b : Board) (heap : Heap) (packet : mqtt_packet_t) : Prop :=
  packet.cmd = .box .MESSEGE_USAGE ∧ Get_cJSON_Data b heap packet = some (usage_members b none) ∨
  packet.cmd = .box .MESSEGE_CLEAN_RESULT ∧ Get_cJSON_Data b heap packet = some (clean_result_members b none)

/-- No item that the call adds is published with the default measurements. -/
def NoDefaults (s : Tx) (b : Board) (outcome : Tx) : Prop :=
  ∀ packets packet, s.mqtt_tx_queue = some packets → outcome.mqtt_tx_queue = some (packets ++ [packet]) →
    ¬ Defaults b outcome.heap packet

/-- An item with a block is not published with the measurements for none. -/
theorem not_defaults {b : Board} {heap : Heap} {packet : mqtt_packet_t} {bytes : Bytes}
    (h : packet.data.bind heap = some bytes) : ¬ Defaults b heap packet := by
  rintro (⟨hcmd, hmembers⟩ | ⟨hcmd, hmembers⟩)
  · simp only [Get_cJSON_Data, hcmd, h] at hmembers
    have hlength := congrArg (Option.map List.length) hmembers
    simp [usage_members] at hlength
  · simp only [Get_cJSON_Data, hcmd, h] at hmembers
    have hlength := congrArg (Option.map List.length) hmembers
    simp [clean_result_members] at hlength

theorem AllOrNothing.no_defaults {s : Tx} {cmd : MessegeCmd} {data : Supplied} {outcome : Tx × Bool}
    (h : AllOrNothing s cmd data outcome) (b : Board) : NoDefaults s b outcome.1 := by
  intro packets packet hqueue hadded
  obtain ⟨packets', p, hqueue', -, rfl⟩ | rfl := h
  · obtain rfl : packets' = packets := Option.some.inj (hqueue'.symm.trans hqueue)
    obtain rfl := List.singleton_inj.mp (List.append_cancel_left (Option.some.inj hadded))
    exact not_defaults (Function.update_self ..)
  · have hlength := congrArg (Option.map List.length) (hqueue.symm.trans hadded)
    simp at hlength

private theorem mqtt_packet_of_calloc (s : Tx) (cmd : MessegeCmd) (data : Supplied)
    (p : { p : Nat // s.heap p = none }) :
    s.mqtt_packet cmd (some data.bytes) data.data_len (some p) =
      (⟨cmd, some p, data.data_len⟩, Function.update s.heap p (some data.bytes)) := by
  have htake : data.bytes.take data.data_len.toNat = data.bytes := List.take_of_length_le data.length.le
  simp only [Tx.mqtt_packet, if_pos data.positive, htake]

/-- A block that is freed at once leaves the heap as it was. -/
theorem free_update {heap : Heap} {p : Nat} (hp : heap p = none) (bytes : Bytes) :
    Heap.free (Function.update heap p (some bytes)) (some p) = heap := by
  change Function.update (Function.update heap p (some bytes)) p none = heap
  rw [Function.update_idem, ← hp]
  exact Function.update_eq_self p heap

/-- The call is all or nothing, and nothing that it adds is published with the default measurements,
exactly if the allocation succeeds or there is no room in the queue. -/
theorem mqtt_queue_send_all_or_nothing_iff (s : Tx) (b : Board) (cmd : MessegeCmd) (data : Supplied)
    (calloc : s.Calloc) :
    AllOrNothing s cmd data (s.supply cmd data calloc) ∧ NoDefaults s b (s.supply cmd data calloc).1 ↔
      ∀ packets, s.mqtt_tx_queue = some packets → packets.length < MQTT_TX_QUEUE_LENGTH → calloc.isSome := by
  rw [and_iff_left_of_imp fun h => h.no_defaults b]
  unfold Tx.supply mqtt_queue_send
  cases hqueue : s.mqtt_tx_queue with
  | none => exact iff_of_true (.inr rfl) fun packets h => nomatch h
  | some packets =>
    cases calloc with
    | none =>
      have hpacket : s.mqtt_packet cmd
          (some data.bytes) data.data_len none = (⟨cmd, none, data.data_len⟩, s.heap) := rfl
      dsimp only
      rw [hpacket]
      dsimp only
      by_cases hroom : packets.length < MQTT_TX_QUEUE_LENGTH
      · rw [if_pos hroom]
        refine iff_of_false ?_ fun h => Bool.noConfusion (h packets rfl hroom)
        rintro (⟨packets', p, -, -, hadded⟩ | hsame)
        · have hlast := congrArg (fun outcome => outcome.1.mqtt_tx_queue.bind List.getLast?) hadded
          simp at hlast
        · cases congrArg Prod.snd hsame
      · rw [if_neg hroom]
        refine iff_of_true (.inr ?_) ?_
        · rw [← hqueue]
          rfl
        · intro packets' hsame hroom'
          cases hsame
          exact absurd hroom' hroom
    | some p =>
      refine iff_of_true ?_ fun _ _ _ => rfl
      dsimp only
      rw [mqtt_packet_of_calloc]
      dsimp only
      by_cases hroom : packets.length < MQTT_TX_QUEUE_LENGTH
      · rw [if_pos hroom]
        exact .inl ⟨packets, p, hqueue, p.2, rfl⟩
      · rw [if_neg hroom, free_update p.2]
        right
        rw [← hqueue]

/-- A board with its default readings. -/
def quietBoard : Board := ⟨zeros 6, 0, 1, 0, false, fun _ => 0⟩

/-- The measurements of a visit: a `USAGE_Packet_t` of twelve bytes. -/
def visit : Supplied := ⟨[0, 0, 128, 69, 0, 0, 160, 65, 90, 0, 0, 0], 12, rfl, by decide⟩

/-- Without memory the item is queued without its data, and published with measurements that nobody
has made. -/
theorem mqtt_queue_send_fabricates : ¬ ∀ (s : Tx) (b : Board) (cmd : MessegeCmd)
    (data : Supplied) (calloc : s.Calloc),
    AllOrNothing s cmd data (s.supply cmd data calloc) ∧ NoDefaults s b (s.supply cmd data calloc).1 := by
  intro hall
  obtain ⟨-, hdefaults⟩ := hall ⟨some [], fun _ => none⟩ quietBoard (.box .MESSEGE_USAGE) visit none
  exact hdefaults [] ⟨.box .MESSEGE_USAGE, none, 12⟩ rfl rfl (.inl ⟨rfl, rfl⟩)

end catbox.mqtt
