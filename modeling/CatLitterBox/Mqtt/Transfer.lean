import CatLitterBox.Mqtt.Tracker

open text json temporal

namespace catbox.mqtt

open catbox.ble

/-- The BLE device with the tracker queue, NULL until `aws_iot_main_entry` creates it, the
variables of `tx_mqtt.c`, and the tracker messages published so far. -/
structure Gateway (Ecdh : Type) where
  device : Device Ecdh
  tracker_mqtt_queue : Option (List TrackerPacket)
  responses : Responses
  published : List Message

/-- An input of the device, and what `aws_iot_main_entry` does with the queue: it creates it,
takes a packet and sends its message, or resets it before it connects again. -/
inductive Move where
  | input (i : Input)
  | create
  | consume (timestamp : Nat)
  | reset

/-- `tracker_mqtt_queue_send`. A packet that finds the queue full is dropped. -/
def tracker_mqtt_queue_send (queue : Option (List TrackerPacket)) (p : TrackerPacket) :
    Option (List TrackerPacket) :=
  queue.map fun packets => if packets.length < 10 then packets ++ [p] else packets

/-- The packet that an effect puts into the queue. -/
def queued : Effect → Option TrackerPacket
  | .tracker_mqtt_queue_send mac packet => some ⟨.TRACKER_MESSEGE_ACTIVITY, mac, packet⟩
  | _ => none

variable {Ecdh : Type} (L : Library Ecdh)

def Gateway.boot (config : Config) : Gateway Ecdh := ⟨Device.boot L config, none, Responses.boot, []⟩

def Gateway.step (s : Gateway Ecdh) : Move → Gateway Ecdh
  | .input i =>
    let (device, effects) := s.device.handle L i
    if .LoadProhibited ∈ effects then { s with device, tracker_mqtt_queue := none, responses := Responses.boot }
    else
      { s with
        device
        tracker_mqtt_queue := (effects.filterMap queued).foldl tracker_mqtt_queue_send s.tracker_mqtt_queue }
  | .create => { s with tracker_mqtt_queue := some [] }
  | .reset => { s with tracker_mqtt_queue := s.tracker_mqtt_queue.map fun _ => [] }
  | .consume timestamp =>
    match s.tracker_mqtt_queue with
    | some (p :: packets) =>
      let (responses, message) := Send_cJSON_Messege_for_tracker s.responses p timestamp
      { s with tracker_mqtt_queue := some packets, responses, published := s.published ++ message.toList }
    | _ => s

def Gateway.run (s : Gateway Ecdh) (moves : List Move) : Gateway Ecdh := moves.foldl (Gateway.step L) s

/-- The packet of a motion message, as its handler reads it. -/
def Move.motion : Move → Option Bytes
  | .input (.message _ data w) =>
    if byte w data 0 = MOTION_START_RESPONSE ∨ byte w data 0 = MOTION_DATA then some (Motion_Packet w data)
    else none
  | _ => none

/-- Within a transfer the queue exists and never fills up, and the device does not restart. -/
def Undisturbed (s : Gateway Ecdh) : Move → Prop
  | .input i => (∃ packets, s.tracker_mqtt_queue = some packets ∧ packets.length < 10) ∧
      .LoadProhibited ∉ (s.device.handle L i).2
  | .consume _ => True
  | .create | .reset => False

/-- The packets by which a tracker sends its words: the start response with their number, and
the data packets with nine words each, the last of which may carry fewer. -/
structure Packets (words : List UInt16) (start : Bytes) (data : List Bytes) : Prop where
  start_code : event_code start = MOTION_START_RESPONSE
  total_points : motion_req_total_points start = words.length
  data_code : ∀ p ∈ data, event_code p = MOTION_DATA
  count : data.length = (words.length + 8) / 9
  word : ∀ i p, (h : i < words.length) → data[i / 9]? = some p → motion_data_word p (i % 9) = words[i].toNat

/-- The moves of a transfer from a state with some packets in the queue: its packets arrive in
order, whatever else is handled in between, and all are consumed in the end. -/
structure Transfer (s : Gateway Ecdh) (moves : List Move) (pending : List TrackerPacket) (words : List UInt16)
    (start : Bytes) (data : List Bytes) : Prop where
  packets : Packets words start data
  arrive : moves.filterMap Move.motion = start :: data
  pending : s.tracker_mqtt_queue = some pending
  undisturbed : Along (Gateway.step L) (Undisturbed L) s moves
  consumed : (s.run L moves).tracker_mqtt_queue = some []

/-- The messages published for the packets of a transfer. -/
def transferred (s : Gateway Ecdh) (moves : List Move) (pending : List TrackerPacket) : List Message :=
  (s.run L moves).published.drop (s.published.length + pending.length)

/-- The packets that an input puts into the queue. -/
def sends : Input → List TrackerPacket
  | .message mac data w =>
    if byte w data 0 = MOTION_DATA then [⟨.TRACKER_MESSEGE_ACTIVITY, mac, Motion_Packet w data⟩] else []
  | _ => []

variable {L}

private theorem app_json_command_sends {w : Surroundings} {root : cJSON} {d : Device Ecdh} :
    (app_json_command L w root d).2.filterMap queued = [] := by
  unfold app_json_command
  split
  · rfl
  split_ifs
  · rw [mtu_info_session.2]
    rfl
  · unfold key_exchange
    split
    · rfl
    · split <;> rfl
  · unfold set_env
    split
    · rfl
    · rfl
    · split
      · rfl
      · simp only
        split_ifs <;> rfl
  · rfl
  · unfold wifi_prov
    split
    · rfl
    · rfl
    · split
      · rfl
      · split
        · rfl
        · simp only
          split_ifs <;> rfl
  · rfl

private theorem app_text_command_sends {buf : Bytes} {d : Device Ecdh} :
    (app_text_command buf d).2.filterMap queued = [] := by
  unfold app_text_command
  simp only
  split_ifs
  · rfl
  · rfl
  · split
    · split_ifs <;> rfl
    · rfl

/-- Only a MOTION_DATA packet goes into the queue. -/
theorem handle_sends (d : Device Ecdh) (i : Input) : (d.handle L i).2.filterMap queued = sends i := by
  cases i with
  | message mac data w =>
    unfold Device.handle BLE_Receive_data sends
    simp only
    by_cases hstart : byte w data 0 = MOTION_START_RESPONSE
    · rw [if_pos hstart, if_neg (by rw [hstart]; decide)]
      unfold motion_start_response
      simp only
      split_ifs <;> rfl
    · rw [if_neg hstart]
      by_cases hdata : byte w data 0 = MOTION_DATA
      · rw [if_pos hdata, if_pos hdata]
        unfold motion_data
        simp only
        split_ifs <;> rfl
      · rw [if_neg hdata, if_neg hdata]
        split_ifs
        · rfl
        · unfold BLE_APP_Command
          simp only
          split
          · exact app_json_command_sends
          · exact app_text_command_sends
  | mqtt thing_name payload w =>
    unfold Device.handle mqtt_rx_messege sends
    simp only
    split_ifs
    · rfl
    · split
      · rfl
      · split
        · split_ifs
          · unfold registration_callback
            split_ifs <;> rfl
          · rfl
        · rfl
  | connect => rfl
  | disconnect => rfl
  | motion_timeout => rfl

/-- A packet with words in the queue. -/
structure DataPacket (p : TrackerPacket) : Prop where
  cmd : p.cmd = .TRACKER_MESSEGE_ACTIVITY
  code : event_code p.packet = MOTION_DATA

/-- Only data packets have come into the queue, so that no start response has been stored. -/
structure Gateway.Unset (s : Gateway Ecdh) : Prop where
  queue : ∀ packets, s.tracker_mqtt_queue = some packets → ∀ p ∈ packets, DataPacket p
  motion_res : s.responses.motion_res = zeros 20

theorem event_code_motion_packet (w : Surroundings) (data : Bytes) :
    event_code (Motion_Packet w data) = byte w data 0 := rfl

theorem sends_data {i : Input} {p : TrackerPacket} (h : p ∈ sends i) : DataPacket p := by
  cases i with
  | message mac data w =>
    simp only [sends] at h
    split_ifs at h with hdata
    · rw [List.mem_singleton] at h
      subst h
      exact ⟨rfl, (event_code_motion_packet w data).trans hdata⟩
    · cases h
  | _ => cases h

/-- A packet that finds the queue with room is appended. -/
theorem send_room {packets : List TrackerPacket} (p : TrackerPacket) (h : packets.length < 10) :
    tracker_mqtt_queue_send (some packets) p = some (packets ++ [p]) := by
  simp [tracker_mqtt_queue_send, h]

/-- An input puts at most one packet into the queue. -/
theorem sends_queue {packets : List TrackerPacket} (i : Input) (h : packets.length < 10) :
    (sends i).foldl tracker_mqtt_queue_send (some packets) = some (packets ++ sends i) := by
  cases i with
  | message mac data w =>
    simp only [sends]
    split_ifs
    · exact send_room _ h
    · exact congrArg some (List.append_nil _).symm
  | _ => exact congrArg some (List.append_nil _).symm

private theorem mem_of_sent {queue : Option (List TrackerPacket)}
    {ps packets : List TrackerPacket} {p : TrackerPacket}
    (h : ps.foldl tracker_mqtt_queue_send queue = some packets) (hp : p ∈ packets) :
    (∃ before, queue = some before ∧ p ∈ before) ∨ p ∈ ps := by
  induction ps generalizing queue with
  | nil => exact .inl ⟨packets, h, hp⟩
  | cons q ps ih =>
    obtain ⟨before, hbefore, hmem⟩ | hmem := ih h
    · unfold tracker_mqtt_queue_send at hbefore
      obtain ⟨first, hfirst, rfl⟩ := Option.map_eq_some_iff.mp hbefore
      split_ifs at hmem
      · obtain hmem | hmem := List.mem_append.mp hmem
        · exact .inl ⟨first, hfirst, hmem⟩
        · rw [List.mem_singleton] at hmem
          exact .inr (hmem ▸ List.mem_cons_self)
      · exact .inl ⟨first, hfirst, hmem⟩
    · exact .inr (List.mem_cons_of_mem _ hmem)

/-- A data packet is published without a change of the variables. -/
theorem send_data_packet {p : TrackerPacket} (h : DataPacket p) (res : Responses) (timestamp : Nat) :
    ∃ m, Send_cJSON_Messege_for_tracker res p timestamp = (res, some m) ∧
      m.points = (activity_points res p.packet).map fun word : Nat => (word : Int) := by
  have hcode : event_code p.packet ≠ MOTION_START_RESPONSE := by
    rw [h.code]
    decide
  exact activity_message_points res p timestamp h.cmd hcode

theorem unset_step (s : Gateway Ecdh) (m : Move) (h : s.Unset) : (s.step L m).Unset := by
  cases m with
  | input i =>
    have hsends := handle_sends (L := L) s.device i
    simp only [Gateway.step]
    split_ifs
    · exact ⟨nofun, rfl⟩
    · refine ⟨?_, h.motion_res⟩
      intro packets hpackets p hp
      simp only [hsends] at hpackets
      obtain ⟨before, hbefore, hmem⟩ | hmem := mem_of_sent hpackets hp
      · exact h.queue before hbefore p hmem
      · exact sends_data hmem
  | create =>
    refine ⟨?_, h.motion_res⟩
    rintro packets ⟨⟩ p hp
    cases hp
  | reset =>
    refine ⟨?_, h.motion_res⟩
    intro packets hpackets p hp
    obtain ⟨_, _, rfl⟩ := Option.map_eq_some_iff.mp hpackets
    cases hp
  | consume timestamp =>
    cases hqueue : s.tracker_mqtt_queue with
    | none =>
      have hsame : s.step L (.consume timestamp) = s := by simp [Gateway.step, hqueue]
      rw [hsame]
      exact h
    | some packets =>
      cases packets with
      | nil =>
        have hsame : s.step L (.consume timestamp) = s := by simp [Gateway.step, hqueue]
        rw [hsame]
        exact h
      | cons p packets =>
        obtain ⟨m, hsend, -⟩ := send_data_packet (h.queue _ hqueue p List.mem_cons_self) s.responses timestamp
        simp only [Gateway.step, hqueue, hsend]
        refine ⟨?_, h.motion_res⟩
        rintro packets' ⟨⟩ q hq
        exact h.queue _ hqueue q (List.mem_cons_of_mem _ hq)

theorem unset_run (s : Gateway Ecdh) (moves : List Move) (h : s.Unset) : (s.run L moves).Unset := by
  induction moves generalizing s with
  | nil => exact h
  | cons m moves ih => exact ih _ (unset_step s m h)

theorem boot_unset (config : Config) : (Gateway.boot L config).Unset := ⟨nofun, rfl⟩

/-- The words that a message carries for a packet. -/
def carried (res : Responses) (p : Bytes) : List Int :=
  (activity_points res p).map fun word : Nat => (word : Int)

/-- The data packets among the moves. -/
def Move.data (m : Move) : Option Bytes := m.motion.filter fun p => event_code p = MOTION_DATA

private theorem data_of_sends (i : Input) : (Move.input i).data.toList = (sends i).map TrackerPacket.packet := by
  cases i with
  | message mac data w =>
    unfold Move.data Move.motion sends
    by_cases hdata : byte w data 0 = MOTION_DATA
    · simp [hdata, event_code_motion_packet]
    · by_cases hstart : byte w data 0 = MOTION_START_RESPONSE
      · simp [hstart, event_code_motion_packet, MOTION_DATA, MOTION_START_RESPONSE]
      · simp [hdata, hstart]
  | _ => rfl

/-- What is published and what is still queued, in the order of the queue. -/
def Gateway.points (s : Gateway Ecdh) (packets : List TrackerPacket) : List (List Int) :=
  s.published.map Message.points ++ packets.map fun p => carried s.responses p.packet

/-- A step within a transfer publishes and queues the data packets, and loses none. -/
theorem undisturbed_step {s : Gateway Ecdh} {m : Move} {packets : List TrackerPacket} (h : s.Unset)
    (hqueue : s.tracker_mqtt_queue = some packets) (hok : Undisturbed L s m) :
    (s.step L m).responses = s.responses ∧ ∃ packets', (s.step L m).tracker_mqtt_queue = some packets' ∧
      (s.step L m).points packets' = s.points packets ++ m.data.toList.map (carried s.responses) := by
  cases m with
  | input i =>
    obtain ⟨⟨_, hsome, hroom⟩, hrunning⟩ := hok
    obtain rfl : packets = _ := Option.some.inj (hqueue.symm.trans hsome)
    have hsends := handle_sends (L := L) s.device i
    simp only [Gateway.step]
    rw [if_neg hrunning, hsends, hqueue]
    refine ⟨rfl, packets ++ sends i, sends_queue i hroom, ?_⟩
    rw [data_of_sends]
    simp [Gateway.points]
  | create => exact hok.elim
  | reset => exact hok.elim
  | consume timestamp =>
    cases packets with
    | nil =>
      have hsame : s.step L (.consume timestamp) = s := by simp [Gateway.step, hqueue]
      rw [hsame]
      exact ⟨rfl, [], hqueue, (List.append_nil _).symm⟩
    | cons p packets =>
      obtain ⟨m, hsend, hpoints⟩ := send_data_packet (h.queue _ hqueue p List.mem_cons_self) s.responses timestamp
      have hstep : s.step L (.consume timestamp) =
          { s with tracker_mqtt_queue := some packets, published := s.published ++ [m] } := by
        simp [Gateway.step, hqueue, hsend]
      rw [hstep]
      refine ⟨rfl, packets, rfl, ?_⟩
      simp [Gateway.points, hpoints, carried, Move.data, Move.motion]

private theorem undisturbed_run {s : Gateway Ecdh} {moves : List Move} {packets : List TrackerPacket} (h : s.Unset)
    (hqueue : s.tracker_mqtt_queue = some packets) (hok : Along (Gateway.step L) (Undisturbed L) s moves) :
    (s.run L moves).responses = s.responses ∧ ∃ packets', (s.run L moves).tracker_mqtt_queue = some packets' ∧
      (s.run L moves).points packets' =
        s.points packets ++ (moves.filterMap Move.data).map (carried s.responses) := by
  induction moves generalizing s packets with
  | nil => exact ⟨rfl, packets, hqueue, (List.append_nil _).symm⟩
  | cons m moves ih =>
    obtain ⟨hm, hrest⟩ := hok
    obtain ⟨hres, packets', hqueue', hpoints⟩ := undisturbed_step h hqueue hm
    obtain ⟨hres', last, hlast, hall⟩ := ih (unset_step s m h) hqueue' hrest
    refine ⟨hres'.trans hres, last, hlast, ?_⟩
    rw [show s.run L (m :: moves) = (s.step L m).run L moves from rfl, hall, hpoints, hres, List.append_assoc,
      ← List.map_append]
    congr 2
    cases hdata : m.data with
    | none => rw [List.filterMap_cons_none hdata]; rfl
    | some p => rw [List.filterMap_cons_some hdata]; rfl

/-- The data packets of a transfer arrive in order. -/
theorem transfer_data {s : Gateway Ecdh} {moves : List Move}
    {pending : List TrackerPacket} {words : List UInt16}
    {start : Bytes} {data : List Bytes} (h : Transfer L s moves pending words start data) :
    moves.filterMap Move.data = data := by
  have hfilter : moves.filterMap Move.data = (moves.filterMap Move.motion).filter fun p =>
    event_code p = MOTION_DATA := by
    rw [List.filter_filterMap]
    rfl
  rw [hfilter, h.arrive, List.filter_cons_of_neg, List.filter_eq_self]
  · intro p hp
    simpa using h.packets.data_code p hp
  · rw [h.packets.start_code]
    decide

/-- Each data packet of a transfer is published once, in order, and only with as many words
as the stored start response allows. -/
theorem transfer_messages {s : Gateway Ecdh} (hs : s.Unset) {moves : List Move} {pending : List TrackerPacket}
    {words : List UInt16} {start : Bytes} {data : List Bytes}
    (h : Transfer L s moves pending words start data) :
    (transferred L s moves pending).map Message.points = data.map (carried s.responses) := by
  obtain ⟨-, last, hlast, hall⟩ := undisturbed_run hs h.pending h.undisturbed
  obtain rfl : last = [] := Option.some.inj (hlast.symm.trans h.consumed)
  rw [transfer_data h] at hall
  unfold Gateway.points at hall
  rw [List.map_nil, List.append_nil] at hall
  have hlength : (s.published.map Message.points ++ pending.map fun p =>
    carried s.responses p.packet).length =
      s.published.length + pending.length := by
    rw [List.length_append, List.length_map, List.length_map]
  unfold transferred
  rw [List.map_drop, hall, ← hlength, List.drop_left]

/-- Without a stored start response no message carries a word. -/
theorem carried_unset {res : Responses} (h : res.motion_res = zeros 20) (p : Bytes) : carried res p = [] := by
  unfold carried activity_points current_pkt_points
  rw [h]
  rfl

/-- A transfer in any state that the device can come to is lossless exactly if it has no words:
whatever the words are, they do not come to the broker as they were. -/
theorem transfer_lossless_iff (L : Library Ecdh) (config : Config) (before moves : List Move)
    (pending : List TrackerPacket)
    (words : List UInt16) (start : Bytes) (data : List Bytes)
    (h : Transfer L ((Gateway.boot L config).run L before) moves pending words start data) :
    (transferred L ((Gateway.boot L config).run L before) moves pending).flatMap Message.points =
      words.map (fun word : UInt16 => (word.toNat : Int)) ↔ words = [] := by
  have hunset := unset_run (L := L) _ before (boot_unset (L := L) config)
  have hempty :
      (transferred L ((Gateway.boot L config).run L before) moves pending).flatMap Message.points = [] := by
    rw [List.flatMap_def, transfer_messages hunset h, List.flatten_eq_nil_iff]
    intro points hpoints
    obtain ⟨p, -, rfl⟩ := List.mem_map.mp hpoints
    exact carried_unset hunset.motion_res p
  rw [hempty]
  constructor
  · intro hwords
    exact List.map_eq_nil_iff.mp hwords.symm
  · rintro rfl
    rfl

/-- The packets of a tracker that holds eleven words, two of them in the second data packet, and surroundings
of zeros. -/
def eleven_words : List UInt16 := [7, 8, 9, 10, 11, 12, 13, 14, 15, 16, 17]
def start_packet : Bytes := [0x10, 5, 11, 0] ++ zeros 16
def full_packet : Bytes := [0x11, 1, 7, 0, 8, 0, 9, 0, 10, 0, 11, 0, 12, 0, 13, 0, 14, 0, 15, 0]
def last_packet : Bytes := [0x11, 2, 16, 0, 17, 0] ++ zeros 14
def quiet_surroundings : Surroundings :=
  ⟨⟨[], [], []⟩, [], [], [], [], fun _ => 0, [], ⟨false, false⟩, ⟨[], [], []⟩⟩
def eleven_words_moves : List Move :=
  [.input (.message (zeros 6) start_packet quiet_surroundings),
    .input (.message (zeros 6) full_packet quiet_surroundings),
    .input (.message (zeros 6) last_packet quiet_surroundings),
    .consume 0, .consume 1]

theorem eleven_words_transfer :
    Transfer plain_library ((Gateway.boot plain_library ⟨[], [], []⟩).run plain_library [.create])
    eleven_words_moves [] eleven_words start_packet [full_packet, last_packet] where
  packets := {
    start_code := by decide
    total_points := by decide
    data_code := by decide
    count := by decide
    word := by
      have hwords : ∀ i : Fin 11, ∀ p ∈ [full_packet, last_packet][i.val / 9]?,
          motion_data_word p (i.val % 9) = (eleven_words.get i).toNat := by decide
      exact fun i p hi hp => hwords ⟨i, hi⟩ p hp }
  arrive := by decide
  pending := rfl
  undisturbed := ⟨⟨⟨[], rfl, by decide⟩, by decide⟩, ⟨⟨[], rfl, by decide⟩, by decide⟩,
    ⟨⟨_, rfl, by decide⟩, by decide⟩, trivial, trivial, trivial⟩
  consumed := rfl

theorem eleven_words_lossless_iff :
    (transferred plain_library ((Gateway.boot plain_library ⟨[], [], []⟩).run plain_library [.create])
        eleven_words_moves []).flatMap Message.points =
      eleven_words.map (fun word : UInt16 => (word.toNat : Int)) ↔ eleven_words = [] :=
  transfer_lossless_iff plain_library ⟨[], [], []⟩ [.create] eleven_words_moves [] eleven_words start_packet
    [full_packet, last_packet] eleven_words_transfer

/-- A transfer of eleven words is published without them. -/
theorem eleven_words_lost : ¬ ∀ (Ecdh : Type) (L : Library Ecdh) (config : Config) (before moves : List Move)
    (pending : List TrackerPacket) (words : List UInt16) (start : Bytes) (data : List Bytes),
    Transfer L ((Gateway.boot L config).run L before) moves pending words start data →
    (transferred L ((Gateway.boot L config).run L before) moves pending).flatMap Message.points =
      words.map (fun word : UInt16 => (word.toNat : Int)) := by
  intro hall
  have hwords := hall Unit plain_library ⟨[], [], []⟩ [.create] eleven_words_moves [] eleven_words start_packet
    [full_packet, last_packet] eleven_words_transfer
  exact absurd hwords (by decide +kernel)

end catbox.mqtt
