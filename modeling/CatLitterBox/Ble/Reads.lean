import CatLitterBox.Ble.Gating
import CatLitterBox.Memory.Reads

open text json reads reads.Reading

namespace catbox.ble.rx

/-! The handlers of a received message, as they read its buffer. -/

variable {Ecdh : Type} (L : Library Ecdh)

def motion_start_response (d : Device Ecdh) : Reading UInt8 (Device Ecdh × List Effect) := do
  let _interval ← read 1
  let low ← read 2
  let high ← read 3
  let points := (low.toUInt16 ||| high.toUInt16 <<< 8).toUInt32
  if points ≠ 0 then
    return (({ d with total_count := points + (9 - points % 9), input_count := 0 } :
      Device Ecdh).Motion_Timer_Set true, [])
  else return (d, [])

/-- The nine words are printed, and the packet is copied for the tracker queue. -/
def motion_data (mac : Bytes) (d : Device Ecdh) : Reading UInt8 (Device Ecdh × List Effect) := do
  let counted : Device Ecdh := { d with input_count := d.input_count + 9 }
  let seq ← read 1
  let _words ← slice 2 18
  let packet ← slice 0 20
  let queued : List Effect := [.tracker_mqtt_queue_send mac packet]
  if counted.input_count = counted.total_count then
    return (counted, queued ++ [.motion_msg_send MOTION_DATA_ACK seq])
  else return (counted.Motion_Timer_Set true, queued)

/-- The members up to `fault_flag` are printed. -/
def health_data_response (d : Device Ecdh) : Reading UInt8 (Device Ecdh × List Effect) := do
  let _health ← slice 1 11
  return (d, [])

/-- The message is printed as a string before it is copied. -/
def BLE_APP_Command (w : Surroundings) (len : Nat) (d : Device Ecdh) :
    Reading UInt8 (Device Ecdh × List Effect) := do
  walk (· = 0)
  let copied ← slice 0 (if 256 ≤ len then 255 else len)
  let buf := cstring copied
  match L.cJSON_Parse buf with
  | some root => return app_json_command L w root d
  | none => return app_text_command buf d

/-- The bytes of the message are printed first. -/
def BLE_Receive_data (w : Surroundings) (mac : Bytes) (len : Nat) (d : Device Ecdh) :
    Reading UInt8 (Device Ecdh × List Effect) := do
  let _dump ← slice 0 len
  let event_code ← read 0
  if event_code = MOTION_START_RESPONSE then motion_start_response d
  else if event_code = MOTION_DATA then motion_data mac d
  else if event_code = HEALTH_DATA_RESPONSE then health_data_response d
  else BLE_APP_Command L w len d

/-- The size of the structure of `Motion_Packet_t` that belongs to an event code, with the code itself. -/
def structure_size (event_code : UInt8) : Option Nat :=
  if event_code = MOTION_START_RESPONSE then some 14
  else if event_code = MOTION_DATA then some 20
  else if event_code = HEALTH_DATA_RESPONSE then some 20
  else none

/-- Only the message is read, and a binary packet that is too short does nothing. -/
structure Contained (mac : Bytes) (event_code : UInt8) (rest : Bytes) : Prop where
  within : ∀ w d, (BLE_Receive_data L w mac (rest.length + 1) d).Within (byte w (event_code :: rest))
    (rest.length + 1)
  inert : ∀ size ∈ structure_size event_code, rest.length + 1 < size → ∀ w d,
    (BLE_Receive_data L w mac (rest.length + 1) d).value (byte w (event_code :: rest)) = (d, [])

/-- A start response is whole, or it reaches to a number of points that is 0; motion data are whole;
health data reach to the last member that is printed; and any other message holds a NUL. -/
structure Sufficient (event_code : UInt8) (rest : Bytes) : Prop where
  start : event_code = MOTION_START_RESPONSE →
    14 ≤ rest.length + 1 ∨ rest[1]? = some 0 ∧ rest[2]? = some 0
  motion : event_code = MOTION_DATA → 20 ≤ rest.length + 1
  health : event_code = HEALTH_DATA_RESPONSE → 12 ≤ rest.length + 1
  text : structure_size event_code = none → 0 ∈ event_code :: rest

variable {L}

section value

variable (w : Surroundings) (mac data : Bytes) (d : Device Ecdh)

theorem bytes_of_message {n : Nat} (hn : n ≤ data.length) : (List.range n).map (byte w data) = data.take n := by
  refine List.ext_getElem (by simp [hn]) ?_
  intro i hi _
  rw [List.length_map, List.length_range] at hi
  simp [byte, List.getElem?_eq_getElem (hi.trans_le hn)]

theorem motion_start_response_value :
    (motion_start_response d).value (byte w data) = ble.motion_start_response w data d := by
  unfold motion_start_response
  rw [value_bind, value_bind, value_bind, value_ite]
  rfl

private theorem motion_data_value : (motion_data mac d).value (byte w data) = ble.motion_data w mac data d := by
  unfold motion_data ble.motion_data Motion_Packet
  simp only [value_bind, value_read, value_slice, value_ite, value_pure, Nat.zero_add]

private theorem BLE_APP_Command_value :
    (BLE_APP_Command L w data.length d).value (byte w data) = ble.BLE_APP_Command L w data d := by
  have hbuf : (List.range (if 256 ≤ data.length then 255 else data.length)).map
      (byte w data) = data.take 255 := by
    split
    · exact bytes_of_message w data (by omega)
    · rw [bytes_of_message w data le_rfl, List.take_length, List.take_of_length_le (by omega)]
  unfold BLE_APP_Command ble.BLE_APP_Command
  simp only [value_bind, value_slice, Nat.zero_add, hbuf]
  cases L.cJSON_Parse (cstring (data.take 255)) <;> rfl

/-- The handlers do what they do on the bytes of the message and those behind it. -/
theorem BLE_Receive_data_value :
    (BLE_Receive_data L w mac data.length d).value (byte w data) = ble.BLE_Receive_data L w mac data d := by
  unfold BLE_Receive_data
  rw [value_bind, value_bind, value_ite, value_ite, value_ite, motion_start_response_value, motion_data_value,
    BLE_APP_Command_value]
  rfl

end value

section within

variable {m : Nat → UInt8} {n : Nat} {w : Surroundings} {mac : Bytes} {d : Device Ecdh}

theorem motion_start_response_within : (motion_start_response d).Within m n ↔ 4 ≤ n := by
  unfold motion_start_response
  rw [within_bind, within_bind, within_bind, within_read, within_read, within_read]
  constructor
  · rintro ⟨-, -, h, -⟩
    exact h
  · intro h
    refine ⟨by omega, by omega, h, ?_⟩
    simp only
    split <;> exact within_pure _

theorem motion_data_within : (motion_data mac d).Within m n ↔ 20 ≤ n := by
  unfold motion_data
  rw [within_bind, within_bind, within_bind, within_read, within_slice, within_slice]
  constructor
  · rintro ⟨-, -, h, -⟩
    omega
  · intro h
    refine ⟨by omega, by omega, by omega, ?_⟩
    split <;> exact within_pure _

theorem health_data_response_within : (health_data_response d).Within m n ↔ 12 ≤ n := by
  unfold health_data_response
  rw [within_bind, within_slice]
  constructor
  · rintro ⟨h, -⟩
    omega
  · intro h
    exact ⟨by omega, within_pure _⟩

private theorem BLE_APP_Command_within : (BLE_APP_Command L w n d).Within m n ↔ ∃ i < n, m i = 0 := by
  unfold BLE_APP_Command
  rw [within_bind, within_bind, within_walk, within_slice]
  constructor
  · rintro ⟨h, -⟩
    exact h
  · intro h
    have hcopied : (if 256 ≤ n then 255 else n) ≤ n := by split <;> omega
    refine ⟨h, by omega, ?_⟩
    generalize cstring ((slice 0 (if 256 ≤ n then 255 else n)).value m) = buf
    simp only
    split <;> exact within_pure _

private theorem nul_within_iff (w : Surroundings) (data : Bytes) :
    (∃ i < data.length, byte w data i = 0) ↔ 0 ∈ data := by
  rw [List.mem_iff_getElem]
  constructor
  · rintro ⟨i, hi, hbyte⟩
    refine ⟨i, hi, ?_⟩
    simpa [byte, List.getElem?_eq_getElem hi] using hbyte
  · rintro ⟨i, hi, hbyte⟩
    refine ⟨i, hi, ?_⟩
    simpa [byte, List.getElem?_eq_getElem hi] using hbyte

/-- The message is read within its bounds exactly if it is long enough for its event code. -/
theorem BLE_Receive_data_within (event_code : UInt8) (rest : Bytes) :
    (BLE_Receive_data L w mac (rest.length + 1) d).Within (byte w (event_code :: rest)) (rest.length + 1) ↔
      if event_code = MOTION_START_RESPONSE then 4 ≤ rest.length + 1
      else if event_code = MOTION_DATA then 20 ≤ rest.length + 1
      else if event_code = HEALTH_DATA_RESPONSE then 12 ≤ rest.length + 1
      else 0 ∈ event_code :: rest := by
  have hcode : byte w (event_code :: rest) 0 = event_code := rfl
  have hnul := nul_within_iff w (event_code :: rest)
  rw [List.length_cons] at hnul
  unfold BLE_Receive_data
  rw [within_bind, within_bind, within_slice, within_read, value_read, hcode,
    within_ite, within_ite, within_ite,
    motion_start_response_within, motion_data_within, health_data_response_within, BLE_APP_Command_within, hnul,
    and_iff_right (by omega), and_iff_right (by omega)]

end within

section inert

variable {w : Surroundings} {mac data : Bytes} {d : Device Ecdh} {event_code : UInt8} {rest : Bytes}

theorem total_points_eq_zero_iff : total_points w data = 0 ↔ byte w data 2 = 0 ∧ byte w data 3 = 0 := by
  have hlow := (byte w data 2).toNat_lt
  have hhigh := (byte w data 3).toNat_lt
  unfold total_points
  rw [← UInt16.toNat_inj, UInt16.toNat_or, UInt16.toNat_shiftLeft]
  simp only [UInt8.toNat_toUInt16, UInt16.toNat_zero, ← UInt8.toNat_inj, UInt8.toNat_zero, Nat.or_eq_zero_iff]
  have hshift : (byte w data 3).toNat <<< ((8 : UInt16).toNat % 16) % 2 ^ 16 = (byte w data 3).toNat * 256 := by
    have hbits : (8 : UInt16).toNat % 16 = 8 := rfl
    rw [hbits, Nat.shiftLeft_eq]
    omega
  rw [hshift]
  omega

theorem byte_succ {i : Nat} (hi : i < rest.length) :
    rest[i]? = some 0 ↔ byte w (event_code :: rest) (i + 1) = 0 := by
  simp [byte, List.getElem?_eq_getElem hi]

/-- A start response without points does nothing. -/
theorem start_of_no_points (h : total_points w data = 0) : ble.motion_start_response w data d = (d, []) := by
  unfold ble.motion_start_response
  simp [h]

/-- A start response with points starts the timer. -/
theorem start_of_points (h : total_points w data ≠ 0) :
    (ble.motion_start_response w data d).1.Motion_Timeout_timer = true := by
  have hpoints : (total_points w data).toUInt32 ≠ 0 := by
    intro hzero
    refine h (UInt16.toNat_inj.mp ?_)
    rw [← UInt16.toNat_toUInt32, hzero]
    rfl
  unfold ble.motion_start_response
  simp only [if_pos hpoints]
  rfl

end inert

section contained

variable {mac : Bytes} {event_code : UInt8} {rest : Bytes}

/-- What is read of a message decides how it is received: by its code, and by what that handler
reads. -/
theorem received_value (w : Surroundings) (d : Device Ecdh) :
    (BLE_Receive_data L w mac (rest.length + 1) d).value (byte w (event_code :: rest)) =
      if event_code = MOTION_START_RESPONSE then ble.motion_start_response w (event_code :: rest) d
      else if event_code = MOTION_DATA then ble.motion_data w mac (event_code :: rest) d
      else if event_code = HEALTH_DATA_RESPONSE then (d, [])
      else ble.BLE_APP_Command L w (event_code :: rest) d :=
  BLE_Receive_data_value w mac (event_code :: rest) d

/-- A start response that reaches to the number of points does nothing exactly if the number is 0. -/
theorem start_inert_iff (L : Library Ecdh) (hlen : 3 ≤ rest.length) :
    (∀ (w : Surroundings) (d : Device Ecdh), ble.motion_start_response w (event_code :: rest) d = (d, [])) ↔
      rest[1]? = some 0 ∧ rest[2]? = some 0 := by
  have hpoints (w : Surroundings) :
      total_points w (event_code :: rest) = 0 ↔ rest[1]? = some 0 ∧ rest[2]? = some 0 := by
    rw [total_points_eq_zero_iff, ← byte_succ (by omega), ← byte_succ (by omega)]
  constructor
  · intro h
    rw [← hpoints quiet_surroundings]
    by_contra hsome
    have htimer := start_of_points (d := Device.boot L ⟨[], [], []⟩) hsome
    rw [h] at htimer
    cases htimer
  · intro h w d
    exact start_of_no_points ((hpoints w).mpr h)

theorem Contained.sufficient (h : Contained L mac event_code rest) : Sufficient event_code rest := by
  have hwithin := (BLE_Receive_data_within event_code rest).mp
      (h.within quiet_surroundings (Device.boot L ⟨[], [], []⟩))
  constructor
  · rintro rfl
    rw [if_pos rfl] at hwithin
    by_cases hwhole : 14 ≤ rest.length + 1
    · exact .inl hwhole
    -- the number of points is within the message here, so it is the transfer that must not start
    · have hinert := h.inert 14 rfl (by omega)
      simp only [received_value, if_true] at hinert
      exact .inr ((start_inert_iff L (by omega)).mp hinert)
  · rintro rfl
    exact hwithin
  · rintro rfl
    exact hwithin
  · intro hnone
    unfold structure_size at hnone
    split_ifs at hnone with hstart hmotion hhealth
    rw [if_neg hstart, if_neg hmotion, if_neg hhealth] at hwithin
    exact hwithin

theorem Sufficient.contained (L : Library Ecdh) (h : Sufficient event_code rest) :
    Contained L mac event_code rest := by
  have hpoints : rest[2]? = some 0 → 3 ≤ rest.length := by
    intro hlast
    obtain ⟨hlt, -⟩ := List.getElem?_eq_some_iff.mp hlast
    exact hlt
  constructor
  · intro w d
    rw [BLE_Receive_data_within]
    split_ifs with hstart hmotion hhealth
    · rcases h.start hstart with hwhole | ⟨-, hlast⟩
      · omega
      · exact Nat.succ_le_succ (hpoints hlast)
    · exact h.motion hmotion
    · exact h.health hhealth
    · exact h.text (by simp [structure_size, hstart, hmotion, hhealth])
  · intro size hsize hshort w d
    rw [received_value]
    unfold structure_size at hsize
    split_ifs at hsize ⊢ with hstart hmotion hhealth
    · obtain rfl := Option.some.inj hsize
      rcases h.start hstart with hwhole | hnone
      · omega
      · exact (start_inert_iff L (hpoints hnone.2)).mpr hnone w d
    · obtain rfl := Option.some.inj hsize
      have hwhole := h.motion hmotion
      omega
    · rfl
    · cases hsize

end contained

/-- A message stays within its bounds, and one that is shorter than its structure does nothing,
exactly if it is sufficient: it reaches as far as its handler reads. -/
theorem ble_receive_contained_iff {Ecdh : Type} (L : Library Ecdh) (mac : Bytes)
    (event_code : UInt8) (rest : Bytes) :
    Contained L mac event_code rest ↔ Sufficient event_code rest :=
  ⟨Contained.sufficient, Sufficient.contained L⟩

/-- What lies behind a sufficient message does not count. -/
theorem receive_determined {L : Library Ecdh} {mac : Bytes} {event_code : UInt8} {rest : Bytes}
    (h : Sufficient event_code rest) (w : Surroundings) (beyond : Nat → UInt8) (d : Device Ecdh) :
    (BLE_Receive_data L w mac (rest.length + 1) d).value (byte { w with beyond } (event_code :: rest)) =
      ble.BLE_Receive_data L w mac (event_code :: rest) d := by
  rw [← BLE_Receive_data_value]
  refine ((h.contained L).within w d).value_eq ?_
  intro i hi
  simp [byte, List.getElem?_eq_getElem (l := event_code :: rest) hi]

/-- One byte of motion data is taken for a whole packet. -/
theorem one_byte_not_contained : ¬ ∀ (Ecdh : Type) (L : Library Ecdh) (mac : Bytes)
    (event_code : UInt8) (rest : Bytes),
    Contained L mac event_code rest := by
  intro hall
  have hwithin := (hall Unit plain_library [] MOTION_DATA []).within quiet_surroundings
      (Device.boot plain_library ⟨[], [], []⟩)
  rw [BLE_Receive_data_within] at hwithin
  exact absurd hwithin (by decide)

end catbox.ble.rx
