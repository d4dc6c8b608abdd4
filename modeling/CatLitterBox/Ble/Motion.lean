import CatLitterBox.Ble.Gating
import CatLitterBox.Temporal.Simulation

open text json temporal

namespace catbox.ble

/-- What an input is to the transfer of motion data. -/
inductive MotionInput where
  | start_response (points : UInt16)
  | data (seq : UInt8)
  | expiry
  | other
deriving DecidableEq

def Input.motion : Input → MotionInput
  | .message _ data w =>
    if byte w data 0 = MOTION_START_RESPONSE then .start_response (total_points w data)
    else if byte w data 0 = MOTION_DATA then .data (byte w data 1)
    else .other
  | .motion_timeout => .expiry
  | _ => .other

/-- The variables of the transfer, and whether the retry timer is running. -/
structure Motion where
  total_count : UInt32
  input_count : UInt32
  running : Bool

def Motion.boot : Motion := ⟨0, 0, false⟩

/-- A message of `motion_msg_send`. -/
abbrev MotionMessage := UInt8 × UInt8

/-- What the handlers do to the transfer, and what they send to the tracker. -/
def Motion.step (m : Motion) : MotionInput → Motion × List MotionMessage
  | .start_response points =>
    if points ≠ 0 then (⟨points.toUInt32 + (9 - points.toUInt32 % 9), 0, true⟩, []) else (m, [])
  | .data seq =>
    if m.input_count + 9 = m.total_count then
      ({ m with input_count := m.input_count + 9 }, [(MOTION_DATA_ACK, seq)])
    else (⟨m.total_count, m.input_count + 9, true⟩, [])
  | .expiry => ({ m with running := false }, [(MOTION_START_REQUEST, 2)])
  | .other => (m, [])

/-- How many data packets carry so many points. -/
def packets (points : UInt16) : Nat := (points.toNat + 8) / 9

variable {Ecdh : Type} {L : Library Ecdh}

def Device.motion (d : Device Ecdh) : Motion := ⟨d.total_count, d.input_count, d.Motion_Timeout_timer⟩

/-- The messages to the tracker among some effects. -/
def motion_messages (effects : List Effect) : List MotionMessage :=
  effects.filterMap fun
    | .motion_msg_send cmd sub_cmd => some (cmd, sub_cmd)
    | _ => none

section handle

variable {d : Device Ecdh} {w : Surroundings} {mac data : Bytes} {root : cJSON}

/-- A handler lets the transfer alone, unless it restarts the device. -/
def Aloof (d : Device Ecdh) (result : Device Ecdh × List Effect) : Prop :=
  .LoadProhibited ∈ result.2 ∧ result.1.motion = Motion.boot ∨
    result.1.motion = d.motion ∧ motion_messages result.2 = [] ∧ .LoadProhibited ∉ result.2

@[simp]
theorem loadProhibited_ne_event (key event_type plain : Bytes) :
    .LoadProhibited ≠ ble_send_encrypted_event L w key event_type plain := nofun

theorem aloof_nil : Aloof d (d, []) := .inr ⟨rfl, rfl, List.not_mem_nil⟩

theorem mtu_info_aloof : Aloof d (mtu_info L root d) := by
  unfold mtu_info
  split <;> exact .inr ⟨rfl, rfl, by simp⟩

theorem key_exchange_aloof : Aloof d (key_exchange L w root d) := by
  unfold key_exchange
  split
  · exact aloof_nil
  · split <;> exact .inr ⟨rfl, rfl, by simp⟩

theorem set_env_aloof : Aloof d (set_env L w root d) := by
  unfold set_env
  split
  · exact aloof_nil
  · exact .inl ⟨List.mem_cons_self, rfl⟩
  · split
    · exact aloof_nil
    · simp only
      split <;> exact .inr ⟨rfl, rfl, by simp⟩

private theorem scan_wifi_aloof : Aloof d (scan_wifi L w d) := .inr ⟨rfl, rfl, by simp [scan_wifi]⟩

private theorem wifi_prov_aloof : Aloof d (wifi_prov L w root d) := by
  unfold wifi_prov
  split
  · exact aloof_nil
  · exact .inl ⟨List.mem_cons_self, rfl⟩
  · split
    · exact aloof_nil
    · split
      · exact aloof_nil
      · simp only
        split <;> exact .inr ⟨rfl, rfl, by simp⟩

private theorem app_json_command_aloof : Aloof d (app_json_command L w root d) := by
  unfold app_json_command
  split
  · exact aloof_nil
  · split_ifs
    · exact mtu_info_aloof
    · exact key_exchange_aloof
    · exact set_env_aloof
    · exact scan_wifi_aloof
    · exact wifi_prov_aloof
    · exact aloof_nil

private theorem app_text_command_aloof : Aloof d (app_text_command data d) := by
  unfold app_text_command
  simp only
  split_ifs
  · exact .inr ⟨rfl, rfl, by simp⟩
  · exact .inr ⟨rfl, rfl, by simp⟩
  · split
    · split <;> exact .inr ⟨rfl, rfl, by simp⟩
    · exact aloof_nil

theorem BLE_APP_Command_aloof : Aloof d (BLE_APP_Command L w data d) := by
  unfold BLE_APP_Command
  simp only
  split
  · exact app_json_command_aloof
  · exact app_text_command_aloof

theorem mqtt_aloof {thing_name payload : Bytes} : Aloof d (mqtt_rx_messege L w thing_name payload d) := by
  unfold mqtt_rx_messege
  split
  · exact aloof_nil
  · split
    · exact aloof_nil
    · split
      · split
        · unfold registration_callback
          split <;> exact .inr ⟨rfl, rfl, by simp⟩
        · exact aloof_nil
      · exact aloof_nil

/-- The first packet of a transfer moves the counters as the abstract transfer says, and reads
nothing that it must not. -/
theorem motion_start_response_motion : (motion_start_response w data d).1.motion =
    (d.motion.step (.start_response (total_points w data))).1 ∧
    motion_messages (motion_start_response w data d).2 =
      (d.motion.step (.start_response (total_points w data))).2 ∧
    .LoadProhibited ∉ (motion_start_response w data d).2 := by
  have hzero : (total_points w data).toUInt32 = 0 ↔ total_points w data = 0 := by
    rw [← UInt32.toNat_inj, ← UInt16.toNat_inj]
    simp
  unfold motion_start_response Motion.step
  simp only [ne_eq, hzero]
  split <;> exact ⟨rfl, rfl, List.not_mem_nil⟩

/-- So does each packet of points. -/
theorem motion_data_motion : (motion_data w mac data d).1.motion = (d.motion.step (.data (byte w data 1))).1 ∧
    motion_messages (motion_data w mac data d).2 = (d.motion.step (.data (byte w data 1))).2 ∧
    .LoadProhibited ∉ (motion_data w mac data d).2 := by
  unfold motion_data Motion.step Device.motion
  simp only
  split <;> exact ⟨rfl, rfl, by simp⟩

/-- The device deals with the transfer as `Motion.step` does, unless it restarts. -/
theorem handle_motion (d : Device Ecdh) (i : Input) :
    .LoadProhibited ∈ (d.handle L i).2 ∧ (d.handle L i).1.motion = Motion.boot ∨
      (d.handle L i).1.motion = (d.motion.step i.motion).1 ∧
      motion_messages (d.handle L i).2 = (d.motion.step i.motion).2 ∧ .LoadProhibited ∉ (d.handle L i).2 := by
  cases i with
  | message mac data w =>
    simp only [Device.handle, BLE_Receive_data, Input.motion]
    split_ifs with hstart hdata hhealth
    · exact .inr motion_start_response_motion
    · exact .inr motion_data_motion
    · exact .inr ⟨rfl, rfl, List.not_mem_nil⟩
    · exact BLE_APP_Command_aloof
  | mqtt thing_name payload w => exact mqtt_aloof
  | connect => exact .inr ⟨rfl, rfl, List.not_mem_nil⟩
  | disconnect => exact .inr ⟨rfl, rfl, List.not_mem_nil⟩
  | motion_timeout => exact .inr ⟨rfl, rfl, by simp [Device.handle, Motion_Timeout_callback]⟩

end handle

/-- The transfer of so many points has been announced, and so many of its packets have arrived. -/
structure Motion.InTransfer (m : Motion) (points : UInt16) (received : Nat) : Prop where
  announced : m.total_count.toNat = points.toNat + (9 - points.toNat % 9)
  counted : m.input_count.toNat = 9 * received
  expected : received ≤ packets points

section transfer

variable {m : Motion} {points : UInt16} {received : Nat}

/-- An announcement of points starts a transfer of which nothing has arrived. -/
theorem start_inTransfer (h : points ≠ 0) : (m.step (.start_response points)).1.InTransfer points 0 := by
  have hsmall := points.toNat_lt
  rw [Motion.step, if_pos h]
  refine ⟨?_, rfl, Nat.zero_le _⟩
  have hmod : (points.toUInt32 % 9).toNat = points.toNat % 9 := by simp
  have hle : points.toUInt32 % 9 ≤ 9 := by
    rw [UInt32.le_iff_toNat_le, hmod]
    exact (Nat.mod_lt _ (by decide)).le
  rw [UInt32.toNat_add, UInt32.toNat_sub_of_le _ _ hle, hmod, UInt16.toNat_toUInt32]
  exact Nat.mod_eq_of_lt (by simp; omega)

/-- The counter takes the nine points of a packet without wrapping. -/
theorem Motion.InTransfer.next_count (h : m.InTransfer points received) :
    (m.input_count + 9).toNat = 9 * (received + 1) := by
  have hsmall := points.toNat_lt
  have hexpected := h.expected
  unfold packets at hexpected
  rw [UInt32.toNat_add, h.counted]
  exact Nat.mod_eq_of_lt (by simp; omega)

/-- A packet completes the count exactly if it is the last one, and not full. -/
theorem Motion.InTransfer.completes_iff (h : m.InTransfer points received) (hr : received < packets points) :
    m.input_count + 9 = m.total_count ↔ received + 1 = packets points ∧ points.toNat % 9 ≠ 0 := by
  unfold packets at hr ⊢
  rw [← UInt32.toNat_inj, h.next_count, h.announced]
  omega

/-- A packet that was still to come moves the transfer on by one. -/
theorem Motion.InTransfer.data (h : m.InTransfer points received)
    (hr : received < packets points) (seq : UInt8) :
    (m.step (.data seq)).1.InTransfer points (received + 1) := by
  unfold Motion.step
  simp only
  split <;> exact ⟨h.announced, h.next_count, hr⟩

end transfer

def MotionInput.isData : MotionInput → Bool
  | .data _ => true
  | _ => false

def MotionInput.announces : MotionInput → Bool
  | .start_response points => points ≠ 0
  | _ => false

/-- How many of some inputs are data packets. -/
def data_packets (inputs : List Input) : Nat := inputs.countP fun i => i.motion.isData

/-- The device after some inputs. -/
def Device.run (L : Library Ecdh) (d : Device Ecdh) (inputs : List Input) : Device Ecdh :=
  final (Device.handle L) d inputs

/-- A transfer to a device: its announcement, and what reaches the device from there to its last
data packet. Meanwhile the device neither restarts nor is told of another transfer. -/
structure Transfer (L : Library Ecdh) (d : Device Ecdh) where
  announcement : Input
  points : UInt16
  announced : announcement.motion = .start_response points
  some_points : points ≠ 0
  inputs : List Input
  uninterrupted : ∀ before i after, inputs = before ++ i :: after → ¬ i.motion.announces ∧
    .LoadProhibited ∉ (((d.handle L announcement).1.run L before).handle L i).2
  complete : data_packets inputs = packets points

/-- The acknowledgements that a device sends upon an input. -/
def Device.acknowledgements (L : Library Ecdh) (d : Device Ecdh) (i : Input) : List MotionMessage :=
  (motion_messages (d.handle L i).2).filter fun message => message.1 = MOTION_DATA_ACK

/-- The last packet of a transfer is acknowledged, by its sequence number, and nothing else is. -/
def Transfer.Acknowledged {d : Device Ecdh} (t : Transfer L d) : Prop :=
  ∀ before i after, t.inputs = before ++ i :: after →
    ((d.handle L t.announcement).1.run L before).acknowledgements L i =
      match i.motion with
      | .data seq => if data_packets before + 1 = packets t.points then [(MOTION_DATA_ACK, seq)] else []
      | _ => []

section acknowledged

variable {d : Device Ecdh}

theorem data_packets_concat (inputs : List Input) (i : Input) :
    data_packets (inputs ++ [i]) = data_packets inputs + if i.motion.isData then 1 else 0 := by
  unfold data_packets
  rw [List.countP_append, List.countP_singleton]

/-- One more input of a transfer, which is not its end. -/
theorem Motion.InTransfer.step {m : Motion} {points : UInt16} {received : Nat} {i : MotionInput}
    (h : m.InTransfer points received) (hi : ¬ i.announces)
    (hr : received + (if i.isData then 1 else 0) ≤ packets points) :
    (m.step i).1.InTransfer points (received + if i.isData then 1 else 0) := by
  cases i with
  | start_response other =>
    have hzero : other = 0 := by simpa [MotionInput.announces] using hi
    simp only [Motion.step, hzero]
    exact h
  | data seq => exact h.data hr seq
  | expiry => exact ⟨h.announced, h.counted, h.expected⟩
  | other => exact h

/-- A transfer brings no more packets than its points need, the one under way included. -/
theorem Transfer.room (t : Transfer L d) {before after : List Input} {i : Input}
    (h : t.inputs = before ++ i :: after) :
    data_packets before + (if i.motion.isData then 1 else 0) ≤ packets t.points := by
  rw [← data_packets_concat, ← t.complete, h]
  unfold data_packets
  exact List.Sublist.countP_le (List.append_sublist_append_left before |>.mpr (by simp))

/-- What each input of a transfer does to it. -/
theorem Transfer.step (t : Transfer L d) {before after : List Input} {i : Input}
    (h : t.inputs = before ++ i :: after) :
    ¬ i.motion.announces ∧
      (((d.handle L t.announcement).1.run L before).handle L i).1.motion =
        (((d.handle L t.announcement).1.run L before).motion.step i.motion).1 ∧
      motion_messages (((d.handle L t.announcement).1.run L before).handle L i).2 =
        (((d.handle L t.announcement).1.run L before).motion.step i.motion).2 := by
  obtain ⟨hother, hrunning⟩ := t.uninterrupted before i after h
  have hmotion := (handle_motion ((d.handle L t.announcement).1.run L before) i).resolve_left
    (fun hrestart => hrunning hrestart.1)
  exact ⟨hother, hmotion.1, hmotion.2.1⟩

/-- Only an input that is nothing to the transfer can restart the device. -/
theorem motion_input_runs {i : Input} (h : i.motion ≠ .other) : .LoadProhibited ∉ (d.handle L i).2 := by
  cases i with
  | message mac data w =>
    simp only [Device.handle, BLE_Receive_data, Input.motion] at h ⊢
    split_ifs at h ⊢
    · exact motion_start_response_motion.2.2
    · exact motion_data_motion.2.2
    all_goals exact absurd rfl h
  | motion_timeout => simp [Device.handle, Motion_Timeout_callback]
  | _ => exact absurd rfl h

/-- At each point of a transfer the counters stand for the packets that have arrived until then. -/
theorem Transfer.inTransfer (t : Transfer L d) {before rest : List Input} (h : t.inputs = before ++ rest) :
    ((d.handle L t.announcement).1.run L before).motion.InTransfer t.points (data_packets before) := by
  induction before using List.reverseRecOn generalizing rest with
  | nil =>
    have hmotion := (handle_motion (L := L) d t.announcement).resolve_left
      (fun hrestart => motion_input_runs (by rw [t.announced]; nofun) hrestart.1)
    have hstart := start_inTransfer (m := d.motion) t.some_points
    rw [← t.announced, ← hmotion.1] at hstart
    exact hstart
  | append_singleton before i ih =>
    rw [List.append_assoc] at h
    obtain ⟨hother, hmotion, -⟩ := t.step h
    have hstep := (ih h).step hother (t.room h)
    rw [← hmotion] at hstep
    rw [data_packets_concat]
    unfold Device.run at hstep ⊢
    rwa [final_append]

/-- An input of a transfer is acknowledged exactly if it is the last packet, and that is not full. -/
theorem Transfer.acknowledgements (t : Transfer L d) {before after : List Input} {i : Input}
    (h : t.inputs = before ++ i :: after) :
    ((d.handle L t.announcement).1.run L before).acknowledgements L i =
      match i.motion with
      | .data seq =>
        if data_packets before + 1 = packets t.points ∧ t.points.toNat % 9 ≠ 0 then [(MOTION_DATA_ACK, seq)]
        else []
      | _ => [] := by
  obtain ⟨-, -, hmessages⟩ := t.step h
  have hin := t.inTransfer h
  have hroom := t.room h
  unfold Device.acknowledgements
  rw [hmessages]
  cases hi : i.motion with
  | start_response points =>
    simp only [Motion.step]
    split <;> rfl
  | data seq =>
    rw [hi] at hroom
    have hcount := hin.completes_iff hroom
    simp only [Motion.step, hcount]
    split <;> rfl
  | expiry => rfl
  | other => rfl

private theorem exists_last_of_countP {A : Type} {p : A → Bool} {l : List A} (h : 0 < l.countP p) :
    ∃ before a after, l = before ++ a :: after ∧ p a = true ∧ before.countP p + 1 = l.countP p := by
  induction l using List.reverseRecOn with
  | nil => cases h
  | append_singleton l a ih =>
    rw [List.countP_append, List.countP_singleton] at h ⊢
    by_cases ha : p a = true
    · exact ⟨l, a, [], rfl, ha, by rw [if_pos ha]⟩
    · rw [if_neg ha, Nat.add_zero] at h ⊢
      obtain ⟨before, b, after, rfl, hb, hcount⟩ := ih h
      exact ⟨before, b, after ++ [a], by rw [List.append_assoc, List.cons_append], hb, hcount⟩

/-- The last data packet of a transfer. -/
theorem Transfer.last_packet (t : Transfer L d) : ∃ before i after seq, t.inputs = before ++ i :: after ∧
    i.motion = .data seq ∧ data_packets before + 1 = packets t.points := by
  have hpoints : 0 < t.points.toNat := Nat.pos_of_ne_zero fun h => t.some_points (UInt16.toNat_inj.mp h)
  have hpos : 0 < data_packets t.inputs := by
    rw [t.complete]
    exact Nat.div_pos (by omega) (by decide)
  obtain ⟨before, i, after, hsplit, hi, hcount⟩ := exists_last_of_countP hpos
  obtain ⟨seq, hseq⟩ : ∃ seq, i.motion = .data seq := by
    cases hmotion : i.motion with
    | data seq => exact ⟨seq, rfl⟩
    | _ =>
      rw [hmotion] at hi
      cases hi
  exact ⟨before, i, after, seq, hsplit, hseq, hcount.trans t.complete⟩

variable (L)

/-- The last packet of a transfer is acknowledged, and no other one, exactly if it is not full:
where the points fill it, the total is one packet too high, and is never reached. -/
theorem motion_transfer_acknowledged_iff (d : Device Ecdh) (t : Transfer L d) :
    t.Acknowledged ↔ t.points.toNat % 9 ≠ 0 := by
  constructor
  · intro hall hfull
    obtain ⟨before, i, after, seq, hsplit, hi, hlast⟩ := t.last_packet
    have hack := hall before i after hsplit
    rw [t.acknowledgements hsplit, hi] at hack
    simp [hlast, hfull] at hack
  · intro hpart before i after hsplit
    rw [t.acknowledgements hsplit]
    simp only [hpart, ne_eq, not_false_eq_true, and_true]

end acknowledged

/-- The bytes of a packet of the tracker. -/
def packet (event_code : UInt8) (content : Bytes) : Bytes :=
  event_code :: content ++ zeros (19 - content.length)

/-- Nine points, in one packet. -/
def nine_points : Transfer plain_library (Device.boot plain_library ⟨[], [], []⟩) where
  announcement := .message [] (packet MOTION_START_RESPONSE [0, 9, 0]) quiet_surroundings
  points := 9
  announced := by decide
  some_points := by decide
  inputs := [.message [] (packet MOTION_DATA [1]) quiet_surroundings]
  uninterrupted := by
    intro before i after h
    obtain ⟨rfl, hrest⟩ : before = [] ∧ i = .message [] (packet MOTION_DATA [1]) quiet_surroundings := by
      cases before with
      | nil => simp_all
      | cons => simp_all
    subst hrest
    exact ⟨by decide, by decide⟩
  complete := by decide

/-- A transfer of nine points, in one packet, is never acknowledged. -/
theorem nine_points_not_acknowledged :
    ¬ ∀ (Ecdh : Type) (L : Library Ecdh) (d : Device Ecdh) (t : Transfer L d),
    t.Acknowledged := by
  intro hall
  have hack := hall Unit plain_library _ nine_points [] _ [] rfl
  revert hack
  decide

end catbox.ble
