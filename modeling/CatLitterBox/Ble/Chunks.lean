import CatLitterBox.Ble.Gating
import Mathlib.Data.UInt

open text json

namespace catbox.ble

/-- A message of the transmit queue. -/
structure ble_data_msg_t where
  len : UInt16
  data : Bytes
  length_eq : data.length = len.toNat

/-- How much the next notification carries: the rest of the message, or what the peer takes. -/
def ble_data_msg_t.send_len (msg : ble_data_msg_t) (g_ble_max_payload offset : UInt16) : UInt16 :=
  if (msg.len.toNat : Int) - offset.toNat > g_ble_max_payload.toNat then g_ble_max_payload
  else UInt16.ofInt (msg.len.toNat - offset.toNat)

/-- The sending loop of `ble_tx_processing_task`, for so many turns: the chunks that are handed to
`ble_server_send_notify`, or none while the loop goes on. -/
def ble_data_msg_t.send (msg : ble_data_msg_t) (g_ble_max_payload : UInt16) : Nat → UInt16 → Option (List Bytes)
  | 0, _ => none
  | turns + 1, offset =>
    if offset < msg.len then
      let send_len := msg.send_len g_ble_max_payload offset
      let chunk := (msg.data.drop offset.toNat).take send_len.toNat
      let offset := offset + send_len
      if offset = msg.len then some [chunk]
      else (msg.send g_ble_max_payload turns offset).map (chunk :: ·)
    else some []

/-- The loop ends, its chunks are neither empty nor too long, and together they are the message. -/
def ble_data_msg_t.Chunked (msg : ble_data_msg_t) (g_ble_max_payload : UInt16) : Prop :=
  ∃ turns chunks, msg.send g_ble_max_payload turns 0 = some chunks ∧
    (∀ chunk ∈ chunks, chunk ≠ [] ∧ chunk.length ≤ g_ble_max_payload.toNat) ∧ chunks.flatten = msg.data

/-- The number that an object offers as `max_payload`. -/
def max_payload {Ecdh : Type} (L : Library Ecdh) (root : cJSON) : Option Int :=
  match (L.cJSON_GetObjectItem root (ascii "data")).bind (L.cJSON_GetObjectItem · (ascii "max_payload")) with
  | some (.number valueint) => some valueint
  | _ => none

/-- The device after a boot and these `mtu_info` commands. -/
def Device.negotiated {Ecdh : Type} (L : Library Ecdh) (config : Config) (roots : List cJSON) : Device Ecdh :=
  roots.foldl (fun d root => (mtu_info L root d).1) (Device.boot L config)

theorem ofInt_toNat (n : Int) : (UInt16.ofInt n).toNat = (n % 65536).toNat := by
  have hsmall : (n % 65536).toNat < 65536 := by omega
  exact UInt16.toNat_ofNat_of_lt' hsmall

section loop

variable {msg : ble_data_msg_t} {g offset : UInt16}

/-- A chunk is as long as the connection allows, and no longer than what is left of the message. -/
theorem send_len_toNat (h : offset.toNat ≤ msg.len.toNat) :
    (msg.send_len g offset).toNat = min g.toNat (msg.len.toNat - offset.toNat) := by
  have hsmall := msg.len.toNat_lt
  have hrest : (msg.len.toNat : Int) - offset.toNat = ((msg.len.toNat - offset.toNat : Nat) : Int) := by omega
  unfold ble_data_msg_t.send_len
  rw [hrest]
  split
  · omega
  · rw [ofInt_toNat]
    omega

/-- The offset after a chunk does not wrap, since it never passes the end of the message. -/
theorem offset_advances (h : offset.toNat ≤ msg.len.toNat) : (offset + msg.send_len g offset).toNat =
    offset.toNat + min g.toNat (msg.len.toNat - offset.toNat) := by
  have hsmall := msg.len.toNat_lt
  rw [UInt16.toNat_add, send_len_toNat h]
  exact Nat.mod_eq_of_lt (by omega)

/-- From any offset the loop sends the rest of the message. -/
theorem send_rest (hg : g ≠ 0) {turns : Nat} (hle : offset.toNat ≤ msg.len.toNat)
    (hturns : msg.len.toNat - offset.toNat < turns) : ∃ chunks, msg.send g turns offset = some chunks ∧
      (∀ chunk ∈ chunks, chunk ≠ [] ∧ chunk.length ≤ g.toNat) ∧ chunks.flatten = msg.data.drop offset.toNat := by
  have hpos : 0 < g.toNat := Nat.pos_of_ne_zero fun h => hg (UInt16.toNat_inj.mp h)
  induction turns generalizing offset with
  | zero => omega
  | succ turns ih =>
    unfold ble_data_msg_t.send
    by_cases hlt : offset < msg.len
    · have hrest : offset.toNat < msg.len.toNat := UInt16.lt_iff_toNat_lt.mp hlt
      have hnext := offset_advances (g := g) hle
      have hlen := send_len_toNat (g := g) hle
      have hlength := msg.length_eq
      have hchunk : (msg.data.drop offset.toNat).take (msg.send_len g offset).toNat ≠ [] ∧
          ((msg.data.drop offset.toNat).take (msg.send_len g offset).toNat).length ≤ g.toNat := by
        rw [← List.length_pos_iff, List.length_take, List.length_drop]
        omega
      simp only [if_pos hlt]
      split
      · next hend =>
        refine ⟨_, rfl, ?_, ?_⟩
        · intro chunk hmem
          obtain rfl := List.mem_singleton.mp hmem
          exact hchunk
        · rw [List.flatten_singleton, List.take_of_length_le]
          rw [hend] at hnext
          rw [List.length_drop]
          omega
      · have hleft : msg.len.toNat - (offset + msg.send_len g offset).toNat < turns := by omega
        obtain ⟨chunks, hsend, hchunks, hflat⟩ := ih (by omega) hleft
        refine ⟨_ :: chunks, by rw [hsend, Option.map_some], ?_, ?_⟩
        · intro chunk hmem
          rcases List.mem_cons.mp hmem with rfl | hmem
          · exact hchunk
          · exact hchunks chunk hmem
        · rw [List.flatten_cons, hflat, hnext, ← hlen, ← List.drop_drop, List.take_append_drop]
    · have hend : msg.data.length ≤ offset.toNat := by
        rw [UInt16.lt_iff_toNat_lt] at hlt
        have hlength := msg.length_eq
        omega
      rw [if_neg hlt]
      exact ⟨[], rfl, nofun, (List.drop_eq_nil_of_le hend).symm⟩

/-- With no payload at all the loop never ends. -/
theorem send_nothing (h : 0 < msg.len) (turns : Nat) : msg.send 0 turns 0 = none := by
  induction turns with
  | zero => rfl
  | succ turns ih =>
    have hnone : msg.send_len 0 0 = 0 := by
      rw [← UInt16.toNat_inj, send_len_toNat (Nat.zero_le _)]
      exact Nat.zero_min _
    have hne : 0 ≠ msg.len := by
      intro hzero
      rw [← hzero] at h
      cases h
    unfold ble_data_msg_t.send
    simp only [if_pos h, hnone, UInt16.add_zero, if_neg hne, ih, Option.map_none]

/-- Only a chunk size of zero leaves a message unsent. -/
theorem chunked_iff (h : 0 < msg.len) : msg.Chunked g ↔ g ≠ 0 := by
  constructor
  · rintro ⟨turns, chunks, hsend, -⟩ rfl
    rw [send_nothing h] at hsend
    cases hsend
  · intro hg
    exact ⟨_, send_rest hg (Nat.zero_le _) (Nat.lt_succ_self _)⟩

end loop

section payload

variable {Ecdh : Type} {L : Library Ecdh} {config : Config}

private theorem mtu_info_payload (root : cJSON) (d : Device Ecdh) : (mtu_info L root d).1.g_ble_max_payload =
    ((max_payload L root).map UInt16.ofInt).getD d.g_ble_max_payload := by
  unfold mtu_info max_payload
  generalize (L.cJSON_GetObjectItem root (ascii "data")).bind _ = offered
  cases offered with
  | none => rfl
  | some item => cases item <;> rfl

/-- The payload is the last number that was offered, narrowed, or that of the boot. -/
theorem negotiated_payload (roots : List cJSON) : (Device.negotiated L config roots).g_ble_max_payload =
    ((roots.filterMap (max_payload L)).getLast?.map UInt16.ofInt).getD 20 := by
  induction roots using List.reverseRecOn with
  | nil => rfl
  | append_singleton roots root ih =>
    unfold Device.negotiated at ih ⊢
    rw [List.foldl_append, List.foldl_cons, List.foldl_nil, mtu_info_payload, ih, List.filterMap_append]
    cases hroot : max_payload L root with
    | none => simp [hroot]
    | some n => simp [hroot]

private theorem ofInt_eq_zero_iff (n : Int) : UInt16.ofInt n = 0 ↔ 65536 ∣ n := by
  rw [← UInt16.toNat_inj, ofInt_toNat, UInt16.toNat_zero]
  omega

end payload

/-- Whatever a peer has offered as payload, each message leaves in chunks exactly if the last number
offered is not a multiple of 65536. -/
theorem ble_tx_chunked_iff {Ecdh : Type} (L : Library Ecdh) (config : Config) (roots : List cJSON)
    (msg : ble_data_msg_t) (h : 0 < msg.len) :
    msg.Chunked (Device.negotiated L config roots).g_ble_max_payload ↔
      ∀ n ∈ (roots.filterMap (max_payload L)).getLast?, ¬ 65536 ∣ n := by
  rw [chunked_iff h, negotiated_payload]
  cases (roots.filterMap (max_payload L)).getLast? with
  | none => simp
  | some n => simp [ofInt_eq_zero_iff]

/-- An `mtu_info` command. -/
def mtu_info_root (n : Int) : cJSON :=
  .object [(ascii "event_type", .string (ascii "mtu_info")),
    (ascii "data", .object [(ascii "max_payload", .number n)])]

def three_bytes : ble_data_msg_t := ⟨3, [1, 2, 3], rfl⟩

theorem ble_tx_chunked_by_two :
    three_bytes.Chunked (Device.negotiated plain_library ⟨[], [], []⟩ [mtu_info_root 2]).g_ble_max_payload :=
  (ble_tx_chunked_iff plain_library ⟨[], [], []⟩ [mtu_info_root 2] three_bytes (by decide)).mpr (by decide)

/-- A peer that takes 65536 bytes at once leaves the loop without a chunk to send. -/
theorem ble_tx_stalls :
    ¬ ∀ (Ecdh : Type) (L : Library Ecdh) (config : Config) (roots : List cJSON) (msg : ble_data_msg_t),
      0 < msg.len → msg.Chunked (Device.negotiated L config roots).g_ble_max_payload := by
  intro hall
  have hchunked := hall Unit plain_library ⟨[], [], []⟩ [mtu_info_root 65536] three_bytes (by decide)
  rw [chunked_iff (by decide)] at hchunked
  exact hchunked (by decide)

end catbox.ble
