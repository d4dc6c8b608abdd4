import CatLitterBox.Mqtt.Wire

open text

namespace coremqtt.wire

variable {n k : Nat} {bytes more buffer : Bytes} {type : UInt8} {scratch packet : MQTTPacketInfo}

theorem setBit_continuation (h : n < 128) : UINT8_SET_BIT (.ofNat n) 7 = .ofNat (n + 128) := by
  have hall : ∀ k : Fin 128, UINT8_SET_BIT (.ofNat k) 7 = .ofNat (k + 128) := by decide
  exact hall ⟨n, h⟩

theorem and_digit (b : UInt8) : (b &&& 0x7F).toNat = b.toNat % 128 := by
  rw [UInt8.toNat_and]
  exact Nat.and_two_pow_sub_one_eq_mod b.toNat 7

theorem continues_iff (b : UInt8) : b &&& 0x80 ≠ 0 ↔ 128 ≤ b.toNat := by
  have hall : ∀ k : Fin 256, UInt8.ofNat k &&& 0x80 ≠ 0 ↔ 128 ≤ (UInt8.ofNat k).toNat := by decide +kernel
  have hb := hall ⟨b.toNat, b.toNat_lt⟩
  rwa [UInt8.ofNat_toNat] at hb

/-- The remaining length is written in base 128. -/
theorem encodeRemainingLength_eq (n : Nat) : encodeRemainingLength n = varint.encode n := by
  induction n using Nat.strongRecOn with
  | ind n ih =>
    rw [encodeRemainingLength]
    by_cases hn : n < 128
    · rw [if_neg (by omega), varint.encode_of_lt hn, Nat.mod_eq_of_lt hn]
    · rw [if_pos (by omega), varint.encode_of_ge (by omega), setBit_continuation (by omega),
        ih (n / 128) (by omega)]

/-- The size that is given to a remaining length is the one that it takes. -/
theorem remainingLengthEncodedSize_eq (h : n ≤ MQTT_MAX_REMAINING_LENGTH) :
    remainingLengthEncodedSize n = (varint.encode n).length := by
  have hmax : n ≤ 268435455 := h
  have hle (k : Nat) (hk : n < 128 ^ (k + 1)) := varint.encode_length_le hk
  have hlt (k : Nat) (hk : ¬ n < 128 ^ k) : k < (varint.encode n).length := by
    by_contra hshort
    exact hk (varint.lt_of_encode_length_le (Nat.not_lt.mp hshort))
  have hpos := List.length_pos_of_ne_nil (varint.encode_ne_nil n)
  unfold remainingLengthEncodedSize
  split_ifs with h1 h2 h3
  · have := hle 0 h1
    omega
  · have := hle 1 h2
    have := hlt 1 h1
    omega
  · have := hle 2 h3
    have := hlt 2 h2
    omega
  · have := hle 3 (by omega)
    have := hlt 3 h3
    omega

/-- The remaining length is read in base 128, of four bytes at most. -/
theorem decodeRemainingLength_eq (bytes : Bytes) {r : Nat} (hk : k ≤ 4) (hr : r < 128 ^ k) :
    match varint.decode (bytes.take (4 - k)) with
    | some (n, taken) => decodeRemainingLength bytes r (128 ^ k) k = (.MQTTSuccess, r + 128 ^ k * n, k + taken)
    | none => (decodeRemainingLength bytes r (128 ^ k) k).1 =
        if bytes.length < 4 - k then .MQTTNeedMoreBytes else .MQTTBadResponse := by
  induction bytes generalizing r k with
  | nil =>
    rw [List.take_nil, varint.decode, decodeRemainingLength]
    by_cases h4 : k = 4
    · subst h4
      rfl
    · have hpow : 128 ^ k ≤ 128 ^ 3 := Nat.pow_le_pow_right (by decide) (by omega)
      rw [if_neg (by omega), if_pos (by simp; omega)]
  | cons b bytes ih =>
    rw [decodeRemainingLength]
    by_cases h4 : k = 4
    · subst h4
      rfl
    · have hpow : 128 ^ k ≤ 128 ^ 3 := Nat.pow_le_pow_right (by decide) (by omega)
      have hdigit : b.toNat % 128 < 128 := Nat.mod_lt _ (by decide)
      have hnext : r + b.toNat % 128 * 128 ^ k < 128 ^ (k + 1) := by
        calc r + b.toNat % 128 * 128 ^ k < 128 ^ k + b.toNat % 128 * 128 ^ k := by omega
          _ = (b.toNat % 128 + 1) * 128 ^ k := by ring
          _ ≤ 128 * 128 ^ k := Nat.mul_le_mul_right _ hdigit
          _ = 128 ^ (k + 1) := (pow_succ' 128 k).symm
      have hvalid : r + b.toNat % 128 * 128 ^ k ≠ MQTT_REMAINING_LENGTH_INVALID := by
        have hfour : 128 ^ (k + 1) ≤ 128 ^ 4 := Nat.pow_le_pow_right (by decide) (by omega)
        have hinvalid : MQTT_REMAINING_LENGTH_INVALID = 128 ^ 4 := rfl
        omega
      rw [if_neg (by omega), and_digit, if_neg hvalid,
        show 4 - k = 4 - (k + 1) + 1 by omega, List.take_succ_cons]
      by_cases hb : b.toNat < 128
      · rw [varint.decode_of_last hb, if_neg (by rw [continues_iff]; omega), Nat.mod_eq_of_lt hb, Nat.mul_comm]
      · rw [varint.decode_of_more (by omega), if_pos (by rw [continues_iff]; omega), ← pow_succ]
        have hrest := ih (k := k + 1) (by omega) hnext
        cases hdecode : varint.decode (bytes.take (4 - (k + 1))) with
        | none =>
          rw [hdecode] at hrest
          rw [Option.map_none, hrest, List.length_cons]
          exact if_congr (by omega) rfl rfl
        | some found =>
          obtain ⟨n, taken⟩ := found
          have hbyte : b.toNat < 256 := b.toNat_lt
          have hmod : b.toNat % 128 = b.toNat - 128 := by omega
          simp only [hdecode] at hrest
          have hvalue : r + (b.toNat - 128) * 128 ^ k + 128 ^ (k + 1) * n =
              r + 128 ^ k * (b.toNat - 128 + 128 * n) := by
            ring
          rw [hmod] at hrest ⊢
          rw [Option.map_some, hrest, hvalue, show k + 1 + taken = k + (taken + 1) by omega]

/-- The header of a packet: what its first bytes have to be, and what they say. -/
structure Header (buffer : Bytes) (type : UInt8) (n : Nat) : Prop where
  valid : incomingPacketValid type = true
  small : n ≤ MQTT_MAX_REMAINING_LENGTH
  bytes : type :: varint.encode n <+: buffer

/-- What is known of a packet when its header has been read. -/
def headed (scratch : MQTTPacketInfo) (type : UInt8) (n : Nat) : MQTTPacketInfo :=
  { scratch with type := type, remainingLength := n, headerLength := (varint.encode n).length + 1 }

/-- A complete header is recognised, whatever stood in the packet info. -/
theorem process_header (h : Header buffer type n) (scratch : MQTTPacketInfo) :
    MQTT_ProcessIncomingPacketTypeAndLength buffer scratch = (.MQTTSuccess, headed scratch type n) := by
  obtain ⟨more, rfl⟩ := h.bytes
  have hsmall : n < 128 ^ (3 + 1) := Nat.lt_succ_of_le h.small
  have htaken : varint.decode ((varint.encode n ++ more).take (4 - 0)) =
      some (n, (varint.encode n).length) := by
    rw [List.take_append, List.take_of_length_le (varint.encode_length_le hsmall)]
    exact varint.decode_encode n _
  have hdecode := decodeRemainingLength_eq (varint.encode n ++ more) (k := 0) (r := 0) (by decide) (by decide)
  rw [htaken] at hdecode
  simp only [pow_zero, Nat.zero_add, Nat.one_mul] at hdecode
  rw [List.cons_append, MQTT_ProcessIncomingPacketTypeAndLength]
  simp only [h.valid, if_true]
  unfold processRemainingLength
  rw [List.drop_succ_cons, List.drop_zero, hdecode]
  simp only [remainingLengthEncodedSize_eq h.small]
  rw [if_neg (by simp)]
  rfl

/-- A header that is accepted is in its shortest form. -/
theorem header_of_process
    (h : MQTT_ProcessIncomingPacketTypeAndLength buffer scratch = (.MQTTSuccess, packet)) :
    ∃ type n, Header buffer type n ∧ packet = headed scratch type n := by
  cases buffer with
  | nil => cases h
  | cons type bytes =>
    unfold MQTT_ProcessIncomingPacketTypeAndLength at h
    simp only at h
    split_ifs at h with hvalid
    · unfold processRemainingLength at h
      rw [List.drop_succ_cons, List.drop_zero] at h
      have hdecode := decodeRemainingLength_eq bytes (k := 0) (r := 0) (by decide) (by decide)
      cases hfound : varint.decode (bytes.take (4 - 0)) with
      | none =>
        rw [hfound] at hdecode
        simp only [pow_zero] at hdecode
        generalize decodeRemainingLength bytes 0 1 0 = decoded at h hdecode
        obtain ⟨status, r, d⟩ := decoded
        cases status with
        | MQTTSuccess =>
          simp only at hdecode
          split_ifs at hdecode
        | _ => cases h
      | some found =>
        obtain ⟨n, taken⟩ := found
        rw [hfound] at hdecode
        simp only [pow_zero, Nat.zero_add, Nat.one_mul] at hdecode
        rw [hdecode] at h
        simp only at h
        obtain ⟨-, htaken, hlt⟩ := varint.decode_bounds hfound
        have hfour : taken ≤ 4 := htaken.trans (List.length_take_le _ _)
        have hsmall : n ≤ MQTT_MAX_REMAINING_LENGTH :=
          Nat.le_of_lt_succ (hlt.trans_le (Nat.pow_le_pow_right (by decide) hfour))
        split_ifs at h with hlength
        · cases h
        · rw [ne_eq, not_not, remainingLengthEncodedSize_eq hsmall] at hlength
          rw [hlength] at hfound
          have hshortest := varint.encode_of_shortest hfound
          rw [List.take_take, Nat.min_eq_left (by omega)] at hshortest
          refine ⟨type, n, ⟨hvalid, hsmall, ?_⟩, ?_⟩
          · rw [List.cons_prefix_cons, ← hshortest]
            exact ⟨rfl, List.take_prefix _ _⟩
          · rw [← (Prod.mk.inj h).2, hlength]
            rfl
    · cases h

/-- More bytes behind a header do not change it. -/
theorem Header.append (h : Header buffer type n) (more : Bytes) : Header (buffer ++ more) type n :=
  ⟨h.valid, h.small, h.bytes.trans (List.prefix_append _ _)⟩

/-- All bytes of the header are there. -/
theorem Header.length (h : Header buffer type n) : (varint.encode n).length + 1 ≤ buffer.length :=
  h.bytes.length_le

end coremqtt.wire
