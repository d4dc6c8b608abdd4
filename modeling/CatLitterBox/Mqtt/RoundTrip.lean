import CatLitterBox.Mqtt.Header

open text

namespace coremqtt.wire

variable {info : MQTTPublishInfo} {packetId : UInt16} {remainingLength packetSize size : Nat}
  {bytes more buffer : Bytes} {scratch packet : MQTTPacketInfo} {qos : MQTTQoS} {retain dup : Bool}

theorem toNat_decode (high low : UInt8) (more : Bytes) :
    (UINT16_DECODE (high :: low :: more)).toNat = 256 * high.toNat + low.toNat := by
  have hlow := low.toNat_lt
  have hhigh := high.toNat_lt
  have hor := Nat.two_pow_add_eq_or_of_lt (i := 8) hlow high.toNat
  have hshift : high.toUInt16.toNat <<< 8 % 2 ^ 16 = 2 ^ 8 * high.toNat := by
    rw [Nat.shiftLeft_eq, UInt8.toNat_toUInt16, Nat.mul_comm]
    exact Nat.mod_eq_of_lt (by omega)
  unfold UINT16_DECODE
  rw [List.getD_cons_zero, List.getD_cons_succ, List.getD_cons_zero, UInt16.toNat_or, UInt8.toNat_toUInt16,
    UInt16.toNat_shiftLeft]
  simp only [UInt16.reduceToNat, Nat.reduceMod]
  rw [hshift, ← hor]

theorem toNat_high (x : UInt16) : (UINT16_HIGH_BYTE x).toNat = x.toNat / 256 := by
  have hx := x.toNat_lt
  unfold UINT16_HIGH_BYTE
  rw [UInt16.toNat_toUInt8, UInt16.toNat_shiftRight, Nat.shiftRight_eq_div_pow]
  exact Nat.mod_eq_of_lt (by simp; omega)

theorem toNat_low (x : UInt16) : (UINT16_LOW_BYTE x).toNat = x.toNat % 256 := by
  unfold UINT16_LOW_BYTE
  rw [UInt16.toNat_toUInt8, UInt16.toNat_and, show (0x00ff : UInt16).toNat = 2 ^ 8 - 1 from rfl,
    Nat.and_two_pow_sub_one_eq_mod, Nat.mod_mod]

/-- A number of 16 bits is read as it was written. -/
theorem decode_high_low (x : UInt16) (more : Bytes) :
    UINT16_DECODE (UINT16_HIGH_BYTE x :: UINT16_LOW_BYTE x :: more) = x := by
  apply UInt16.toNat_inj.mp
  rw [toNat_decode, toNat_high, toNat_low]
  omega

theorem high_low_decode (high low : UInt8) (more : Bytes) :
    UINT16_HIGH_BYTE (UINT16_DECODE (high :: low :: more)) = high ∧
      UINT16_LOW_BYTE (UINT16_DECODE (high :: low :: more)) = low := by
  have hlow := low.toNat_lt
  constructor
  · apply UInt8.toNat_inj.mp
    rw [toNat_high, toNat_decode]
    omega
  · apply UInt8.toNat_inj.mp
    rw [toNat_low, toNat_decode]
    omega

/-- The first byte of a PUBLISH is a packet that can come in, of its type, and keeps its flags. -/
theorem publishFlags_spec (qos : MQTTQoS) (retain dup : Bool) :
    incomingPacketValid (publishFlags qos retain dup) = true ∧
      publishFlags qos retain dup &&& 0xF0 = MQTT_PACKET_TYPE_PUBLISH ∧
      processPublishFlags (publishFlags qos retain dup &&& 0x0F) = .ok (qos, retain, dup) := by
  cases qos <;> cases retain <;> cases dup <;> exact ⟨rfl, rfl, rfl⟩

/-- No other byte has the type of a PUBLISH and these flags. -/
theorem publishFlags_of_process {type : UInt8} (htype : type &&& 0xF0 = MQTT_PACKET_TYPE_PUBLISH)
    (hflags : processPublishFlags (type &&& 0x0F) = .ok (qos, retain, dup)) :
    type = publishFlags qos retain dup := by
  have hall : ∀ k : Fin 256, UInt8.ofNat k &&& 0xF0 = MQTT_PACKET_TYPE_PUBLISH →
      ∀ flags ∈ (processPublishFlags (UInt8.ofNat k &&& 0x0F)).toOption,
        UInt8.ofNat k = publishFlags flags.1 flags.2.1 flags.2.2 := by decide +kernel
  have hbyte := hall ⟨type.toNat, type.toNat_lt⟩
  rw [UInt8.ofNat_toNat] at hbyte
  apply hbyte htype (qos, retain, dup)
  rw [hflags]
  rfl

/-- The number of a packet takes two bytes, or none for QoS 0. -/
def idLength (qos : MQTTQoS) : Nat := if qos ≠ .MQTTQoS0 then 2 else 0

theorem packetIdBytes_length : (packetIdBytes qos packetId).length = idLength qos := by
  unfold packetIdBytes idLength
  split_ifs
  · rfl
  · rfl

/-- What comes behind the header of a PUBLISH, and how long it is. -/
structure Layout (data : Bytes) (remainingLength : Nat) (packetId : UInt16) (info : MQTTPublishInfo) :
    Prop where
  sound : info.Sound
  named : info.pTopicName ≠ none
  data : encodeString info.pTopicName info.topicNameLength ++ packetIdBytes info.qos packetId ++
    info.pPayload.getD [] <+: data
  length : remainingLength = info.topicNameLength.toNat + 2 + idLength info.qos + info.payloadLength
  id : info.qos ≠ .MQTTQoS0 → packetId ≠ 0
  payload : info.pPayload = none ↔ info.payloadLength = 0

theorem checkPublishRemainingLength_eq (remainingLength : Nat) (qos : MQTTQoS) (minimum : Nat) :
    checkPublishRemainingLength remainingLength qos minimum ≠ .MQTTSuccess ↔
      remainingLength < minimum + idLength qos := by
  unfold checkPublishRemainingLength idLength
  cases qos <;> simp

theorem payload_length (h : info.Sound) (hnull : 0 < info.payloadLength → info.pPayload ≠ none) :
    (info.pPayload.getD []).length = info.payloadLength := by
  cases hpayload : info.pPayload with
  | none =>
    have hzero : ¬ 0 < info.payloadLength := fun hpos => hnull hpos hpayload
    rw [Option.getD_none, List.length_nil]
    omega
  | some payload => exact h.payload payload hpayload

/-- What is laid out as a PUBLISH is read as that. -/
theorem deserializePublish_of_layout {data : Bytes} (h : Layout data remainingLength packetId info)
    (hmin : 0 < info.topicNameLength.toNat + info.payloadLength)
    (htype : packet.type = publishFlags info.qos info.retain info.dup) (hdata : packet.pRemainingData = data)
    (hremaining : packet.remainingLength = remainingLength) (first : UInt16) :
    deserializePublish packet first = .ok (if info.qos ≠ .MQTTQoS0 then packetId else first, info) := by
  obtain ⟨qos, retain, dup, pTopicName, topicNameLength, pPayload, payloadLength⟩ := info
  obtain ⟨hsound, hnamed, hlayout, hlength, hid, hpayload⟩ := h
  simp only at hnamed hlayout hlength hid hpayload hmin htype
  obtain ⟨topic, rfl⟩ := Option.ne_none_iff_exists'.mp hnamed
  obtain ⟨more, hmore⟩ := hlayout
  have htopic : topic.length = topicNameLength.toNat := hsound.topic topic rfl
  have hbytes : (pPayload.getD []).length = payloadLength :=
    payload_length hsound fun hpos hnull => hpos.ne' (hpayload.mp hnull)
  have hread : UINT16_DECODE data = topicNameLength := by
    rw [← hmore]
    exact decode_high_low topicNameLength _
  have hdrop : data.drop 2 = topic ++ (packetIdBytes qos packetId ++ (pPayload.getD [] ++ more)) := by
    rw [← hmore]
    unfold encodeString
    simp only [Option.getD_some, List.cons_append, List.append_assoc, List.drop_succ_cons, List.drop_zero]
  have hbehind : (data.drop 2).drop topicNameLength.toNat = packetIdBytes qos packetId ++
      (pPayload.getD [] ++ more) := by
    rw [hdrop, ← htopic, List.drop_left]
  have hname : (data.drop 2).take topicNameLength.toNat = topic := by
    rw [hdrop, ← htopic, List.take_left]
  have hpay : (if payloadLength ≠ 0 then some ((pPayload.getD [] ++ more).take payloadLength) else none) =
    pPayload := by
    cases pPayload with
    | none => rw [if_neg (not_not.mpr (hpayload.mp rfl))]
    | some payload =>
      rw [if_pos fun hzero => absurd (hpayload.mpr hzero) (Option.some_ne_none payload),
        ← hbytes, Option.getD_some,
        List.take_left]
  unfold deserializePublish
  rw [htype, (publishFlags_spec qos retain dup).2.2, hdata, hremaining]
  simp only
  rw [if_neg (by
      rw [checkPublishRemainingLength_eq, hlength]
      unfold MQTT_MIN_PUBLISH_REMAINING_LENGTH_QOS0
      omega),
    hread, if_neg (by rw [checkPublishRemainingLength_eq]; omega), hbehind, hname]
  unfold packetIdBytes
  by_cases hqos : qos ≠ .MQTTQoS0
  · have hsize : remainingLength - topicNameLength.toNat - 2 - 2 = payloadLength := by
      rw [hlength, idLength, if_pos hqos]
      omega
    simp only [if_pos hqos, List.cons_append, List.nil_append, decode_high_low,
      List.drop_succ_cons, List.drop_zero,
      hsize, hpay]
    rw [if_neg fun hzero => hid hqos hzero.2]
  · have hsize : remainingLength - topicNameLength.toNat - 2 = payloadLength := by
      rw [hlength, idLength, if_neg hqos]
      omega
    simp only [if_neg hqos, List.nil_append, hsize, hpay]
    rw [if_neg fun hzero => hqos hzero.1]

theorem ok_of_ite {ε α : Type} {P : Prop} [Decidable P] {e : ε} {c : Except ε α} {a : α}
    (h : (if P then .error e else c) = .ok a) : ¬ P ∧ c = .ok a := by
  by_cases hP : P
  · rw [if_pos hP] at h
    cases h
  · rw [if_neg hP] at h
    exact ⟨hP, h⟩

theorem two_of_length (h : 2 ≤ bytes.length) : ∃ high low rest, bytes = high :: low :: rest := by
  match bytes with
  | [] => simp at h
  | [_] => simp at h
  | high :: low :: rest => exact ⟨high, low, rest, rfl⟩

/-- The number of a packet is cut off what comes behind the topic. -/
theorem packetIdBytes_append {behind : Bytes} (h : idLength qos ≤ behind.length) (first : UInt16) :
    packetIdBytes qos (if qos ≠ .MQTTQoS0 then UINT16_DECODE behind else first) ++
      (if qos ≠ .MQTTQoS0 then behind.drop 2 else behind) = behind := by
  unfold packetIdBytes
  unfold idLength at h
  by_cases hqos : qos ≠ .MQTTQoS0
  · rw [if_pos hqos] at h
    obtain ⟨high, low, more, rfl⟩ := two_of_length h
    obtain ⟨hhigh, hlow⟩ := high_low_decode high low more
    simp only [if_pos hqos, hhigh, hlow, List.drop_succ_cons, List.drop_zero, List.cons_append, List.nil_append]
  · simp only [if_neg hqos, List.nil_append]

private theorem payload_size (n : Nat) (qos : MQTTQoS) : (if qos ≠ .MQTTQoS0 then n - 2 else n) = n - idLength qos := by
  unfold idLength
  split_ifs
  · rfl
  · rfl

private theorem some_of_ite {α : Type} {P : Prop} [Decidable P] {a b : α} (h : (if P then some a else none) = some b) :
    P ∧ a = b := by
  by_cases hP : P
  · rw [if_pos hP] at h
    exact ⟨hP, Option.some.inj h⟩
  · rw [if_neg hP] at h
    cases h

/-- What is accepted as a PUBLISH is laid out as one. -/
theorem layout_of_deserialize {first : UInt16} (hlength : packet.remainingLength ≤ packet.pRemainingData.length)
    (h : MQTT_DeserializePublish packet first = .ok (packetId, info)) :
    packet.type = publishFlags info.qos info.retain info.dup ∧
      Layout packet.pRemainingData packet.remainingLength packetId info := by
  obtain ⟨htype, hdeserialize⟩ := ok_of_ite h
  rw [ne_eq, not_not] at htype
  unfold deserializePublish at hdeserialize
  cases hflags : processPublishFlags (packet.type &&& 0x0F) with
  | error status => simp only [hflags, reduceCtorEq] at hdeserialize
  | ok flags =>
    obtain ⟨qos, retain, dup⟩ := flags
    simp only [hflags] at hdeserialize
    obtain ⟨hmin, hdeserialize⟩ := ok_of_ite hdeserialize
    obtain ⟨hname, hdeserialize⟩ := ok_of_ite hdeserialize
    obtain ⟨hid, hdeserialize⟩ := ok_of_ite hdeserialize
    rw [checkPublishRemainingLength_eq, Nat.not_lt] at hmin hname
    unfold MQTT_MIN_PUBLISH_REMAINING_LENGTH_QOS0 at hmin
    obtain ⟨hpacketId, hinfo⟩ := Prod.mk.inj (Except.ok.inj hdeserialize)
    have hword := publishFlags_of_process htype hflags
    obtain ⟨high, low, rest, hdata⟩ := two_of_length (show 2 ≤ packet.pRemainingData.length by omega)
    rw [hdata] at hlength hpacketId hinfo hid hname ⊢
    obtain ⟨hhigh, hlow⟩ := high_low_decode high low rest
    simp only [List.length_cons] at hlength
    simp only [List.drop_succ_cons, List.drop_zero] at hpacketId hinfo hid
    generalize UINT16_DECODE (high :: low :: rest) = topicNameLength at *
    have hnumber : idLength qos ≤ (rest.drop topicNameLength.toNat).length := by
      rw [List.length_drop]
      omega
    have hbehind := packetIdBytes_append hnumber first
    rw [hpacketId] at hbehind hid
    generalize (if qos ≠ .MQTTQoS0 then (rest.drop topicNameLength.toNat).drop 2 else
      rest.drop topicNameLength.toNat) = behind at hbehind hinfo
    rw [payload_size] at hinfo
    have hroom : packet.remainingLength - topicNameLength.toNat - 2 - idLength qos ≤ behind.length := by
      have hcut := congrArg List.length hbehind
      rw [List.length_append, packetIdBytes_length, List.length_drop] at hcut
      omega
    generalize hpayload : packet.remainingLength - topicNameLength.toNat - 2 - idLength qos =
      payloadLength at hinfo hroom
    subst hinfo
    refine ⟨hword, ⟨⟨?_, ?_⟩, Option.some_ne_none _, ?_, ?_, ?_, ?_⟩⟩
    · rintro t ⟨⟩
      rw [List.length_take]
      exact Nat.min_eq_left (by omega)
    · intro t ht
      obtain ⟨-, rfl⟩ := some_of_ite ht
      rw [List.length_take]
      exact Nat.min_eq_left hroom
    · have hprefix : (if payloadLength ≠ 0 then some (behind.take payloadLength) else none).getD
        [] <+: behind := by
        split_ifs
        · exact List.take_prefix _ _
        · exact List.nil_prefix
      unfold encodeString
      simp only [hhigh, hlow, Option.getD_some, List.cons_append, List.append_assoc,
        List.cons_prefix_cons, true_and]
      nth_rewrite 2 [← List.take_append_drop topicNameLength.toNat rest]
      rw [← hbehind, List.prefix_append_right_inj, List.prefix_append_right_inj]
      exact hprefix
    · simp only
      omega
    · intro hqos hzero
      exact hid ⟨hqos, hzero⟩
    · by_cases hzero : payloadLength = 0
      · exact iff_of_true (if_neg (not_not.mpr hzero)) hzero
      · refine iff_of_false ?_ hzero
        simp only [if_pos hzero]
        exact Option.some_ne_none _

/-- The sizes that are computed for a PUBLISH. -/
theorem packet_sizes (h : MQTT_GetPublishPacketSize info = .ok (remainingLength, packetSize)) :
    (info.pTopicName ≠ none ∧ info.topicNameLength ≠ 0) ∧
      remainingLength = info.topicNameLength.toNat + 2 + idLength info.qos + info.payloadLength ∧
      remainingLength ≤ MQTT_MAX_REMAINING_LENGTH ∧
      packetSize = 1 + remainingLengthEncodedSize remainingLength + remainingLength := by
  obtain ⟨hname, hsizes⟩ := ok_of_ite h
  rw [not_or] at hname
  have hadd : (if info.qos ≠ .MQTTQoS0 then info.topicNameLength.toNat + 2 + 2 else info.topicNameLength.toNat + 2) =
      info.topicNameLength.toNat + 2 + idLength info.qos := by
    unfold idLength
    split_ifs
    · rfl
    · rfl
  unfold calculatePublishPacketSize at hsizes
  simp only [hadd] at hsizes
  have htopic := info.topicNameLength.toNat_lt
  have hid : idLength info.qos ≤ 2 := by
    unfold idLength
    split_ifs
    · exact le_rfl
    · exact Nat.zero_le 2
  by_cases hfits : MQTT_MAX_REMAINING_LENGTH - (info.topicNameLength.toNat + 2 + idLength info.qos) - 1 <
      info.payloadLength
  · simp only [if_pos hfits, reduceCtorEq] at hsizes
  · rw [if_neg hfits] at hsizes
    unfold MQTT_MAX_REMAINING_LENGTH at hfits ⊢
    split_ifs at hsizes with hlimit
    cases hsizes
    refine ⟨hname, rfl, ?_, ?_⟩
    · omega
    · omega

/-- What is written of a PUBLISH, and when. -/
theorem serialized (h : MQTT_SerializePublish info packetId remainingLength size = .ok bytes) :
    (0 < info.payloadLength → info.pPayload ≠ none) ∧ (info.qos ≠ .MQTTQoS0 → packetId ≠ 0) ∧
      1 + remainingLengthEncodedSize remainingLength + remainingLength ≤ size ∧
      bytes = serializePublishCommon info remainingLength packetId true := by
  obtain ⟨hpayload, h⟩ := ok_of_ite h
  obtain ⟨-, h⟩ := ok_of_ite h
  obtain ⟨hid, h⟩ := ok_of_ite h
  obtain ⟨-, h⟩ := ok_of_ite h
  obtain ⟨hsize, h⟩ := ok_of_ite h
  exact ⟨not_and.mp hpayload, not_and.mp hid, Nat.not_lt.mp hsize, (Except.ok.inj h).symm⟩

theorem serializePublishCommon_eq
    (hnull : 0 < info.payloadLength → info.pPayload ≠ none) (hsound : info.Sound) :
    serializePublishCommon info remainingLength packetId true =
      publishFlags info.qos info.retain info.dup :: varint.encode remainingLength ++
        (encodeString info.pTopicName info.topicNameLength ++ packetIdBytes info.qos packetId ++
          info.pPayload.getD []) := by
  have hpayload : (if 0 < info.payloadLength ∧ true = true then info.pPayload.getD [] else []) =
      info.pPayload.getD [] := by
    by_cases hpos : 0 < info.payloadLength
    · rw [if_pos ⟨hpos, rfl⟩]
    · have hlength := payload_length hsound hnull
      rw [if_neg fun h => hpos h.1]
      exact (List.eq_nil_of_length_eq_zero (by omega)).symm
  unfold serializePublishCommon
  rw [hpayload, encodeRemainingLength_eq]
  simp only [List.cons_append, List.append_assoc]

/-- The bytes behind the header are as many as it says. -/
theorem body_length (packetId : UInt16) (hsound : info.Sound) (hname : info.pTopicName ≠ none)
    (hnull : 0 < info.payloadLength → info.pPayload ≠ none) :
    (encodeString info.pTopicName info.topicNameLength ++ packetIdBytes info.qos packetId ++
      info.pPayload.getD []).length =
        info.topicNameLength.toNat + 2 + idLength info.qos + info.payloadLength := by
  obtain ⟨topic, htopic⟩ := Option.ne_none_iff_exists'.mp hname
  have hlength := hsound.topic topic htopic
  rw [List.length_append, List.length_append, packetIdBytes_length, payload_length hsound hnull]
  unfold encodeString
  rw [htopic, Option.getD_some, List.length_cons, List.length_cons, hlength]

/-- A PUBLISH as it is read: the payload is NULL where it is empty. -/
def MQTTPublishInfo.received (info : MQTTPublishInfo) : MQTTPublishInfo :=
  { info with pPayload := if info.payloadLength = 0 then none else info.pPayload }

/-- What is written of a PUBLISH is laid out as what is read. -/
theorem layout_received {body : Bytes} (more : Bytes) (hsound : info.Sound) (hname : info.pTopicName ≠ none)
    (hnull : 0 < info.payloadLength → info.pPayload ≠ none) (hid : info.qos ≠ .MQTTQoS0 → packetId ≠ 0)
    (hremaining : remainingLength = info.topicNameLength.toNat + 2 + idLength info.qos + info.payloadLength)
    (hbody : encodeString info.pTopicName info.topicNameLength ++ packetIdBytes info.qos packetId ++
      info.pPayload.getD [] = body) :
    Layout (body ++ more) remainingLength packetId info.received := by
  have hlength := payload_length hsound hnull
  have hprefix : body <+: body ++ more := List.prefix_append _ _
  unfold MQTTPublishInfo.received
  by_cases hzero : info.payloadLength = 0
  · have hempty : info.pPayload.getD [] = [] := List.eq_nil_of_length_eq_zero (hlength.trans hzero)
    rw [hempty] at hbody
    rw [← hbody] at hprefix ⊢
    simp only [if_pos hzero]
    exact ⟨⟨hsound.topic, fun _ h => nomatch h⟩, hname, hprefix, hremaining, hid, iff_of_true rfl hzero⟩
  · rw [← hbody] at hprefix ⊢
    simp only [if_neg hzero]
    exact ⟨hsound, hname, hprefix, hremaining, hid, iff_of_false (hnull (Nat.pos_of_ne_zero hzero)) hzero⟩

/-- A PUBLISH is read as it was written, whatever follows it in the buffer, and takes the size
that was computed for it. -/
theorem publish_round_trip (hsound : info.Sound)
    (hsizes : MQTT_GetPublishPacketSize info = .ok (remainingLength, packetSize))
    (hserialize : MQTT_SerializePublish info packetId remainingLength size = .ok bytes) (more : Bytes)
    (scratch : MQTTPacketInfo) :
    bytes.length = packetSize ∧ packetSize ≤ size ∧
      ∃ packet, MQTT_ProcessIncomingPacketTypeAndLength (bytes ++ more) scratch = (.MQTTSuccess, packet) ∧
        packet.headerLength + packet.remainingLength = packetSize ∧
        MQTT_DeserializePublish { packet with pRemainingData := (bytes ++ more).drop packet.headerLength } 0 =
          .ok (if info.qos ≠ .MQTTQoS0 then packetId else 0, info.received) := by
  obtain ⟨⟨hname, hlength⟩, hremaining, hmax, hsize⟩ := packet_sizes hsizes
  obtain ⟨hnull, hid, hroom, rfl⟩ := serialized hserialize
  have hencoded := remainingLengthEncodedSize_eq hmax
  have hbody := body_length packetId hsound hname hnull
  rw [serializePublishCommon_eq hnull hsound]
  generalize hbytes : encodeString info.pTopicName info.topicNameLength ++ packetIdBytes info.qos packetId ++
    info.pPayload.getD [] = body at hbody
  obtain ⟨hvalid, htype, -⟩ := publishFlags_spec info.qos info.retain info.dup
  refine ⟨?_, by omega, headed scratch (publishFlags info.qos info.retain info.dup) remainingLength, ?_, ?_, ?_⟩
  · rw [List.length_append, List.length_cons]
    omega
  · refine process_header ⟨hvalid, hmax, ?_⟩ scratch
    exact (List.prefix_append _ _).trans (List.prefix_append _ _)
  · simp only [headed]
    omega
  · have hdrop : (publishFlags info.qos info.retain info.dup ::
      varint.encode remainingLength ++ body ++ more).drop
        ((varint.encode remainingLength).length + 1) = body ++ more := by
      rw [List.cons_append, List.cons_append, List.drop_succ_cons, List.append_assoc, List.drop_left]
    have htopic : info.topicNameLength.toNat ≠ 0 := fun hzero => hlength (UInt16.toNat_inj.mp hzero)
    have hlayout := layout_received more hsound hname hnull hid hremaining hbytes
    unfold MQTT_DeserializePublish
    simp only [headed, hdrop]
    rw [if_neg (not_not.mpr htype)]
    exact deserializePublish_of_layout hlayout (by simp only [MQTTPublishInfo.received]; omega) rfl rfl rfl 0

/-- A reading, as it is written with the packet number 258. -/
def reading : Bytes := [0x3A, 8, 0, 2, 0x61, 0x62, 1, 2, 0x7B, 0x7D]

def readingInfo : MQTTPublishInfo := ⟨.MQTTQoS1, false, true, some [0x61, 0x62], 2, some [0x7B, 0x7D], 2⟩

theorem reading_serialized : MQTT_SerializePublish readingInfo 258 8 16 = .ok reading := by
  decide +kernel

theorem reading_round_trip :
    reading.length = 10 ∧ 10 ≤ 16 ∧
      ∃ packet, MQTT_ProcessIncomingPacketTypeAndLength (reading ++ [0x40]) ⟨0, [], 0, 0⟩ =
          (.MQTTSuccess, packet) ∧
        packet.headerLength + packet.remainingLength = 10 ∧
        MQTT_DeserializePublish { packet with pRemainingData := (reading ++ [0x40]).drop packet.headerLength } 0 =
          .ok (258, readingInfo) :=
  publish_round_trip ⟨by simp [readingInfo], by simp [readingInfo]⟩ rfl reading_serialized [0x40] ⟨0, [], 0, 0⟩

/-- What is accepted of a buffer as a PUBLISH is what is written for it: written again, it gives the
bytes that were read, unless the writer refuses its DUP flag or its empty topic, or has no room. -/
theorem accepted_publish_is_written {first : UInt16}
    (hheader : MQTT_ProcessIncomingPacketTypeAndLength buffer scratch = (.MQTTSuccess, packet))
    (hwhole : packet.headerLength + packet.remainingLength ≤ buffer.length)
    (haccepted : MQTT_DeserializePublish
      { packet with pRemainingData := buffer.drop packet.headerLength } first =
      .ok (packetId, info)) (size : Nat) :
    info.Sound ∧ MQTT_SerializePublish info packetId packet.remainingLength size =
      if info.topicNameLength = 0 ∨ info.dup = true ∧ info.qos = .MQTTQoS0 then .error .MQTTBadParameter
      else if size < packet.headerLength + packet.remainingLength then .error .MQTTNoMemory
      else .ok (buffer.take (packet.headerLength + packet.remainingLength)) := by
  obtain ⟨type, n, hhead, rfl⟩ := header_of_process hheader
  simp only [headed] at hwhole haccepted ⊢
  obtain ⟨hflags, hlayout⟩ := layout_of_deserialize (by simp only [List.length_drop]; omega) haccepted
  simp only at hflags hlayout
  obtain ⟨hsound, hname, ⟨more, hmore⟩, hlength, hid, hpayload⟩ := hlayout
  have hnull : 0 < info.payloadLength → info.pPayload ≠ none := fun hpos hnone => hpos.ne' (hpayload.mp hnone)
  have hsize := remainingLengthEncodedSize_eq hhead.small
  have hbody := body_length packetId hsound hname hnull
  obtain ⟨behind, hbehind⟩ := hhead.bytes
  have hbuffer : buffer.take ((varint.encode n).length + 1 + n) =
      serializePublishCommon info n packetId true := by
    rw [← hbehind, List.cons_append, List.drop_succ_cons, List.drop_left] at hmore
    rw [serializePublishCommon_eq hnull hsound, ← hbehind, ← hmore, ← List.append_assoc, hflags]
    refine List.take_left' ?_
    rw [List.length_append, List.length_cons, hbody]
    omega
  refine ⟨hsound, ?_⟩
  have hfirst : ¬ (0 < info.payloadLength ∧ info.pPayload = none) := fun h => hnull h.1 h.2
  have hthird : ¬ (info.qos ≠ .MQTTQoS0 ∧ packetId = 0) := fun h => hid h.1 h.2
  unfold MQTT_SerializePublish
  rw [if_neg hfirst, if_neg hthird, hsize, ← hbuffer]
  by_cases htopic : info.topicNameLength = 0
  · rw [if_pos (.inr htopic), if_pos (.inl htopic)]
  · rw [if_neg (not_or.mpr ⟨hname, htopic⟩)]
    by_cases hdup : info.dup = true ∧ info.qos = .MQTTQoS0
    · rw [if_pos hdup, if_pos (.inr hdup)]
    · rw [if_neg hdup, if_neg (not_or.mpr ⟨htopic, hdup⟩), Nat.add_comm 1]
      rfl

private theorem reading_header :
    MQTT_ProcessIncomingPacketTypeAndLength (reading ++ [0x40]) ⟨0, [], 0, 0⟩ =
      (.MQTTSuccess, ⟨0x3A, [], 8, 2⟩) := by
  decide +kernel

private theorem reading_deserialized :
    MQTT_DeserializePublish ⟨0x3A, (reading ++ [0x40]).drop 2, 8, 2⟩ 0 = .ok (258, readingInfo) := by
  decide +kernel

theorem reading_accepted :
    readingInfo.Sound ∧ MQTT_SerializePublish readingInfo 258 8 16 = .ok reading :=
  accepted_publish_is_written reading_header (by decide) reading_deserialized 16

end coremqtt.wire
