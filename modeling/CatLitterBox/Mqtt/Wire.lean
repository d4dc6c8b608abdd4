import CatLitterBox.Codec.Frames
import CatLitterBox.Codec.Varint
import CatLitterBox.Mqtt.Library
import CatLitterBox.Text.CString

open text

namespace coremqtt.wire

/-- The values of `MQTTStatus_t` that the serializer and the receiver give. -/
inductive MQTTStatus where
  | MQTTSuccess
  | MQTTBadParameter
  | MQTTNoMemory
  | MQTTSendFailed
  | MQTTRecvFailed
  | MQTTBadResponse
  | MQTTServerRefused
  | MQTTNoDataAvailable
  | MQTTIllegalState
  | MQTTStateCollision
  | MQTTKeepAliveTimeout
  | MQTTNeedMoreBytes
deriving DecidableEq

inductive MQTTQoS where
  | MQTTQoS0
  | MQTTQoS1
  | MQTTQoS2
deriving DecidableEq

/-- `MQTTPublishInfo_t`: a pointer is the bytes that are there, as many as its length says, or NULL. -/
structure MQTTPublishInfo where
  qos : MQTTQoS
  retain : Bool
  dup : Bool
  pTopicName : Option Bytes
  topicNameLength : UInt16
  pPayload : Option Bytes
  payloadLength : Nat
deriving DecidableEq

/-- The bytes at a pointer are as many as its length says. -/
structure MQTTPublishInfo.Sound (info : MQTTPublishInfo) : Prop where
  topic : ∀ t ∈ info.pTopicName, t.length = info.topicNameLength.toNat
  payload : ∀ p ∈ info.pPayload, p.length = info.payloadLength

/-- `MQTTPacketInfo_t`: `pRemainingData` is the network buffer from there on. -/
structure MQTTPacketInfo where
  type : UInt8
  pRemainingData : Bytes
  remainingLength : Nat
  headerLength : Nat
deriving DecidableEq

def MQTT_PACKET_TYPE_CONNACK : UInt8 := 0x20
def MQTT_PACKET_TYPE_PUBLISH : UInt8 := 0x30
def MQTT_PACKET_TYPE_PUBACK : UInt8 := 0x40
def MQTT_PACKET_TYPE_PUBREC : UInt8 := 0x50
def MQTT_PACKET_TYPE_PUBREL : UInt8 := 0x62
def MQTT_PACKET_TYPE_PUBCOMP : UInt8 := 0x70
def MQTT_PACKET_TYPE_SUBACK : UInt8 := 0x90
def MQTT_PACKET_TYPE_UNSUBACK : UInt8 := 0xB0
def MQTT_PACKET_TYPE_PINGREQ : UInt8 := 0xC0
def MQTT_PACKET_TYPE_PINGRESP : UInt8 := 0xD0

def MQTT_SEND_TIMEOUT_MS : UInt32 := 20000

def MQTT_PUBLISH_FLAG_RETAIN : UInt8 := 0
def MQTT_PUBLISH_FLAG_QOS1 : UInt8 := 1
def MQTT_PUBLISH_FLAG_QOS2 : UInt8 := 2
def MQTT_PUBLISH_FLAG_DUP : UInt8 := 3

def MQTT_MIN_PUBLISH_REMAINING_LENGTH_QOS0 : Nat := 3
def MQTT_REMAINING_LENGTH_INVALID : Nat := 268435456

def UINT8_SET_BIT (x position : UInt8) : UInt8 := x ||| (0x01 <<< position)

def UINT8_CHECK_BIT (x position : UInt8) : Bool := (x &&& (0x01 <<< position)) == (0x01 <<< position)

def UINT16_HIGH_BYTE (x : UInt16) : UInt8 := (x >>> 8).toUInt8

def UINT16_LOW_BYTE (x : UInt16) : UInt8 := (x &&& 0x00ff).toUInt8

/-- Of the two bytes at a pointer. -/
def UINT16_DECODE (ptr : Bytes) : UInt16 := ((ptr.getD 0 0).toUInt16 <<< 8) ||| (ptr.getD 1 0).toUInt16

/-- The bytes that are put at `pDestination`. -/
def encodeRemainingLength (remainingLength : Nat) : Bytes :=
  let lengthByte := UInt8.ofNat (remainingLength % 128)
  if 0 < remainingLength / 128 then UINT8_SET_BIT lengthByte 7 :: encodeRemainingLength (remainingLength / 128)
  else [lengthByte]

def encodeString (pSource : Option Bytes) (sourceLength : UInt16) : Bytes :=
  UINT16_HIGH_BYTE sourceLength :: UINT16_LOW_BYTE sourceLength :: pSource.getD []

/-- The remaining length of a PUBLISH and the size of the whole packet. -/
def calculatePublishPacketSize (info : MQTTPublishInfo) : Option (Nat × Nat) :=
  let packetSize := info.topicNameLength.toNat + 2
  let packetSize := if info.qos ≠ .MQTTQoS0 then packetSize + 2 else packetSize
  let payloadLimit := MQTT_MAX_REMAINING_LENGTH - packetSize - 1
  if payloadLimit < info.payloadLength then none
  else
    let packetSize := packetSize + info.payloadLength
    if payloadLimit - remainingLengthEncodedSize packetSize < info.payloadLength then none
    else some (packetSize, packetSize + (1 + remainingLengthEncodedSize packetSize))

def MQTT_GetPublishPacketSize (info : MQTTPublishInfo) : Except MQTTStatus (Nat × Nat) :=
  if info.pTopicName = none ∨ info.topicNameLength = 0 then .error .MQTTBadParameter
  else
    match calculatePublishPacketSize info with
    | some sizes => .ok sizes
    | none => .error .MQTTBadParameter

/-- The first byte of a PUBLISH. -/
def publishFlags (qos : MQTTQoS) (retain dup : Bool) : UInt8 :=
  let flags := MQTT_PACKET_TYPE_PUBLISH
  let flags :=
    match qos with
    | .MQTTQoS1 => UINT8_SET_BIT flags MQTT_PUBLISH_FLAG_QOS1
    | .MQTTQoS2 => UINT8_SET_BIT flags MQTT_PUBLISH_FLAG_QOS2
    | .MQTTQoS0 => flags
  let flags := if retain then UINT8_SET_BIT flags MQTT_PUBLISH_FLAG_RETAIN else flags
  if dup then UINT8_SET_BIT flags MQTT_PUBLISH_FLAG_DUP else flags

def packetIdBytes (qos : MQTTQoS) (packetId : UInt16) : Bytes :=
  if qos ≠ .MQTTQoS0 then [UINT16_HIGH_BYTE packetId, UINT16_LOW_BYTE packetId] else []

/-- The bytes that are put into the buffer. -/
def serializePublishCommon (info : MQTTPublishInfo) (remainingLength : Nat) (packetId : UInt16)
    (serializePayload : Bool) : Bytes :=
  publishFlags info.qos info.retain info.dup :: encodeRemainingLength remainingLength ++
    encodeString info.pTopicName info.topicNameLength ++ packetIdBytes info.qos packetId ++
    if 0 < info.payloadLength ∧ serializePayload = true then info.pPayload.getD [] else []

/-- The bytes that are put into a buffer of `size` bytes. -/
def MQTT_SerializePublish (info : MQTTPublishInfo) (packetId : UInt16) (remainingLength size : Nat) :
    Except MQTTStatus Bytes :=
  if 0 < info.payloadLength ∧ info.pPayload = none then .error .MQTTBadParameter
  else if info.pTopicName = none ∨ info.topicNameLength = 0 then .error .MQTTBadParameter
  else if info.qos ≠ .MQTTQoS0 ∧ packetId = 0 then .error .MQTTBadParameter
  else if info.dup = true ∧ info.qos = .MQTTQoS0 then .error .MQTTBadParameter
  else if size < 1 + remainingLengthEncodedSize remainingLength + remainingLength then .error .MQTTNoMemory
  else .ok (serializePublishCommon info remainingLength packetId true)

/-- The loop of `processRemainingLength`, over the bytes that it has not decoded. -/
def decodeRemainingLength : Bytes → Nat → Nat → Nat → MQTTStatus × Nat × Nat
  | [], remainingLength, multiplier, bytesDecoded =>
    if 2097152 < multiplier then (.MQTTBadResponse, MQTT_REMAINING_LENGTH_INVALID, bytesDecoded)
    else (.MQTTNeedMoreBytes, remainingLength, bytesDecoded)
  | encodedByte :: bytes, remainingLength, multiplier, bytesDecoded =>
    if 2097152 < multiplier then (.MQTTBadResponse, MQTT_REMAINING_LENGTH_INVALID, bytesDecoded)
    else
      let remainingLength := remainingLength + (encodedByte &&& 0x7F).toNat * multiplier
      if remainingLength = MQTT_REMAINING_LENGTH_INVALID then (.MQTTSuccess, remainingLength, bytesDecoded + 1)
      else if encodedByte &&& 0x80 ≠ 0 then
        decodeRemainingLength bytes remainingLength (multiplier * 128) (bytesDecoded + 1)
      else (.MQTTSuccess, remainingLength, bytesDecoded + 1)

/-- Of the first `*pIndex` bytes of the buffer. -/
def processRemainingLength (pBuffer : Bytes) (pIncomingPacket : MQTTPacketInfo) : MQTTStatus × MQTTPacketInfo :=
  match decodeRemainingLength (pBuffer.drop 1) 0 1 0 with
  | (.MQTTSuccess, remainingLength, bytesDecoded) =>
    if bytesDecoded ≠ remainingLengthEncodedSize remainingLength then (.MQTTBadResponse, pIncomingPacket)
    else (.MQTTSuccess,
      { pIncomingPacket with remainingLength := remainingLength, headerLength := bytesDecoded + 1 })
  | (status, _, _) => (status, pIncomingPacket)

def incomingPacketValid (packetType : UInt8) : Bool :=
  if packetType &&& 0xF0 ∈ [MQTT_PACKET_TYPE_CONNACK, MQTT_PACKET_TYPE_PUBLISH, MQTT_PACKET_TYPE_PUBACK,
      MQTT_PACKET_TYPE_PUBREC, MQTT_PACKET_TYPE_PUBCOMP, MQTT_PACKET_TYPE_SUBACK, MQTT_PACKET_TYPE_UNSUBACK,
      MQTT_PACKET_TYPE_PINGRESP] then true
  else if packetType &&& 0xF0 = MQTT_PACKET_TYPE_PUBREL &&& 0xF0 then decide (0 < packetType &&& 0x02)
  else false

/-- The first `*pIndex` bytes of the buffer are there. -/
def MQTT_ProcessIncomingPacketTypeAndLength (pBuffer : Bytes) (pIncomingPacket : MQTTPacketInfo) :
    MQTTStatus × MQTTPacketInfo :=
  match pBuffer with
  | [] => (.MQTTNoDataAvailable, pIncomingPacket)
  | type :: _ =>
    let pIncomingPacket := { pIncomingPacket with type := type }
    if incomingPacketValid type then processRemainingLength pBuffer pIncomingPacket
    else (.MQTTBadResponse, pIncomingPacket)

def checkPublishRemainingLength (remainingLength : Nat) (qos : MQTTQoS) (qos0Minimum : Nat) : MQTTStatus :=
  if qos = .MQTTQoS0 then
    if remainingLength < qos0Minimum then .MQTTBadResponse else .MQTTSuccess
  else if remainingLength < qos0Minimum + 2 then .MQTTBadResponse else .MQTTSuccess

/-- The fields that the flags of a PUBLISH give: its QoS, retain and DUP. -/
def processPublishFlags (publishFlags : UInt8) : Except MQTTStatus (MQTTQoS × Bool × Bool) :=
  let retain := UINT8_CHECK_BIT publishFlags MQTT_PUBLISH_FLAG_RETAIN
  let dup := UINT8_CHECK_BIT publishFlags MQTT_PUBLISH_FLAG_DUP
  if UINT8_CHECK_BIT publishFlags MQTT_PUBLISH_FLAG_QOS2 then
    if UINT8_CHECK_BIT publishFlags MQTT_PUBLISH_FLAG_QOS1 then .error .MQTTBadResponse
    else .ok (.MQTTQoS2, retain, dup)
  else if UINT8_CHECK_BIT publishFlags MQTT_PUBLISH_FLAG_QOS1 then .ok (.MQTTQoS1, retain, dup)
  else .ok (.MQTTQoS0, retain, dup)

/-- What is put at `pPacketId` and `pPublishInfo`; the packet number is left as it was for QoS 0. -/
def deserializePublish (pIncomingPacket : MQTTPacketInfo) (pPacketId : UInt16) :
    Except MQTTStatus (UInt16 × MQTTPublishInfo) :=
  let pVariableHeader := pIncomingPacket.pRemainingData
  let remainingLength := pIncomingPacket.remainingLength
  match processPublishFlags (pIncomingPacket.type &&& 0x0F) with
  | .error status => .error status
  | .ok (qos, retain, dup) =>
    if checkPublishRemainingLength remainingLength qos
      MQTT_MIN_PUBLISH_REMAINING_LENGTH_QOS0 ≠ .MQTTSuccess then
      .error .MQTTBadResponse
    else
      let topicNameLength := UINT16_DECODE pVariableHeader
      if checkPublishRemainingLength remainingLength qos (topicNameLength.toNat + 2) ≠ .MQTTSuccess then
        .error .MQTTBadResponse
      else
        let pTopicName := pVariableHeader.drop 2
        let pPacketIdentifierHigh := pTopicName.drop topicNameLength.toNat
        let packetId := if qos ≠ .MQTTQoS0 then UINT16_DECODE pPacketIdentifierHigh else pPacketId
        let behind := if qos ≠ .MQTTQoS0 then pPacketIdentifierHigh.drop 2 else pPacketIdentifierHigh
        if qos ≠ .MQTTQoS0 ∧ packetId = 0 then .error .MQTTBadResponse
        else
          let payloadLength := remainingLength - topicNameLength.toNat - 2
          let payloadLength := if qos ≠ .MQTTQoS0 then payloadLength - 2 else payloadLength
          .ok (packetId,
            { qos := qos
              retain := retain
              dup := dup
              pTopicName := some (pTopicName.take topicNameLength.toNat)
              topicNameLength := topicNameLength
              pPayload := if payloadLength ≠ 0 then some (behind.take payloadLength) else none
              payloadLength := payloadLength })

def MQTT_DeserializePublish (pIncomingPacket : MQTTPacketInfo) (pPacketId : UInt16) :
    Except MQTTStatus (UInt16 × MQTTPublishInfo) :=
  if pIncomingPacket.type &&& 0xF0 ≠ MQTT_PACKET_TYPE_PUBLISH then .error .MQTTBadParameter
  else deserializePublish pIncomingPacket pPacketId

end coremqtt.wire
