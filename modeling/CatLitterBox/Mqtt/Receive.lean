import CatLitterBox.Mqtt.Header
import CatLitterBox.Program.Oracle

open program text

namespace coremqtt.wire

/-- What the receiver asks of the transport, of the clock and of the handlers of its packets, and what it
returns to the caller of `MQTT_ProcessLoop`. `lastPacketTxTime` is read: all that is sent sets it, also by the
handlers and by the application between two calls. -/
inductive Action where
  | recv (bytesToRecv : Nat)
  | send (bytes : Bytes)
  | getTime
  | lastPacketTxTime
  | handleIncomingPublish (packet : MQTTPacketInfo)
  | handleIncomingAck (packet : MQTTPacketInfo)
  | returned (status : MQTTStatus)
deriving DecidableEq

/-- The transport gives no more bytes than it is asked for and takes no more than it is given, or it gives a
number below zero. The handlers give any status but the ones of the receiver's own. -/
def Action.Answer : Action → Type
  | .recv bytesToRecv => Option { data : Bytes // data.length ≤ bytesToRecv }
  | .send bytes => Option { taken : Nat // taken ≤ bytes.length }
  | .getTime | .lastPacketTxTime => UInt32
  | .handleIncomingPublish _ | .handleIncomingAck _ =>
    { status : MQTTStatus // status ≠ .MQTTNeedMoreBytes ∧ status ≠ .MQTTKeepAliveTimeout }
  | .returned _ => Unit

abbrev Receiver := Program Action Action.Answer

abbrev Event := (a : Action) × a.Answer

def recv (bytesToRecv : Nat) : Receiver (Option { data : Bytes // data.length ≤ bytesToRecv }) :=
  Program.perform (R := Action.Answer) (.recv bytesToRecv)

def send (bytes : Bytes) : Receiver (Option { taken : Nat // taken ≤ bytes.length }) :=
  Program.perform (R := Action.Answer) (.send bytes)

def getTime : Receiver UInt32 := Program.perform (R := Action.Answer) .getTime

def lastPacketTxTime : Receiver UInt32 := Program.perform (R := Action.Answer) .lastPacketTxTime

def handleIncomingPublish (packet : MQTTPacketInfo) :
    Receiver { status : MQTTStatus // status ≠ .MQTTNeedMoreBytes ∧ status ≠ .MQTTKeepAliveTimeout } :=
  Program.perform (R := Action.Answer) (.handleIncomingPublish packet)

def handleIncomingAck (packet : MQTTPacketInfo) :
    Receiver { status : MQTTStatus // status ≠ .MQTTNeedMoreBytes ∧ status ≠ .MQTTKeepAliveTimeout } :=
  Program.perform (R := Action.Answer) (.handleIncomingAck packet)

def returned (status : MQTTStatus) : Receiver Unit := Program.perform (R := Action.Answer) (.returned status)

def MQTT_RECV_POLLING_TIMEOUT_MS : UInt32 := 10
def MQTT_PINGRESP_TIMEOUT_MS : UInt32 := 5000
def PACKET_TX_TIMEOUT_MS : UInt32 := 30000
def PACKET_RX_TIMEOUT_MS : UInt32 := 30000

def calculateElapsedTime (later start : UInt32) : UInt32 := later - start

/-- The fields of `MQTTContext_t` that the receiver uses: the size of the network buffer and its first `index`
bytes, and what the keep alive is managed with. -/
structure MQTTContext where
  size : Nat
  received : Bytes
  keepAliveIntervalSec : UInt16
  lastPacketRxTime : UInt32
  pingReqSendTimeMs : UInt32
  waitingForPingResp : Bool

/-- The number of bytes that have been sent, or none for an error, and the time that has been set by it. -/
structure SendBuffer where
  bytesSentOrError : Option Nat
  lastPacketTxTime : UInt32

/-- The end of a turn of `sendBuffer`, which looks for the timeout. -/
def sendBufferTimeout (startTime : UInt32) (w : SendBuffer) : Receiver (SendBuffer ⊕ SendBuffer) := do
  let now ← getTime
  pure (if MQTT_SEND_TIMEOUT_MS ≤ calculateElapsedTime now startTime then .inr w else .inl w)

/-- A turn of the loop of `sendBuffer`. -/
def sendBufferTurn (bytes : Bytes) (startTime : UInt32) (w : SendBuffer) : Receiver (SendBuffer ⊕ SendBuffer) :=
  match w.bytesSentOrError with
  | none => pure (.inr w)
  | some bytesSent =>
    if bytesSent < bytes.length then do
      match ← send (bytes.drop bytesSent) with
      | none => sendBufferTimeout startTime ⟨none, w.lastPacketTxTime⟩
      | some taken =>
        if 0 < taken.val then do
          let now ← getTime
          sendBufferTimeout startTime ⟨some (bytesSent + taken.val), now⟩
        else sendBufferTimeout startTime w
    else pure (.inr w)

def sendBuffer (bytes : Bytes) (lastPacketTxTime : UInt32) : Receiver SendBuffer := do
  let startTime ← getTime
  Program.repeated (sendBufferTurn bytes startTime) ⟨some 0, lastPacketTxTime⟩

/-- `MQTT_SerializePingreq`. -/
def pingreqPacket : Bytes := [MQTT_PACKET_TYPE_PINGREQ, 0]

def MQTT_Ping (context : MQTTContext) (lastPacketTxTime : UInt32) : Receiver (MQTTStatus × MQTTContext) := do
  let w ← sendBuffer pingreqPacket lastPacketTxTime
  pure (if w.bytesSentOrError.all (· < pingreqPacket.length) then (.MQTTSendFailed, context)
    else (.MQTTSuccess, { context with pingReqSendTimeMs := w.lastPacketTxTime, waitingForPingResp := true }))

def packetTxTimeoutMs (keepAliveIntervalSec : UInt16) : UInt32 :=
  let packetTxTimeoutMs := 1000 * keepAliveIntervalSec.toUInt32
  if PACKET_TX_TIMEOUT_MS < packetTxTimeoutMs then PACKET_TX_TIMEOUT_MS else packetTxTimeoutMs

/-- It is time for a PINGREQ, by what was sent last or by what was received last. -/
def pingDue (context : MQTTContext) (now lastPacketTxTime : UInt32) : Bool :=
  (packetTxTimeoutMs context.keepAliveIntervalSec ≠ 0 &&
    packetTxTimeoutMs context.keepAliveIntervalSec ≤ calculateElapsedTime now lastPacketTxTime) ||
  (calculateElapsedTime now context.lastPacketRxTime ≠ 0 &&
    PACKET_RX_TIMEOUT_MS ≤ calculateElapsedTime now context.lastPacketRxTime)

def handleKeepAlive (context : MQTTContext) : Receiver (MQTTStatus × MQTTContext) := do
  let now ← getTime
  if context.waitingForPingResp then
    pure (if MQTT_PINGRESP_TIMEOUT_MS < calculateElapsedTime now context.pingReqSendTimeMs
      then .MQTTKeepAliveTimeout
      else .MQTTSuccess, context)
  else do
    let lastPacketTxTime ← lastPacketTxTime
    if pingDue context now lastPacketTxTime then MQTT_Ping context lastPacketTxTime else pure (.MQTTSuccess, context)

/-- The variables of the loop of `recvExact`. -/
structure RecvExact where
  bytesRemaining : Nat
  totalBytesRecvd : Nat
  lastDataRecvTimeMs : UInt32

/-- The number of bytes, or none for an error of the transport. -/
def recvExact (bytesToRecv : Nat) : Receiver (Option Nat) := do
  let lastDataRecvTimeMs ← getTime
  Program.repeated (fun w : RecvExact =>
    if w.bytesRemaining = 0 then pure (.inr (some w.totalBytesRecvd))
    else do
      match ← recv w.bytesRemaining with
      | none => pure (.inr none)
      | some data =>
        if 0 < data.val.length then do
          let lastDataRecvTimeMs ← getTime
          pure (.inl ⟨w.bytesRemaining - data.val.length,
            w.totalBytesRecvd + data.val.length, lastDataRecvTimeMs⟩)
        else do
          let now ← getTime
          if MQTT_RECV_POLLING_TIMEOUT_MS ≤ calculateElapsedTime now w.lastDataRecvTimeMs then
            pure (.inr (some w.totalBytesRecvd))
          else pure (.inl w))
    ⟨bytesToRecv, 0, lastDataRecvTimeMs⟩

/-- The variables of the loop of `discardStoredPacket`. -/
structure Discard where
  totalBytesReceived : Nat
  bytesToReceive : Nat

/-- A turn of the loop of `discardStoredPacket`, which leaves with the number of bytes it has received. -/
def discardTurn (remainingLength : Nat) (w : Discard) : Receiver (Discard ⊕ Nat) :=
  if w.totalBytesReceived < remainingLength then do
    let bytesToReceive :=
      if remainingLength - w.totalBytesReceived < w.bytesToReceive then remainingLength - w.totalBytesReceived
      else w.bytesToReceive
    let bytesReceived ← recvExact bytesToReceive
    if bytesReceived = some bytesToReceive then pure (.inl ⟨w.totalBytesReceived + bytesToReceive, bytesToReceive⟩)
    else pure (.inr w.totalBytesReceived)
  else pure (.inr w.totalBytesReceived)

def discardStoredPacket (context : MQTTContext) (packet : MQTTPacketInfo) :
    Receiver (MQTTStatus × MQTTContext) := do
  let mqttPacketSize := packet.remainingLength + packet.headerLength
  let remainingLength := mqttPacketSize - context.received.length
  let totalBytesReceived ← Program.repeated (discardTurn remainingLength) ⟨0, context.size⟩
  pure (if totalBytesReceived = remainingLength then .MQTTNoDataAvailable else .MQTTRecvFailed,
    { context with received := [] })

/-- `MQTTPacketInfo_t` with all its fields 0. -/
def noPacket : MQTTPacketInfo := ⟨0, [], 0, 0⟩

/-- A PUBLISH has flags in the lower four bits of its type. -/
def handleIncoming (packet : MQTTPacketInfo) :
    Receiver { status : MQTTStatus // status ≠ .MQTTNeedMoreBytes ∧ status ≠ .MQTTKeepAliveTimeout } :=
  if packet.type &&& 0xF0 = MQTT_PACKET_TYPE_PUBLISH then handleIncomingPublish packet
  else handleIncomingAck packet

/-- A PINGRESP ends the wait for it. -/
def stillWaiting (manageKeepAlive : Bool) (packet : MQTTPacketInfo) (status : MQTTStatus)
    (waitingForPingResp : Bool) : Bool :=
  waitingForPingResp && !(packet.type = MQTT_PACKET_TYPE_PINGRESP && status = .MQTTSuccess && manageKeepAlive)

/-- The packet is handed on, and taken off the buffer. -/
def handlePacket (manageKeepAlive : Bool) (context : MQTTContext) (packet : MQTTPacketInfo) :
    Receiver (MQTTStatus × MQTTContext) := do
  let status ← handleIncoming { packet with pRemainingData := context.received.drop packet.headerLength }
  let context := { context with
    received := context.received.drop (packet.remainingLength + packet.headerLength)
    waitingForPingResp := stillWaiting manageKeepAlive packet status.val context.waitingForPingResp }
  if status.val = .MQTTSuccess then do
    let now ← getTime
    pure (status.val, { context with lastPacketRxTime := now })
  else pure (status.val, context)

/-- What is known of the first packet when the transport has been read. -/
def processReceived (context : MQTTContext) : Option Bytes → MQTTStatus × MQTTContext × MQTTPacketInfo
  | none => (.MQTTRecvFailed, context, noPacket)
  | some data =>
    if data = [] ∧ context.received = [] then (.MQTTNoDataAvailable, context, noPacket)
    else
      let received := context.received ++ data
      let (status, packet) := MQTT_ProcessIncomingPacketTypeAndLength received noPacket
      (status, { context with received := received }, packet)

/-- Where no data was received, the keep alive timeout is checked. -/
def checkKeepAlive (manageKeepAlive : Bool) (recvBytes : Option Bytes) (status : MQTTStatus)
    (context : MQTTContext) :
    Receiver (MQTTStatus × MQTTContext) :=
  if recvBytes = some [] ∧ manageKeepAlive = true then do
    let (keepAlive, context) ← handleKeepAlive context
    pure (if keepAlive = .MQTTSuccess then status else keepAlive, context)
  else pure (status, context)

def processPacket (manageKeepAlive : Bool) (status : MQTTStatus) (context : MQTTContext)
    (incomingPacket : MQTTPacketInfo) : Receiver (MQTTStatus × MQTTContext) :=
  let totalMQTTPacketLength := incomingPacket.remainingLength + incomingPacket.headerLength
  if status ≠ .MQTTSuccess then pure (status, context)
  else if context.size < totalMQTTPacketLength then discardStoredPacket context incomingPacket
  else if context.received.length < totalMQTTPacketLength then pure (.MQTTNeedMoreBytes, context)
  else handlePacket manageKeepAlive context incomingPacket

def receiveSingleIteration (manageKeepAlive : Bool) (context : MQTTContext) :
    Receiver (MQTTStatus × MQTTContext) := do
  let recvBytes ← recv (context.size - context.received.length)
  let (status, context, incomingPacket) := processReceived context (recvBytes.map Subtype.val)
  let (status, context) ← checkKeepAlive manageKeepAlive (recvBytes.map Subtype.val) status context
  let (status, context) ← processPacket manageKeepAlive status context incomingPacket
  pure (if status = .MQTTNoDataAvailable then .MQTTSuccess else status, context)

/-- The calls of `MQTT_ProcessLoop` or `MQTT_ReceiveLoop` on a connection, until the transport fails. -/
def connection (manageKeepAlive : Bool) (context : MQTTContext) : Receiver Unit :=
  Program.repeated (fun context : MQTTContext => do
    let (status, context) ← receiveSingleIteration manageKeepAlive context
    returned status
    pure (if status = .MQTTRecvFailed then .inr () else .inl context))
    context

/-- The context when `MQTT_Init` has cleared it and `MQTT_Connect` has succeeded. -/
def connected (size : Nat) (keepAliveSeconds : UInt16) : MQTTContext where
  size := size
  received := []
  keepAliveIntervalSec := keepAliveSeconds
  lastPacketRxTime := 0
  pingReqSendTimeMs := 0
  waitingForPingResp := false

/-- The bytes that the transport has given. -/
def received : List Event → Bytes
  | [] => []
  | ⟨.recv _, some data⟩ :: h => received h ++ data.val
  | _ :: h => received h

/-- The type of a packet, and what comes behind its header. -/
def MQTTPacketInfo.content (packet : MQTTPacketInfo) : UInt8 × Bytes :=
  (packet.type, packet.pRemainingData.take packet.remainingLength)

/-- The packets that have been handed on. -/
def handled : List Event → List (UInt8 × Bytes)
  | [] => []
  | ⟨.handleIncomingPublish packet, _⟩ :: h | ⟨.handleIncomingAck packet, _⟩ :: h =>
    handled h ++ [packet.content]
  | _ :: h => handled h

/-- The size of the packet in front, as its header says it. -/
def packetSize (bytes : Bytes) : Option Nat :=
  match MQTT_ProcessIncomingPacketTypeAndLength bytes noPacket with
  | (.MQTTSuccess, packet) => some (packet.remainingLength + packet.headerLength)
  | _ => none

/-- The content of a packet of so many bytes. -/
def unpack (f : Bytes) : UInt8 × Bytes :=
  let packet := (MQTT_ProcessIncomingPacketTypeAndLength f noPacket).2
  (packet.type, f.drop packet.headerLength)

/-- What a receiver with a buffer of that size makes of some packets: the ones that fit, one by one. -/
def contents (size : Nat) (packets : List Bytes) : List (UInt8 × Bytes) :=
  (packets.filter (·.length ≤ size)).map unpack

/-- A peer that takes all that is sent to it and says nothing, with a clock. -/
def silent (clock : List Event → UInt32) : (a : Action) → List Event → a.Answer
  | .recv _, _ => some ⟨[], Nat.zero_le _⟩
  | .send bytes, _ => some ⟨bytes.length, Nat.le_refl _⟩
  | .getTime, h => clock h
  | .lastPacketTxTime, _ => .ofNat 0
  | .handleIncomingPublish _, _ | .handleIncomingAck _, _ =>
    ⟨.MQTTSuccess, MQTTStatus.noConfusion, MQTTStatus.noConfusion⟩
  | .returned _, _ => ()

end coremqtt.wire
