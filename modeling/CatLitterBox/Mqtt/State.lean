import CatLitterBox.Memory.Table
import CatLitterBox.Mqtt.Wire

open coremqtt.wire

namespace coremqtt.state

/-- `MQTTPublishState_t`. -/
inductive MQTTPublishState where
  | MQTTStateNull
  | MQTTPublishSend
  | MQTTPubAckSend
  | MQTTPubRecSend
  | MQTTPubRelSend
  | MQTTPubCompSend
  | MQTTPubAckPending
  | MQTTPubRecPending
  | MQTTPubRelPending
  | MQTTPubCompPending
  | MQTTPublishDone
deriving DecidableEq

/-- `MQTTPubAckType_t`. -/
inductive MQTTPubAckType where
  | MQTTPuback
  | MQTTPubrec
  | MQTTPubrel
  | MQTTPubcomp
deriving DecidableEq

/-- `MQTTStateOperation_t`. -/
inductive MQTTStateOperation where
  | MQTT_SEND
  | MQTT_RECEIVE
deriving DecidableEq

/-- `MQTTPubAckInfo_t`. -/
structure MQTTPubAckInfo where
  packetId : Nat
  qos : MQTTQoS
  publishState : MQTTPublishState
deriving DecidableEq

def MQTTPubAckInfo.free : MQTTPubAckInfo := ⟨MQTT_PACKET_ID_INVALID, .MQTTQoS0, .MQTTStateNull⟩

/-- The packet that a record is of, if it is in use. -/
def MQTTPubAckInfo.key (record : MQTTPubAckInfo) : Option Nat :=
  if record.packetId = MQTT_PACKET_ID_INVALID then none else some record.packetId

/-- The records of the context. -/
structure MQTTContext where
  outgoingPublishRecords : List MQTTPubAckInfo
  incomingPublishRecords : List MQTTPubAckInfo

/-- `MQTT_InitStatefulQoS` with records that have been cleared. -/
def MQTT_InitStatefulQoS (outgoingPublishCount incomingPublishCount : Nat) : MQTTContext where
  outgoingPublishRecords := List.replicate outgoingPublishCount .free
  incomingPublishRecords := List.replicate incomingPublishCount .free

def validateTransitionPublish (currentState newState : MQTTPublishState) (opType : MQTTStateOperation)
    (qos : MQTTQoS) : Bool :=
  match currentState with
  | .MQTTStateNull => opType = .MQTT_RECEIVE && (newState = .MQTTPubAckSend || newState = .MQTTPubRecSend)
  | .MQTTPublishSend =>
    match qos with
    | .MQTTQoS1 => newState = .MQTTPubAckPending
    | .MQTTQoS2 => newState = .MQTTPubRecPending
    | .MQTTQoS0 => false
  | .MQTTPubAckPending => newState = .MQTTPubAckPending
  | .MQTTPubRecPending => newState = .MQTTPubRecPending
  | _ => false

def validateTransitionAck (currentState newState : MQTTPublishState) : Bool :=
  match currentState with
  | .MQTTPubAckSend | .MQTTPubAckPending => newState = .MQTTPublishDone
  | .MQTTPubRecSend => newState = .MQTTPubRelPending
  | .MQTTPubRelPending => newState = .MQTTPubCompSend || newState = .MQTTPubRelPending
  | .MQTTPubCompSend => newState = .MQTTPublishDone || newState = .MQTTPubCompSend
  | .MQTTPubRecPending => newState = .MQTTPubRelSend
  | .MQTTPubRelSend => newState = .MQTTPubCompPending
  | .MQTTPubCompPending => newState = .MQTTPublishDone || newState = .MQTTPubCompPending
  | .MQTTPublishDone | .MQTTPublishSend | .MQTTStateNull => false

def isPublishOutgoing (packetType : MQTTPubAckType) (opType : MQTTStateOperation) : Bool :=
  match packetType with
  | .MQTTPuback | .MQTTPubrec | .MQTTPubcomp => opType = .MQTT_RECEIVE
  | .MQTTPubrel => opType = .MQTT_SEND

/-- The index of the record of a packet, with what is in it. -/
def findInRecord (records : List MQTTPubAckInfo) (packetId : Nat) : Option (Nat × MQTTPubAckInfo) :=
  match records.findIdx? fun record => record.packetId = packetId with
  | some index => (records[index]?).map fun record => (index, record)
  | none => none

def addRecord (records : List MQTTPubAckInfo) (packetId : Nat) (qos : MQTTQoS)
    (publishState : MQTTPublishState) :
    MQTTStatus × List MQTTPubAckInfo :=
  match table.add MQTTPubAckInfo.key .free records packetId ⟨packetId, qos, publishState⟩ with
  | (.added, records) => (.MQTTSuccess, records)
  | (.collision, records) => (.MQTTStateCollision, records)
  | (.full, records) => (.MQTTNoMemory, records)

def updateRecord (records : List MQTTPubAckInfo) (recordIndex : Nat) (newState : MQTTPublishState)
    (shouldDelete : Bool) : List MQTTPubAckInfo :=
  records.modify recordIndex fun record =>
    if shouldDelete then .free else { record with publishState := newState }

def MQTT_CalculateStateAck (packetType : MQTTPubAckType) (opType : MQTTStateOperation) (qos : MQTTQoS) :
    MQTTPublishState :=
  match packetType with
  | .MQTTPuback => if qos = .MQTTQoS1 then .MQTTPublishDone else .MQTTStateNull
  | .MQTTPubrec =>
    if qos = .MQTTQoS2 then if opType = .MQTT_SEND then .MQTTPubRelPending else .MQTTPubRelSend
    else .MQTTStateNull
  | .MQTTPubrel =>
    if qos = .MQTTQoS2 then if opType = .MQTT_SEND then .MQTTPubCompPending else .MQTTPubCompSend
    else .MQTTStateNull
  | .MQTTPubcomp => if qos = .MQTTQoS2 then .MQTTPublishDone else .MQTTStateNull

/-- The record of a PUBREC that has been received moves to the end, which keeps the order of the PUBRELs. -/
def updateStateAck (records : List MQTTPubAckInfo) (recordIndex packetId : Nat)
    (currentState newState : MQTTPublishState) : MQTTStatus × List MQTTPubAckInfo :=
  let shouldDeleteRecord : Bool := newState = .MQTTPublishDone || newState = .MQTTPubRelSend
  if validateTransitionAck currentState newState then
    if currentState ≠ newState then
      let records := updateRecord records recordIndex newState shouldDeleteRecord
      if newState = .MQTTPubRelSend then addRecord records packetId .MQTTQoS2 .MQTTPubRelSend
      else (.MQTTSuccess, records)
    else (.MQTTSuccess, records)
  else (.MQTTIllegalState, records)

def updateStatePublish (c : MQTTContext) (recordIndex packetId : Nat)
    (opType : MQTTStateOperation) (qos : MQTTQoS)
    (currentState newState : MQTTPublishState) : MQTTStatus × MQTTContext :=
  if validateTransitionPublish currentState newState opType qos then
    match opType with
    | .MQTT_RECEIVE =>
      let (status, incomingPublishRecords) := addRecord c.incomingPublishRecords packetId qos newState
      (status, { c with incomingPublishRecords })
    | .MQTT_SEND =>
      if currentState ≠ newState then
        (.MQTTSuccess,
          { c with outgoingPublishRecords := updateRecord c.outgoingPublishRecords recordIndex newState false })
      else (.MQTTSuccess, c)
  else (.MQTTIllegalState, c)

def MQTT_ReserveState (c : MQTTContext) (packetId : Nat) (qos : MQTTQoS) : MQTTStatus × MQTTContext :=
  if qos = .MQTTQoS0 then (.MQTTSuccess, c)
  else if packetId = MQTT_PACKET_ID_INVALID then (.MQTTBadParameter, c)
  else
    let (status, outgoingPublishRecords) := addRecord c.outgoingPublishRecords packetId qos .MQTTPublishSend
    (status, { c with outgoingPublishRecords })

def MQTT_CalculateStatePublish (opType : MQTTStateOperation) (qos : MQTTQoS) : MQTTPublishState :=
  match qos with
  | .MQTTQoS0 => .MQTTPublishDone
  | .MQTTQoS1 => if opType = .MQTT_SEND then .MQTTPubAckPending else .MQTTPubAckSend
  | .MQTTQoS2 => if opType = .MQTT_SEND then .MQTTPubRecPending else .MQTTPubRecSend

/-- With the new state where there is one: the callers set the variable for it to `MQTTStateNull` first. -/
def MQTT_UpdateStatePublish (c : MQTTContext) (packetId : Nat) (opType : MQTTStateOperation) (qos : MQTTQoS) :
    MQTTStatus × MQTTPublishState × MQTTContext :=
  if qos = .MQTTQoS0 then (.MQTTSuccess, .MQTTPublishDone, c)
  else if packetId = MQTT_PACKET_ID_INVALID then (.MQTTBadParameter, .MQTTStateNull, c)
  else
    let newState := MQTT_CalculateStatePublish opType qos
    let update (recordIndex : Nat) (currentState : MQTTPublishState) :=
      let (status, c) := updateStatePublish c recordIndex packetId opType qos currentState newState
      (status, if status = .MQTTSuccess then newState else .MQTTStateNull, c)
    match opType with
    | .MQTT_RECEIVE => update c.incomingPublishRecords.length .MQTTStateNull
    | .MQTT_SEND =>
      match findInRecord c.outgoingPublishRecords packetId with
      | none => (.MQTTBadParameter, .MQTTStateNull, c)
      | some (recordIndex, record) =>
        if record.qos ≠ qos then (.MQTTBadParameter, .MQTTStateNull, c)
        else update recordIndex record.publishState

def MQTT_UpdateStateAck (c : MQTTContext) (packetId : Nat) (packetType : MQTTPubAckType)
    (opType : MQTTStateOperation) : MQTTStatus × MQTTPublishState × MQTTContext :=
  if packetId = MQTT_PACKET_ID_INVALID then (.MQTTBadParameter, .MQTTStateNull, c)
  else
    let records :=
      if isPublishOutgoing packetType opType then c.outgoingPublishRecords else c.incomingPublishRecords
    match findInRecord records packetId with
    | none => (.MQTTBadResponse, .MQTTStateNull, c)
    | some (recordIndex, record) =>
      let newState := MQTT_CalculateStateAck packetType opType record.qos
      let (status, records) := updateStateAck records recordIndex packetId record.publishState newState
      (status, if status = .MQTTSuccess then newState else .MQTTStateNull,
        if isPublishOutgoing packetType opType then { c with outgoingPublishRecords := records }
        else { c with incomingPublishRecords := records })

/-- What the library does besides: a PUBLISH is given to the application or sent, an acknowledgment is given to
the application or sent, a publish takes its record, or a connection clears the records. -/
inductive Event where
  | delivered (packetId : Nat) (qos : MQTTQoS)
  | received (ackType : MQTTPubAckType) (packetId : Nat)
  | acknowledged (ackType : MQTTPubAckType) (packetId : Nat)
  | reserved (packetId : Nat) (qos : MQTTQoS)
  | published (packetId : Nat) (qos : MQTTQoS)
  | cleared
deriving DecidableEq

def getAckTypeToSend (state : MQTTPublishState) : Option MQTTPubAckType :=
  match state with
  | .MQTTPubAckSend => some .MQTTPuback
  | .MQTTPubRecSend => some .MQTTPubrec
  | .MQTTPubRelSend => some .MQTTPubrel
  | .MQTTPubCompSend => some .MQTTPubcomp
  | _ => none

/-- The context with its history, the latest event first. -/
structure Client where
  context : MQTTContext
  history : List Event

/-- Whether the transport takes the acknowledgment is given. -/
def sendPublishAcks (s : Client) (packetId : Nat) (publishState : MQTTPublishState) (sent : Bool) :
    MQTTStatus × Client :=
  match getAckTypeToSend publishState with
  | none => (.MQTTSuccess, s)
  | some packetType =>
    if packetId ≠ MQTT_PACKET_ID_INVALID ∧ sent then
      let (status, _, context) := MQTT_UpdateStateAck s.context packetId packetType .MQTT_SEND
      (status, ⟨context, .acknowledged packetType packetId :: s.history⟩)
    else (.MQTTSendFailed, s)

/-- From the PUBLISH that has been deserialized on. -/
def handleIncomingPublish (s : Client) (packetIdentifier : Nat) (qos : MQTTQoS) (sent : Bool) :
    MQTTStatus × Client :=
  let (status, publishRecordState, context) :=
    MQTT_UpdateStatePublish s.context packetIdentifier .MQTT_RECEIVE qos
  match status with
  | .MQTTSuccess =>
    sendPublishAcks ⟨context, .delivered packetIdentifier qos :: s.history⟩
      packetIdentifier publishRecordState sent
  | .MQTTStateCollision =>
    sendPublishAcks ⟨context, s.history⟩ packetIdentifier (MQTT_CalculateStatePublish .MQTT_RECEIVE qos) sent
  | status => (status, ⟨context, s.history⟩)

/-- From the acknowledgment that has been deserialized on. -/
def handlePublishAcks (s : Client) (ackType : MQTTPubAckType) (packetIdentifier : Nat) (sent : Bool) :
    MQTTStatus × Client :=
  let (status, publishRecordState, context) :=
    MQTT_UpdateStateAck s.context packetIdentifier ackType .MQTT_RECEIVE
  if status = .MQTTSuccess then
    sendPublishAcks ⟨context, .received ackType packetIdentifier :: s.history⟩
      packetIdentifier publishRecordState sent
  else (status, ⟨context, s.history⟩)

/-- A publish that has its record, if it needs one. -/
def sendPublish (s : Client) (packetId : Nat) (qos : MQTTQoS) (sent : Bool) : MQTTStatus × Client :=
  if sent then
    let (status, _, context) := MQTT_UpdateStatePublish s.context packetId .MQTT_SEND qos
    (status, ⟨context, .published packetId qos :: s.history⟩)
  else (.MQTTSendFailed, s)

/-- From the parameters that have been validated on. -/
def MQTT_Publish (s : Client) (packetId : Nat) (qos : MQTTQoS) (dup sent : Bool) : MQTTStatus × Client :=
  match MQTT_ReserveState s.context packetId qos with
  | (.MQTTSuccess, context) =>
    sendPublish ⟨context, if qos = .MQTTQoS0 then s.history else
      .reserved packetId qos :: s.history⟩ packetId qos sent
  | (.MQTTStateCollision, context) =>
    if dup then sendPublish ⟨context, s.history⟩ packetId qos sent else
      (.MQTTStateCollision, ⟨context, s.history⟩)
  | (status, context) => (status, ⟨context, s.history⟩)

/-- The next record from the cursor on that is in one of the states. -/
def stateSelect (searchStates : List MQTTPublishState) : List MQTTPubAckInfo → Nat → Nat × Nat
  | [], cursor => (MQTT_PACKET_ID_INVALID, cursor)
  | record :: records, cursor =>
    if record.publishState ∈ searchStates then (record.packetId, cursor + 1)
    else stateSelect searchStates records (cursor + 1)

def MQTT_PubrelToResend (c : MQTTContext) (cursor : Nat) : Nat × Nat :=
  stateSelect [.MQTTPubCompPending, .MQTTPubRelSend] (c.outgoingPublishRecords.drop cursor) cursor

/-- The loop over the PUBRELs, of which the transport takes some. Each turn moves the cursor on, so as many
turns as there are records are enough. -/
def resendPubrels (sent : Nat → Bool) : Nat → Client → Nat → MQTTStatus × Client
  | 0, s, _ => (.MQTTSuccess, s)
  | turns + 1, s, cursor =>
    let (packetId, cursor) := MQTT_PubrelToResend s.context cursor
    if packetId ≠ MQTT_PACKET_ID_INVALID then
      let (status, s) := sendPublishAcks s packetId .MQTTPubRelSend (sent packetId)
      if status = .MQTTSuccess then resendPubrels sent turns s cursor else (status, s)
    else (.MQTTSuccess, s)

def handleSessionResumption (s : Client) (sessionPresent : Bool) (sent : Nat → Bool) : MQTTStatus × Client :=
  if sessionPresent then resendPubrels sent s.context.outgoingPublishRecords.length s 0
  else
    (.MQTTSuccess, ⟨⟨s.context.outgoingPublishRecords.map fun _ => .free,
      s.context.incomingPublishRecords.map fun _ => .free⟩, .cleared :: s.history⟩)

/-- What happens to the library. -/
inductive Input where
  | PUBLISH (packetIdentifier : Nat) (qos : MQTTQoS) (sent : Bool)
  | ack (ackType : MQTTPubAckType) (packetIdentifier : Nat) (sent : Bool)
  | MQTT_Publish (packetId : Nat) (qos : MQTTQoS) (dup sent : Bool)
  | MQTT_Connect (sessionPresent : Bool) (sent : Nat → Bool)

def Client.step (s : Client) : Input → Client
  | .PUBLISH packetIdentifier qos sent => (handleIncomingPublish s packetIdentifier qos sent).2
  | .ack ackType packetIdentifier sent => (handlePublishAcks s ackType packetIdentifier sent).2
  | .MQTT_Publish packetId qos dup sent => (MQTT_Publish s packetId qos dup sent).2
  | .MQTT_Connect sessionPresent sent => (handleSessionResumption s sessionPresent sent).2

def Client.init (outgoingPublishCount incomingPublishCount : Nat) : Client :=
  ⟨MQTT_InitStatefulQoS outgoingPublishCount incomingPublishCount, []⟩

end coremqtt.state
