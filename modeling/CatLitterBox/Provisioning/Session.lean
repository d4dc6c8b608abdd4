import CatLitterBox.Mqtt.Operations
import CatLitterBox.Program.Oracle

open program coremqtt

namespace catbox.provisioning

open catbox.session catbox.mqtt

/-- The queues of `aws_iot_task.c`. -/
inductive Queue where
  | mqtt_tx_queue
  | tracker_mqtt_queue
deriving DecidableEq

/-- The commands of `messege_tx_mqtt_cmd_e` that go into a queue. -/
def Queue.Cmd : Queue → Type
  | .mqtt_tx_queue => session.Cmd
  | .tracker_mqtt_queue => TrackerCmd

/-- `mqtt_packet_t`, and `tracker_mqtt_packet_t` without its packet. The data is NULL or a
block of the heap. -/
structure Packet (q : Queue) where
  cmd : q.Cmd
  data : Option Nat
  data_len : Nat

/-- A packet of the broker that `mqttCallback` tells apart. -/
inductive Received where
  | PUBLISH
  | SUBACK (packetId : Nat)
  | UNSUBACK (packetId : Nat)
  | PUBACK (packetId : Nat)
  | other

/-- A call of `MQTT_ProcessLoop`: whether its status is MQTTSuccess or MQTTNeedMoreBytes, and the
packet that it has handed to the callback. -/
structure ProcessLoop where
  status : Bool
  received : Option Received

/-- What `aws_iot_main_entry` and the functions below it ask of the libraries, of the broker
and of the rest of the system. -/
inductive Action where
  | xEventGroupWaitBits
  | xQueueCreate (q : Queue)
  | xQueueReset (q : Queue)
  | xQueueReceive (q : Queue)
  | mqtt_queue_send (cmd : session.Cmd)
  | Send_cJSON_Messege (q : Queue) (p : Packet q)
  | free (data : Nat)
  | malloc_topic
  | free_topic (topic : Nat)
  | esp_timer_create
  | esp_timer_start_once
  | esp_timer_stop
  | vTaskDelay (delay : Nat)
  | esp_restart
  | abort
  | set_aws_started
  | read_nvs_registration_flag
  | xInitializePkcs11Session
  | pkcs11CloseSession
  /-- The number of retries before it is of no concern to the function. -/
  | Mbedtls_Pkcs11_Connect (attemptsDone : Nat)
  | Mbedtls_Pkcs11_Disconnect
  | Clock_SleepMs
  | MQTT_Connect
  | MQTT_Disconnect
  | handlePublishResend
  | cleanupOutgoingPublishes
  | MQTT_Subscribe (packetId : Nat) (topic : session.Cmd)
  | MQTT_ProcessLoop
  | getTime

/-- The answers: a session that the broker has is none if `MQTT_Connect` fails; a publish takes
a packet identifier from the context. -/
def Action.Answer : Action → Type
  | .xQueueReceive q => Option (Packet q)
  | .Send_cJSON_Messege _ _ => Context
  | .malloc_topic => Option Nat
  | .read_nvs_registration_flag => Bool
  | .xInitializePkcs11Session => Bool
  | .Mbedtls_Pkcs11_Connect _ => Bool
  | .MQTT_Connect => Option Bool
  | .MQTT_Disconnect => Bool
  | .handlePublishResend => Bool
  | .MQTT_Subscribe _ _ => Bool
  | .MQTT_ProcessLoop => ProcessLoop
  | .getTime => UInt32
  | _ => Unit

abbrev Code (α : Type) : Type 1 := Program Action Action.Answer α

abbrev Event : Type := (a : Action) × a.Answer

def act (a : Action) : Code a.Answer := Program.perform a

/-- The end of the run: the last action is repeated for ever. -/
def halt {α : Type} (a : Action) : Code α :=
  (Program.repeated (β := Empty) (fun _ : Unit => (act a).bind fun _ => .ret (.inl ())) ()).bind nofun

/-- The answers of a world in which everything succeeds, and which sends nothing. -/
def Action.success : (a : Action) → a.Answer
  | .xEventGroupWaitBits => ()
  | .xQueueCreate _ => ()
  | .xQueueReset _ => ()
  | .xQueueReceive _ => none
  | .mqtt_queue_send _ => ()
  | .Send_cJSON_Messege _ _ => MQTT_Init
  | .free _ => ()
  | .malloc_topic => some 0
  | .free_topic _ => ()
  | .esp_timer_create => ()
  | .esp_timer_start_once => ()
  | .esp_timer_stop => ()
  | .vTaskDelay _ => ()
  | .esp_restart => ()
  | .abort => ()
  | .set_aws_started => ()
  | .read_nvs_registration_flag => true
  | .xInitializePkcs11Session => true
  | .pkcs11CloseSession => ()
  | .Mbedtls_Pkcs11_Connect _ => true
  | .Mbedtls_Pkcs11_Disconnect => ()
  | .Clock_SleepMs => ()
  | .MQTT_Connect => some true
  | .MQTT_Disconnect => true
  | .handlePublishResend => true
  | .cleanupOutgoingPublishes => ()
  | .MQTT_Subscribe _ _ => true
  | .MQTT_ProcessLoop => ⟨true, none⟩
  | .getTime => (0 : UInt32)

/-- The static variables of `mqtt_operations.c`, and those of `rx_mqtt.c`, where `topic_count`
is the length of `topic_str`. -/
structure Static where
  mqttContext : Context
  mqttSessionEstablished : Bool
  globalSubscribePacketIdentifier : Nat
  globalUnsubscribePacketIdentifier : Nat
  globalAckPacketIdentifier : Nat
  topic_str : List Nat

def Static.boot : Static where
  mqttContext := ⟨0, false⟩
  mqttSessionEstablished := false
  globalSubscribePacketIdentifier := 0
  globalUnsubscribePacketIdentifier := 0
  globalAckPacketIdentifier := 0
  topic_str := []

def CONNECTION_RETRY_MAX_ATTEMPTS : Nat := 5
def MQTT_PROCESS_LOOP_TIMEOUT_MS : UInt32 := 1000

/-- The acknowledgements of `mqttCallback`; none if one of its assertions fails. -/
def mqttCallback (s : Static) : Received → Option Static
  | .SUBACK packetId =>
    if s.globalSubscribePacketIdentifier = packetId then some { s with globalAckPacketIdentifier := packetId }
    else none
  | .UNSUBACK packetId =>
    if s.globalUnsubscribePacketIdentifier = packetId then some { s with globalAckPacketIdentifier := packetId }
    else none
  | .PUBACK packetId => some { s with globalAckPacketIdentifier := packetId }
  | .PUBLISH => some s
  | .other => some s

/-- A failed assertion ends in `abort`. -/
def MQTT_ProcessLoop (s : Static) : Code (Bool × Static) := do
  let r : ProcessLoop ← act .MQTT_ProcessLoop
  match r.received.elim (some s) (mqttCallback s) with
  | some s => return (r.status, s)
  | none => halt .abort

/-- The loop of `connectToBrokerWithBackoffRetries`, with the retries that the back-off
algorithm has granted. -/
def connectToBrokerWithBackoffRetries : Code Bool :=
  Program.repeated (fun attemptsDone : Nat => do
    let connected : Bool ← act (.Mbedtls_Pkcs11_Connect attemptsDone)
    if connected then return .inr true
    else if attemptsDone < CONNECTION_RETRY_MAX_ATTEMPTS then do
      let _ ← act .Clock_SleepMs
      return .inl (attemptsDone + 1)
    else return .inr false) 0

/-- `MQTT_Init` and `MQTT_InitStatefulQoS` only check their arguments, which are all in order here. -/
def EstablishMqttSession (s : Static) : Code (Bool × Static) := do
  let connected ← connectToBrokerWithBackoffRetries
  if !connected then return (false, { s with mqttContext := ⟨0, false⟩ })
  else do
    let s := { s with mqttContext := MQTT_Init }
    let sessionPresent : Option Bool ← act .MQTT_Connect
    match sessionPresent with
    | none => do
      let _ ← act .Mbedtls_Pkcs11_Disconnect
      return (false, s)
    | some true => do
      let resent : Bool ← act .handlePublishResend
      return (resent, { s with mqttSessionEstablished := true })
    | some false => do
      let _ ← act .cleanupOutgoingPublishes
      return (true, { s with mqttSessionEstablished := true })

def DisconnectMqttSession (s : Static) : Code Unit := do
  if s.mqttSessionEstablished then do
    let _ ← act .MQTT_Disconnect
    let _ ← act .Mbedtls_Pkcs11_Disconnect
    return ()
  else do
    let _ ← act .Mbedtls_Pkcs11_Disconnect
    return ()

/-- The variables of the loop of `waitForPacketAck`. -/
structure Wait where
  statics : Static
  ulCurrentTime : UInt32
  status : Bool

def Wait.ends (w : Wait) (usPacketIdentifier : Nat) (ulMqttProcessLoopTimeoutTime : UInt32) : Prop :=
  w.statics.globalAckPacketIdentifier = usPacketIdentifier ∨ ¬ w.ulCurrentTime < ulMqttProcessLoopTimeoutTime ∨
    w.status = false

instance (w : Wait) (usPacketIdentifier : Nat) (ulMqttProcessLoopTimeoutTime : UInt32) :
    Decidable (w.ends usPacketIdentifier ulMqttProcessLoopTimeoutTime) := by
  unfold Wait.ends
  infer_instance

/-- One turn of the loop; the wait succeeds if the identifier was acknowledged and no call failed. -/
def waitForPacketAck_turn (usPacketIdentifier : Nat) (ulMqttProcessLoopTimeoutTime : UInt32) (w : Wait) :
    Code (Wait ⊕ (Bool × Static)) := do
  if w.ends usPacketIdentifier ulMqttProcessLoopTimeoutTime then
    return .inr (w.status && decide (w.statics.globalAckPacketIdentifier = usPacketIdentifier), w.statics)
  else do
    let (status, s) ← MQTT_ProcessLoop w.statics
    let ulCurrentTime : UInt32 ← act .getTime
    return .inl ⟨s, ulCurrentTime, status⟩

def waitForPacketAck (s : Static) (usPacketIdentifier : Nat) (ulTimeout : UInt32) : Code (Bool × Static) := do
  let ulCurrentTime : UInt32 ← act .getTime
  Program.repeated (waitForPacketAck_turn usPacketIdentifier (ulCurrentTime + ulTimeout))
    ⟨{ s with globalAckPacketIdentifier := 0 }, ulCurrentTime, true⟩

/-- The statics once the packet identifier of a SUBSCRIBE has been taken. -/
def Static.subscribing (s : Static) : Static :=
  { s with
    mqttContext := (MQTT_GetPacketId s.mqttContext).2
    globalSubscribePacketIdentifier := (MQTT_GetPacketId s.mqttContext).1 }

/-- The topic is the result topic of a command. -/
def SubscribeToTopic (s : Static) (topic : session.Cmd) : Code (Bool × Static) := do
  let s := s.subscribing
  let sent : Bool ← act (.MQTT_Subscribe s.globalSubscribePacketIdentifier topic)
  if !sent then return (false, s)
  else waitForPacketAck s s.globalSubscribePacketIdentifier MQTT_PROCESS_LOOP_TIMEOUT_MS

/-- One turn of the loop of `ProcessLoopWithTimeout`. -/
def ProcessLoopWithTimeout_turn (ulMqttProcessLoopTimeoutTime : UInt32) (w : Wait) :
    Code (Wait ⊕ (Bool × Static)) := do
  if w.ulCurrentTime < ulMqttProcessLoopTimeoutTime ∧ w.status then do
    let (status, s) ← MQTT_ProcessLoop w.statics
    let _ ← act (.vTaskDelay 10)
    let ulCurrentTime : UInt32 ← act .getTime
    return .inl ⟨s, ulCurrentTime, status⟩
  else return .inr (w.status, w.statics)

def ProcessLoopWithTimeout (s : Static) (Timeout : UInt32) : Code (Bool × Static) := do
  let ulCurrentTime : UInt32 ← act .getTime
  Program.repeated (ProcessLoopWithTimeout_turn (ulCurrentTime + Timeout)) ⟨s, ulCurrentTime, true⟩

variable {p : Action → Prop} {s : Static} {α : Type}

theorem every_act {a : Action} (ha : p a) : (act a).Every p := Program.every_perform ha

/-- An action that ends the program performs that action only. -/
theorem every_halt {a : Action} (ha : p a) : (halt a : Code α).Every p := by
  refine Program.every_bind (Program.every_repeated fun _ => ?_) nofun
  exact Program.every_bind (every_act ha) fun _ => trivial

theorem mqtt_processLoop_every (hloop : p .MQTT_ProcessLoop) (habort : p .abort) :
    (MQTT_ProcessLoop s).Every p := by
  refine Program.every_bind (every_act hloop) fun r => ?_
  cases r.received.elim (some s) (mqttCallback s) with
  | none => exact every_halt habort
  | some s => trivial

private theorem waitForPacketAck_every {usPacketIdentifier : Nat} {ulTimeout : UInt32} (hloop : p .MQTT_ProcessLoop)
    (habort : p .abort) (htime : p .getTime) : (waitForPacketAck s usPacketIdentifier ulTimeout).Every p := by
  refine Program.every_bind (every_act htime) fun now => Program.every_repeated fun w => ?_
  refine Program.every_ite trivial ?_
  refine Program.every_bind (mqtt_processLoop_every hloop habort) fun r => ?_
  exact Program.every_bind (every_act htime) fun _ => trivial

/-- A subscription is sent and waited for, and does nothing else. -/
theorem subscribeToTopic_every {topic : session.Cmd} (hsend : ∀ packetId, p (.MQTT_Subscribe packetId topic))
    (hloop : p .MQTT_ProcessLoop) (habort : p .abort) (htime : p .getTime) :
    (SubscribeToTopic s topic).Every p := by
  refine Program.every_bind (every_act (hsend _)) fun sent => ?_
  exact Program.every_ite trivial (waitForPacketAck_every hloop habort htime)

/-- A wait processes packets, sleeps and looks at the clock. -/
theorem processLoopWithTimeout_every {timeout : UInt32} (hloop : p .MQTT_ProcessLoop) (habort : p .abort)
    (hdelay : p (.vTaskDelay 10)) (htime : p .getTime) : (ProcessLoopWithTimeout s timeout).Every p := by
  refine Program.every_bind (every_act htime) fun now => Program.every_repeated fun w => ?_
  refine Program.every_ite ?_ trivial
  refine Program.every_bind (mqtt_processLoop_every hloop habort) fun r => ?_
  refine Program.every_bind (every_act hdelay) fun _ => ?_
  exact Program.every_bind (every_act htime) fun _ => trivial

/-- The broker is called, with a sleep before each retry. -/
theorem connectToBroker_every (hconnect : ∀ attemptsDone, p (.Mbedtls_Pkcs11_Connect attemptsDone))
    (hsleep : p .Clock_SleepMs) : connectToBrokerWithBackoffRetries.Every p := by
  refine Program.every_repeated fun attemptsDone => ?_
  refine Program.every_bind (every_act (hconnect _)) fun connected => ?_
  refine Program.every_ite trivial (Program.every_ite ?_ trivial)
  exact Program.every_bind (every_act hsleep) fun _ => trivial

/-- The MQTT session is closed before the TLS connection. -/
theorem disconnectMqttSession_every (hmqtt : p .MQTT_Disconnect) (htls : p .Mbedtls_Pkcs11_Disconnect) :
    (DisconnectMqttSession s).Every p := by
  refine Program.every_ite ?_ ?_
  · refine Program.every_bind (every_act hmqtt) fun _ => ?_
    exact Program.every_bind (every_act htls) fun _ => trivial
  · exact Program.every_bind (every_act htls) fun _ => trivial

end catbox.provisioning
