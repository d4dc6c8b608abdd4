import CatLitterBox.Provisioning.Session

open program coremqtt

namespace catbox.provisioning

open catbox.session catbox.mqtt

/-- The pointer of the copy, if there is one. -/
def topic_copy (s : Static) : Code (Option Nat × Static) := do
  if 30 ≤ s.topic_str.length then return (none, s)
  else do
    let topic : Option Nat ← act .malloc_topic
    match topic with
    | none => return (none, s)
    | some topic => return (some topic, { s with topic_str := s.topic_str ++ [topic] })

/-- One of the seven blocks of `mqtt_subscribe_init`: what `SubscribeToTopic` returns is only logged. -/
def subscribe (topic : session.Cmd) (s : Static) : Code Static := do
  let (subTopic, s) ← topic_copy s
  match subTopic with
  | none => return s
  | some _ => do
    let (_, s) ← SubscribeToTopic s topic
    return s

def free_topics : List Nat → Code Unit
  | [] => return ()
  | topic :: topics => do
    let _ ← act (.free_topic topic)
    free_topics topics

def mqtt_subscribe_init (s : Static) : Code (Bool × Static) := do
  free_topics s.topic_str
  let s := { s with topic_str := [] }
  let s ← subscribe .MESSEGE_REGISTRATION s
  let s ← subscribe .MESSEGE_BOOT s
  let s ← subscribe .MESSEGE_ACCESS s
  let s ← subscribe .MESSEGE_USAGE s
  let s ← subscribe .MESSEGE_CLEAN_RESULT s
  let s ← subscribe .MESSEGE_DIAGNOSTICS s
  let s ← subscribe .MESSEGE_HEALTH s
  return (true, s)

/-- EXIT_SUCCESS or EXIT_FAILURE. -/
inductive ExitCode where
  | EXIT_SUCCESS
  | EXIT_FAILURE
deriving DecidableEq

/-- Steps 3 to 5 of `aws_iot_provisioning_main`: the session with the device certificate. -/
def device_session (is_registered : Bool) (s : Static) : Code (ExitCode × Static) := do
  let (established, s) ← EstablishMqttSession s
  if !established then return (.EXIT_FAILURE, s)
  else do
    let (subscribed, s) ← mqtt_subscribe_init s
    if !subscribed then do
      DisconnectMqttSession s
      return (.EXIT_FAILURE, s)
    else do
      let _ ← act (.mqtt_queue_send (if is_registered then .MESSEGE_BOOT else .MESSEGE_REGISTRATION))
      return (.EXIT_SUCCESS, s)

/-- Step 2 of `aws_iot_provisioning_main`: the session with the claim certificate. -/
def claim_session (s : Static) : Code (Bool × Static) := do
  let (established, s) ← EstablishMqttSession s
  if !established then return (false, s)
  else do
    DisconnectMqttSession s
    let _ ← act (.vTaskDelay 1000)
    return (true, s)

def aws_iot_provisioning_main (s : Static) : Code (ExitCode × Static) := do
  let is_registered : Bool ← act .read_nvs_registration_flag
  let opened : Bool ← act .xInitializePkcs11Session
  if !opened then return (.EXIT_FAILURE, s)
  else if is_registered then device_session is_registered s
  else do
    let (claimed, s) ← claim_session s
    if !claimed then return (.EXIT_FAILURE, s)
    else device_session is_registered s

/-- The variables of `aws_iot_main_entry`. -/
structure Task where
  statics : Static
  provisioning_count : Nat

/-- One turn of the loop that provisions. -/
def provision (t : Task) : Code (Task ⊕ Task) := do
  let (exit, s) ← aws_iot_provisioning_main t.statics
  match exit with
  | .EXIT_SUCCESS => return .inr { t with statics := s }
  | .EXIT_FAILURE => do
    let _ ← act (.vTaskDelay 3000)
    if 10 < t.provisioning_count + 1 then halt .esp_restart
    else return .inl ⟨s, t.provisioning_count + 1⟩

/-- A packet is taken out of a queue, sent and freed. -/
def consume (q : Queue) (s : Static) : Code Static := do
  let packet : Option (Packet q) ← act (.xQueueReceive q)
  match packet with
  | none => return s
  | some p => do
    let mqttContext : Context ← act (.Send_cJSON_Messege q p)
    let s := { s with mqttContext }
    match p.data with
    | none => return s
    | some data => do
      let _ ← act (.free data)
      return s

/-- One turn of the loop of a session. -/
def serve (s : Static) : Code (Static ⊕ Static) := do
  let s ← consume .mqtt_tx_queue s
  let s ← consume .tracker_mqtt_queue s
  let (connected, s) ← ProcessLoopWithTimeout s 10
  if connected then return .inl s else return .inr s

/-- One turn of the outer loop of `aws_iot_main_entry`. -/
def reconnect (t : Task) : Code (Task ⊕ Empty) := do
  let _ ← act .xEventGroupWaitBits
  let _ ← act (.xQueueReset .mqtt_tx_queue)
  let _ ← act (.xQueueReset .tracker_mqtt_queue)
  let t ← Program.repeated provision t
  let _ ← act .set_aws_started
  let _ ← act .esp_timer_start_once
  let s ← Program.repeated serve t.statics
  let _ ← act .esp_timer_stop
  DisconnectMqttSession s
  let _ ← act (.vTaskDelay 10000)
  return .inl { t with statics := s }

def aws_iot_main_entry : Code Empty := do
  let _ ← act .xEventGroupWaitBits
  let _ ← act (.xQueueCreate .mqtt_tx_queue)
  let _ ← act (.xQueueCreate .tracker_mqtt_queue)
  let _ ← act .esp_timer_create
  Program.repeated reconnect ⟨.boot, 0⟩

/-- What a call of `aws_iot_provisioning_main` may do. -/
def Provisions : Action → Prop
  | .read_nvs_registration_flag | .xInitializePkcs11Session | .Mbedtls_Pkcs11_Connect
    _ | .Mbedtls_Pkcs11_Disconnect
  | .Clock_SleepMs | .MQTT_Connect | .MQTT_Disconnect | .handlePublishResend | .cleanupOutgoingPublishes
  | .malloc_topic | .free_topic _ | .MQTT_Subscribe _ _ | .MQTT_ProcessLoop | .getTime | .abort
  | .mqtt_queue_send _ => True
  | .vTaskDelay delay => delay = 1000
  | _ => False

variable {p : Action → Prop} {s : Static}

private theorem topic_copy_every (hmalloc : p .malloc_topic) : (topic_copy s).Every p := by
  refine Program.every_ite trivial ?_
  refine Program.every_bind (every_act hmalloc) fun topic => ?_
  cases topic with
  | none => trivial
  | some topic => trivial

/-- A subscription performs these actions and no others. -/
theorem subscribe_every {topic : session.Cmd} (hmalloc : p .malloc_topic)
    (hsend : ∀ packetId, p (.MQTT_Subscribe packetId topic)) (hloop : p .MQTT_ProcessLoop) (habort : p .abort)
    (htime : p .getTime) : (subscribe topic s).Every p := by
  refine Program.every_bind (topic_copy_every hmalloc) ?_
  rintro ⟨_ | _, s⟩
  · trivial
  · exact Program.every_bind (subscribeToTopic_every hsend hloop habort htime) fun _ => trivial

/-- The topics are freed, and nothing else is done. -/
theorem free_topics_every {topics : List Nat} (hfree : ∀ topic, p (.free_topic topic)) :
    (free_topics topics).Every p := by
  induction topics with
  | nil => trivial
  | cons topic topics ih => exact Program.every_bind (every_act (hfree topic)) fun _ => ih

/-- A packet from a queue is received, sent and freed. -/
theorem consume_every {q : Queue} (hreceive : p (.xQueueReceive q))
    (hsend : ∀ packet, p (.Send_cJSON_Messege q packet)) (hfree : ∀ data, p (.free data)) :
    (consume q s).Every p := by
  refine Program.every_bind (every_act hreceive) ?_
  rintro (_ | packet)
  · trivial
  · refine Program.every_bind (every_act (hsend packet)) fun mqttContext => ?_
    cases packet.data with
    | none => trivial
    | some data => exact Program.every_bind (every_act (hfree data)) fun _ => trivial

/-- A turn of the service loop performs these actions and no others. -/
theorem serve_every (hconsume : ∀ q (s : Static), (consume q s).Every p) (hloop : p .MQTT_ProcessLoop)
    (habort : p .abort) (hdelay : p (.vTaskDelay 10)) (htime : p .getTime) : (serve s).Every p := by
  refine Program.every_bind (hconsume _ _) fun s => ?_
  refine Program.every_bind (hconsume _ _) fun s => ?_
  refine Program.every_bind (processLoopWithTimeout_every hloop habort hdelay htime) ?_
  rintro ⟨connected, s⟩
  exact Program.every_ite trivial trivial

theorem establish_provisions : (EstablishMqttSession s).Every Provisions := by
  refine Program.every_bind (connectToBroker_every (fun _ => trivial) trivial) fun connected => ?_
  refine Program.every_ite trivial ?_
  refine Program.every_bind (every_act trivial) fun (sessionPresent : Option Bool) => ?_
  match sessionPresent with
  | none => exact Program.every_bind (every_act trivial) fun _ => trivial
  | some true => exact Program.every_bind (every_act trivial) fun _ => trivial
  | some false => exact Program.every_bind (every_act trivial) fun _ => trivial

private theorem subscribe_init_provisions : (mqtt_subscribe_init s).Every Provisions := by
  have hblock (topic : session.Cmd) (s : Static) : (subscribe topic s).Every Provisions :=
    subscribe_every trivial (fun _ => trivial) trivial trivial trivial
  refine Program.every_bind (free_topics_every fun _ => trivial) fun _ => ?_
  refine Program.every_bind (hblock _ _) fun s => ?_
  refine Program.every_bind (hblock _ _) fun s => ?_
  refine Program.every_bind (hblock _ _) fun s => ?_
  refine Program.every_bind (hblock _ _) fun s => ?_
  refine Program.every_bind (hblock _ _) fun s => ?_
  refine Program.every_bind (hblock _ _) fun s => ?_
  exact Program.every_bind (hblock _ _) fun s => trivial

theorem disconnect_provisions : (DisconnectMqttSession s).Every Provisions :=
  disconnectMqttSession_every trivial trivial

theorem device_session_provisions
    {is_registered : Bool} : (device_session is_registered s).Every Provisions := by
  refine Program.every_bind establish_provisions fun established => ?_
  refine Program.every_ite trivial ?_
  refine Program.every_bind subscribe_init_provisions fun subscribed => ?_
  refine Program.every_ite ?_ ?_
  · exact Program.every_bind disconnect_provisions fun _ => trivial
  · exact Program.every_bind (every_act trivial) fun _ => trivial

private theorem claim_session_provisions : (claim_session s).Every Provisions := by
  refine Program.every_bind establish_provisions fun established => ?_
  refine Program.every_ite trivial ?_
  refine Program.every_bind disconnect_provisions fun _ => ?_
  exact Program.every_bind (every_act rfl) fun _ => trivial

/-- The whole provisioning performs only its own actions. -/
theorem provisioning_main_every : (aws_iot_provisioning_main s).Every Provisions := by
  refine Program.every_bind (every_act trivial) fun (is_registered : Bool) => ?_
  refine Program.every_bind (every_act trivial) fun (opened : Bool) => ?_
  refine Program.every_ite trivial (Program.every_ite device_session_provisions ?_)
  refine Program.every_bind claim_session_provisions fun claimed => ?_
  exact Program.every_ite trivial device_session_provisions

end catbox.provisioning
