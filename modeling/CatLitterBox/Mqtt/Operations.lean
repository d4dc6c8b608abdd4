import CatLitterBox.Memory.Blocks
import CatLitterBox.Mqtt.Library
import CatLitterBox.Mqtt.Tracker

open text blocks coremqtt

namespace catbox.session

open catbox.mqtt

def MAX_OUTGOING_PUBLISHES : Nat := 5
def OUTGOING_PUBLISH_RECORD_LEN : Nat := 10

/-- `PublishPackets_t`. -/
structure PublishPackets where
  packetId : Nat
  pubInfo : PublishInfo

/-- A slot after `memset`. -/
def PublishPackets.free : PublishPackets := ⟨MQTT_PACKET_ID_INVALID, ⟨false, none, 0, none, 0⟩⟩

/-- The packets with a number that the client sends. The text of a PUBLISH is read from the
memory when it is sent. -/
inductive Packet where
  | SUBSCRIBE (packetId : Nat) (topic : Bytes)
  | PUBLISH (packetId : Nat) (info : PublishInfo) (topic payload : Bytes)

/-- The variables of `mqtt_operations.c`, the memory, and the packets that have been sent, the
latest first. -/
structure Client where
  memory : Store UInt8
  mqttContext : Context
  pOutgoingPublishRecords : List PubAckInfo
  outgoingPublishPackets : List PublishPackets
  wire : List Packet

def Client.boot : Client where
  memory := []
  mqttContext := ⟨0, false⟩
  pOutgoingPublishRecords := List.replicate OUTGOING_PUBLISH_RECORD_LEN .free
  outgoingPublishPackets := List.replicate MAX_OUTGOING_PUBLISHES .free
  wire := []

/-- The PUBLISH packet of some parameters. -/
def publish_packet (memory : Store UInt8) (packetId : Nat) (info : PublishInfo) : Packet :=
  .PUBLISH packetId info (memory.read info.pTopicName info.topicNameLength)
    (memory.read info.pPayload info.payloadLength)

def getNextFreeIndexForOutgoingPublishes (packets : List PublishPackets) : Option Nat :=
  packets.findIdx? (·.packetId = MQTT_PACKET_ID_INVALID)

def cleanupOutgoingPublishAt (packets : List PublishPackets) (index : Nat) : List PublishPackets :=
  packets.set index .free

def cleanupOutgoingPublishes (packets : List PublishPackets) : List PublishPackets :=
  packets.map fun _ => .free

def cleanupOutgoingPublishWithPacketID (packets : List PublishPackets) (packetId : Nat) :
    List PublishPackets :=
  match packets.findIdx? (·.packetId = packetId) with
  | some index => cleanupOutgoingPublishAt packets index
  | none => packets

def Client.PublishToTopic (s : Client)
    (pTopicFilter topicFilterLength pPayload payloadLength : Nat) (transport : Bool) :
    Bool × Client :=
  match getNextFreeIndexForOutgoingPublishes s.outgoingPublishPackets with
  | none => (false, s)
  | some publishIndex =>
    let (packetId, mqttContext) := MQTT_GetPacketId s.mqttContext
    let slot := (s.outgoingPublishPackets.getD publishIndex .free).pubInfo
    let pubInfo := { slot with pTopicName := some pTopicFilter, topicNameLength := topicFilterLength,
                               pPayload := some pPayload, payloadLength }
    let outgoingPublishPackets := s.outgoingPublishPackets.set publishIndex ⟨packetId, pubInfo⟩
    let published := MQTT_Publish transport mqttContext s.pOutgoingPublishRecords pubInfo packetId
    let s := { s with
      mqttContext
      pOutgoingPublishRecords := published.records
      wire := if published.sent then publish_packet s.memory packetId pubInfo :: s.wire else s.wire }
    if published.status ≠ .MQTTSuccess then
      (false, { s with outgoingPublishPackets := cleanupOutgoingPublishAt outgoingPublishPackets publishIndex })
    else (true, { s with outgoingPublishPackets })

/-- `SubscribeToTopic` up to its wait, in which packets may come in. -/
def Client.SubscribeToTopic (s : Client) (topic : Bytes) (transport : Bool) : Client :=
  let (packetId, mqttContext) := MQTT_GetPacketId s.mqttContext
  let sent := MQTT_Subscribe transport mqttContext packetId
  { s with mqttContext, wire := if sent then .SUBSCRIBE packetId topic :: s.wire else s.wire }

/-- The loop of `handlePublishResend`, with the outcomes of its sends: whether it went through,
the slots and the records afterwards, and the packets sent. -/
def resend (memory : Store UInt8) (context : Context) :
    List PublishPackets → List Bool → List PubAckInfo → List Packet →
    Bool × List PublishPackets × List PubAckInfo × List Packet
  | [], _, records, wire => (true, [], records, wire)
  | packet :: packets, transport, records, wire =>
    if packet.packetId ≠ MQTT_PACKET_ID_INVALID then
      let pubInfo := { packet.pubInfo with dup := true }
      let published := MQTT_Publish (transport.headD false) context records pubInfo packet.packetId
      let wire := if published.sent then publish_packet memory packet.packetId pubInfo :: wire else wire
      if published.status ≠ .MQTTSuccess then (false, { packet with pubInfo } :: packets,
        published.records, wire)
      else
        let (done, packets, records, wire) :=
          resend memory context packets transport.tail published.records wire
        (done, { packet with pubInfo } :: packets, records, wire)
    else
      let (done, packets, records, wire) := resend memory context packets transport records wire
      (done, packet :: packets, records, wire)

def Client.handlePublishResend (s : Client) (transport : List Bool) : Bool × Client :=
  let (done, outgoingPublishPackets, pOutgoingPublishRecords, wire) :=
    resend s.memory s.mqttContext s.outgoingPublishPackets transport s.pOutgoingPublishRecords s.wire
  (done, { s with outgoingPublishPackets, pOutgoingPublishRecords, wire })

/-- What an attempt to connect meets with: `MQTT_Connect` clears the records where the broker
has no session. -/
inductive Connack where
  | unreachable
  | refused
  | accepted (sessionPresent : Bool)

def Client.EstablishMqttSession (s : Client) (connack : Connack) (transport : List Bool) : Bool × Client :=
  match connack with
  | .unreachable => (false, { s with mqttContext := ⟨0, false⟩ })
  | .refused => (false, { s with mqttContext := MQTT_Init })
  | .accepted true => { s with mqttContext := MQTT_Init }.handlePublishResend transport
  | .accepted false =>
    (true, { s with
      mqttContext := MQTT_Init
      pOutgoingPublishRecords := s.pOutgoingPublishRecords.map fun _ => .free
      outgoingPublishPackets := cleanupOutgoingPublishes s.outgoingPublishPackets })

/-- A PUBACK is received: the library's `handlePublishAcks`, and `mqttCallback` if it is
called. -/
def Client.handlePublishAcks (s : Client) (packetId : Nat) : Client :=
  if s.mqttContext.stateful = false then s
  else
    let (status, pOutgoingPublishRecords) := MQTT_UpdateStateAck s.pOutgoingPublishRecords packetId
    let s := { s with pOutgoingPublishRecords }
    if status = .MQTTSuccess then
      { s with outgoingPublishPackets := cleanupOutgoingPublishWithPacketID s.outgoingPublishPackets packetId }
    else s

/-- The commands of the litter box in `messege_tx_mqtt_cmd_e`. -/
inductive Cmd where
  | MESSEGE_REGISTRATION
  | MESSEGE_BOOT
  | MESSEGE_ACCESS
  | MESSEGE_USAGE
  | MESSEGE_CLEAN_RESULT
  | MESSEGE_DIAGNOSTICS
  | MESSEGE_HEALTH

def Cmd.name : Cmd → Bytes
  | .MESSEGE_REGISTRATION => ascii "registration"
  | .MESSEGE_BOOT => ascii "boot"
  | .MESSEGE_ACCESS => ascii "access"
  | .MESSEGE_USAGE => ascii "usage"
  | .MESSEGE_CLEAN_RESULT => ascii "clean_result"
  | .MESSEGE_DIAGNOSTICS => ascii "diagnostics"
  | .MESSEGE_HEALTH => ascii "health"

def SERVER_TX_TOPIC (cmd : Cmd) (mac : Bytes) : Bytes :=
  ascii "things/c100/C100_" ++ hex_mac mac ++ ascii "/" ++ cmd.name
def SERVER_RX_TOPIC (cmd : Cmd) (mac : Bytes) : Bytes :=
  ascii "things/c100/C100_" ++ hex_mac mac ++ ascii "/result/" ++ cmd.name

/-- What `snprintf` leaves in an array of a size. -/
def snprintf (size : Nat) (text : Bytes) : Bytes := text.take (size - 1) ++ [0]

def strlen (array : Bytes) : Nat := (cstring array).length

/-- The end of both senders, once the text has been printed: `pub_topic` is gone with the
frame, and `payloadBuf` has been freed. -/
def Client.publish_text (s : Client) (topic : Option Bytes) (text : Bytes) (transport : Bool) : Client :=
  let printed := text ++ [0]
  let (payloadBuf, memory) := s.memory.alloc printed
  let pubTopic := topic.map (snprintf 100)
  let (pub_topic, memory) := memory.alloc (pubTopic.getD [])
  let s := { s with memory }
  let s :=
    match pubTopic with
    | some array => (s.PublishToTopic pub_topic (strlen array) payloadBuf (strlen printed) transport).2
    | none => s
  { s with memory := (s.memory.free payloadBuf).free pub_topic }

/-- The text is what `cJSON_PrintUnformatted` gives, if there is a message at all. -/
def Client.Send_cJSON_Messege (s : Client) (cmd : Cmd) (mac : Bytes) (text : Option Bytes)
    (transport : Bool) : Client :=
  match text with
  | some text => s.publish_text (some (SERVER_TX_TOPIC cmd mac)) text transport
  | none => s

def Client.Send_cJSON_Messege_for_tracker (s : Client) (p : TrackerPacket) (text : Option Bytes)
    (transport : Bool) : Client :=
  match text with
  | some text => s.publish_text (tracker_topic p) text transport
  | none => s

inductive Move where
  | Send_cJSON_Messege (cmd : Cmd) (mac : Bytes) (text : Option Bytes) (transport : Bool)
  | Send_cJSON_Messege_for_tracker (p : TrackerPacket) (text : Option Bytes) (transport : Bool)
  | SubscribeToTopic (cmd : Cmd) (mac : Bytes) (transport : Bool)
  | PUBACK (packetId : Nat)
  | EstablishMqttSession (connack : Connack) (transport : List Bool)
  | DisconnectMqttSession
  /-- Memory that is not live is used by another part of the program. -/
  | reuse (block : Nat) (content : Bytes)

def Client.step (s : Client) : Move → Client
  | .Send_cJSON_Messege cmd mac text transport => s.Send_cJSON_Messege cmd mac text transport
  | .Send_cJSON_Messege_for_tracker p text transport => s.Send_cJSON_Messege_for_tracker p text transport
  | .SubscribeToTopic cmd mac transport => s.SubscribeToTopic (SERVER_RX_TOPIC cmd mac) transport
  | .PUBACK packetId => s.handlePublishAcks packetId
  | .EstablishMqttSession connack transport => (s.EstablishMqttSession connack transport).2
  | .DisconnectMqttSession => s
  | .reuse block content => { s with memory := s.memory.reuse block content }

/-- The parameters of a new publish. -/
def new_publish (pTopicFilter topicFilterLength pPayload payloadLength : Nat) : PublishInfo :=
  ⟨false, some pTopicFilter, topicFilterLength, some pPayload, payloadLength⟩

/-- There is a slot for a publish, and the library can take it. -/
structure Client.Accepts (s : Client) (info : PublishInfo) (transport : Bool) : Prop where
  slot : ∃ packet ∈ s.outgoingPublishPackets, packet.packetId = MQTT_PACKET_ID_INVALID
  takes : Takes transport (MQTT_GetPacketId s.mqttContext).2 s.pOutgoingPublishRecords info
    s.mqttContext.nextPacketId

/-- A slot without a number is as `memset` leaves it. -/
def Client.Tidy (s : Client) : Prop :=
  ∀ packet ∈ s.outgoingPublishPackets, packet.packetId = MQTT_PACKET_ID_INVALID → packet = .free

/-- What `PublishToTopic` can do: it leaves the slots alone and sends nothing, or it sends the
publish and keeps it in a slot. -/
inductive Publishing (s : Client) (info : PublishInfo) (transport : Bool) : Client → Prop where
  | dropped (mqttContext : Context) (records : List PubAckInfo) (hnot : ¬ s.Accepts info transport)
      (keeps : ∀ q st, q ≠ MQTT_PACKET_ID_INVALID → lookup s.pOutgoingPublishRecords q = some st →
        lookup records q = some st) :
      Publishing s info transport { s with mqttContext, pOutgoingPublishRecords := records }
  | kept (mqttContext : Context) (records : List PubAckInfo) (index : Nat)
      (haccepts : s.Accepts info transport)
      (hfree : s.outgoingPublishPackets[index]? = some .free)
      (pending : lookup records s.mqttContext.nextPacketId = some .MQTTPubAckPending)
      (others : ∀ q, q ≠ MQTT_PACKET_ID_INVALID → q ≠ s.mqttContext.nextPacketId →
        lookup records q = lookup s.pOutgoingPublishRecords q) :
      Publishing s info transport { s with
        mqttContext
        pOutgoingPublishRecords := records
        outgoingPublishPackets := s.outgoingPublishPackets.set index ⟨s.mqttContext.nextPacketId, info⟩
        wire := publish_packet s.memory s.mqttContext.nextPacketId info :: s.wire }

private theorem getNextFreeIndex_none {packets : List PublishPackets}
    (h : getNextFreeIndexForOutgoingPublishes packets = none)
    {packet : PublishPackets} (hpacket : packet ∈ packets) : packet.packetId ≠ MQTT_PACKET_ID_INVALID := by
  have hnone := List.findIdx?_eq_none_iff.mp h packet hpacket
  simpa using hnone

/-- A publish that is cleaned up leaves no trace in the slots. -/
theorem cleanup_set {packets : List PublishPackets} {index : Nat} {new : PublishPackets}
    (hget : packets[index]? = some .free) :
    cleanupOutgoingPublishAt (packets.set index new) index = packets := by
  unfold cleanupOutgoingPublishAt
  rw [List.set_set]
  apply List.ext_getElem?
  intro i
  rw [List.getElem?_set]
  split_ifs with hi hlt
  · rw [← hi, hget]
  · rw [← hi, List.getElem?_eq_none (Nat.le_of_not_lt hlt)]
  · rfl

theorem publishToTopic_publishing {s : Client} (h : s.Tidy)
    (pTopicFilter topicFilterLength pPayload payloadLength : Nat)
    (transport : Bool) :
    Publishing s (new_publish pTopicFilter topicFilterLength pPayload payloadLength) transport
      (s.PublishToTopic pTopicFilter topicFilterLength pPayload payloadLength transport).2 := by
  unfold Client.PublishToTopic
  cases hindex : getNextFreeIndexForOutgoingPublishes s.outgoingPublishPackets with
  | none =>
    refine .dropped s.mqttContext s.pOutgoingPublishRecords ?_ fun _ _ _ hlookup => hlookup
    intro haccepts
    obtain ⟨packet, hpacket, hid⟩ := haccepts.slot
    exact getNextFreeIndex_none hindex hpacket hid
  | some publishIndex =>
    obtain ⟨packet, hget, hid⟩ := slots.getElem_of_find hindex
    have hmem : packet ∈ s.outgoingPublishPackets := List.mem_of_getElem? hget
    obtain rfl : packet = .free := h packet hmem (by simpa using hid)
    have hslot : (s.outgoingPublishPackets.getD publishIndex .free).pubInfo =
        PublishPackets.free.pubInfo := by
      rw [List.getD_eq_getElem?_getD, hget]
      rfl
    have hinfo : ({ PublishPackets.free.pubInfo with
        pTopicName := some pTopicFilter, topicNameLength := topicFilterLength, pPayload := some pPayload,
        payloadLength } : PublishInfo) =
          new_publish pTopicFilter topicFilterLength pPayload payloadLength := rfl
    have hpacketId : (MQTT_GetPacketId s.mqttContext).1 = s.mqttContext.nextPacketId := rfl
    simp only [hslot, hinfo, hpacketId, cleanup_set hget]
    have hinfo_dup : (new_publish pTopicFilter topicFilterLength pPayload payloadLength).dup = false := rfl
    generalize new_publish pTopicFilter topicFilterLength pPayload payloadLength = info at hinfo_dup ⊢
    have houtcome := publish_outcome transport (MQTT_GetPacketId s.mqttContext).2
      s.pOutgoingPublishRecords info
      s.mqttContext.nextPacketId
    generalize MQTT_Publish transport (MQTT_GetPacketId s.mqttContext).2 s.pOutgoingPublishRecords info
      s.mqttContext.nextPacketId = published at houtcome ⊢
    cases houtcome with
    | refused status after hstatus hnot keeps =>
      rw [if_pos hstatus]
      exact .dropped _ after (fun haccepts => hnot haccepts.takes) keeps
    | sent after hid' hnew pending others =>
      rw [if_neg (not_not.mpr rfl)]
      have haccepts : s.Accepts info transport := ⟨⟨.free, hmem, rfl⟩, hnew hinfo_dup⟩
      exact .kept _ after publishIndex haccepts hget pending others
    | illegal status after hstatus hdup same =>
      rw [hinfo_dup] at hdup
      cases hdup

/-- The memory of the senders while they publish: the text and the topic in two new blocks. -/
def Client.with_buffers (s : Client) (printed array : Bytes) : Client :=
  { s with memory := s.memory ++ [⟨printed, true⟩] ++ [⟨array, true⟩] }

/-- The parameters by which the senders publish a text. -/
def Client.text_publish (s : Client) (printed array : Bytes) : PublishInfo :=
  new_publish (s.memory.length + 1) (strlen array) s.memory.length (strlen printed)

/-- `publish_text` publishes from two buffers of its own, and frees both on its way out. -/
theorem publish_text_publishing {s : Client} (h : s.Tidy) (topic text : Bytes) (transport : Bool) :
    ∃ after, Publishing (s.with_buffers (text ++ [0]) (snprintf 100 topic))
        (s.text_publish (text ++ [0]) (snprintf 100 topic)) transport after ∧
      s.publish_text (some topic) text transport =
        { after with memory := (after.memory.free s.memory.length).free (s.memory.length + 1) } := by
  have hlength : List.length (s.memory ++ [(⟨text ++ [0], true⟩ : Block UInt8)]) = s.memory.length + 1 :=
    List.length_append
  have htidy : (s.with_buffers (text ++ [0]) (snprintf 100 topic)).Tidy := h
  refine ⟨_, publishToTopic_publishing htidy _ _ _ _ transport, ?_⟩
  unfold Client.publish_text Store.alloc
  simp only [Option.map_some, Option.getD_some, hlength]
  rfl

end catbox.session
