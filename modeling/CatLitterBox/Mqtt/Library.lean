import CatLitterBox.Memory.Slots

namespace coremqtt

/-- The values of `MQTTStatus_t` that outgoing publishes and their acknowledgements give. -/
inductive Status where
  | MQTTSuccess
  | MQTTBadParameter
  | MQTTSendFailed
  | MQTTBadResponse
  | MQTTIllegalState
  | MQTTStateCollision
  | MQTTNoMemory
deriving DecidableEq

/-- The states of an outgoing publish of QoS 1. -/
inductive PublishState where
  | MQTTStateNull
  | MQTTPublishSend
  | MQTTPubAckPending
  | MQTTPublishDone
deriving DecidableEq

def MQTT_PACKET_ID_INVALID : Nat := 0
def MQTT_MAX_REMAINING_LENGTH : Nat := 268435455

/-- `MQTTPubAckInfo_t` of a publish of QoS 1. -/
structure PubAckInfo where
  packetId : Nat
  publishState : PublishState

def PubAckInfo.free : PubAckInfo := ⟨MQTT_PACKET_ID_INVALID, .MQTTStateNull⟩

/-- `MQTTPublishInfo_t` of a publish of QoS 1 that is not retained. A pointer is a block of
memory, or NULL. -/
structure PublishInfo where
  dup : Bool
  pTopicName : Option Nat
  topicNameLength : Nat
  pPayload : Option Nat
  payloadLength : Nat

/-- The number to be given next, and whether the context has its records. -/
structure Context where
  nextPacketId : Nat
  stateful : Bool

/-- `MQTT_Init`, followed by `MQTT_InitStatefulQoS`. -/
def MQTT_Init : Context := ⟨1, true⟩

def MQTT_GetPacketId (context : Context) : Nat × Context :=
  (context.nextPacketId,
    { context with nextPacketId := if context.nextPacketId = 65535 then 1 else context.nextPacketId + 1 })

/-- The records in use move to the front. -/
def compactRecords (records : List PubAckInfo) : List PubAckInfo :=
  records.filter (·.packetId ≠ MQTT_PACKET_ID_INVALID) ++ records.filter (·.packetId = MQTT_PACKET_ID_INVALID)

/-- The first record from which on all are free. -/
def availableIndex (records : List PubAckInfo) : Option Nat :=
  (List.range records.length).find? fun index =>
    (records.drop index).all (·.packetId = MQTT_PACKET_ID_INVALID)

def addRecord (records : List PubAckInfo) (packetId : Nat) (publishState : PublishState) :
    Status × List PubAckInfo :=
  let records :=
    if records.getLast?.any (·.packetId ≠ MQTT_PACKET_ID_INVALID) then compactRecords records else records
  if records.any (·.packetId = packetId) then (.MQTTStateCollision, records)
  else
    match availableIndex records with
    | some index => (.MQTTSuccess, records.set index ⟨packetId, publishState⟩)
    | none => (.MQTTNoMemory, records)

def findInRecord (records : List PubAckInfo) (packetId : Nat) : Option (Nat × PublishState) :=
  match records.findIdx? (·.packetId = packetId) with
  | some index => (records[index]?).map fun record => (index, record.publishState)
  | none => none

def updateRecord (records : List PubAckInfo) (recordIndex : Nat)
    (newState : PublishState) (shouldDelete : Bool) :
    List PubAckInfo :=
  records.modify recordIndex fun record =>
    if shouldDelete then .free else { record with publishState := newState }

def validateTransitionPublish (currentState newState : PublishState) : Bool :=
  match currentState with
  | .MQTTPublishSend | .MQTTPubAckPending => newState = .MQTTPubAckPending
  | .MQTTStateNull | .MQTTPublishDone => false

def validateTransitionAck (currentState newState : PublishState) : Bool :=
  match currentState with
  | .MQTTPubAckPending => newState = .MQTTPublishDone
  | .MQTTStateNull | .MQTTPublishSend | .MQTTPublishDone => false

def MQTT_ReserveState (records : List PubAckInfo) (packetId : Nat) : Status × List PubAckInfo :=
  if packetId = MQTT_PACKET_ID_INVALID then (.MQTTBadParameter, records)
  else addRecord records packetId .MQTTPublishSend

/-- After a PUBLISH has been sent. -/
def MQTT_UpdateStatePublish (records : List PubAckInfo) (packetId : Nat) : Status × List PubAckInfo :=
  if packetId = MQTT_PACKET_ID_INVALID then (.MQTTBadParameter, records)
  else
    match findInRecord records packetId with
    | none => (.MQTTBadParameter, records)
    | some (recordIndex, currentState) =>
      let newState := .MQTTPubAckPending
      if validateTransitionPublish currentState newState then
        (.MQTTSuccess,
          if currentState ≠ newState then updateRecord records recordIndex newState false else records)
      else (.MQTTIllegalState, records)

/-- After a PUBACK has been received. -/
def MQTT_UpdateStateAck (records : List PubAckInfo) (packetId : Nat) : Status × List PubAckInfo :=
  if packetId = MQTT_PACKET_ID_INVALID then (.MQTTBadParameter, records)
  else
    match findInRecord records packetId with
    | none => (.MQTTBadResponse, records)
    | some (recordIndex, currentState) =>
      let newState := .MQTTPublishDone
      if validateTransitionAck currentState newState then
        (.MQTTSuccess,
          if currentState ≠ newState then updateRecord records recordIndex newState true else records)
      else (.MQTTIllegalState, records)

def validatePublishParams (context : Context) (info : PublishInfo) (packetId : Nat) : Status :=
  if packetId = 0 then .MQTTBadParameter
  else if 0 < info.payloadLength ∧ info.pPayload = none then .MQTTBadParameter
  else if context.stateful = false then .MQTTBadParameter
  else .MQTTSuccess

def remainingLengthEncodedSize (length : Nat) : Nat :=
  if length < 128 then 1 else if length < 16384 then 2 else if length < 2097152 then 3 else 4

def calculatePublishPacketSize (info : PublishInfo) : Bool :=
  let packetSize := info.topicNameLength + 2 + 2
  let payloadLimit := MQTT_MAX_REMAINING_LENGTH - packetSize - 1
  if payloadLimit < info.payloadLength then false
  else info.payloadLength ≤ payloadLimit - remainingLengthEncodedSize (packetSize + info.payloadLength)

def MQTT_GetPublishPacketSize (info : PublishInfo) : Status :=
  if info.pTopicName = none ∨ info.topicNameLength = 0 then .MQTTBadParameter
  else if calculatePublishPacketSize info then .MQTTSuccess else .MQTTBadParameter

/-- The outcome of `MQTT_Publish`, and whether the packet has been sent. -/
structure Published where
  status : Status
  sent : Bool
  records : List PubAckInfo

/-- `MQTT_Publish`, with a transport that takes the packet or not. -/
def MQTT_Publish (transport : Bool) (context : Context) (records : List PubAckInfo) (info : PublishInfo)
    (packetId : Nat) : Published :=
  if validatePublishParams context info packetId ≠ .MQTTSuccess then
    ⟨validatePublishParams context info packetId, false, records⟩
  else if MQTT_GetPublishPacketSize info ≠ .MQTTSuccess then ⟨MQTT_GetPublishPacketSize info, false, records⟩
  else
    let (status, records) := MQTT_ReserveState records packetId
    -- a packet that is sent again has its record already
    let status := if status = .MQTTStateCollision ∧ info.dup = true then .MQTTSuccess else status
    if status ≠ .MQTTSuccess then ⟨status, false, records⟩
    else if transport = false then ⟨.MQTTSendFailed, false, records⟩
    else
      let (status, records) := MQTT_UpdateStatePublish records packetId
      ⟨status, true, records⟩

/-- `MQTT_Subscribe` with one topic: whether the packet has been sent. -/
def MQTT_Subscribe (transport : Bool) (context : Context) (packetId : Nat) : Bool :=
  packetId ≠ 0 ∧ context.stateful = true ∧ transport = true

/-- The state of the first record with a number. -/
def lookup (records : List PubAckInfo) (packetId : Nat) : Option PublishState :=
  (records.find? (·.packetId = packetId)).map PubAckInfo.publishState

variable {records : List PubAckInfo} {packetId q : Nat} {publishState : PublishState}

/-- A number that is not looked up successfully is in no record. -/
theorem lookup_eq_none_iff : lookup records packetId = none ↔ ∀ r ∈ records, r.packetId ≠ packetId := by
  unfold lookup
  rw [Option.map_eq_none_iff, List.find?_eq_none]
  simp

theorem lookup_set_of_ne {index : Nat} {old new : PubAckInfo} (hold : records[index]? = some old)
    (hne : old.packetId ≠ q) (hnew : new.packetId ≠ q) :
    lookup (records.set index new) q = lookup records q := by
  unfold lookup
  rw [slots.find_set_of_miss hold (by simpa using hne) (by simpa using hnew)]

/-- Compaction keeps the records that it has, and no others. -/
theorem mem_compactRecords {r : PubAckInfo} : r ∈ compactRecords records ↔ r ∈ records := by
  unfold compactRecords
  rw [List.mem_append, List.mem_filter, List.mem_filter]
  by_cases hfree : r.packetId = MQTT_PACKET_ID_INVALID <;> simp [hfree]

theorem lookup_compactRecords (hq : q ≠ MQTT_PACKET_ID_INVALID) :
    lookup (compactRecords records) q = lookup records q := by
  have hused : (records.filter (·.packetId ≠ MQTT_PACKET_ID_INVALID)).find? (·.packetId = q) =
      records.find? (·.packetId = q) := by
    rw [List.find?_filter]
    congr 1
    funext r
    by_cases hr : r.packetId = q
    · simp [hr, hq]
    · simp [hr]
  have hfree : (records.filter (·.packetId = MQTT_PACKET_ID_INVALID)).find? (·.packetId = q) = none := by
    rw [List.find?_eq_none]
    intro r hr
    have hid : r.packetId = MQTT_PACKET_ID_INVALID := by simpa using (List.mem_filter.mp hr).2
    simpa [hid] using Ne.symm hq
  unfold lookup compactRecords
  rw [List.find?_append, hused, hfree, Option.or_none]

theorem availableIndex_some {index : Nat} (h : availableIndex records = some index) :
    ∃ r, records[index]? = some r ∧ r.packetId = MQTT_PACKET_ID_INVALID := by
  have hmem := List.mem_of_find?_eq_some h
  have hfree := List.find?_some h
  have hlt : index < records.length := List.mem_range.mp hmem
  refine ⟨records[index], List.getElem?_eq_getElem hlt, ?_⟩
  have hhead : records[index] ∈ records.drop index := by
    rw [List.drop_eq_getElem_cons hlt]
    exact List.mem_cons_self
  simpa using List.all_eq_true.mp hfree _ hhead

/-- Where the last record is free, there is an available one. -/
theorem availableIndex_none {last : PubAckInfo} (hlast : records.getLast? = some last)
    (hfree : last.packetId = MQTT_PACKET_ID_INVALID) : availableIndex records ≠ none := by
  obtain ⟨front, rfl⟩ := List.getLast?_eq_some_iff.mp hlast
  intro hnone
  have hall := List.find?_eq_none.mp hnone front.length (List.mem_range.mpr (by simp))
  rw [List.drop_left] at hall
  simp [hfree] at hall

/-- What `addRecord` can do with a number. The records of the other numbers stay what they
are. -/
inductive Added (records : List PubAckInfo) (packetId : Nat) (publishState : PublishState) :
    Status → List PubAckInfo → Prop where
  | added (after : List PubAckInfo) (unused : ∀ r ∈ records, r.packetId ≠ packetId)
      (room : ∃ r ∈ records, r.packetId = MQTT_PACKET_ID_INVALID)
        (new : lookup after packetId = some publishState)
      (others : ∀ q, q ≠ MQTT_PACKET_ID_INVALID → q ≠ packetId → lookup after q = lookup records q) :
      Added records packetId publishState .MQTTSuccess after
  | collision (after : List PubAckInfo) (used : ∃ r ∈ records, r.packetId = packetId)
      (same : ∀ q, q ≠ MQTT_PACKET_ID_INVALID → lookup after q = lookup records q) :
      Added records packetId publishState .MQTTStateCollision after
  | full (after : List PubAckInfo) (used : ∀ r ∈ records, r.packetId ≠ MQTT_PACKET_ID_INVALID)
      (same : ∀ q, q ≠ MQTT_PACKET_ID_INVALID → lookup after q = lookup records q) :
      Added records packetId publishState .MQTTNoMemory after

/-- `addRecord` once the records are compact. -/
theorem added_of_compact {compact : List PubAckInfo} (hmem : ∀ r, r ∈ compact ↔ r ∈ records)
    (hlookup : ∀ q, q ≠ MQTT_PACKET_ID_INVALID → lookup compact q = lookup records q)
    (hlast : (∃ r ∈ records, r.packetId = MQTT_PACKET_ID_INVALID) → availableIndex compact ≠ none)
    (hp : packetId ≠ MQTT_PACKET_ID_INVALID) :
    let (status, after) : Status × List PubAckInfo :=
      if compact.any (·.packetId = packetId) then (.MQTTStateCollision, compact)
      else
        match availableIndex compact with
        | some index => (.MQTTSuccess, compact.set index ⟨packetId, publishState⟩)
        | none => (.MQTTNoMemory, compact)
    Added records packetId publishState status after := by
  by_cases hany : compact.any (·.packetId = packetId) = true
  · rw [if_pos hany]
    obtain ⟨r, hr, hid⟩ := List.any_eq_true.mp hany
    exact .collision _ ⟨r, (hmem r).mp hr, by simpa using hid⟩ hlookup
  · rw [if_neg hany]
    have hunused : ∀ r ∈ records, r.packetId ≠ packetId := by
      intro r hr hid
      exact hany (List.any_eq_true.mpr ⟨r, (hmem r).mpr hr, by simpa using hid⟩)
    cases havailable : availableIndex compact with
    | some index =>
      obtain ⟨r, hr, hfree⟩ := availableIndex_some havailable
      have hlt : index < compact.length := (List.getElem?_eq_some_iff.mp hr).1
      have hroom : ∃ r ∈ records, r.packetId = MQTT_PACKET_ID_INVALID :=
        ⟨r, (hmem r).mp (List.mem_of_getElem? hr), hfree⟩
      have hnone : lookup compact packetId = none := by
        rw [hlookup packetId hp]
        exact lookup_eq_none_iff.mpr hunused
      refine .added _ hunused hroom ?_ ?_
      · unfold lookup
        rw [slots.find_set_new (Option.map_eq_none_iff.mp hnone) hlt (by simp)]
        rfl
      · intro q hq hqp
        rw [lookup_set_of_ne hr (by rw [hfree]; exact Ne.symm hq) (Ne.symm hqp)]
        exact hlookup q hq
    | none =>
      refine .full _ ?_ hlookup
      intro r hr hfree
      exact hlast ⟨r, hr, hfree⟩ havailable

theorem addRecord_added (hp : packetId ≠ MQTT_PACKET_ID_INVALID) :
    Added records packetId publishState (addRecord records packetId publishState).1
      (addRecord records packetId publishState).2 := by
  unfold addRecord
  by_cases hlast : records.getLast?.any (·.packetId ≠ MQTT_PACKET_ID_INVALID) = true
  · rw [if_pos hlast]
    refine added_of_compact (fun r => mem_compactRecords) (fun q hq => lookup_compactRecords hq) ?_ hp
    rintro ⟨r, hr, hfree⟩
    have hnonempty : records.filter (·.packetId = MQTT_PACKET_ID_INVALID) ≠ [] := by
      intro hnil
      have := List.filter_eq_nil_iff.mp hnil r hr
      simp [hfree] at this
    obtain ⟨last, hend⟩ := List.getLast?_isSome.mpr hnonempty |> Option.isSome_iff_exists.mp
    have hcompact : (compactRecords records).getLast? = some last := by
      unfold compactRecords
      rw [List.getLast?_append, hend]
      rfl
    have hmem := List.mem_of_getLast? hend
    exact availableIndex_none hcompact (by simpa using (List.mem_filter.mp hmem).2)
  · rw [if_neg hlast]
    refine added_of_compact (fun r => Iff.rfl) (fun q _ => rfl) ?_ hp
    rintro ⟨r, hr, -⟩
    obtain ⟨last, hend⟩ := List.getLast?_isSome.mpr (List.ne_nil_of_mem hr) |> Option.isSome_iff_exists.mp
    apply availableIndex_none hend
    simpa [hend] using hlast

theorem findInRecord_of_lookup (h : lookup records packetId = some publishState) :
    ∃ index r, findInRecord records packetId = some (index, publishState) ∧
      records.findIdx? (·.packetId = packetId) = some index ∧ records[index]? = some r ∧
      r.packetId = packetId := by
  obtain ⟨r, hfind, rfl⟩ := Option.map_eq_some_iff.mp h
  have hid : r.packetId = packetId := by simpa using List.find?_some hfind
  cases hindex : records.findIdx? (·.packetId = packetId) with
  | none =>
    have hnone := List.findIdx?_eq_none_iff.mp hindex r (List.mem_of_find?_eq_some hfind)
    simp [hid] at hnone
  | some index =>
    have hget : records[index]? = some r := by
      rw [← slots.find_of_findIdx hindex]
      exact hfind
    refine ⟨index, r, ?_, rfl, hget, hid⟩
    unfold findInRecord
    rw [hindex]
    simp only [hget, Option.map_some]

/-- What the search finds is the state recorded under the number. -/
theorem lookup_of_findInRecord {index : Nat}
    (h : findInRecord records packetId = some (index, publishState)) :
    lookup records packetId = some publishState ∧ ∃ r, records[index]? = some r ∧ r.packetId = packetId := by
  unfold findInRecord at h
  cases hindex : records.findIdx? (·.packetId = packetId) with
  | none =>
    rw [hindex] at h
    cases h
  | some i =>
    rw [hindex] at h
    obtain ⟨r, hget, hpair⟩ := Option.map_eq_some_iff.mp h
    obtain ⟨rfl, rfl⟩ := Prod.mk.inj hpair
    obtain ⟨r', hget', hid⟩ := slots.getElem_of_find hindex
    obtain rfl : r = r' := Option.some.inj (hget.symm.trans hget')
    refine ⟨?_, r, hget, by simpa using hid⟩
    unfold lookup
    rw [slots.find_of_findIdx hindex, hget]
    rfl

/-- The record of a publish that has been sent, now or before, waits for the PUBACK. -/
theorem updateStatePublish_pending (hp : packetId ≠ MQTT_PACKET_ID_INVALID)
    (h : lookup records packetId = some .MQTTPublishSend ∨
      lookup records packetId = some .MQTTPubAckPending) :
    (MQTT_UpdateStatePublish records packetId).1 = .MQTTSuccess ∧
      lookup (MQTT_UpdateStatePublish records packetId).2 packetId = some .MQTTPubAckPending ∧
      ∀ q, q ≠ packetId → lookup (MQTT_UpdateStatePublish records packetId).2 q = lookup records q := by
  unfold MQTT_UpdateStatePublish
  rw [if_neg hp]
  obtain hsend | hpending := h
  · obtain ⟨index, r, hfind, hindex, hget, hid⟩ := findInRecord_of_lookup hsend
    have hset : updateRecord records index .MQTTPubAckPending false =
        records.set index { r with publishState := .MQTTPubAckPending } := slots.modify_eq_set_of_getElem hget
    rw [hfind]
    refine ⟨rfl, ?_, ?_⟩
    · change lookup (updateRecord records index .MQTTPubAckPending false) packetId = _
      unfold lookup
      rw [hset, slots.find_set_first hindex (by simpa using hid)]
      rfl
    · intro q hq
      change lookup (updateRecord records index .MQTTPubAckPending false) q = _
      have hne : r.packetId ≠ q := by
        rw [hid]
        exact Ne.symm hq
      rw [hset]
      exact lookup_set_of_ne hget hne hne
  · obtain ⟨index, r, hfind, -, -, -⟩ := findInRecord_of_lookup hpending
    rw [hfind]
    exact ⟨rfl, hpending, fun q _ => rfl⟩

theorem updateStatePublish_illegal
    (h : lookup records packetId ≠ some .MQTTPublishSend ∧
      lookup records packetId ≠ some .MQTTPubAckPending) :
    (MQTT_UpdateStatePublish records packetId).1 ≠ .MQTTSuccess ∧
    (MQTT_UpdateStatePublish records packetId).2 = records := by
  unfold MQTT_UpdateStatePublish
  split_ifs with hp
  · exact ⟨nofun, rfl⟩
  · cases hfind : findInRecord records packetId with
    | none => exact ⟨nofun, rfl⟩
    | some found =>
      obtain ⟨index, currentState⟩ := found
      have hlookup := (lookup_of_findInRecord hfind).1
      rw [hlookup] at h
      cases currentState with
      | MQTTPublishSend => exact absurd rfl h.1
      | MQTTPubAckPending => exact absurd rfl h.2
      | MQTTStateNull => exact ⟨nofun, rfl⟩
      | MQTTPublishDone => exact ⟨nofun, rfl⟩

/-- A PUBACK for a publish that waits for it is accepted. -/
theorem updateStateAck_pending (hp : packetId ≠ MQTT_PACKET_ID_INVALID)
    (h : lookup records packetId = some .MQTTPubAckPending) :
    (MQTT_UpdateStateAck records packetId).1 = .MQTTSuccess := by
  obtain ⟨index, r, hfind, -, -, -⟩ := findInRecord_of_lookup h
  unfold MQTT_UpdateStateAck
  rw [if_neg hp, hfind]
  rfl

/-- A PUBACK leaves the records of the other numbers alone. -/
theorem updateStateAck_others (hq : q ≠ MQTT_PACKET_ID_INVALID) (hne : q ≠ packetId) :
    lookup (MQTT_UpdateStateAck records packetId).2 q = lookup records q := by
  unfold MQTT_UpdateStateAck
  split_ifs with hp
  · rfl
  · cases hfind : findInRecord records packetId with
    | none => rfl
    | some found =>
      obtain ⟨index, currentState⟩ := found
      obtain ⟨r, hget, hid⟩ := (lookup_of_findInRecord hfind).2
      simp only
      split_ifs with hvalid hsame
      · have hset : updateRecord records index .MQTTPublishDone true = records.set index .free :=
          slots.modify_eq_set_of_getElem hget
        rw [hset]
        refine lookup_set_of_ne hget ?_ (Ne.symm hq)
        rw [hid]
        exact Ne.symm hne
      · rfl
      · rfl

/-- What `MQTT_Publish` needs to send a new publish: sound parameters, a number that no record
has, a free record, and the transport. -/
structure Takes (transport : Bool) (context : Context) (records : List PubAckInfo)
    (info : PublishInfo) (packetId : Nat) :
    Prop where
  valid : validatePublishParams context info packetId = .MQTTSuccess
  size : MQTT_GetPublishPacketSize info = .MQTTSuccess
  unused : ∀ r ∈ records, r.packetId ≠ packetId
  room : ∃ r ∈ records, r.packetId = MQTT_PACKET_ID_INVALID
  transport : transport = true

/-- What `MQTT_Publish` can come to. -/
inductive Outcome (transport : Bool) (context : Context) (records : List PubAckInfo)
    (info : PublishInfo) (packetId : Nat) :
    Published → Prop where
  | refused (status : Status) (after : List PubAckInfo) (hstatus : status ≠ .MQTTSuccess)
      (hnot : ¬ Takes transport context records info packetId)
      (keeps : ∀ q st, q ≠ MQTT_PACKET_ID_INVALID → lookup records q = some st → lookup after q = some st) :
      Outcome transport context records info packetId ⟨status, false, after⟩
  | sent (after : List PubAckInfo) (hid : packetId ≠ MQTT_PACKET_ID_INVALID)
      (hnew : info.dup = false → Takes transport context records info packetId)
      (pending : lookup after packetId = some .MQTTPubAckPending)
      (others : ∀ q, q ≠ MQTT_PACKET_ID_INVALID → q ≠ packetId → lookup after q = lookup records q) :
      Outcome transport context records info packetId ⟨.MQTTSuccess, true, after⟩
  | illegal (status : Status) (after : List PubAckInfo) (hstatus : status ≠ .MQTTSuccess)
      (hdup : info.dup = true)
      (same : ∀ q, q ≠ MQTT_PACKET_ID_INVALID → lookup after q = lookup records q) :
      Outcome transport context records info packetId ⟨status, true, after⟩

variable {transport : Bool} {context : Context} {info : PublishInfo}

/-- A publish with valid parameters has a number. -/
theorem validatePublishParams_id (h : validatePublishParams context info packetId = .MQTTSuccess) :
    packetId ≠ MQTT_PACKET_ID_INVALID := by
  rintro rfl
  cases h

/-- To add a record loses none. -/
theorem Added.keeps {status : Status} {after : List PubAckInfo}
    (h : Added records packetId publishState status after)
    {st : PublishState} (hq : q ≠ MQTT_PACKET_ID_INVALID) (hlookup : lookup records q = some st) :
    lookup after q = some st := by
  cases h with
  | added _ unused room new others =>
    have hne : q ≠ packetId := by
      rintro rfl
      rw [lookup_eq_none_iff.mpr unused] at hlookup
      cases hlookup
    rw [others q hq hne]
    exact hlookup
  | collision _ used same =>
    rw [same q hq]
    exact hlookup
  | full _ used same =>
    rw [same q hq]
    exact hlookup

/-- Where no record has been added, the library could not take a new publish. -/
theorem Added.not_takes {status : Status} {after : List PubAckInfo}
    (h : Added records packetId publishState status after)
    (hstatus : status ≠ .MQTTSuccess) : ¬ Takes transport context records info packetId := by
  intro htakes
  cases h with
  | added _ unused room new others => exact hstatus rfl
  | collision _ used same =>
    obtain ⟨r, hr, hid⟩ := used
    exact htakes.unused r hr hid
  | full _ used same =>
    obtain ⟨r, hr, hid⟩ := htakes.room
    exact used r hr hid

/-- The outcome once a record has been reserved, or found for a duplicate. -/
theorem outcome_of_added {status : Status} {after : List PubAckInfo}
    (hvalid : validatePublishParams context info packetId = .MQTTSuccess)
    (hsize : MQTT_GetPublishPacketSize info = .MQTTSuccess) (htransport : transport = true)
    (hadded : Added records packetId .MQTTPublishSend status after)
    (hgo : status = .MQTTSuccess ∨ status = .MQTTStateCollision ∧ info.dup = true) :
    Outcome transport context records info packetId
      ⟨(MQTT_UpdateStatePublish after packetId).1, true, (MQTT_UpdateStatePublish after packetId).2⟩ := by
  have hp := validatePublishParams_id hvalid
  cases hadded with
  | added _ unused room new others =>
    obtain ⟨hstatus, hpending, hrest⟩ := updateStatePublish_pending hp (.inl new)
    rw [hstatus]
    refine .sent _ hp (fun _ => ⟨hvalid, hsize, unused, room, htransport⟩) hpending ?_
    intro q hq hne
    exact (hrest q hne).trans (others q hq hne)
  | collision _ used same =>
    have hdup : info.dup = true := by
      obtain hsuccess | hcollision := hgo
      · cases hsuccess
      · exact hcollision.2
    by_cases hready : lookup after packetId = some .MQTTPublishSend ∨
      lookup after packetId = some .MQTTPubAckPending
    · obtain ⟨hstatus, hpending, hrest⟩ := updateStatePublish_pending hp hready
      have hnot : info.dup ≠ false := by simp [hdup]
      rw [hstatus]
      refine .sent _ hp (fun hnew => absurd hnew hnot) hpending ?_
      intro q hq hne
      exact (hrest q hne).trans (same q hq)
    · obtain ⟨hstatus, hafter⟩ := updateStatePublish_illegal (not_or.mp hready)
      rw [hafter]
      exact .illegal _ after hstatus hdup same
  | full _ used same =>
    obtain hsuccess | hcollision := hgo
    · cases hsuccess
    · cases hcollision.1

/-- Every call of `MQTT_Publish` comes to one of these outcomes. -/
theorem publish_outcome (transport : Bool) (context : Context)
    (records : List PubAckInfo) (info : PublishInfo)
    (packetId : Nat) :
    Outcome transport context records info packetId
    (MQTT_Publish transport context records info packetId) := by
  unfold MQTT_Publish
  by_cases hvalid : validatePublishParams context info packetId = .MQTTSuccess
  swap
  · rw [if_pos hvalid]
    exact .refused _ records hvalid (fun h => hvalid h.valid) fun _ _ _ h => h
  rw [if_neg (not_not.mpr hvalid)]
  by_cases hsize : MQTT_GetPublishPacketSize info = .MQTTSuccess
  swap
  · rw [if_pos hsize]
    exact .refused _ records hsize (fun h => hsize h.size) fun _ _ _ h => h
  rw [if_neg (not_not.mpr hsize)]
  have hp := validatePublishParams_id hvalid
  have hadded : Added records packetId .MQTTPublishSend (addRecord records packetId .MQTTPublishSend).1
      (addRecord records packetId .MQTTPublishSend).2 := addRecord_added hp
  unfold MQTT_ReserveState
  rw [if_neg hp]
  generalize addRecord records packetId .MQTTPublishSend = reserved at hadded ⊢
  obtain ⟨status, after⟩ := reserved
  simp only at hadded ⊢
  by_cases hgo : status = .MQTTSuccess ∨ status = .MQTTStateCollision ∧ info.dup = true
  · have hstatus : (if status = .MQTTStateCollision ∧ info.dup = true then .MQTTSuccess else status) =
        Status.MQTTSuccess := by
      obtain rfl | hcollision := hgo
      · exact ite_self _
      · exact if_pos hcollision
    rw [hstatus, if_neg (not_not.mpr rfl)]
    by_cases htransport : transport = false
    · rw [if_pos htransport]
      refine .refused _ after nofun ?_ fun _ _ hq hlookup => hadded.keeps hq hlookup
      intro htakes
      rw [htakes.transport] at htransport
      cases htransport
    · rw [if_neg htransport]
      exact outcome_of_added hvalid hsize (Bool.not_eq_false _ ▸ htransport) hadded hgo
  · rw [not_or] at hgo
    have hstatus : (if status = .MQTTStateCollision ∧
      info.dup = true then .MQTTSuccess else status) = status :=
      if_neg hgo.2
    rw [hstatus, if_pos hgo.1]
    exact .refused _ after hgo.1 (hadded.not_takes hgo.1) fun _ _ hq hlookup => hadded.keeps hq hlookup

/-- No publish makes the library forget a publish that waits for its PUBACK. -/
theorem publish_keeps_pending (hq : q ≠ MQTT_PACKET_ID_INVALID)
    (h : lookup records q = some .MQTTPubAckPending) :
    lookup (MQTT_Publish transport context records info packetId).records q = some .MQTTPubAckPending := by
  have houtcome := publish_outcome transport context records info packetId
  generalize MQTT_Publish transport context records info packetId = published at houtcome ⊢
  cases houtcome with
  | refused status after hstatus hnot keeps => exact keeps q _ hq h
  | sent after hid hnew pending others =>
    by_cases hqp : q = packetId
    · subst hqp
      exact pending
    · change lookup after q = _
      rw [others q hq hqp]
      exact h
  | illegal status after hstatus hdup same =>
    change lookup after q = _
    rw [same q hq]
    exact h

end coremqtt
