import CatLitterBox.Mqtt.Delivery
import CatLitterBox.Mqtt.Operations

open text blocks coremqtt

namespace coremqtt

/-- The state among those of every QoS. -/
def PublishState.lift : PublishState → state.MQTTPublishState
  | .MQTTStateNull => .MQTTStateNull
  | .MQTTPublishSend => .MQTTPublishSend
  | .MQTTPubAckPending => .MQTTPubAckPending
  | .MQTTPublishDone => .MQTTPublishDone

def Status.lift : Status → wire.MQTTStatus
  | .MQTTSuccess => .MQTTSuccess
  | .MQTTBadParameter => .MQTTBadParameter
  | .MQTTSendFailed => .MQTTSendFailed
  | .MQTTBadResponse => .MQTTBadResponse
  | .MQTTIllegalState => .MQTTIllegalState
  | .MQTTStateCollision => .MQTTStateCollision
  | .MQTTNoMemory => .MQTTNoMemory

/-- The record with the QoS that its field holds: 1 while the record is in use, 0 once it has
been cleared. -/
def PubAckInfo.lift (record : PubAckInfo) : state.MQTTPubAckInfo where
  packetId := record.packetId
  qos := if record.packetId = MQTT_PACKET_ID_INVALID then .MQTTQoS0 else .MQTTQoS1
  publishState := record.publishState.lift

/-- A record without a number has been cleared. -/
def Cleared (records : List PubAckInfo) : Prop :=
  ∀ record ∈ records, record.packetId = MQTT_PACKET_ID_INVALID → record = .free

variable {records : List PubAckInfo} {packetId : Nat} {publishState : PublishState}

theorem PubAckInfo.key_lift (record : PubAckInfo) :
    record.lift.key = if record.packetId = MQTT_PACKET_ID_INVALID then none else some record.packetId := rfl

theorem PubAckInfo.key_lift_eq_none (record : PubAckInfo) :
    record.lift.key = none ↔ record.packetId = MQTT_PACKET_ID_INVALID := by
  rw [key_lift]
  split_ifs with hfree <;> simp [hfree]

theorem PubAckInfo.isSome_key_lift (record : PubAckInfo) :
    record.lift.key.isSome = decide (record.packetId ≠ MQTT_PACKET_ID_INVALID) := by
  rw [key_lift]
  split_ifs with hfree <;> simp [hfree]

theorem PubAckInfo.lift_of_used (hp : packetId ≠ MQTT_PACKET_ID_INVALID) :
    (PubAckInfo.mk packetId publishState).lift = ⟨packetId, .MQTTQoS1, publishState.lift⟩ := by
  unfold PubAckInfo.lift
  rw [if_neg hp]

section add

theorem any_lift (hp : packetId ≠ MQTT_PACKET_ID_INVALID) :
    ((records.map PubAckInfo.lift).any fun record => record.key = some packetId) =
      records.any (·.packetId = packetId) := by
  rw [List.any_map]
  congr 1
  funext record
  by_cases hid : record.packetId = packetId
  · simp [PubAckInfo.key_lift, hid, hp]
  · simp [PubAckInfo.key_lift, hid]

/-- The records in use at the front, the cleared ones behind them. -/
theorem compactRecords_lift (hcleared : Cleared records) :
    table.compact state.MQTTPubAckInfo.key .free (records.map PubAckInfo.lift) =
      (compactRecords records).map PubAckInfo.lift := by
  have hfree : ∀ a ∈ records.map PubAckInfo.lift, a.key = none → a = .free := by
    intro a ha hkey
    obtain ⟨record, hrecord, rfl⟩ := List.mem_map.mp ha
    rw [hcleared record hrecord (record.key_lift_eq_none.mp hkey)]
    rfl
  have hused : table.entries state.MQTTPubAckInfo.key (records.map PubAckInfo.lift) =
      (records.filter (·.packetId ≠ MQTT_PACKET_ID_INVALID)).map PubAckInfo.lift := by
    unfold table.entries
    rw [List.filter_map]
    congr 2
    funext record
    exact record.isSome_key_lift
  have hrest : (records.filter (·.packetId = MQTT_PACKET_ID_INVALID)).map PubAckInfo.lift =
      List.replicate (records.filter (·.packetId = MQTT_PACKET_ID_INVALID)).length .free := by
    rw [List.eq_replicate_iff, List.length_map]
    refine ⟨rfl, fun a ha => ?_⟩
    obtain ⟨record, hrecord, rfl⟩ := List.mem_map.mp ha
    obtain ⟨hmem, hid⟩ := List.mem_filter.mp hrecord
    rw [hcleared record hmem (of_decide_eq_true hid)]
    rfl
  have hfree_key : state.MQTTPubAckInfo.free.key = none := rfl
  obtain ⟨gap, hcompact, hgap, hlength⟩ := table.compact_eq hfree_key (records.map PubAckInfo.lift)
  have hgap_free : gap = List.replicate gap.length .free := by
    refine List.eq_replicate_iff.mpr ⟨rfl, fun a ha => ?_⟩
    refine table.compact_free hfree a ?_ (hgap a ha)
    rw [hcompact]
    exact List.mem_append_right _ ha
  have hsplit := List.length_eq_length_filter_add (l := records)
    (fun record => decide (record.packetId ≠ MQTT_PACKET_ID_INVALID))
  have hgap_length : gap.length = (records.filter (·.packetId = MQTT_PACKET_ID_INVALID)).length := by
    rw [hused, List.length_map, List.length_map] at hlength
    simp only [ne_eq, decide_not, Bool.not_not] at hsplit hlength
    omega
  unfold compactRecords
  rw [hcompact, hused, hgap_free, hgap_length, ← hrest, List.map_append]

/-- The search from the front finds the record behind the last one in use. -/
theorem availableIndex_lift (records : List PubAckInfo) :
    availableIndex records =
      if (table.upToLast state.MQTTPubAckInfo.key (records.map PubAckInfo.lift)).length < records.length then
        some (table.upToLast state.MQTTPubAckInfo.key (records.map PubAckInfo.lift)).length
      else none := by
  obtain ⟨rest, hsplit, hrest⟩ :=
    @table.upToLast_split _ _ state.MQTTPubAckInfo.key (records.map PubAckInfo.lift)
  have hall : ∀ index, (records.drop index).all (·.packetId = MQTT_PACKET_ID_INVALID) = true ↔
      ∀ a ∈ (records.map PubAckInfo.lift).drop index, a.key = none := by
    intro index
    rw [← List.map_drop, List.forall_mem_map, List.all_eq_true]
    simp only [decide_eq_true_eq, PubAckInfo.key_lift_eq_none]
  have hlast : ∀ hne : table.upToLast state.MQTTPubAckInfo.key (records.map PubAckInfo.lift) ≠ [],
      (List.getLast _ hne).key ≠ none := by
    intro hne hnone
    refine List.rdropWhile_last_not _ _ hne ?_
    unfold table.upToLast at hnone
    rw [hnone]
    rfl
  have hlength : records.length = (records.map PubAckInfo.lift).length := (List.length_map _).symm
  unfold availableIndex
  simp only [hlength]
  generalize records.map PubAckInfo.lift = slots at hsplit hlast hall hlength ⊢
  generalize table.upToLast state.MQTTPubAckInfo.key slots = front at hsplit hlast ⊢
  have hfront : ∀ index < front.length, ¬ ∀ a ∈ slots.drop index, a.key = none := by
    intro index hindex hnone
    have hdrop : front.drop index ≠ [] := List.drop_eq_nil_iff.not.mpr (Nat.not_le_of_lt hindex)
    have hmem := List.getLast_mem hdrop
    rw [List.getLast_drop] at hmem
    refine hlast (List.ne_nil_of_length_pos (Nat.zero_lt_of_lt hindex)) (hnone _ ?_)
    rw [hsplit, List.drop_append_of_le_length hindex.le]
    exact List.mem_append_left _ hmem
  split_ifs with hroom
  · refine List.find?_range_eq_some.mpr ⟨?_, List.mem_range.mpr hroom, ?_⟩
    · refine (hall _).mpr ?_
      rw [hsplit, List.drop_left]
      exact hrest
    · intro index hindex
      rw [Bool.not_eq_true', ← Bool.not_eq_true]
      exact fun h => hfront index hindex ((hall index).mp h)
  · refine List.find?_eq_none.mpr fun index hindex h => ?_
    exact hfront index (by have := List.mem_range.mp hindex; omega) ((hall index).mp h)

/-- A record is added in the same way, and to the same end. -/
theorem addRecord_lift (hcleared : Cleared records) (hp : packetId ≠ MQTT_PACKET_ID_INVALID)
    (publishState : PublishState) :
    state.addRecord (records.map PubAckInfo.lift) packetId .MQTTQoS1 publishState.lift =
      ((addRecord records packetId publishState).1.lift,
        (addRecord records packetId publishState).2.map PubAckInfo.lift) := by
  have hcompacted : (if ((records.map PubAckInfo.lift).getLast?.bind state.MQTTPubAckInfo.key).isSome then
        table.compact state.MQTTPubAckInfo.key .free (records.map PubAckInfo.lift)
      else records.map PubAckInfo.lift) =
      (if records.getLast?.any (·.packetId ≠ MQTT_PACKET_ID_INVALID) then compactRecords records
        else records).map PubAckInfo.lift := by
    have hlast : ((records.map PubAckInfo.lift).getLast?.bind state.MQTTPubAckInfo.key).isSome =
        records.getLast?.any (·.packetId ≠ MQTT_PACKET_ID_INVALID) := by
      rw [List.getLast?_map]
      cases records.getLast? with
      | none => rfl
      | some record => exact record.isSome_key_lift
    rw [hlast, compactRecords_lift hcleared, ← apply_ite]
  unfold state.addRecord addRecord table.add
  rw [hcompacted]
  generalize (if records.getLast?.any (·.packetId ≠ MQTT_PACKET_ID_INVALID) then compactRecords records
    else records) = compact
  unfold table.place
  rw [table.available_start packetId _ le_rfl none, List.take_length, any_lift hp]
  simp only [availableIndex_lift, List.length_map]
  split_ifs with hused hroom
  · rfl
  · rw [List.map_set, PubAckInfo.lift_of_used hp]
    rfl
  · rfl

end add

theorem findInRecord_lift (hp : packetId ≠ MQTT_PACKET_ID_INVALID) :
    state.findInRecord (records.map PubAckInfo.lift) packetId =
      (findInRecord records packetId).map fun found =>
        (found.1, ⟨packetId, .MQTTQoS1, found.2.lift⟩) := by
  unfold state.findInRecord findInRecord
  rw [List.findIdx?_map]
  have hsame : (fun record : state.MQTTPubAckInfo => decide (record.packetId = packetId)) ∘ PubAckInfo.lift =
      fun record => decide (record.packetId = packetId) := rfl
  rw [hsame]
  cases hindex : records.findIdx? (·.packetId = packetId) with
  | none => rfl
  | some index =>
    obtain ⟨record, hget, hid⟩ := slots.getElem_of_find hindex
    obtain ⟨id, st⟩ := record
    obtain rfl : id = packetId := of_decide_eq_true hid
    simp only [List.getElem?_map, hget, Option.map_some, PubAckInfo.lift_of_used hp]

theorem updateRecord_lift {index : Nat} {record : PubAckInfo} (hget : records[index]? = some record)
    (newState : PublishState) (shouldDelete : Bool) :
    state.updateRecord (records.map PubAckInfo.lift) index newState.lift shouldDelete =
      (updateRecord records index newState shouldDelete).map PubAckInfo.lift := by
  have hlift : (records.map PubAckInfo.lift)[index]? = some record.lift := by rw [List.getElem?_map, hget]; rfl
  unfold state.updateRecord updateRecord
  rw [slots.modify_eq_set_of_getElem hget, slots.modify_eq_set_of_getElem hlift, List.map_set]
  cases shouldDelete with
  | true => rfl
  | false => rfl

theorem MQTT_ReserveState_lift (hcleared : Cleared records) (packetId : Nat) (incoming : List state.MQTTPubAckInfo) :
    state.MQTT_ReserveState ⟨records.map PubAckInfo.lift, incoming⟩ packetId .MQTTQoS1 =
      ((MQTT_ReserveState records packetId).1.lift,
        ⟨(MQTT_ReserveState records packetId).2.map PubAckInfo.lift, incoming⟩) := by
  unfold state.MQTT_ReserveState MQTT_ReserveState
  rw [if_neg nofun]
  split_ifs with hp
  · rfl
  · have hadd := addRecord_lift hcleared hp .MQTTPublishSend
    simp only [PublishState.lift] at hadd
    simp only [hadd]

/-- What comes with the status and the context, the new state, is not in the smaller model. -/
theorem MQTT_UpdateStatePublish_lift (records : List PubAckInfo) (packetId : Nat)
    (incoming : List state.MQTTPubAckInfo) :
    (state.MQTT_UpdateStatePublish ⟨records.map PubAckInfo.lift, incoming⟩ packetId .MQTT_SEND .MQTTQoS1).map
        id Prod.snd =
      ((MQTT_UpdateStatePublish records packetId).1.lift,
        ⟨(MQTT_UpdateStatePublish records packetId).2.map PubAckInfo.lift, incoming⟩) := by
  unfold state.MQTT_UpdateStatePublish MQTT_UpdateStatePublish
  rw [if_neg nofun]
  by_cases hp : packetId = MQTT_PACKET_ID_INVALID
  · rw [if_pos hp, if_pos hp]
    rfl
  rw [if_neg hp, if_neg hp]
  simp only [findInRecord_lift hp]
  cases hfind : findInRecord records packetId with
  | none => rfl
  | some found =>
    obtain ⟨index, currentState⟩ := found
    obtain ⟨-, record, hget, -⟩ := lookup_of_findInRecord hfind
    have hupdate := updateRecord_lift hget .MQTTPubAckPending false
    cases currentState with
    | MQTTPublishSend => exact Prod.ext rfl (congrArg (state.MQTTContext.mk · incoming) hupdate)
    | MQTTStateNull | MQTTPubAckPending | MQTTPublishDone => rfl

theorem MQTT_UpdateStateAck_lift (records : List PubAckInfo) (packetId : Nat)
    (incoming : List state.MQTTPubAckInfo) :
    (state.MQTT_UpdateStateAck ⟨records.map PubAckInfo.lift, incoming⟩ packetId .MQTTPuback .MQTT_RECEIVE).map
        id Prod.snd =
      ((MQTT_UpdateStateAck records packetId).1.lift,
        ⟨(MQTT_UpdateStateAck records packetId).2.map PubAckInfo.lift, incoming⟩) := by
  unfold state.MQTT_UpdateStateAck MQTT_UpdateStateAck
  by_cases hp : packetId = MQTT_PACKET_ID_INVALID
  · rw [if_pos hp, if_pos hp]
    rfl
  rw [if_neg hp, if_neg hp]
  simp only [state.isPublishOutgoing, decide_true, if_true, findInRecord_lift hp]
  cases hfind : findInRecord records packetId with
  | none => rfl
  | some found =>
    obtain ⟨index, currentState⟩ := found
    obtain ⟨-, record, hget, -⟩ := lookup_of_findInRecord hfind
    have hupdate := updateRecord_lift hget .MQTTPublishDone true
    cases currentState with
    | MQTTPubAckPending => exact Prod.ext rfl (congrArg (state.MQTTContext.mk · incoming) hupdate)
    | MQTTStateNull | MQTTPublishSend | MQTTPublishDone => rfl

section publish

variable {context : Context} {info : PublishInfo}

theorem sendPublish_lift (records : List PubAckInfo) (packetId : Nat) (incoming : List state.MQTTPubAckInfo)
    (history : List state.Event) (transport : Bool) :
    (state.sendPublish ⟨⟨records.map PubAckInfo.lift, incoming⟩, history⟩ packetId .MQTTQoS1 transport).map
        id state.Client.context =
      if transport = false then (.MQTTSendFailed, ⟨records.map PubAckInfo.lift, incoming⟩)
      else ((MQTT_UpdateStatePublish records packetId).1.lift,
        ⟨(MQTT_UpdateStatePublish records packetId).2.map PubAckInfo.lift, incoming⟩) := by
  cases transport with
  | false => rfl
  | true =>
    have hupdate := MQTT_UpdateStatePublish_lift records packetId incoming
    unfold state.sendPublish
    simp only [if_true, Bool.true_eq_false, if_false]
    generalize state.MQTT_UpdateStatePublish _ packetId .MQTT_SEND .MQTTQoS1 = updated at hupdate ⊢
    exact hupdate

/-- A publish of QoS 1 whose parameters are valid ends with the same status and the same
records in both models. -/
theorem MQTT_Publish_lift (transport : Bool) (hcleared : Cleared records)
    (hvalid : validatePublishParams context info packetId = .MQTTSuccess)
    (hsize : MQTT_GetPublishPacketSize info = .MQTTSuccess) (incoming : List state.MQTTPubAckInfo)
    (history : List state.Event) :
    (state.MQTT_Publish ⟨⟨records.map PubAckInfo.lift, incoming⟩, history⟩ packetId .MQTTQoS1 info.dup
        transport).map id state.Client.context =
      ((MQTT_Publish transport context records info packetId).status.lift,
        ⟨(MQTT_Publish transport context records info packetId).records.map PubAckInfo.lift, incoming⟩) := by
  have hreserve := MQTT_ReserveState_lift hcleared packetId incoming
  unfold state.MQTT_Publish MQTT_Publish
  rw [if_neg (not_not.mpr hvalid), if_neg (not_not.mpr hsize)]
  simp only [hreserve]
  generalize MQTT_ReserveState records packetId = reserved
  obtain ⟨status, after⟩ := reserved
  simp only
  by_cases hdup : info.dup = true
  · cases status with
    | MQTTSuccess | MQTTStateCollision =>
      simp only [hdup, Status.lift, reduceCtorEq, and_true, if_true, if_false, ne_eq, not_true,
        sendPublish_lift]
      split_ifs <;> rfl
    | _ => simp [Status.lift]
  · cases status with
    | MQTTSuccess =>
      simp only [Status.lift, reduceCtorEq, false_and, if_false, ne_eq, not_true, sendPublish_lift]
      split_ifs <;> rfl
    | _ => simp [hdup, Status.lift]

/-- The sizes of a publish of QoS 1 can be computed in both models, or in neither. -/
theorem MQTT_GetPublishPacketSize_lift {w : wire.MQTTPublishInfo} (hqos : w.qos = .MQTTQoS1)
    (htopic : w.pTopicName = none ↔ info.pTopicName = none)
    (hlength : w.topicNameLength.toNat = info.topicNameLength)
    (hpayload : w.payloadLength = info.payloadLength) :
    MQTT_GetPublishPacketSize info = .MQTTSuccess ↔ ∃ sizes, wire.MQTT_GetPublishPacketSize w = .ok sizes := by
  have hzero : w.topicNameLength = 0 ↔ info.topicNameLength = 0 := by
    rw [← hlength, ← UInt16.toNat_inj]
    rfl
  have hsize : calculatePublishPacketSize info = (wire.calculatePublishPacketSize w).isSome := by
    unfold calculatePublishPacketSize wire.calculatePublishPacketSize
    simp only [hqos, hlength, hpayload, ne_eq, reduceCtorEq, not_false_eq_true, if_true]
    split_ifs with hlimit hroom
    · rfl
    · exact decide_eq_false (Nat.not_le_of_lt hroom)
    · exact decide_eq_true (Nat.le_of_not_lt hroom)
  unfold MQTT_GetPublishPacketSize wire.MQTT_GetPublishPacketSize
  simp only [htopic, hzero, hsize]
  by_cases hbad : info.pTopicName = none ∨ info.topicNameLength = 0
  · simp [hbad]
  · rw [if_neg hbad, if_neg hbad]
    cases wire.calculatePublishPacketSize w with
    | none => simp
    | some sizes => simp

end publish

section cleared

/-- A slot that is given a number, or cleared, leaves every record written or cleared. -/
theorem Cleared.set (hcleared : Cleared records) {index : Nat} {record : PubAckInfo}
    (hrecord : record.packetId = MQTT_PACKET_ID_INVALID → record = .free) :
    Cleared (records.set index record) := by
  intro r hr hid
  obtain hr | rfl := List.mem_or_eq_of_mem_set hr
  · exact hcleared r hr hid
  · exact hrecord hid

/-- An added record leaves the others written or cleared. -/
theorem Cleared.addRecord (hcleared : Cleared records) (hp : packetId ≠ MQTT_PACKET_ID_INVALID) :
    Cleared (addRecord records packetId publishState).2 := by
  have hcompact : Cleared (if records.getLast?.any (·.packetId ≠ MQTT_PACKET_ID_INVALID) then
      compactRecords records else records) := by
    split_ifs
    · exact fun r hr => hcleared r (mem_compactRecords.mp hr)
    · exact hcleared
  unfold coremqtt.addRecord
  simp only
  split_ifs at hcompact ⊢ with hlast hused hused
  all_goals
    first
    | exact hcompact
    | split
      · exact hcompact.set fun h => absurd h hp
      · exact hcompact

theorem Cleared.reserve (hcleared : Cleared records) (packetId : Nat) :
    Cleared (MQTT_ReserveState records packetId).2 := by
  unfold MQTT_ReserveState
  split_ifs with hp
  · exact hcleared
  · exact hcleared.addRecord hp

/-- A publish that has been sent leaves every record written or cleared. -/
theorem Cleared.updateStatePublish (hcleared : Cleared records) (packetId : Nat) :
    Cleared (MQTT_UpdateStatePublish records packetId).2 := by
  unfold MQTT_UpdateStatePublish
  split_ifs with hp
  · exact hcleared
  cases hfind : findInRecord records packetId with
  | none => exact hcleared
  | some found =>
    obtain ⟨index, currentState⟩ := found
    obtain ⟨-, record, hget, hid⟩ := lookup_of_findInRecord hfind
    have hset : Cleared (updateRecord records index .MQTTPubAckPending false) := by
      unfold updateRecord
      rw [slots.modify_eq_set_of_getElem hget]
      refine hcleared.set fun h => absurd ?_ hp
      rw [← hid]
      exact h
    cases currentState with
    | MQTTPublishSend => exact hset
    | MQTTStateNull | MQTTPubAckPending | MQTTPublishDone => exact hcleared

/-- So does a PUBACK. -/
theorem Cleared.updateStateAck (hcleared : Cleared records) (packetId : Nat) :
    Cleared (MQTT_UpdateStateAck records packetId).2 := by
  unfold MQTT_UpdateStateAck
  split_ifs with hp
  · exact hcleared
  cases hfind : findInRecord records packetId with
  | none => exact hcleared
  | some found =>
    obtain ⟨index, currentState⟩ := found
    obtain ⟨-, record, hget, -⟩ := lookup_of_findInRecord hfind
    have hset : Cleared (updateRecord records index .MQTTPublishDone true) := by
      unfold updateRecord
      rw [slots.modify_eq_set_of_getElem hget]
      exact hcleared.set fun _ => rfl
    cases currentState with
    | MQTTPubAckPending => exact hset
    | MQTTStateNull | MQTTPublishSend | MQTTPublishDone => exact hcleared

theorem Cleared.publish (hcleared : Cleared records) (transport : Bool) (context : Context) (info : PublishInfo)
    (packetId : Nat) : Cleared (MQTT_Publish transport context records info packetId).records := by
  have hreserved := hcleared.reserve packetId
  unfold MQTT_Publish
  simp only
  split_ifs
  · exact hcleared
  · exact hcleared
  all_goals first | exact hreserved | exact hreserved.updateStatePublish packetId

/-- Where all are cleared, no number is left. -/
theorem Cleared.freed (records : List PubAckInfo) : Cleared (records.map fun _ => .free) := by
  intro record hrecord _
  obtain ⟨_, _, rfl⟩ := List.mem_map.mp hrecord
  rfl

end cleared

section runs

/-- The outgoing records of the state engine are these records. -/
structure Mirrors (c : state.Client) (records : List PubAckInfo) : Prop where
  cleared : Cleared records
  outgoing : c.context.outgoingPublishRecords = records.map PubAckInfo.lift

/-- The state engine comes from one list of outgoing records to the other by what happens to it. -/
structure Follows (records after : List PubAckInfo) : Prop where
  inputs : ∀ c : state.Client, Mirrors c records → ∃ inputs : List state.Input,
    Mirrors (inputs.foldl state.Client.step c) after

variable {after : List PubAckInfo}

/-- Nothing happens. -/
theorem Follows.refl (records : List PubAckInfo) : Follows records records := ⟨fun _ h => ⟨[], h⟩⟩

/-- One list follows the other through one in between. -/
theorem Follows.trans {last : List PubAckInfo} (h : Follows records after) (hnext : Follows after last) :
    Follows records last := by
  constructor
  intro c hc
  obtain ⟨inputs, hinputs⟩ := h.inputs c hc
  obtain ⟨more, hmore⟩ := hnext.inputs _ hinputs
  refine ⟨inputs ++ more, ?_⟩
  rw [List.foldl_append]
  exact hmore

/-- It is enough to know the outgoing records after one input. -/
theorem Follows.single (hcleared : Cleared records → Cleared after) (input : state.Input)
    (h : Cleared records → ∀ incoming history,
      ((state.Client.mk ⟨records.map PubAckInfo.lift, incoming⟩ history).step input).context.outgoingPublishRecords =
        after.map PubAckInfo.lift) :
    Follows records after := by
  constructor
  rintro ⟨⟨outgoing, incoming⟩, history⟩ hc
  obtain rfl : outgoing = records.map PubAckInfo.lift := hc.outgoing
  exact ⟨[input], hcleared hc.cleared, h hc.cleared incoming history⟩

/-- The state engine follows a publish, whether it is sent or refused. -/
theorem follows_publish (transport : Bool) (context : Context) (records : List PubAckInfo) (info : PublishInfo)
    (packetId : Nat) : Follows records (MQTT_Publish transport context records info packetId).records := by
  by_cases hvalid : validatePublishParams context info packetId = .MQTTSuccess
  swap
  · unfold MQTT_Publish
    rw [if_pos hvalid]
    exact .refl records
  by_cases hsize : MQTT_GetPublishPacketSize info = .MQTTSuccess
  swap
  · unfold MQTT_Publish
    rw [if_neg (not_not.mpr hvalid), if_pos hsize]
    exact .refl records
  refine .single (fun hcleared => hcleared.publish transport context info packetId)
    (.MQTT_Publish packetId .MQTTQoS1 info.dup transport) fun hcleared incoming history => ?_
  have hpublish := MQTT_Publish_lift transport hcleared hvalid hsize incoming history
  exact congrArg (fun result => result.2.outgoingPublishRecords) hpublish

private theorem sendPublishAcks_unsent (s : state.Client) (packetId : Nat) (publishState : state.MQTTPublishState) :
    (state.sendPublishAcks s packetId publishState false).2 = s := by
  unfold state.sendPublishAcks
  cases state.getAckTypeToSend publishState with
  | none => rfl
  | some packetType =>
    simp only [Bool.false_eq_true, and_false, if_false]

theorem follows_puback (records : List PubAckInfo) (packetId : Nat) :
    Follows records (MQTT_UpdateStateAck records packetId).2 := by
  refine .single (fun hcleared => hcleared.updateStateAck packetId)
    (.ack .MQTTPuback packetId false) fun hcleared incoming history => ?_
  have hack := MQTT_UpdateStateAck_lift records packetId incoming
  change (state.handlePublishAcks _ .MQTTPuback packetId false).2.context.outgoingPublishRecords = _
  unfold state.handlePublishAcks
  simp only
  generalize state.MQTT_UpdateStateAck _ packetId .MQTTPuback .MQTT_RECEIVE = updated at hack ⊢
  obtain ⟨status, publishState, context⟩ := updated
  have hcontext : context.outgoingPublishRecords = (MQTT_UpdateStateAck records packetId).2.map PubAckInfo.lift :=
    congrArg (fun result => result.2.outgoingPublishRecords) hack
  simp only
  split_ifs
  · rw [sendPublishAcks_unsent]
    exact hcontext
  · exact hcontext

/-- Among publishes of QoS 1 there is no PUBREL to be sent again. -/
theorem stateSelect_lift (records : List PubAckInfo) (cursor : Nat) :
    (state.stateSelect [.MQTTPubCompPending, .MQTTPubRelSend] (records.map PubAckInfo.lift) cursor).1 =
      MQTT_PACKET_ID_INVALID := by
  induction records generalizing cursor with
  | nil => rfl
  | cons record records ih =>
    have hother : record.lift.publishState ∉
        [state.MQTTPublishState.MQTTPubCompPending, .MQTTPubRelSend] := by
      obtain ⟨packetId, publishState⟩ := record
      cases publishState <;> simp [PubAckInfo.lift, PublishState.lift]
    rw [List.map_cons, state.stateSelect, if_neg hother]
    exact ih (cursor + 1)

/-- A session that is resumed changes none of the records. -/
theorem follows_resumed (records : List PubAckInfo) : Follows records records := by
  refine .single id (.MQTT_Connect true fun _ => false) fun _ incoming history => ?_
  change (state.resendPubrels _ _ _ 0).2.context.outgoingPublishRecords = _
  cases (state.MQTTContext.mk (records.map PubAckInfo.lift) incoming).outgoingPublishRecords.length with
  | zero => rfl
  | succ turns =>
    have hnone := stateSelect_lift records 0
    unfold state.resendPubrels state.MQTT_PubrelToResend
    rw [List.drop_zero]
    simp only [hnone, ne_eq, not_true, if_false]

/-- A session that the broker does not have any more clears the records. -/
theorem follows_cleared (records : List PubAckInfo) : Follows records (records.map fun _ => .free) := by
  refine .single (fun _ => Cleared.freed records) (.MQTT_Connect false fun _ => false) fun _ incoming history => ?_
  change (records.map PubAckInfo.lift).map (fun _ => state.MQTTPubAckInfo.free) = _
  rw [List.map_map, List.map_map]
  rfl

end runs

end coremqtt

namespace catbox.session

theorem resend_follows (memory : Store UInt8) (context : Context) (packets : List PublishPackets)
    (transport : List Bool) (records : List PubAckInfo) (wire : List Packet) :
    Follows records (resend memory context packets transport records wire).2.2.1 := by
  induction packets generalizing transport records wire with
  | nil => exact .refl records
  | cons packet packets ih =>
    unfold resend
    by_cases hused : packet.packetId ≠ MQTT_PACKET_ID_INVALID
    · rw [if_pos hused]
      have hfirst := follows_publish (transport.headD false) context records
        { packet.pubInfo with dup := true } packet.packetId
      simp only
      generalize MQTT_Publish (transport.headD false) context records _ packet.packetId = published at hfirst ⊢
      by_cases hstatus : published.status ≠ .MQTTSuccess
      · rw [if_pos hstatus]
        exact hfirst
      · rw [if_neg hstatus]
        exact hfirst.trans (ih transport.tail published.records _)
    · rw [if_neg hused]
      exact ih transport records wire

private theorem publishToTopic_follows (s : Client) (pTopicFilter topicFilterLength pPayload payloadLength : Nat)
    (transport : Bool) :
    Follows s.pOutgoingPublishRecords
      (s.PublishToTopic pTopicFilter topicFilterLength pPayload payloadLength transport).2.pOutgoingPublishRecords := by
  unfold Client.PublishToTopic
  cases getNextFreeIndexForOutgoingPublishes s.outgoingPublishPackets with
  | none => exact .refl _
  | some publishIndex =>
    simp only
    split
    · exact follows_publish ..
    · exact follows_publish ..

theorem publish_text_follows (s : Client) (topic : Option Bytes) (text : Bytes) (transport : Bool) :
    Follows s.pOutgoingPublishRecords (s.publish_text topic text transport).pOutgoingPublishRecords := by
  unfold Client.publish_text Store.alloc
  cases topic with
  | none => exact .refl _
  | some topic =>
    exact publishToTopic_follows
      { s with memory := s.memory ++ [⟨text ++ [0], true⟩] ++ [⟨snprintf 100 topic, true⟩] } ..

/-- What a step does to the records of the client, the library does to those of its state
engine. -/
theorem step_follows (s : Client) (m : Move) :
    Follows s.pOutgoingPublishRecords (s.step m).pOutgoingPublishRecords := by
  cases m with
  | Send_cJSON_Messege cmd mac text transport =>
    cases text with
    | none => exact .refl _
    | some text => exact publish_text_follows ..
  | Send_cJSON_Messege_for_tracker p text transport =>
    cases text with
    | none => exact .refl _
    | some text => exact publish_text_follows ..
  | SubscribeToTopic cmd mac transport => exact .refl _
  | PUBACK packetId =>
    change Follows _ (s.handlePublishAcks packetId).pOutgoingPublishRecords
    unfold Client.handlePublishAcks
    split_ifs
    · exact .refl _
    · simp only
      split_ifs
      · exact follows_puback ..
      · exact follows_puback ..
  | EstablishMqttSession connack transport =>
    cases connack with
    | unreachable | refused => exact .refl _
    | accepted sessionPresent =>
      cases sessionPresent with
      | true => exact (follows_resumed _).trans (resend_follows ..)
      | false => exact follows_cleared _
  | DisconnectMqttSession => exact .refl _
  | reuse block content => exact .refl _

/-- In every run of the client its records are the outgoing ones of a run of the state engine, so that they
say of each packet what the history of that run says. What is proved of the state engine holds for the
publishes of the client in this way. -/
theorem records_of_library (moves : List Move) {incomingPublishCount : Nat} (hincoming : incomingPublishCount ≠ 0) :
    ∃ inputs : List state.Input,
      (inputs.foldl state.Client.step
        (.init OUTGOING_PUBLISH_RECORD_LEN incomingPublishCount)).context.outgoingPublishRecords =
        (moves.foldl Client.step Client.boot).pOutgoingPublishRecords.map PubAckInfo.lift ∧
      state.sending (inputs.foldl state.Client.step
        (.init OUTGOING_PUBLISH_RECORD_LEN incomingPublishCount)).history =
        state.view ((moves.foldl Client.step Client.boot).pOutgoingPublishRecords.map PubAckInfo.lift) := by
  have hrun : ∀ s : Client,
      Follows s.pOutgoingPublishRecords (moves.foldl Client.step s).pOutgoingPublishRecords := by
    induction moves with
    | nil => exact fun s => .refl _
    | cons m moves ih => exact fun s => (step_follows s m).trans (ih _)
  have hinit : Mirrors (.init OUTGOING_PUBLISH_RECORD_LEN incomingPublishCount)
      Client.boot.pOutgoingPublishRecords := by
    refine ⟨?_, rfl⟩
    intro record hrecord _
    exact List.eq_of_mem_replicate hrecord
  obtain ⟨inputs, hmirrors⟩ := (hrun Client.boot).inputs _ hinit
  have hlength : OUTGOING_PUBLISH_RECORD_LEN ≠ 0 := nofun
  have hsound : (inputs.foldl state.Client.step
      (.init OUTGOING_PUBLISH_RECORD_LEN incomingPublishCount)).Sound OUTGOING_PUBLISH_RECORD_LEN
        incomingPublishCount :=
    state.run_sound hlength hincoming inputs
  refine ⟨inputs, hmirrors.outgoing, ?_⟩
  rw [← hmirrors.outgoing]
  exact hsound.sending.symm

end catbox.session
