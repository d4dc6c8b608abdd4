import CatLitterBox.Mqtt.State

open coremqtt.wire

namespace coremqtt.state

/-- An exchange of packets about a publish: its quality of service, and how far it has come. -/
abbrev Exchange : Type := MQTTQoS × MQTTPublishState

/-- The exchanges of the publishes that come in, by their packet. -/
def receiver (exchanges : Nat → Option Exchange) : Event → Nat → Option Exchange
  | .delivered p .MQTTQoS1 => Function.update exchanges p (some (.MQTTQoS1, .MQTTPubAckSend))
  | .delivered p .MQTTQoS2 => Function.update exchanges p (some (.MQTTQoS2, .MQTTPubRecSend))
  | .acknowledged .MQTTPuback p =>
    if exchanges p = some (.MQTTQoS1, .MQTTPubAckSend) then Function.update exchanges p none else exchanges
  | .acknowledged .MQTTPubrec p =>
    if exchanges p = some (.MQTTQoS2, .MQTTPubRecSend) then
      Function.update exchanges p (some (.MQTTQoS2, .MQTTPubRelPending))
    else exchanges
  | .received .MQTTPubrel p => Function.update exchanges p (some (.MQTTQoS2, .MQTTPubCompSend))
  | .acknowledged .MQTTPubcomp p =>
    if exchanges p = some (.MQTTQoS2, .MQTTPubCompSend) then Function.update exchanges p none else exchanges
  | .cleared => fun _ => none
  | _ => exchanges

/-- The exchanges of the publishes that go out. -/
def sender (exchanges : Nat → Option Exchange) : Event → Nat → Option Exchange
  | .reserved p .MQTTQoS1 => Function.update exchanges p (some (.MQTTQoS1, .MQTTPublishSend))
  | .reserved p .MQTTQoS2 => Function.update exchanges p (some (.MQTTQoS2, .MQTTPublishSend))
  | .published p .MQTTQoS1 =>
    if exchanges p = some (.MQTTQoS1, .MQTTPublishSend) then
      Function.update exchanges p (some (.MQTTQoS1, .MQTTPubAckPending))
    else exchanges
  | .published p .MQTTQoS2 =>
    if exchanges p = some (.MQTTQoS2, .MQTTPublishSend) then
      Function.update exchanges p (some (.MQTTQoS2, .MQTTPubRecPending))
    else exchanges
  | .received .MQTTPuback p | .received .MQTTPubcomp p => Function.update exchanges p none
  | .received .MQTTPubrec p => Function.update exchanges p (some (.MQTTQoS2, .MQTTPubRelSend))
  | .acknowledged .MQTTPubrel p =>
    if exchanges p = some (.MQTTQoS2, .MQTTPubRelSend) then
      Function.update exchanges p (some (.MQTTQoS2, .MQTTPubCompPending))
    else exchanges
  | .cleared => fun _ => none
  | _ => exchanges

def receiving (h : List Event) : Nat → Option Exchange :=
  h.foldr (fun e exchanges => receiver exchanges e) fun _ => none

def sending (h : List Event) : Nat → Option Exchange :=
  h.foldr (fun e exchanges => sender exchanges e) fun _ => none

/-- How far the exchange of a publish that comes in can be. -/
def Receiving (x : Exchange) : Prop :=
  x = (.MQTTQoS1, .MQTTPubAckSend) ∨ x = (.MQTTQoS2, .MQTTPubRecSend) ∨ x = (.MQTTQoS2, .MQTTPubRelPending) ∨
    x = (.MQTTQoS2, .MQTTPubCompSend)

/-- How far the exchange of a publish that goes out can be. -/
def Sending (x : Exchange) : Prop :=
  x = (.MQTTQoS1, .MQTTPublishSend) ∨ x = (.MQTTQoS2, .MQTTPublishSend) ∨ x = (.MQTTQoS1, .MQTTPubAckPending) ∨
    x = (.MQTTQoS2, .MQTTPubRecPending) ∨ x = (.MQTTQoS2, .MQTTPubRelSend) ∨
      x = (.MQTTQoS2, .MQTTPubCompPending)

/-- An acknowledgment moves an exchange to another state, or ends it, where the state engine allows it. -/
def advance (new : Exchange → MQTTPublishState) (exchanges : Nat → Option Exchange) (p : Nat) :
    Nat → Option Exchange :=
  match exchanges p with
  | none => exchanges
  | some x =>
    if validateTransitionAck x.2 (new x) then
      Function.update exchanges p (if new x = .MQTTPublishDone then none else some (x.1, new x))
    else exchanges

/-- What the records say. -/
def view (records : List MQTTPubAckInfo) : Nat → Option Exchange :=
  Option.map (fun record => (record.qos, record.publishState)) ∘ table.lookup MQTTPubAckInfo.key records

/-- There are so many records, and no two of them are of the same packet. -/
structure Tidy (count : Nat) (records : List MQTTPubAckInfo) : Prop where
  length : records.length = count
  nonempty : records ≠ []
  distinct : table.Distinct MQTTPubAckInfo.key records

variable {records : List MQTTPubAckInfo} {record : MQTTPubAckInfo} {packetId index : Nat} {qos : MQTTQoS}
  {publishState : MQTTPublishState} {exchanges : Nat → Option Exchange} {x : Exchange} {p count : Nat}

theorem update_exchange {good : Exchange → Prop} {v : Option Exchange} (h : ∀ p, ∀ x ∈ exchanges p, good x)
    (hv : ∀ x ∈ v, good x) : ∀ q, ∀ x ∈ Function.update exchanges p v q, good x := by
  intro q x hx
  rw [Function.update_apply] at hx
  split_ifs at hx
  · exact hv x hx
  · exact h q x hx

private theorem receiver_receiving (h : ∀ p, ∀ x ∈ exchanges p, Receiving x) (e : Event) :
    ∀ p, ∀ x ∈ receiver exchanges e p, Receiving x := by
  unfold receiver
  split
  · exact update_exchange h fun _ hx => .inl (Option.some.inj hx).symm
  · exact update_exchange h fun _ hx => .inr (.inl (Option.some.inj hx).symm)
  · split_ifs
    · exact update_exchange h nofun
    · exact h
  · split_ifs
    · exact update_exchange h fun _ hx => .inr (.inr (.inl (Option.some.inj hx).symm))
    · exact h
  · exact update_exchange h fun _ hx => .inr (.inr (.inr (Option.some.inj hx).symm))
  · split_ifs
    · exact update_exchange h nofun
    · exact h
  · exact nofun
  · exact h

/-- The receiver's automaton has only the states of a receiver. -/
theorem receiving_receiving (h : List Event) : ∀ p, ∀ x ∈ receiving h p, Receiving x := by
  induction h with
  | nil => exact nofun
  | cons e h ih => exact receiver_receiving ih e

private theorem sender_sending (h : ∀ p, ∀ x ∈ exchanges p, Sending x) (e : Event) :
    ∀ p, ∀ x ∈ sender exchanges e p, Sending x := by
  unfold sender
  split
  · exact update_exchange h fun _ hx => .inl (Option.some.inj hx).symm
  · exact update_exchange h fun _ hx => .inr (.inl (Option.some.inj hx).symm)
  · split_ifs
    · exact update_exchange h fun _ hx => .inr (.inr (.inl (Option.some.inj hx).symm))
    · exact h
  · split_ifs
    · exact update_exchange h fun _ hx => .inr (.inr (.inr (.inl (Option.some.inj hx).symm)))
    · exact h
  · exact update_exchange h nofun
  · exact update_exchange h nofun
  · exact update_exchange h fun _ hx => .inr (.inr (.inr (.inr (.inl (Option.some.inj hx).symm))))
  · split_ifs
    · exact update_exchange h fun _ hx => .inr (.inr (.inr (.inr (.inr (Option.some.inj hx).symm))))
    · exact h
  · exact nofun
  · exact h

/-- The sender's automaton has only the states of a sender. -/
theorem sending_sending (h : List Event) : ∀ p, ∀ x ∈ sending h p, Sending x := by
  induction h with
  | nil => exact nofun
  | cons e h ih => exact sender_sending ih e

theorem key_free : MQTTPubAckInfo.free.key = none := rfl

/-- A packet that has a number is recorded under it. -/
theorem key_of_ne (h : record.packetId ≠ MQTT_PACKET_ID_INVALID) : record.key = some record.packetId := if_neg h

/-- What is recorded under a number has it. -/
theorem packetId_of_key (h : record.key = some packetId) : record.packetId = packetId := by
  unfold MQTTPubAckInfo.key at h
  split_ifs at h
  exact Option.some.inj h

/-- What is looked up is what is seen of the records. -/
theorem view_of_lookup {v : Option MQTTPubAckInfo} (h : table.lookup MQTTPubAckInfo.key records packetId = v) :
    view records packetId = v.map fun record => (record.qos, record.publishState) := congrArg (Option.map _) h

theorem view_update {lookup : Nat → Option MQTTPubAckInfo} {v : Option MQTTPubAckInfo}
    (h : table.lookup MQTTPubAckInfo.key records = Function.update lookup packetId v) :
    view records =
      Function.update (Option.map (fun record => (record.qos, record.publishState)) ∘ lookup) packetId
      (v.map fun record => (record.qos, record.publishState)) := by
  unfold view
  rw [h, Function.comp_update]

theorem view_congr {other : List MQTTPubAckInfo} (h : table.entries MQTTPubAckInfo.key other =
    table.entries MQTTPubAckInfo.key records) : view other = view records := by
  unfold view
  rw [← table.lookup_entries other, h, table.lookup_entries]

theorem tidy_of_entries {other : List MQTTPubAckInfo} (hlength : other.length = records.length)
    (hdistinct : table.Distinct MQTTPubAckInfo.key (table.entries MQTTPubAckInfo.key other))
    (h : Tidy count records) : Tidy count other where
  length := hlength.trans h.length
  nonempty hnil := h.nonempty (List.length_eq_zero_iff.mp (by rw [← hlength, hnil]; rfl))
  distinct := table.distinct_entries.mp hdistinct

/-- What becomes of the records, and the status. -/
inductive Adds (count : Nat) (records : List MQTTPubAckInfo) (packetId : Nat) (x : Exchange) :
    MQTTStatus × List MQTTPubAckInfo → Prop where
  | added (records' : List MQTTPubAckInfo) (htidy : Tidy count records') (hnone : view records packetId = none)
      (hroom : (table.entries MQTTPubAckInfo.key records).length < records.length)
      (hview : view records' = Function.update (view records) packetId (some x)) :
      Adds count records packetId x (.MQTTSuccess, records')
  | collision (records' : List MQTTPubAckInfo) (htidy : Tidy count records')
      (hsome : view records packetId ≠ none)
      (hview : view records' = view records) : Adds count records packetId x (.MQTTStateCollision, records')
  | full (records' : List MQTTPubAckInfo) (htidy : Tidy count records') (hnone : view records packetId = none)
      (hfull : records.length ≤ (table.entries MQTTPubAckInfo.key records).length)
      (hview : view records' = view records) : Adds count records packetId x (.MQTTNoMemory, records')

/-- A record is added as the table says: refused if the number is in use or there is no room. -/
theorem addRecord_adds (h : Tidy count records) (hid : packetId ≠ MQTT_PACKET_ID_INVALID) (qos : MQTTQoS)
    (publishState : MQTTPublishState) :
    Adds count records packetId (qos, publishState) (addRecord records packetId qos publishState) := by
  have hkey : (⟨packetId, qos, publishState⟩ : MQTTPubAckInfo).key = some packetId := key_of_ne hid
  have hadds := table.add_adds key_free h.nonempty hkey
  have hlength := table.length_add key_free records packetId ⟨packetId, qos, publishState⟩
  have hdistinct := table.distinct_entries.mpr h.distinct
  unfold addRecord
  generalize table.add MQTTPubAckInfo.key .free records packetId ⟨packetId, qos, publishState⟩ = result
    at hadds hlength ⊢
  cases hadds with
  | added slots' hnone hroom hentries =>
    rw [← table.lookup_entries] at hnone
    have hlookup := table.lookup_concat hnone hkey
    rw [← hentries, table.lookup_entries, table.lookup_entries] at hlookup
    refine .added slots' (tidy_of_entries hlength ?_ h) ?_ hroom (view_update hlookup)
    · rw [hentries]
      exact hdistinct.concat hnone hkey
    · rw [table.lookup_entries] at hnone
      exact view_of_lookup hnone
  | collision slots' hsome hentries =>
    refine .collision slots' (tidy_of_entries hlength (by rwa [hentries]) h) ?_ (view_congr hentries)
    exact fun hnone => hsome (Option.map_eq_none_iff.mp hnone)
  | full slots' hnone hfull hentries =>
    exact .full slots' (tidy_of_entries hlength (by rwa [hentries]) h) (view_of_lookup hnone) hfull
      (view_congr hentries)

/-- A record has been found. -/
structure Found (records : List MQTTPubAckInfo) (packetId index : Nat) (record : MQTTPubAckInfo) : Prop where
  get : records[index]? = some record
  key : record.key = some packetId
  view : view records packetId = some (record.qos, record.publishState)

theorem lookup_eq_find (hid : packetId ≠ MQTT_PACKET_ID_INVALID) :
    table.lookup MQTTPubAckInfo.key records packetId =
      records.find? fun record => record.packetId = packetId := by
  unfold table.lookup
  congr 1
  funext record
  refine decide_eq_decide.mpr ⟨packetId_of_key, fun heq => ?_⟩
  rw [← heq]
  exact key_of_ne (heq ▸ hid)

/-- Where the search fails, nothing is seen under the number. -/
theorem findInRecord_none (hid : packetId ≠ MQTT_PACKET_ID_INVALID) (h : findInRecord records packetId = none) :
    view records packetId = none := by
  unfold findInRecord at h
  refine view_of_lookup (v := none) ((lookup_eq_find hid).trans ?_)
  cases hindex : records.findIdx? fun record => record.packetId = packetId with
  | none =>
    rw [List.findIdx?_eq_none_iff] at hindex
    refine List.find?_eq_none.mpr fun record hrecord => ?_
    rw [hindex record hrecord]
    exact Bool.false_ne_true
  | some i =>
    obtain ⟨record, hget, -⟩ := slots.getElem_of_find hindex
    rw [hindex] at h
    simp only [hget, Option.map_some] at h
    cases h

/-- Where it succeeds, it has found the record of the number. -/
theorem findInRecord_found (hid : packetId ≠ MQTT_PACKET_ID_INVALID)
    (h : findInRecord records packetId = some (index, record)) : Found records packetId index record := by
  unfold findInRecord at h
  cases hindex : records.findIdx? fun record => record.packetId = packetId with
  | none =>
    rw [hindex] at h
    cases h
  | some i =>
    obtain ⟨record', hget, hpred⟩ := slots.getElem_of_find hindex
    rw [hindex] at h
    simp only [hget, Option.map_some, Option.some.injEq, Prod.mk.injEq] at h
    obtain ⟨rfl, rfl⟩ := h
    have heq : record'.packetId = packetId := of_decide_eq_true hpred
    refine ⟨hget, ?_, ?_⟩
    · rw [← heq]
      exact key_of_ne (heq ▸ hid)
    · refine view_of_lookup (v := some record') ((lookup_eq_find hid).trans ?_)
      rw [slots.find_of_findIdx hindex, hget]

/-- What the search finds, the table knows. -/
theorem Found.lookup (h : Found records packetId index record) :
    ∃ found, table.lookup MQTTPubAckInfo.key records packetId = some found := by
  obtain ⟨found, hfound, -⟩ := Option.map_eq_some_iff.mp h.view
  exact ⟨found, hfound⟩

/-- The state of the record is changed. -/
theorem updateRecord_state (h : Found records packetId index record) (hd : Tidy count records)
    (newState : MQTTPublishState) :
    Tidy count (updateRecord records index newState false) ∧
      view (updateRecord records index newState false) =
        Function.update (view records) packetId (some (record.qos, newState)) := by
  have hupdate : updateRecord records index newState false =
      records.set index { record with publishState := newState } := slots.modify_eq_set_of_getElem h.get
  have hkey : ({ record with publishState := newState } : MQTTPubAckInfo).key = some packetId := h.key
  have hentries := table.entries_set hd.distinct h.get h.key hkey
  obtain ⟨found, hfound⟩ := h.lookup
  rw [hupdate]
  refine ⟨tidy_of_entries List.length_set ?_ hd, ?_⟩
  · rw [hentries]
    exact (table.distinct_entries.mpr hd.distinct).replace hkey
  · rw [← table.lookup_entries] at hfound
    have hlookup := table.lookup_replace hfound hkey
    rw [← hentries, table.lookup_entries, table.lookup_entries] at hlookup
    exact view_update hlookup

/-- The record is deleted. -/
theorem updateRecord_delete (h : Found records packetId index record) (hd : Tidy count records)
    (newState : MQTTPublishState) :
    Tidy count (updateRecord records index newState true) ∧
      view (updateRecord records index newState true) = Function.update (view records) packetId none ∧
      (table.entries MQTTPubAckInfo.key (updateRecord records index newState true)).length <
        (updateRecord records index newState true).length := by
  have hupdate : updateRecord records index newState true = records.set index .free :=
    slots.modify_eq_set_of_getElem h.get
  have hentries := table.entries_set_free hd.distinct h.get h.key key_free
  rw [hupdate]
  refine ⟨tidy_of_entries List.length_set ?_ hd, ?_, ?_⟩
  · rw [hentries]
    exact (table.distinct_entries.mpr hd.distinct).erase packetId
  · have hlookup := @table.lookup_erase _ _ MQTTPubAckInfo.key _
        (table.entries MQTTPubAckInfo.key records) packetId
    rw [← hentries, table.lookup_entries, table.lookup_entries] at hlookup
    exact view_update hlookup
  · refine table.length_entries_lt ⟨.free, ?_, key_free⟩
    exact List.mem_set (List.getElem?_eq_some_iff.mp h.get).1 _

/-- What an acknowledgment makes of the records, with the status and the new state. -/
structure Advanced (count : Nat) (records : List MQTTPubAckInfo) (new : Exchange → MQTTPublishState) (p : Nat)
    (status : MQTTStatus) (newState : MQTTPublishState) (records' : List MQTTPubAckInfo) : Prop where
  tidy : Tidy count records'
  view : view records' = advance new (view records) p
  legal : status = .MQTTSuccess →
    ∃ x, state.view records p = some x ∧ validateTransitionAck x.2 (new x) = true ∧ newState = new x
  refused : status ≠ .MQTTSuccess → records' = records

/-- An exchange that does not exist cannot advance. -/
theorem advance_none {new : Exchange → MQTTPublishState} (h : exchanges p = none) :
    advance new exchanges p = exchanges := by
  unfold advance
  rw [h]

/-- An exchange advances where the transition is valid, and is closed by the last one. -/
theorem advance_some {new : Exchange → MQTTPublishState} (h : exchanges p = some x) :
    advance new exchanges p = if validateTransitionAck x.2 (new x) then
      Function.update exchanges p (if new x = .MQTTPublishDone then none else
        some (x.1, new x)) else exchanges := by
  unfold advance
  rw [h]

private theorem not_validate_done (newState : MQTTPublishState) :
    validateTransitionAck .MQTTPublishDone newState = false := rfl

theorem updateStateAck_advanced (h : Found records packetId index record) (hd : Tidy count records)
    (hid : packetId ≠ MQTT_PACKET_ID_INVALID) {new : Exchange → MQTTPublishState}
    (hq : new (record.qos, record.publishState) = .MQTTPubRelSend → record.qos = .MQTTQoS2) :
    Advanced count records new packetId
      (updateStateAck records index packetId record.publishState (new (record.qos, record.publishState))).1
      (if (updateStateAck records index packetId record.publishState
        (new (record.qos, record.publishState))).1 =
        .MQTTSuccess then new (record.qos, record.publishState) else .MQTTStateNull)
      (updateStateAck records index packetId record.publishState
        (new (record.qos, record.publishState))).2 := by
  have hview : advance new (view records) packetId = _ := advance_some h.view
  generalize hstate : new (record.qos, record.publishState) = newState at hq hview ⊢
  unfold updateStateAck
  by_cases hvalid : validateTransitionAck record.publishState newState = true
  · have hlegal : ∃ x, view records packetId = some x ∧ validateTransitionAck x.2 (new x) = true ∧
        newState = new x := ⟨_, h.view, by rwa [hstate], hstate.symm⟩
    rw [if_pos hvalid] at hview
    simp only [if_pos hvalid]
    by_cases hsame : record.publishState = newState
    · have hdone : newState ≠ .MQTTPublishDone := by
        rintro rfl
        rw [hsame, not_validate_done] at hvalid
        cases hvalid
      rw [if_neg hdone, ← hsame, ← h.view, Function.update_eq_self] at hview
      rw [if_neg (not_not.mpr hsame)]
      exact ⟨hd, hview.symm, fun _ => by simpa using hlegal, fun _ => rfl⟩
    · rw [if_pos hsame]
      by_cases hrel : newState = .MQTTPubRelSend
      · subst hrel
        rw [if_neg nofun, hq rfl] at hview
        obtain ⟨htidy, hdeleted, hroom⟩ := updateRecord_delete h hd .MQTTPubRelSend
        have hnone : view (updateRecord records index .MQTTPubRelSend true) packetId = none := by
          rw [hdeleted, Function.update_self]
        have hadds := addRecord_adds htidy hid .MQTTQoS2 .MQTTPubRelSend
        simp only [if_true, reduceCtorEq, decide_true, Bool.or_true]
        generalize addRecord (updateRecord records index .MQTTPubRelSend true) packetId
          .MQTTQoS2 .MQTTPubRelSend =
          result at hadds ⊢
        cases hadds with
        | added records' htidy' _ _ hadded =>
          refine ⟨htidy', ?_, fun _ => hlegal, fun hne => absurd rfl hne⟩
          rw [hadded, hdeleted, Function.update_idem, hview]
        | collision _ _ hsome _ => exact absurd hnone hsome
        | full _ _ _ hfull _ => exact absurd hroom (Nat.not_lt_of_le hfull)
      · by_cases hdone : newState = .MQTTPublishDone
        · subst hdone
          obtain ⟨htidy, hdeleted, -⟩ := updateRecord_delete h hd .MQTTPublishDone
          exact ⟨htidy, hdeleted.trans hview.symm, fun _ => hlegal, fun hne => absurd rfl hne⟩
        · obtain ⟨htidy, hchanged⟩ := updateRecord_state h hd newState
          rw [if_neg hdone] at hview
          simp only [hrel, hdone, decide_false, Bool.or_false, if_false]
          exact ⟨htidy, hchanged.trans hview.symm, fun _ => by simpa using hlegal, fun hne => absurd rfl hne⟩
  · rw [if_neg hvalid] at hview
    simp only [if_neg hvalid]
    exact ⟨hd, hview.symm, nofun, fun _ => rfl⟩

/-- The records that an acknowledgment is about. -/
def MQTTContext.side (c : MQTTContext) (outgoing : Bool) : List MQTTPubAckInfo :=
  if outgoing then c.outgoingPublishRecords else c.incomingPublishRecords

def MQTTContext.put (c : MQTTContext) (outgoing : Bool) (records : List MQTTPubAckInfo) : MQTTContext :=
  if outgoing then { c with outgoingPublishRecords := records } else
    { c with incomingPublishRecords := records }

private theorem calculateStateAck_qos {packetType : MQTTPubAckType} {opType : MQTTStateOperation}
    (h : MQTT_CalculateStateAck packetType opType qos = .MQTTPubRelSend) : qos = .MQTTQoS2 := by
  cases packetType with
  | _ =>
    cases opType with
    | _ =>
      cases qos with
      | _ => first | rfl | cases h

/-- An acknowledgment advances the exchange of its number on its side, or is refused and changes
nothing. -/
theorem updateStateAck_spec (c : MQTTContext) (packetType : MQTTPubAckType) (opType : MQTTStateOperation)
    (hd : Tidy count (c.side (isPublishOutgoing packetType opType))) (hid : packetId ≠ MQTT_PACKET_ID_INVALID) :
    ∃ status newState records', MQTT_UpdateStateAck c packetId packetType opType =
        (status, newState, c.put (isPublishOutgoing packetType opType) records') ∧
      Advanced count (c.side (isPublishOutgoing packetType opType))
        (fun x => MQTT_CalculateStateAck packetType opType x.1) packetId status newState records' := by
  unfold MQTT_UpdateStateAck
  rw [if_neg hid]
  have hsame : c.put (isPublishOutgoing packetType opType)
      (c.side (isPublishOutgoing packetType opType)) = c := by
    unfold MQTTContext.put MQTTContext.side
    cases isPublishOutgoing packetType opType with
    | _ => rfl
  simp only [show (if isPublishOutgoing packetType opType then c.outgoingPublishRecords else c.incomingPublishRecords) =
    c.side (isPublishOutgoing packetType opType) from rfl]
  cases hfind : findInRecord (c.side (isPublishOutgoing packetType opType)) packetId with
  | none =>
    refine ⟨.MQTTBadResponse, .MQTTStateNull, c.side (isPublishOutgoing packetType opType), ?_, hd, ?_, nofun,
      fun _ => rfl⟩
    · rw [hsame]
    · rw [advance_none (findInRecord_none hid hfind)]
  | some found =>
    obtain ⟨index, record⟩ := found
    exact ⟨_, _, _, rfl, updateStateAck_advanced (findInRecord_found hid hfind) hd hid calculateStateAck_qos⟩

end coremqtt.state
