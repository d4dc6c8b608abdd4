import CatLitterBox.Provisioning.Main

open program coremqtt

namespace catbox.provisioning

open catbox.session

/-- The SUBSCRIBE packets sent in the current MQTT session, and the topics of those whose SUBACK
has been received in it. -/
structure Subscriptions where
  sent : List (Nat × session.Cmd)
  acknowledged : List session.Cmd

/-- The topics of the SUBSCRIBE packets with an identifier. -/
def Subscriptions.topics (v : Subscriptions) (packetId : Nat) : List session.Cmd :=
  (v.sent.filter (·.1 = packetId)).map (·.2)

def Subscriptions.after (v : Subscriptions) : Event → Subscriptions
  | ⟨.MQTT_Connect, some _⟩ => ⟨[], []⟩
  | ⟨.MQTT_Subscribe packetId topic, true⟩ => { v with sent := (packetId, topic) :: v.sent }
  | ⟨.MQTT_ProcessLoop, ⟨_, some (.SUBACK packetId)⟩⟩ =>
    { v with acknowledged := v.topics packetId ++ v.acknowledged }
  | _ => v

def subscriptions (history : List Event) : Subscriptions := history.foldr (fun e v => v.after e) ⟨[], []⟩

/-- How the subscribe operations of the current MQTT session go: the identifier that is waited for
and the end of the wait, once it is known; and whether one of them has failed. -/
structure Operations where
  waiting : Option (Nat × Option UInt32)
  failed : Bool

/-- The wait fails. -/
def Operations.fail (o : Operations) : Operations := { o with waiting := none, failed := true }

/-- The time is read: the first time after the SUBSCRIBE gives the end of the wait. -/
def Operations.clock (o : Operations) (now : UInt32) : Operations :=
  match o.waiting with
  | none => o
  | some (packetId, timeout) =>
    if now < timeout.getD (now + MQTT_PROCESS_LOOP_TIMEOUT_MS) then
      { o with waiting := some (packetId, some (timeout.getD (now + MQTT_PROCESS_LOOP_TIMEOUT_MS))) }
    else o.fail

/-- A call of `MQTT_ProcessLoop` returns. -/
def Operations.process (o : Operations) (r : ProcessLoop) : Operations :=
  match o.waiting with
  | none => o
  | some (packetId, _) =>
    match r.received with
    | some (.SUBACK acknowledged) => if acknowledged = packetId then { o with waiting := none } else o
    | some (.PUBACK acknowledged) => if acknowledged = packetId ∨ r.status = false then o.fail else o
    | some (.UNSUBACK acknowledged) => if acknowledged = packetId ∨ r.status = false then o.fail else o
    | _ => if r.status = false then o.fail else o

/-- An operation fails if there is no memory for the topic, if the SUBSCRIBE cannot be sent, or if the
wait ends before the SUBACK: by its time, by an error, or by another acknowledgement with
the same identifier. -/
def Operations.after (o : Operations) : Event → Operations
  | ⟨.MQTT_Connect, some _⟩ => ⟨none, false⟩
  | ⟨.malloc_topic, none⟩ => o.fail
  | ⟨.MQTT_Subscribe packetId _, true⟩ => { o with waiting := some (packetId, none) }
  | ⟨.MQTT_Subscribe _ _, false⟩ => o.fail
  | ⟨.getTime, now⟩ => o.clock now
  | ⟨.MQTT_ProcessLoop, r⟩ => o.process r
  | _ => o

def operations (history : List Event) : Operations := history.foldr (fun e o => o.after e) ⟨none, false⟩

/-- All result topics have been acknowledged: a SUBACK has come for each. One with the return code 0x80, by
which the broker refuses the topic, counts as well, as `mqttCallback` does not look at the code. -/
def InForce (history : List Event) : Prop := ∀ topic, topic ∈ (subscriptions history).acknowledged

/-- `aws_iot_main_entry` sets `is_aws_started` exactly after a call that has succeeded. -/
def Succeeded (a : Action) (history : List Event) : Prop :=
  a = .set_aws_started → (InForce history ↔ (operations history).failed = false)

/-- The operations for some topics are over. -/
structure Processed (done : List session.Cmd) (s : Static) (h : List Event) : Prop where
  positive : 0 < s.mqttContext.nextPacketId
  fresh : s.mqttContext.nextPacketId ≤ done.length + 1
  copies : s.topic_str.length ≤ done.length
  sent : ∀ p ∈ (subscriptions h).sent, p.1 < s.mqttContext.nextPacketId ∧ p.2 ∈ done
  acknowledged : ∀ topic ∈ (subscriptions h).acknowledged, topic ∈ done
  idle : (operations h).waiting = none
  exact : (∀ topic ∈ done, topic ∈ (subscriptions h).acknowledged) ↔ (operations h).failed = false

/-- The SUBSCRIBE of a further topic has been sent, and its wait has begun. -/
structure Waiting (done : List session.Cmd) (topic : session.Cmd) (timeout : Option UInt32) (s : Static)
    (h : List Event) : Prop where
  positive : 0 < s.globalSubscribePacketIdentifier
  next : s.mqttContext.nextPacketId = s.globalSubscribePacketIdentifier + 1
  fresh : s.globalSubscribePacketIdentifier ≤ done.length + 1
  copies : s.topic_str.length ≤ done.length + 1
  new : topic ∉ done
  sent : ∃ rest, (subscriptions h).sent = (s.globalSubscribePacketIdentifier, topic) :: rest ∧
    ∀ p ∈ rest, p.1 < s.globalSubscribePacketIdentifier ∧ p.2 ∈ done
  acknowledged : ∀ topic ∈ (subscriptions h).acknowledged, topic ∈ done
  waiting : (operations h).waiting = some (s.globalSubscribePacketIdentifier, timeout)
  exact : (∀ topic ∈ done, topic ∈ (subscriptions h).acknowledged) ↔ (operations h).failed = false

abbrev success_spec : Spec Action Action.Answer (List Event) := .history Succeeded

/-- Code that does not set `is_aws_started` may do anything. -/
theorem wp_silent {α : Type} {c : Code α} {h : List Event} {Q : α → List Event → Prop}
    (hc : c.Every (· ≠ .set_aws_started)) (hQ : ∀ x t, Q x t) : c.wp success_spec Q h :=
  Program.wp_history_of_every (I := fun _ => True) hc (fun _ _ ha _ hnext => absurd hnext ha)
    (fun _ _ _ _ _ => trivial) trivial fun x t _ => hQ x t

variable {h : List Event} {s : Static} {done : List session.Cmd} {topic : session.Cmd}

/-- A further operation that fails leaves its topic unacknowledged. -/
theorem Processed.fail {h' : List Event} {s' : Static} (h0 : Processed done s h) (hnew : topic ∉ done)
    (hnext : s.mqttContext.nextPacketId ≤ s'.mqttContext.nextPacketId)
    (hfresh : s'.mqttContext.nextPacketId ≤ done.length + 2) (hcopies : s'.topic_str.length ≤ done.length + 1)
    (hsubs : subscriptions h' = subscriptions h) (hidle : (operations h').waiting = none)
    (hfailed : (operations h').failed = true) : Processed (topic :: done) s' h' where
  positive := lt_of_lt_of_le h0.positive hnext
  fresh := hfresh
  copies := hcopies
  sent := by
    rw [hsubs]
    intro p hp
    obtain ⟨hlt, hdone⟩ := h0.sent p hp
    exact ⟨by omega, List.mem_cons_of_mem _ hdone⟩
  acknowledged := by
    rw [hsubs]
    exact fun t ht => List.mem_cons_of_mem _ (h0.acknowledged t ht)
  idle := hidle
  exact := by
    rw [hsubs, hfailed]
    constructor
    · intro hall
      exact absurd (h0.acknowledged _ (hall _ List.mem_cons_self)) hnew
    · intro hnot
      cases hnot

theorem Waiting.fresh_done {timeout : Option UInt32} (h0 : Waiting done topic timeout s h) :
    s.mqttContext.nextPacketId ≤ (topic :: done).length + 1 := by
  have hnext := h0.next
  have hfresh := h0.fresh
  simp only [List.length_cons]
  omega

theorem Waiting.sent_done {timeout : Option UInt32} (h0 : Waiting done topic timeout s h) :
    ∀ p ∈ (subscriptions h).sent, p.1 < s.mqttContext.nextPacketId ∧ p.2 ∈ topic :: done := by
  obtain ⟨rest, hsent, hrest⟩ := h0.sent
  have hnext := h0.next
  rw [hsent]
  intro p hp
  obtain rfl | hp := List.mem_cons.mp hp
  · exact ⟨by simp only; omega, List.mem_cons_self⟩
  · obtain ⟨hlt, hdone⟩ := hrest p hp
    exact ⟨by omega, List.mem_cons_of_mem _ hdone⟩

/-- A wait that is over has sent nothing more. -/
theorem Waiting.processed {timeout : Option UInt32} {h' : List Event} (h0 : Waiting done topic timeout s h)
    (hsent : (subscriptions h').sent = (subscriptions h).sent)
    (hacknowledged : ∀ t ∈ (subscriptions h').acknowledged, t ∈ topic :: done)
    (hidle : (operations h').waiting = none)
    (hexact : (∀ t ∈ topic :: done, t ∈ (subscriptions h').acknowledged) ↔ (operations h').failed = false)
    (ack : Nat) :
    Processed (topic :: done) { s with globalAckPacketIdentifier := ack } h' where
  positive := by
    have hnext := h0.next
    simp only
    omega
  fresh := h0.fresh_done
  copies := h0.copies
  sent := by
    rw [hsent]
    exact h0.sent_done
  acknowledged := hacknowledged
  idle := hidle
  exact := hexact

/-- A wait that ends without the SUBACK leaves its topic unacknowledged too. -/
theorem Waiting.fail {timeout : Option UInt32} {h' : List Event} (h0 : Waiting done topic timeout s h)
    (hsubs : subscriptions h' = subscriptions h) (hops : operations h' = (operations h).fail) (ack : Nat) :
    Processed (topic :: done) { s with globalAckPacketIdentifier := ack } h' := by
  refine h0.processed (by rw [hsubs]) ?_ (by rw [hops]; rfl) ?_ ack
  · rw [hsubs]
    exact fun t ht => List.mem_cons_of_mem _ (h0.acknowledged t ht)
  · rw [hsubs, hops]
    constructor
    · intro hall
      exact absurd (h0.acknowledged _ (hall _ List.mem_cons_self)) h0.new
    · intro hnot
      cases hnot

/-- The SUBACK acknowledges the topic that is waited for, and no other. -/
theorem Waiting.topics {timeout : Option UInt32} (h0 : Waiting done topic timeout s h) :
    (subscriptions h).topics s.globalSubscribePacketIdentifier = [topic] := by
  obtain ⟨rest, hsent, hrest⟩ := h0.sent
  have hnone : rest.filter (·.1 = s.globalSubscribePacketIdentifier) = [] := by
    rw [List.filter_eq_nil_iff]
    intro p hp heq
    have hlt := (hrest p hp).1
    have heq : p.1 = s.globalSubscribePacketIdentifier := by simpa using heq
    omega
  simp [Subscriptions.topics, hsent, hnone]

theorem Waiting.acknowledge {timeout : Option UInt32} {h' : List Event} (h0 : Waiting done topic timeout s h)
    (hsubs : subscriptions h' =
      { subscriptions h with acknowledged := topic :: (subscriptions h).acknowledged })
    (hops : operations h' = { operations h with waiting := none }) (ack : Nat) :
    Processed (topic :: done) { s with globalAckPacketIdentifier := ack } h' := by
  refine h0.processed (by rw [hsubs]) ?_ (by rw [hops]) ?_ ack
  · rw [hsubs]
    intro t ht
    obtain rfl | ht := List.mem_cons.mp ht
    · exact List.mem_cons_self
    · exact List.mem_cons_of_mem _ (h0.acknowledged t ht)
  · rw [hsubs, hops, ← h0.exact]
    constructor
    · intro hall t ht
      obtain rfl | ht' := List.mem_cons.mp (hall t (List.mem_cons_of_mem _ ht))
      · exact absurd ht h0.new
      · exact ht'
    · intro hall t ht
      obtain rfl | ht := List.mem_cons.mp ht
      · exact List.mem_cons_self
      · exact List.mem_cons_of_mem _ (hall t ht)

/-- A wait goes on where nothing else is subscribed to and its SUBSCRIBE is still waited for. -/
theorem Waiting.keep {timeout timeout' : Option UInt32} {h' : List Event} (h0 : Waiting done topic timeout s h)
    (hsubs : subscriptions h' = subscriptions h)
    (hops : operations h' =
      { operations h with waiting := some (s.globalSubscribePacketIdentifier, timeout') }) (ack : Nat) :
    Waiting done topic timeout' { s with globalAckPacketIdentifier := ack } h' where
  positive := h0.positive
  next := h0.next
  fresh := h0.fresh
  copies := h0.copies
  new := h0.new
  sent := by
    rw [hsubs]
    exact h0.sent
  acknowledged := by
    rw [hsubs]
    exact h0.acknowledged
  waiting := by
    rw [hops]
  exact := by
    rw [hsubs, hops]
    exact h0.exact

/-- The identifier that was acknowledged last is of no concern. -/
theorem Waiting.reset {timeout : Option UInt32} (h0 : Waiting done topic timeout s h) (ack : Nat) :
    Waiting done topic timeout { s with globalAckPacketIdentifier := ack } h := by
  refine h0.keep rfl ?_ ack
  rw [← h0.waiting]

/-- What a call of `MQTT_ProcessLoop` does to a wait: it goes on, or it is over, and the loop ends. -/
def Turned (done : List session.Cmd) (topic : session.Cmd) (timeout : UInt32) (packetId : Nat) (status : Bool)
    (s : Static) (h : List Event) : Prop :=
  Waiting done topic (some timeout) s h ∧ s.globalAckPacketIdentifier ≠ packetId ∧ status = true ∨
    Processed (topic :: done) s h ∧ (s.globalAckPacketIdentifier = packetId ∨ status = false)

/-- A packet other than the acknowledgements waited for ends the wait with an error only. -/
theorem Waiting.other {timeout : UInt32} {status : Bool} {h' : List Event} {ack : Nat}
    (h0 : Waiting done topic (some timeout) s h) (hack : ack ≠ s.globalSubscribePacketIdentifier)
    (hsubs : subscriptions h' = subscriptions h)
    (hops : operations h' = if status = false then (operations h).fail else operations h) :
    Turned done topic timeout s.globalSubscribePacketIdentifier status
      { s with globalAckPacketIdentifier := ack } h' := by
  cases status with
  | true =>
    have hkept : operations h =
        { operations h with waiting := some (s.globalSubscribePacketIdentifier, some timeout) } := by
      rw [← h0.waiting]
    exact .inl ⟨h0.keep hsubs (hops.trans hkept) ack, hack, rfl⟩
  | false => exact .inr ⟨h0.fail hsubs hops ack, .inr rfl⟩

/-- An acknowledgement other than a SUBACK may have the identifier that is waited for. -/
theorem Waiting.mistaken {timeout : UInt32} {status : Bool} {h' : List Event} {ack : Nat}
    (h0 : Waiting done topic (some timeout) s h) (hsubs : subscriptions h' = subscriptions h)
    (hops : operations h' =
      if ack = s.globalSubscribePacketIdentifier ∨ status = false then (operations h).fail else operations h) :
    Turned done topic timeout s.globalSubscribePacketIdentifier status
      { s with globalAckPacketIdentifier := ack } h' := by
  by_cases hack : ack = s.globalSubscribePacketIdentifier
  · rw [if_pos (.inl hack)] at hops
    exact .inr ⟨h0.fail hsubs hops ack, .inl hack⟩
  · simp only [hack, false_or] at hops
    exact h0.other hack hsubs hops

/-- A call of the process loop is a turn of the wait, whatever it receives. -/
theorem Waiting.process {timeout : UInt32} {r : ProcessLoop} {s' : Static}
    (h0 : Waiting done topic (some timeout) s h)
    (hback : r.received.elim (some s) (mqttCallback s) = some s')
    (hopen : s.globalAckPacketIdentifier ≠ s.globalSubscribePacketIdentifier) :
    s'.globalSubscribePacketIdentifier = s.globalSubscribePacketIdentifier ∧
      Turned done topic timeout s.globalSubscribePacketIdentifier r.status s'
      (⟨.MQTT_ProcessLoop, r⟩ :: h) := by
  obtain ⟨status, received⟩ := r
  have hops : operations (⟨.MQTT_ProcessLoop, ⟨status, received⟩⟩ :: h) =
      (operations h).process ⟨status, received⟩ := rfl
  rw [Operations.process, h0.waiting] at hops
  cases received with
  | none =>
    obtain rfl := Option.some.inj hback
    exact ⟨rfl, h0.other hopen rfl hops⟩
  | some packet =>
    cases packet with
    | PUBLISH =>
      obtain rfl := Option.some.inj hback
      exact ⟨rfl, h0.other hopen rfl hops⟩
    | other =>
      obtain rfl := Option.some.inj hback
      exact ⟨rfl, h0.other hopen rfl hops⟩
    | PUBACK ack =>
      obtain rfl := Option.some.inj hback
      exact ⟨rfl, h0.mistaken rfl hops⟩
    | UNSUBACK ack =>
      obtain ⟨-, hback⟩ := Option.ite_none_right_eq_some.mp hback
      obtain rfl := Option.some.inj hback
      exact ⟨rfl, h0.mistaken rfl hops⟩
    | SUBACK ack =>
      obtain ⟨rfl, hback⟩ := Option.ite_none_right_eq_some.mp hback
      obtain rfl := Option.some.inj hback
      refine ⟨rfl, .inr ⟨h0.acknowledge ?_ ?_ _, .inl rfl⟩⟩
      · change { subscriptions h with
          acknowledged := (subscriptions h).topics s.globalSubscribePacketIdentifier ++
            (subscriptions h).acknowledged } = _
        rw [h0.topics]
        rfl
      · exact hops.trans (if_pos rfl)

/-- What reading the time does to a wait. -/
theorem Waiting.clock {timeout : Option UInt32} (h0 : Waiting done topic timeout s h) (now : UInt32) :
    Waiting done topic (some (timeout.getD (now + MQTT_PROCESS_LOOP_TIMEOUT_MS))) s (⟨.getTime, now⟩ :: h) ∧
        now < timeout.getD (now + MQTT_PROCESS_LOOP_TIMEOUT_MS) ∨
      Processed (topic :: done) s (⟨.getTime, now⟩ :: h) ∧
        ¬ now < timeout.getD (now + MQTT_PROCESS_LOOP_TIMEOUT_MS) := by
  have hsubs : subscriptions (⟨.getTime, now⟩ :: h) = subscriptions h := rfl
  have hops : operations (⟨.getTime, now⟩ :: h) = (operations h).clock now := rfl
  by_cases hlt : now < timeout.getD (now + MQTT_PROCESS_LOOP_TIMEOUT_MS)
  · refine .inl ⟨h0.keep hsubs ?_ s.globalAckPacketIdentifier, hlt⟩
    rw [hops, Operations.clock, h0.waiting]
    simp only [if_pos hlt]
  · refine .inr ⟨h0.fail hsubs ?_ s.globalAckPacketIdentifier, hlt⟩
    rw [hops, Operations.clock, h0.waiting]
    simp only [if_neg hlt]

/-- Once no operation is under way, the time does not matter. -/
theorem Processed.clock (h0 : Processed done s h) (now : UInt32) : Processed done s (⟨.getTime, now⟩ :: h) := by
  have hops : operations (⟨.getTime, now⟩ :: h) = operations h := by
    change (operations h).clock now = operations h
    rw [Operations.clock, h0.idle]
  exact ⟨h0.positive, h0.fresh, h0.copies, h0.sent, h0.acknowledged, by rw [hops]; exact h0.idle,
    by rw [hops]; exact h0.exact⟩

theorem wp_halt_silent {α : Type} {a : Action} (ha : a ≠ .set_aws_started) {Q : α → List Event → Prop} :
    (halt a : Code α).wp success_spec Q h := by
  refine Program.wp_seq (Program.wp_repeated (fun _ _ => True) trivial ?_)
  intro _ t _
  exact Program.wp_history_bind (fun hnext => absurd hnext ha) fun _ => trivial

private theorem wp_processLoop {Q : Bool × Static → List Event → Prop}
    (hQ : ∀ r s', r.received.elim (some s) (mqttCallback s) = some s' →
      Q (r.status, s') (⟨.MQTT_ProcessLoop, r⟩ :: h)) : (MQTT_ProcessLoop s).wp success_spec Q h := by
  refine Program.wp_history_bind nofun fun (r : ProcessLoop) => ?_
  cases hback : r.received.elim (some s) (mqttCallback s) with
  | none => exact wp_halt_silent (by simp)
  | some s' => exact hQ r s' hback

/-- The loop of a wait: the SUBACK is waited for, or the wait is over and the loop ends. -/
def Looping (done : List session.Cmd) (topic : session.Cmd) (packetId : Nat) (timeout : UInt32) (w : Wait)
    (h : List Event) : Prop :=
  Waiting done topic (some timeout) w.statics h ∧ w.statics.globalSubscribePacketIdentifier = packetId ∧
      w.statics.globalAckPacketIdentifier ≠ packetId ∧ w.ulCurrentTime < timeout ∧ w.status = true ∨
    Processed (topic :: done) w.statics h ∧ w.ends packetId timeout

private theorem wp_waitForPacketAck_turn {packetId : Nat} {timeout : UInt32} {w : Wait}
    (h0 : Looping done topic packetId timeout w h) : (waitForPacketAck_turn packetId timeout w).wp success_spec
      (fun o t => o.elim (fun w => Looping done topic packetId timeout w t)
        fun x => Processed (topic :: done) x.2 t) h := by
  refine Program.wp_ite (fun hends => ?_) fun hgoes => ?_
  · obtain ⟨-, -, hopen, htime, hstatus⟩ | ⟨hprocessed, -⟩ := h0
    · obtain hack | hlate | hfailed := hends
      · exact absurd hack hopen
      · exact absurd htime hlate
      · rw [hstatus] at hfailed
        cases hfailed
    · exact hprocessed
  · obtain ⟨hwaiting, rfl, hopen, htime, hstatus⟩ | ⟨-, hends⟩ := h0
    · refine Program.wp_seq (wp_processLoop fun r s' hback => ?_)
      obtain ⟨hid, ⟨hwaiting, hopen, hstatus⟩ | ⟨hprocessed, hends⟩⟩ := hwaiting.process hback hopen
      · refine Program.wp_history_bind nofun fun (now : UInt32) => ?_
        obtain ⟨hwaiting, hlt⟩ | ⟨hprocessed, hlate⟩ := hwaiting.clock now
        · exact .inl ⟨hwaiting, hid, hopen, hlt, hstatus⟩
        · exact .inr ⟨hprocessed, .inr (.inl hlate)⟩
      · refine Program.wp_history_bind nofun fun (now : UInt32) => .inr ⟨hprocessed.clock now, ?_⟩
        obtain hack | hfailed := hends
        · exact .inl hack
        · exact .inr (.inr hfailed)
    · exact absurd hends hgoes

private theorem wp_waitForPacketAck (done : List session.Cmd) (topic : session.Cmd) (h0 : Waiting done topic none s h) :
    (waitForPacketAck s s.globalSubscribePacketIdentifier MQTT_PROCESS_LOOP_TIMEOUT_MS).wp success_spec
      (fun x t => Processed (topic :: done) x.2 t) h := by
  refine Program.wp_history_bind nofun fun (now : UInt32) => ?_
  refine Program.wp_repeated (fun w t => Looping done topic s.globalSubscribePacketIdentifier
    (now + MQTT_PROCESS_LOOP_TIMEOUT_MS) w t) ?_ fun w t ht => wp_waitForPacketAck_turn ht
  obtain ⟨hwaiting, hlt⟩ | ⟨hprocessed, hlate⟩ := (h0.reset 0).clock now
  · exact .inl ⟨hwaiting, rfl, h0.positive.ne, hlt, rfl⟩
  · exact .inr ⟨hprocessed, .inr (.inl hlate)⟩

/-- The identifiers of a session do not wrap while it subscribes. -/
theorem Processed.next (h0 : Processed done s h) (hroom : done.length ≤ 7) :
    (MQTT_GetPacketId s.mqttContext).2.nextPacketId = s.mqttContext.nextPacketId + 1 := by
  have hfresh := h0.fresh
  have hne : s.mqttContext.nextPacketId ≠ 65535 := by omega
  simp only [MQTT_GetPacketId, if_neg hne]

theorem wp_subscribe (h0 : Processed done s h) (hnew : topic ∉ done) (hroom : done.length ≤ 7) :
    (subscribe topic s).wp success_spec (fun s t => Processed (topic :: done) s t) h := by
  have hfresh := h0.fresh
  have hcopies := h0.copies
  have hshort : ¬ 30 ≤ s.topic_str.length := by omega
  refine Program.wp_seq ?_
  unfold topic_copy
  rw [if_neg hshort]
  refine Program.wp_history_bind nofun fun (copy : Option Nat) => ?_
  cases copy with
  | none => exact h0.fail hnew le_rfl (by omega) (by omega) rfl rfl rfl
  | some copy =>
    have hnext := h0.next hroom
    refine Program.wp_seq (Program.wp_history_bind nofun fun (sent : Bool) => ?_)
    cases sent with
    | false =>
      refine h0.fail hnew ?_ ?_ ?_ rfl rfl rfl
      · exact (Nat.le_succ _).trans hnext.ge
      · exact hnext.le.trans (by omega)
      · simpa [Static.subscribing] using hcopies
    | true =>
      refine Program.wp_mono (fun x t ht => ht) (wp_waitForPacketAck done topic ?_)
      exact {
        positive := h0.positive
        next := hnext
        fresh := hfresh
        copies := by simpa [Static.subscribing] using hcopies
        new := hnew
        sent := ⟨(subscriptions h).sent, rfl, h0.sent⟩
        acknowledged := h0.acknowledged
        waiting := rfl
        exact := h0.exact }

/-- A session that has just been established. -/
structure Established (s : Static) (h : List Event) : Prop where
  next : s.mqttContext.nextPacketId = 1
  subscriptions : subscriptions h = ⟨[], []⟩
  operations : operations h = ⟨none, false⟩

theorem Established.processed (h0 : Established s h) : Processed [] { s with topic_str := [] } h where
  positive := by
    simp only [h0.next]
    omega
  fresh := h0.next.le
  copies := le_rfl
  sent := by
    rw [h0.subscriptions]
    nofun
  acknowledged := by
    rw [h0.subscriptions]
    nofun
  idle := by
    rw [h0.operations]
  exact := by
    rw [h0.operations]
    simp

private theorem wp_free_topics {topics : List Nat} {P : Subscriptions → Operations → Prop}
    (h0 : P (subscriptions h) (operations h)) :
    (free_topics topics).wp success_spec (fun _ t => P (subscriptions t) (operations t)) h := by
  induction topics generalizing h with
  | nil => exact h0
  | cons topic topics ih => exact Program.wp_history_bind nofun fun _ => ih h0

theorem wp_mqtt_subscribe_init (h0 : Established s h) : (mqtt_subscribe_init s).wp success_spec
    (fun x t => x.1 = true ∧ (InForce t ↔ (operations t).failed = false)) h := by
  refine Program.wp_seq (Program.wp_mono ?_ (wp_free_topics
    (P := fun v o => v = ⟨[], []⟩ ∧ o = ⟨none, false⟩) ⟨h0.subscriptions, h0.operations⟩))
  rintro _ h ⟨hsubs, hops⟩
  have hprocessed : Processed [] { s with topic_str := [] } h := Established.processed ⟨h0.next, hsubs, hops⟩
  refine Program.wp_seq (Program.wp_mono ?_ (wp_subscribe hprocessed (by simp) (by simp)))
  intro s h hprocessed
  refine Program.wp_seq (Program.wp_mono ?_ (wp_subscribe hprocessed (by simp) (by simp)))
  intro s h hprocessed
  refine Program.wp_seq (Program.wp_mono ?_ (wp_subscribe hprocessed (by simp) (by simp)))
  intro s h hprocessed
  refine Program.wp_seq (Program.wp_mono ?_ (wp_subscribe hprocessed (by simp) (by simp)))
  intro s h hprocessed
  refine Program.wp_seq (Program.wp_mono ?_ (wp_subscribe hprocessed (by simp) (by simp)))
  intro s h hprocessed
  refine Program.wp_seq (Program.wp_mono ?_ (wp_subscribe hprocessed (by simp) (by simp)))
  intro s h hprocessed
  refine Program.wp_seq (Program.wp_mono ?_ (wp_subscribe hprocessed (by simp) (by simp)))
  intro s h hprocessed
  refine ⟨rfl, ?_⟩
  rw [← hprocessed.exact]
  constructor
  · exact fun hall topic _ => hall topic
  · intro hall topic
    cases topic <;> exact hall _ (by simp)

theorem wp_establish_success : (EstablishMqttSession s).wp success_spec
    (fun x t => x.1 = true → Established x.2 t) h := by
  refine Program.wp_seq (wp_silent (connectToBroker_every (fun _ => nofun) nofun) fun connected h => ?_)
  cases connected with
  | false => exact nofun
  | true =>
    refine Program.wp_history_bind nofun fun (sessionPresent : Option Bool) => ?_
    match sessionPresent with
    | none => exact Program.wp_history_bind nofun fun _ => nofun
    | some true => exact Program.wp_history_bind nofun fun resent _ => ⟨rfl, rfl, rfl⟩
    | some false => exact Program.wp_history_bind nofun fun _ _ => ⟨rfl, rfl, rfl⟩

theorem disconnect_silent : (DisconnectMqttSession s).Every (· ≠ .set_aws_started) :=
  disconnectMqttSession_every nofun nofun

/-- What a call of `aws_iot_provisioning_main` that returns EXIT_SUCCESS has come to. -/
def Outcome (x : ExitCode × Static) (t : List Event) : Prop :=
  x.1 = .EXIT_SUCCESS → (InForce t ↔ (operations t).failed = false)

theorem wp_device_session_success {is_registered : Bool} :
    (device_session is_registered s).wp success_spec Outcome h := by
  refine Program.wp_seq (Program.wp_mono ?_ wp_establish_success)
  rintro ⟨established, s⟩ h hestablished
  cases established with
  | false => exact nofun
  | true =>
    refine Program.wp_seq (Program.wp_mono ?_ (wp_mqtt_subscribe_init (hestablished rfl)))
    rintro ⟨subscribed, s⟩ h ⟨rfl, hexact⟩
    exact Program.wp_history_bind nofun fun _ _ => hexact

private theorem wp_provisioning_main_success : (aws_iot_provisioning_main s).wp success_spec Outcome h := by
  refine Program.wp_history_bind nofun fun (is_registered : Bool) => ?_
  refine Program.wp_history_bind nofun fun (opened : Bool) => ?_
  refine Program.wp_ite (fun _ => nofun) fun _ => ?_
  refine Program.wp_ite (fun _ => wp_device_session_success) fun _ => ?_
  refine Program.wp_seq (Program.wp_seq (Program.wp_mono ?_ wp_establish_success))
  rintro ⟨established, s⟩ h -
  cases established with
  | false => exact nofun
  | true =>
    refine Program.wp_seq (wp_silent disconnect_silent fun _ h => ?_)
    exact Program.wp_history_bind nofun fun _ => wp_device_session_success

private theorem wp_provision_success {t : Task} : (provision t).wp success_spec
    (fun o t => o.elim (fun _ => True) fun _ => InForce t ↔ (operations t).failed = false) h := by
  refine Program.wp_seq (Program.wp_mono ?_ wp_provisioning_main_success)
  rintro ⟨exit, s⟩ h houtcome
  cases exit with
  | EXIT_SUCCESS => exact houtcome rfl
  | EXIT_FAILURE =>
    refine Program.wp_history_bind nofun fun _ => ?_
    exact Program.wp_ite (fun _ => wp_halt_silent (a := .esp_restart) nofun) fun _ => trivial

private theorem serve_silent : (serve s).Every (· ≠ .set_aws_started) :=
  serve_every (fun _ _ => consume_every nofun (fun _ => nofun) fun _ => nofun) nofun nofun nofun nofun

private theorem wp_main_entry_success : aws_iot_main_entry.wp success_spec (fun _ _ => True) [] := by
  refine Program.wp_history_bind nofun fun _ => ?_
  refine Program.wp_history_bind nofun fun _ => ?_
  refine Program.wp_history_bind nofun fun _ => ?_
  refine Program.wp_history_bind nofun fun _ => ?_
  refine Program.wp_repeated (fun _ _ => True) trivial fun t h _ => ?_
  refine Program.wp_history_bind nofun fun _ => ?_
  refine Program.wp_history_bind nofun fun _ => ?_
  refine Program.wp_history_bind nofun fun _ => ?_
  refine Program.wp_seq (Program.wp_repeated (fun _ _ => True) trivial fun t h _ => ?_)
  refine Program.wp_mono ?_ wp_provision_success
  rintro (t | t) h hexact
  · trivial
  · refine Program.wp_history_bind (fun _ => hexact) fun _ => ?_
    refine Program.wp_history_bind nofun fun _ => ?_
    refine Program.wp_seq (wp_silent (Program.every_repeated fun _ => serve_silent) fun s h => ?_)
    refine Program.wp_history_bind nofun fun _ => ?_
    refine Program.wp_seq (wp_silent disconnect_silent fun _ h => ?_)
    exact Program.wp_history_bind nofun fun _ => trivial

/-- In every run of `aws_iot_main_entry`, whatever is answered: where `aws_iot_provisioning_main` has
returned EXIT_SUCCESS, the seven result topics have all been acknowledged in the present
session if and only if none of the seven operations has failed. -/
theorem subscriptions_in_force_iff (oracle : (a : Action) → List Event → a.Answer) (n : Nat)
    (hsuccess : (aws_iot_main_entry.recorded oracle n).1.next = some .set_aws_started) :
    InForce (aws_iot_main_entry.recorded oracle n).2 ↔
      (operations (aws_iot_main_entry.recorded oracle n).2).failed = false :=
  Program.wp_next (Program.wp_recorded wp_main_entry_success n) hsuccess rfl

/-- The broker acknowledges the latest SUBSCRIBE at every call of `MQTT_ProcessLoop`. -/
def prompt_broker : (a : Action) → List Event → a.Answer
  | .MQTT_ProcessLoop, history => ⟨true, (subscriptions history).sent.head?.map fun p => .SUBACK p.1⟩
  | a, _ => a.success

set_option maxRecDepth 4000 in
theorem subscriptions_in_force_with_prompt_broker :
    (aws_iot_main_entry.recorded prompt_broker 65).1.next = some .set_aws_started ∧
    InForce (aws_iot_main_entry.recorded prompt_broker 65).2 := by
  refine ⟨rfl, (subscriptions_in_force_iff prompt_broker 65 rfl).mpr ?_⟩
  decide

/-- The broker acknowledges nothing, and every read of the time is later by a second or more. -/
def silent_broker : (a : Action) → List Event → a.Answer
  | .getTime, history => UInt32.ofNat (1000 * history.length)
  | a, _ => a.success

set_option maxRecDepth 4000 in
/-- EXIT_SUCCESS is returned without a single SUBACK. -/
theorem success_without_subscriptions :
    (aws_iot_main_entry.recorded silent_broker 65).1.next = some .set_aws_started ∧
    (subscriptions (aws_iot_main_entry.recorded silent_broker 65).2).acknowledged = [] ∧
    ¬ InForce (aws_iot_main_entry.recorded silent_broker 65).2 := by
  have hnone : (subscriptions (aws_iot_main_entry.recorded silent_broker 65).2).acknowledged = [] := rfl
  refine ⟨rfl, hnone, fun hall => ?_⟩
  have hhealth := hall .MESSEGE_HEALTH
  rw [hnone] at hhealth
  cases hhealth

end catbox.provisioning
