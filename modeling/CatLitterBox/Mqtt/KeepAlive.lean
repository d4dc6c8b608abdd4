import CatLitterBox.Mqtt.Receive

open program text

namespace coremqtt.wire

/-- Something has come, or been handed on, or an error has been returned. -/
def lively : Event → Bool
  | ⟨.recv _, none⟩ => true
  | ⟨.recv _, some data⟩ => !data.val.isEmpty
  | ⟨.handleIncomingPublish _, _⟩ | ⟨.handleIncomingAck _, _⟩ => true
  | ⟨.returned status, _⟩ => status ≠ .MQTTSuccess && status ≠ .MQTTNeedMoreBytes
  | _ => false

/-- The milliseconds that the code takes to have passed. -/
def elapsed (now : Nat) (start : UInt32) : Nat := (calculateElapsedTime (UInt32.ofNat now) start).toNat

section Clock

variable (time : List Event → Nat) (d : Nat)

/-- When the peer was last heard of, or an error returned. -/
def idleSince : List Event → Nat
  | [] => time []
  | e :: h => if lively e then time (e :: h) else idleSince h

/-- When the receiver last returned to its caller. -/
def lastReturn : List Event → Nat
  | [] => time []
  | ⟨.returned status, r⟩ :: h => time (⟨.returned status, r⟩ :: h)
  | _ :: h => lastReturn h

/-- When the last PINGREQ was sent, if no PINGRESP has come since. -/
def answerDue : List Event → Option Nat
  | [] => none
  | ⟨.send bytes, some taken⟩ :: h =>
    if 0 < taken.val ∧ taken.val = bytes.length then
      some (time (⟨.send bytes, some taken⟩ :: h))
    else answerDue h
  | ⟨.handleIncomingAck packet, status⟩ :: h =>
    if packet.type = MQTT_PACKET_TYPE_PINGRESP ∧ status.val = .MQTTSuccess then none else answerDue h
  | _ :: h => answerDue h

/-- `getTime` reads the lowest 32 bits of the milliseconds. -/
def reads : List Event → Bool
  | ⟨.getTime, now⟩ :: h => decide (UInt32.toNat now = time (⟨.getTime, now⟩ :: h) % 4294967296)
  | _ => true

/-- The clock has not gone back with the last event, and is what `getTime` reads. A call and what the caller
does behind it take no longer than `d`. -/
def Regular : List Event → Prop
  | [] => True
  | e :: h => time h ≤ time (e :: h) ∧ time (e :: h) ≤ lastReturn time h + d ∧ reads time (e :: h) = true

def Punctual : List Event → Prop
  | [] => True
  | e :: h => Regular time d (e :: h) ∧ Punctual h

/-- The clock does not go back, and is what `getTime` reads. -/
def Timed : List Event → Prop
  | [] => True
  | e :: h => (time h ≤ time (e :: h) ∧ reads time (e :: h) = true) ∧ Timed h

instance decidableRegular : (h : List Event) → Decidable (Regular time d h)
  | [] => .isTrue trivial
  | _ :: _ => inferInstanceAs (Decidable (_ ∧ _ ∧ _))

instance decidablePunctual : (h : List Event) → Decidable (Punctual time d h)
  | [] => .isTrue trivial
  | e :: h =>
    have : Decidable (Punctual time d h) := decidablePunctual h
    inferInstanceAs (Decidable (Regular time d (e :: h) ∧ Punctual time d h))

instance decidableTimed : (h : List Event) → Decidable (Timed time h)
  | [] => .isTrue trivial
  | e :: h =>
    have : Decidable (Timed time h) := decidableTimed h
    inferInstanceAs (Decidable ((time h ≤ time (e :: h) ∧ reads time (e :: h) = true) ∧ Timed time h))

/-- Nothing is done where the peer has been silent for too long, and a timeout is returned only where a
PINGREQ has waited for its answer. -/
def Watchful (a : Action) (h : List Event) : Prop :=
  (d < 1073741824 → lastReturn time h ≤ idleSince time h + 35000 + 6 * d) ∧
  (a = .returned .MQTTKeepAliveTimeout → ∃ sent ∈ answerDue time h, sent + 5000 < time h)

abbrev clock_spec : Spec Action Action.Answer (List Event) :=
  (Spec.history (Watchful time d)).until fun _ _ t => ¬ Regular time d t

/-- A turn of the receiver has begun at the history `h` and not returned yet. -/
structure Went (h t : List Event) : Prop where
  returned : lastReturn time t = time h
  idle : idleSince time t = idleSince time h ∨ time h ≤ idleSince time t
  passed : time h ≤ time t
  prompt : time t ≤ time h + d

/-- The answer to a PINGREQ is due that was sent when `start` says. -/
def Due (t : List Event) (start : UInt32) : Prop :=
  ∃ sent ∈ answerDue time t, ∃ P, sent ≤ P ∧ P ≤ time t ∧ start = UInt32.ofNat P

end Clock

/-- What a turn comes to that has neither received anything nor handed anything on. -/
inductive Turned (start : Nat) (c c' : MQTTContext) (status : MQTTStatus) (stop : Nat) : Prop where
  | failed (hsuccess : status ≠ .MQTTSuccess) (hmore : status ≠ .MQTTNeedMoreBytes)
      (hnone : status ≠ .MQTTNoDataAvailable)
  | waited (now : Nat) (hstart : start ≤ now) (hstop : now ≤ stop) (hwaiting : c.waitingForPingResp = true)
      (hstill : c'.waitingForPingResp = true) (hping : c'.pingReqSendTimeMs = c.pingReqSendTimeMs)
      (helapsed : elapsed now c.pingReqSendTimeMs ≤ 5000)
  | pinged (hwaiting : c.waitingForPingResp = false) (hnow : c'.waitingForPingResp = true)
  | listened (now : Nat) (hstart : start ≤ now) (hstop : now ≤ stop) (hwaiting : c.waitingForPingResp = false)
      (hstill : c'.waitingForPingResp = false) (hrx : c'.lastPacketRxTime = c.lastPacketRxTime)
      (helapsed : elapsed now c.lastPacketRxTime < 30000)

/-- How far the silence has come at the start of a turn, of a peer that was last heard of at `idle`: nothing
has been looked at since; or the time since the last packet has been looked at; or a PINGREQ has been sent; or
the time since that has been looked at. -/
inductive Phase (d idle now : Nat) (c : MQTTContext) : Prop where
  | fresh (hnow : now ≤ idle + d)
  | listening (first last : Nat) (hwaiting : c.waitingForPingResp = false) (hfirst : first ≤ idle + 2 * d)
      (hlast : first ≤ last) (hseen : last ≤ now) (hnow : now ≤ last + d)
      (hpassed : last - first ≤ elapsed last c.lastPacketRxTime)
        (helapsed : elapsed last c.lastPacketRxTime < 30000)
  | pinged (hwaiting : c.waitingForPingResp = true) (hnow : now ≤ idle + 30000 + 4 * d)
  | waiting (first last : Nat) (hwaiting : c.waitingForPingResp = true) (hfirst : first ≤ idle + 30000 + 5 * d)
      (hlast : first ≤ last) (hseen : last ≤ now) (hnow : now ≤ last + d)
      (hpassed : last - first ≤ elapsed last c.pingReqSendTimeMs)
        (helapsed : elapsed last c.pingReqSendTimeMs ≤ 5000)

variable {time : List Event → Nat} {d : Nat} {h t : List Event} {a : Action} {r : a.Answer} {c c' : MQTTContext}
  {status : MQTTStatus} {idle now start stop : Nat}

/-- As long as the difference fits 32 bits, the code sees all the time that passes. -/
theorem elapsed_add (now stop : Nat) (since : UInt32) (hfits : elapsed now since + stop < 4294967296) :
    elapsed (now + stop) since = elapsed now since + stop := by
  have hsince := since.toNat_lt
  simp only [elapsed, calculateElapsedTime, UInt32.toNat_sub, UInt32.toNat_ofNat'] at hfits ⊢
  omega

theorem elapsed_le (hstart : start ≤ now) : elapsed now (UInt32.ofNat start) ≤ now - start := by
  unfold elapsed calculateElapsedTime
  rw [UInt32.toNat_sub, UInt32.toNat_ofNat', UInt32.toNat_ofNat']
  omega

/-- In every phase the peer has been silent for the keep-alive time, the time for the answer and the
delays of the loop at most. -/
theorem Phase.bound (hphase : Phase d idle now c) : now ≤ idle + 35000 + 6 * d := by
  cases hphase with
  | fresh => omega
  | listening => omega
  | pinged => omega
  | waiting => omega

/-- A turn goes on, and leaves what the keep alive is managed with. -/
theorem Turned.carry {c'' : MQTTContext} {stop' : Nat} (hturned : Turned start c c' .MQTTSuccess stop)
    (hstop : stop ≤ stop') (hwaiting : c''.waitingForPingResp = c'.waitingForPingResp)
    (hping : c''.pingReqSendTimeMs = c'.pingReqSendTimeMs) (hrx : c''.lastPacketRxTime = c'.lastPacketRxTime) :
    Turned start c c'' status stop' := by
  cases hturned with
  | failed hsuccess => exact absurd rfl hsuccess
  | waited now hstart hnow hbefore hstill hping' helapsed =>
    exact .waited now hstart (hnow.trans hstop) hbefore (hwaiting.trans hstill) (hping.trans hping') helapsed
  | pinged hbefore hnow => exact .pinged hbefore (hwaiting.trans hnow)
  | listened now hstart hnow hbefore hstill hrx' helapsed =>
    exact .listened now hstart (hnow.trans hstop) hbefore (hwaiting.trans hstill) (hrx.trans hrx') helapsed

/-- What a silent turn makes of the phase. -/
theorem Phase.turn (hd : d < 1073741824) (hphase : Phase d idle now c)
    (hturned : Turned now c c' status stop) (hstop : stop ≤ start) (hprompt : start ≤ now + d)
    (hstatus : status = .MQTTSuccess ∨ status = .MQTTNeedMoreBytes ∨ status = .MQTTNoDataAvailable) :
    Phase d idle start c' := by
  cases hturned with
  | failed hsuccess hmore hnone => exact absurd hstatus (by tauto)
  | waited look hlook hlook' hwaiting hstill hping helapsed =>
    rw [← hping] at helapsed
    cases hphase with
    | fresh hnow => exact .waiting look look hstill (by omega) le_rfl (by omega) (by omega) (by omega) helapsed
    | listening _ _ hnot => rw [hnot] at hwaiting; cases hwaiting
    | pinged _ hnow => exact .waiting look look hstill (by omega) le_rfl (by omega) (by omega) (by omega) helapsed
    | waiting first last _ hfirst hlast hseen hnow hpassed hbefore =>
      have hadd := elapsed_add last (look - last) c.pingReqSendTimeMs (by omega)
      rw [← hping, Nat.add_sub_cancel' (by omega)] at hadd
      rw [← hping] at hpassed
      exact .waiting first look hstill hfirst (by omega) (by omega) (by omega) (by omega) helapsed
  | pinged hwaiting hnow' =>
    cases hphase with
    | fresh hnow => exact .pinged hnow' (by omega)
    | listening => exact .pinged hnow' (by omega)
    | pinged hnot => rw [hnot] at hwaiting; cases hwaiting
    | waiting _ _ hnot => rw [hnot] at hwaiting; cases hwaiting
  | listened look hlook hlook' hwaiting hstill hrx helapsed =>
    rw [← hrx] at helapsed
    cases hphase with
    | fresh hnow => exact .listening look look hstill (by omega) le_rfl (by omega) (by omega) (by omega) helapsed
    | listening first last _ hfirst hlast hseen hnow hpassed hbefore =>
      have hadd := elapsed_add last (look - last) c.lastPacketRxTime (by omega)
      rw [← hrx, Nat.add_sub_cancel' (by omega)] at hadd
      rw [← hrx] at hpassed
      exact .listening first look hstill hfirst (by omega) (by omega) (by omega) (by omega) helapsed
    | pinged hnot => rw [hnot] at hwaiting; cases hwaiting
    | waiting _ _ hnot => rw [hnot] at hwaiting; cases hwaiting

/-- An action within the turn leaves it under way. -/
theorem Went.cons (hwent : Went time d h t) (ha : ∀ status, a ≠ .returned status)
    (hregular : Regular time d (⟨a, r⟩ :: t)) : Went time d h (⟨a, r⟩ :: t) := by
  obtain ⟨hpassed, hprompt, -⟩ := hregular
  have hreturned : lastReturn time (⟨a, r⟩ :: t) = lastReturn time t := by
    cases a with
    | returned status => exact absurd rfl (ha status)
    | _ => rfl
  refine ⟨hreturned.trans hwent.returned, ?_, hwent.passed.trans hpassed, ?_⟩
  · by_cases hlively : lively ⟨a, r⟩ = true
    · have hidle : idleSince time (⟨a, r⟩ :: t) = time (⟨a, r⟩ :: t) := if_pos hlively
      exact .inr (hidle ▸ hwent.passed.trans hpassed)
    · have hidle : idleSince time (⟨a, r⟩ :: t) = idleSince time t := if_neg hlively
      exact hidle ▸ hwent.idle
  · rw [hwent.returned] at hprompt
    exact hprompt

/-- Something that has come is heard of. -/
theorem Went.heard (hwent : Went time d h t) (ha : lively ⟨a, r⟩ = true)
    (hregular : Regular time d (⟨a, r⟩ :: t)) :
    time h ≤ idleSince time (⟨a, r⟩ :: t) := by
  have hidle : idleSince time (⟨a, r⟩ :: t) = time (⟨a, r⟩ :: t) := if_pos ha
  exact hidle ▸ hwent.passed.trans hregular.1

theorem heard_cons {first : Nat} (hheard : first ≤ idleSince time t) (hpassed : first ≤ time (⟨a, r⟩ :: t)) :
    first ≤ idleSince time (⟨a, r⟩ :: t) := by
  unfold idleSince
  split_ifs
  · exact hpassed
  · exact hheard

theorem Went.watchful (hwent : Went time d h t)
    (hbound : d < 1073741824 → time h ≤ idleSince time h + 35000 + 6 * d)
    (ha : a ≠ .returned .MQTTKeepAliveTimeout) : Watchful time d a t := by
  refine ⟨fun hd => ?_, fun hreturned => absurd hreturned ha⟩
  have hbound := hbound hd
  rw [hwent.returned]
  cases hwent.idle with
  | inl hsame => omega
  | inr hheard => omega

/-- The actions that neither send nor hand an answer on. -/
def unanswered : Action → Bool
  | .send _ | .handleIncomingAck _ => false
  | _ => true

private theorem answerDue_cons (ha : unanswered a = true) : answerDue time (⟨a, r⟩ :: t) = answerDue time t := by
  cases a with
  | send _ => cases ha
  | handleIncomingAck _ => cases ha
  | _ => rfl

/-- An answer that is due stays due until something is sent or an answer is handed on. -/
theorem Due.cons {sent : UInt32} (hdue : Due time t sent) (ha : unanswered a = true)
    (hregular : Regular time d (⟨a, r⟩ :: t)) : Due time (⟨a, r⟩ :: t) sent := by
  obtain ⟨first, hfirst, P, hle, hP, hsent⟩ := hdue
  exact ⟨first, (answerDue_cons ha).symm ▸ hfirst, P, hle, hP.trans hregular.1, hsent⟩

/-- A PINGREQ that has been sent for more than five seconds by the code's reckoning has been sent for as
long. -/
theorem Due.earned {sent : UInt32} (hdue : Due time t sent)
    (hlong : 5000 < elapsed (time t) sent) : ∃ sent ∈ answerDue time t, sent + 5000 < time t := by
  obtain ⟨first, hfirst, P, hle, hP, rfl⟩ := hdue
  have helapsed := elapsed_le hP
  exact ⟨first, hfirst, by omega⟩

theorem wp_timed_bind {α : Type} {f : a.Answer → Receiver α} {Q : α → List Event → Prop}
    (hallow : Watchful time d a t)
    (hf : ∀ r, Regular time d (⟨a, r⟩ :: t) → (f r).wp (clock_spec time d) Q (⟨a, r⟩ :: t)) :
    ((Program.perform (R := Action.Answer) a).bind f).wp (clock_spec time d) Q t :=
  Program.wp_until_bind hallow fun r hr => hf r (not_not.mp hr)

theorem getTime_eq {now : UInt32} (hregular : Regular time d (⟨.getTime, now⟩ :: t)) :
    now = UInt32.ofNat (time (⟨.getTime, now⟩ :: t)) := by
  have hnow : now.toNat = time (⟨.getTime, now⟩ :: t) % 4294967296 := of_decide_eq_true hregular.2.2
  rw [← UInt32.toNat_inj, hnow, UInt32.toNat_ofNat']

/-- The loop of `sendBuffer` at its head: where all has been sent, the answer is due. -/
structure Sending (time : List Event → Nat) (d : Nat) (h : List Event) (bytes : Bytes)
    (w : SendBuffer) (t : List Event) :
    Prop where
  went : Went time d h t
  due : ∀ n ∈ w.bytesSentOrError, bytes.length ≤ n → Due time t w.lastPacketTxTime

section Turn

variable (hbound : d < 1073741824 → time h ≤ idleSince time h + 35000 + 6 * d)
include hbound

theorem wp_sendBufferTimeout {bytes : Bytes} {startTime : UInt32} {w : SendBuffer}
    (hsending : Sending time d h bytes w t) : (sendBufferTimeout startTime w).wp (clock_spec time d)
      (fun o u => o.elim (fun w => Sending time d h bytes w u) fun w => Sending time d h bytes w u) t := by
  refine wp_timed_bind (hsending.went.watchful hbound nofun) fun now hregular => ?_
  have hnext : Sending time d h bytes w (⟨.getTime, now⟩ :: t) :=
    ⟨hsending.went.cons nofun hregular, fun n hn hall => (hsending.due n hn hall).cons rfl hregular⟩
  refine (Program.wp_ret _ _).mpr ?_
  split_ifs
  · exact hnext
  · exact hnext

private theorem wp_sendBufferTurn {bytes : Bytes} {startTime : UInt32} {w : SendBuffer}
    (hsending : Sending time d h bytes w t) : (sendBufferTurn bytes startTime w).wp (clock_spec time d)
      (fun o u => o.elim (fun w => Sending time d h bytes w u) fun w => Sending time d h bytes w u) t := by
  obtain ⟨bytesSentOrError, last⟩ := w
  cases bytesSentOrError with
  | none => exact hsending
  | some bytesSent =>
    refine Program.wp_ite (fun hmore => ?_) fun _ => hsending
    refine wp_timed_bind (hsending.went.watchful hbound nofun) fun taken hregular => ?_
    have hwent : Went time d h (⟨.send (bytes.drop bytesSent), taken⟩ :: t) := hsending.went.cons nofun hregular
    cases taken with
    | none => exact wp_sendBufferTimeout hbound ⟨hwent, nofun⟩
    | some taken =>
      refine Program.wp_ite (fun hpos => ?_) fun _ => ?_
      · refine wp_timed_bind (hwent.watchful hbound nofun) fun now hregular' => ?_
        refine wp_sendBufferTimeout hbound ⟨hwent.cons nofun hregular', fun n hn hall => ?_⟩
        obtain rfl : bytesSent + taken.val = n := Option.some.inj hn
        have hlength : taken.val ≤ bytes.length - bytesSent := taken.property.trans_eq List.length_drop
        have hlast : answerDue time (⟨.send (bytes.drop bytesSent), some taken⟩ :: t) =
            some (time (⟨.send (bytes.drop bytesSent), some taken⟩ :: t)) := by
          exact if_pos ⟨hpos, taken.property.antisymm (List.length_drop.trans_le (by omega))⟩
        exact ⟨_, hlast, _, hregular'.1, le_rfl, getTime_eq hregular'⟩
      · refine wp_sendBufferTimeout hbound ⟨hwent, fun n hn hall => ?_⟩
        obtain rfl : bytesSent = n := Option.some.inj hn
        omega

private theorem wp_sendBuffer {bytes : Bytes} {last : UInt32} (hbytes : 0 < bytes.length) (hwent : Went time d h t) :
    (sendBuffer bytes last).wp (clock_spec time d) (fun w u => Sending time d h bytes w u) t := by
  refine wp_timed_bind (hwent.watchful hbound nofun) fun startTime hregular => ?_
  refine Program.wp_repeated (fun w u => Sending time d h bytes w u)
    ⟨hwent.cons nofun hregular, fun n hn hall => ?_⟩
    fun w u hsending => wp_sendBufferTurn hbound hsending
  obtain rfl : 0 = n := Option.some.inj hn
  omega

/-- What the keep alive comes to at a history where it has been managed. -/
structure Managed (time : List Event → Nat) (d : Nat) (h : List Event) (c : MQTTContext)
    (x : MQTTStatus × MQTTContext)
    (t : List Event) : Prop where
  went : Went time d h t
  due : x.2.waitingForPingResp = true → Due time t x.2.pingReqSendTimeMs
  timeout : x.1 = .MQTTKeepAliveTimeout → ∃ sent ∈ answerDue time t, sent + 5000 < time t
  turned : time h ≤ idleSince time t ∨ Turned (time h) c x.2 x.1 (time t)

private theorem wp_MQTT_Ping {last : UInt32} (hwent : Went time d h t) (hwaiting : c.waitingForPingResp = false) :
    (MQTT_Ping c last).wp (clock_spec time d) (Managed time d h c) t := by
  refine Program.wp_seq (Program.wp_mono ?_ (wp_sendBuffer hbound (Nat.succ_pos _) hwent))
  intro w u hsending
  refine (Program.wp_ret _ _).mpr ?_
  split_ifs with hfailed
  · refine ⟨hsending.went, fun hstill => ?_, nofun, .inr (.failed nofun nofun nofun)⟩
    rw [hwaiting] at hstill
    cases hstill
  · refine ⟨hsending.went, fun _ => ?_, nofun, .inr (.pinged hwaiting rfl)⟩
    cases hsent : w.bytesSentOrError with
    | none =>
      rw [hsent] at hfailed
      exact absurd rfl hfailed
    | some n =>
      rw [hsent] at hfailed
      have hall : pingreqPacket.length ≤ n := by simpa using hfailed
      exact hsending.due n hsent hall

omit hbound in
/-- A PINGREQ that is not due: a packet has been received a short time ago. -/
theorem elapsed_of_not_due {v : UInt32} (hdue : pingDue c (UInt32.ofNat now) v = false) :
    elapsed now c.lastPacketRxTime < 30000 := by
  have hrx := (Bool.or_eq_false_iff.mp hdue).2
  rw [Bool.and_eq_false_iff] at hrx
  have hle := UInt32.le_iff_toNat_le (a := PACKET_RX_TIMEOUT_MS)
    (b := calculateElapsedTime (UInt32.ofNat now) c.lastPacketRxTime)
  unfold elapsed
  cases hrx with
  | inl hzero =>
    rw [not_not.mp (of_decide_eq_false hzero)]
    decide
  | inr hshort => exact Nat.not_le.mp fun hlong => of_decide_eq_false hshort (hle.mpr hlong)

private theorem wp_handleKeepAlive_timed (hwent : Went time d h t)
    (hdue : c.waitingForPingResp = true → Due time t c.pingReqSendTimeMs) :
    (handleKeepAlive c).wp (clock_spec time d) (Managed time d h c) t := by
  refine wp_timed_bind (hwent.watchful hbound nofun) fun (now : UInt32) hregular => ?_
  have hread : Went time d h (⟨.getTime, now⟩ :: t) := hwent.cons nofun hregular
  have hnow : now = UInt32.ofNat (time (⟨.getTime, now⟩ :: t)) := getTime_eq hregular
  refine Program.wp_ite (fun hwaiting => (Program.wp_ret _ _).mpr ?_) fun hwaiting => ?_
  · have hdue' : Due time (⟨.getTime, now⟩ :: t) c.pingReqSendTimeMs := (hdue hwaiting).cons rfl hregular
    by_cases hlong : MQTT_PINGRESP_TIMEOUT_MS < calculateElapsedTime now c.pingReqSendTimeMs
    · rw [if_pos hlong]
      refine ⟨hread, fun _ => hdue', fun _ => hdue'.earned ?_, .inr (.failed nofun nofun nofun)⟩
      unfold elapsed
      rw [← hnow]
      exact UInt32.lt_iff_toNat_lt.mp hlong
    · rw [if_neg hlong]
      refine ⟨hread, fun _ => hdue', nofun, .inr (.waited _ hread.passed le_rfl hwaiting hwaiting rfl ?_)⟩
      unfold elapsed
      rw [← hnow]
      exact Nat.not_lt.mp fun hlt => hlong (UInt32.lt_iff_toNat_lt.mpr hlt)
  have hwaiting := Bool.eq_false_of_not_eq_true hwaiting
  refine wp_timed_bind (hread.watchful hbound nofun) fun last hregular' => ?_
  have hread' : Went time d h (⟨.lastPacketTxTime, last⟩ :: ⟨.getTime, now⟩ :: t) := hread.cons nofun hregular'
  refine Program.wp_ite (fun _ => wp_MQTT_Ping hbound hread' hwaiting) fun hping => ?_
  refine (Program.wp_ret _ _).mpr ⟨hread', fun hstill => ?_, nofun, .inr ?_⟩
  · rw [hwaiting] at hstill
    cases hstill
  · refine .listened _ hread.passed hregular'.1 hwaiting hwaiting rfl (elapsed_of_not_due (v := last) ?_)
    rw [← hnow]
    exact Bool.eq_false_of_not_eq_true hping

/-- Something has come, so that the keep alive is not managed. -/
theorem wp_checkKeepAlive_timed {recvBytes : Option Bytes} (hwent : Went time d h t)
    (hdue : c.waitingForPingResp = true → Due time t c.pingReqSendTimeMs)
    (hheard : recvBytes ≠ some [] → time h ≤ idleSince time t) (hstatus : status ≠ .MQTTKeepAliveTimeout) :
    (checkKeepAlive true recvBytes status c).wp (clock_spec time d) (Managed time d h c) t := by
  refine Program.wp_ite (fun _ => ?_) fun hsome => ?_
  · refine Program.wp_seq (Program.wp_mono ?_ (wp_handleKeepAlive_timed hbound hwent hdue))
    rintro ⟨keepAlive, c'⟩ u hmanaged
    refine (Program.wp_ret _ _).mpr ?_
    by_cases hsuccess : keepAlive = .MQTTSuccess
    · obtain rfl : keepAlive = .MQTTSuccess := hsuccess
      refine ⟨hmanaged.went, hmanaged.due, fun htimeout => absurd htimeout hstatus,
        hmanaged.turned.imp_right ?_⟩
      exact fun hturned => hturned.carry le_rfl rfl rfl rfl
    · rw [if_neg hsuccess]
      exact hmanaged
  · exact (Program.wp_ret _ _).mpr ⟨hwent, hdue, fun htimeout => absurd htimeout hstatus,
      .inl (hheard (by tauto))⟩

omit hbound in
/-- What reads the transport or the clock. -/
def listens : Action → Bool
  | .recv _ | .getTime => true
  | _ => false

omit hbound in
private theorem recvExact_listens (bytesToRecv : Nat) : (recvExact bytesToRecv).Every fun a => listens a = true := by
  refine Program.every_perform_bind rfl fun now => Program.every_repeated fun w => Program.every_ite trivial ?_
  refine Program.every_perform_bind rfl fun data => ?_
  cases data with
  | none => trivial
  | some data =>
    refine Program.every_ite (Program.every_perform_bind rfl fun now => trivial) ?_
    exact Program.every_perform_bind rfl fun now => Program.every_ite trivial trivial

omit hbound in
private theorem discard_listens (remainingLength : Nat) (w : Discard) :
    (discardTurn remainingLength w).Every fun a => listens a = true := by
  refine Program.every_ite (Program.every_bind (recvExact_listens _) fun n => ?_) trivial
  exact Program.every_ite trivial trivial

/-- A packet that is thrown away leaves what the keep alive is managed with. -/
theorem wp_discard_timed {packet : MQTTPacketInfo} (hmanaged : Managed time d h c (.MQTTSuccess, c') t) :
    (discardStoredPacket c' packet).wp (clock_spec time d) (Managed time d h c) t := by
  refine Program.wp_seq (Program.wp_until_of_every_kept
    (I := fun u => Managed time d h c (.MQTTSuccess, c') u)
    (Program.every_repeated fun w => discard_listens _ w) (fun a u ha hu => ?_) (fun a r u ha hu hregular => ?_)
    hmanaged fun total u hu => (Program.wp_ret _ _).mpr ?_)
  · exact hu.went.watchful hbound fun hreturned => by rw [hreturned] at ha; cases ha
  · have hregular := not_not.mp hregular
    have hunanswered : unanswered a = true := by
      cases a with
      | recv _ => rfl
      | getTime => rfl
      | _ => cases ha
    have hwent : Went time d h (⟨a, r⟩ :: u) :=
      hu.went.cons (fun status hreturned => by rw [hreturned] at ha; cases ha) hregular
    refine ⟨hwent, fun hstill => (hu.due hstill).cons hunanswered hregular, nofun, ?_⟩
    exact hu.turned.imp (fun hheard => heard_cons hheard hwent.passed)
      fun hturned => hturned.carry hregular.1 rfl rfl rfl
  · refine ⟨hu.went, hu.due, fun htimeout => ?_, hu.turned.imp_right fun hturned =>
      hturned.carry le_rfl rfl rfl rfl⟩
    simp only at htimeout
    split_ifs at htimeout

/-- A packet that is handed on is heard of, and a PINGRESP ends the wait. -/
theorem wp_handleIncoming {packet : MQTTPacketInfo} (hwent : Went time d h t)
    (hdue : c.waitingForPingResp = true → Due time t c.pingReqSendTimeMs) :
    (handleIncoming packet).wp (clock_spec time d)
      (fun status u => Went time d h u ∧ time h ≤ idleSince time u ∧
        (stillWaiting true packet status.val c.waitingForPingResp = true → Due time u c.pingReqSendTimeMs))
        t := by
  refine Program.wp_ite (fun _ => ?_) fun _ => ?_
  · refine ⟨hwent.watchful hbound nofun, fun status u hu => ?_⟩
    obtain ⟨rfl, hregular⟩ := hu
    have hregular := not_not.mp hregular
    refine ⟨hwent.cons nofun hregular, hwent.heard rfl hregular, fun hstill => ?_⟩
    exact (hdue (Bool.and_eq_true_iff.mp hstill).1).cons rfl hregular
  · refine ⟨hwent.watchful hbound nofun, fun status u hu => ?_⟩
    obtain ⟨rfl, hregular⟩ := hu
    have hregular := not_not.mp hregular
    refine ⟨hwent.cons nofun hregular, hwent.heard rfl hregular, fun hstill => ?_⟩
    obtain ⟨hwaiting, hnot⟩ := Bool.and_eq_true_iff.mp hstill
    obtain ⟨first, hfirst, P, hle, hP, hsent⟩ := hdue hwaiting
    refine ⟨first, ?_, P, hle, hP.trans hregular.1, hsent⟩
    refine (if_neg ?_ : answerDue time (⟨.handleIncomingAck packet, status⟩ :: t) = answerDue time t).trans
      hfirst
    rintro ⟨htype, hsuccess⟩
    rw [htype, hsuccess] at hnot
    cases hnot

private theorem wp_handlePacket_timed {packet : MQTTPacketInfo} (hmanaged : Managed time d h c (.MQTTSuccess, c') t) :
    (handlePacket true c' packet).wp (clock_spec time d) (Managed time d h c) t := by
  refine Program.wp_seq (Program.wp_mono ?_ (wp_handleIncoming hbound hmanaged.went hmanaged.due))
  rintro status u ⟨hwent, hheard, hdue⟩
  refine Program.wp_ite (fun hsuccess => ?_) fun _ => ?_
  · refine wp_timed_bind (hwent.watchful hbound nofun) fun now hregular => (Program.wp_ret _ _).mpr ?_
    have hread : Went time d h (⟨.getTime, now⟩ :: u) := hwent.cons nofun hregular
    refine ⟨hread, fun hstill => (hdue hstill).cons rfl hregular, fun htimeout => ?_,
      .inl (heard_cons hheard hread.passed)⟩
    exact absurd htimeout status.property.2
  · exact (Program.wp_ret _ _).mpr ⟨hwent, hdue, fun htimeout => absurd htimeout status.property.2, .inl hheard⟩

theorem wp_processPacket_timed {packet : MQTTPacketInfo} (hmanaged : Managed time d h c (status, c') t) :
    (processPacket true status c' packet).wp (clock_spec time d) (Managed time d h c) t := by
  refine Program.wp_ite (fun _ => hmanaged) fun hsuccess => ?_
  obtain rfl : status = .MQTTSuccess := not_not.mp hsuccess
  refine Program.wp_ite (fun _ => wp_discard_timed hbound hmanaged) fun _ => ?_
  refine Program.wp_ite (fun _ => ?_) fun _ => wp_handlePacket_timed hbound hmanaged
  exact (Program.wp_ret _ _).mpr ⟨hmanaged.went, hmanaged.due, nofun,
    hmanaged.turned.imp_right fun hturned => hturned.carry le_rfl rfl rfl rfl⟩

end Turn

private theorem decodeRemainingLength_ne (bytes : Bytes) :
    (decodeRemainingLength bytes 0 1 0).1 ≠ .MQTTKeepAliveTimeout := by
  have hdecode := decodeRemainingLength_eq bytes (k := 0) (r := 0) (Nat.zero_le 4) Nat.one_pos
  rw [pow_zero] at hdecode
  cases hbytes : varint.decode (bytes.take (4 - 0)) with
  | none =>
    rw [hbytes] at hdecode
    rw [hdecode]
    split_ifs <;> exact MQTTStatus.noConfusion
  | some found =>
    rw [hbytes] at hdecode
    rw [hdecode]
    exact MQTTStatus.noConfusion

/-- Reading a header never gives the status of the keep alive. -/
theorem process_ne (bytes : Bytes) (scratch : MQTTPacketInfo) :
    (MQTT_ProcessIncomingPacketTypeAndLength bytes scratch).1 ≠ .MQTTKeepAliveTimeout := by
  have hne := decodeRemainingLength_ne (bytes.drop 1)
  cases bytes with
  | nil => exact MQTTStatus.noConfusion
  | cons type bytes =>
    simp only [MQTT_ProcessIncomingPacketTypeAndLength, processRemainingLength]
    split_ifs with hvalid
    · split
      · split_ifs <;> exact MQTTStatus.noConfusion
      · rename_i heq
        rw [heq] at hne
        exact hne
    · exact MQTTStatus.noConfusion

/-- What a call of the receiver starts with. -/
structure Ready (time : List Event → Nat) (d : Nat) (t : List Event) (c : MQTTContext) : Prop where
  returned : lastReturn time t = time t
  due : c.waitingForPingResp = true → Due time t c.pingReqSendTimeMs
  phase : d < 1073741824 → Phase d (idleSince time t) (time t) c

/-- A call of the receiver begins before the silence has lasted too long. -/
theorem Ready.bound (hready : Ready time d h c) (hd : d < 1073741824) :
    time h ≤ idleSince time h + 35000 + 6 * d := (hready.phase hd).bound

theorem Ready.went (hready : Ready time d h c) : Went time d h h :=
  ⟨hready.returned, .inl rfl, le_rfl, Nat.le_add_right _ _⟩

/-- More bytes in the buffer are nothing to the keep alive. -/
theorem Ready.receive (hready : Ready time d h c) (received : Bytes) :
    Ready time d h { c with received := received } := by
  refine ⟨hready.returned, hready.due, fun hd => ?_⟩
  cases hready.phase hd with
  | fresh hnow => exact .fresh hnow
  | listening first last hwaiting hfirst hlast hseen hnow hpassed helapsed =>
    exact .listening first last hwaiting hfirst hlast hseen hnow hpassed helapsed
  | pinged hwaiting hnow => exact .pinged hwaiting hnow
  | waiting first last hwaiting hfirst hlast hseen hnow hpassed helapsed =>
    exact .waiting first last hwaiting hfirst hlast hseen hnow hpassed helapsed

/-- What is read changes nothing that the keep alive is managed with. -/
theorem processReceived_timed (hready : Ready time d h c) (recvBytes : Option Bytes) :
    Ready time d h (processReceived c recvBytes).2.1 ∧
      (processReceived c recvBytes).1 ≠ .MQTTKeepAliveTimeout := by
  cases recvBytes with
  | none => exact ⟨hready, MQTTStatus.noConfusion⟩
  | some data =>
    unfold processReceived
    simp only
    split_ifs
    · exact ⟨hready, MQTTStatus.noConfusion⟩
    · exact ⟨hready.receive _, process_ne _ _⟩

/-- The receiver returns a status, and is ready for the next call. -/
theorem Ready.next {status' : MQTTStatus} (hready : Ready time d h c)
    (hmanaged : Managed time d h c (status, c') t)
    (hstatus : status' = if status = .MQTTNoDataAvailable then .MQTTSuccess else status)
    (hregular : Regular time d (⟨.returned status', ()⟩ :: t)) :
    Ready time d (⟨.returned status', ()⟩ :: t) c' := by
  obtain ⟨hpassed, hprompt, -⟩ := hregular
  rw [hmanaged.went.returned] at hprompt
  refine ⟨rfl, fun hstill => (hmanaged.due hstill).cons (d := d) rfl ⟨hpassed, ?_, rfl⟩, fun hd => ?_⟩
  · rw [hmanaged.went.returned]
    exact hprompt
  by_cases hlively : lively ⟨.returned status', ()⟩ = true
  · have hidle : idleSince time (⟨.returned status', ()⟩ :: t) = time (⟨.returned status', ()⟩ :: t) :=
      if_pos hlively
    exact .fresh (by omega)
  · have hidle : idleSince time (⟨.returned status', ()⟩ :: t) = idleSince time t := if_neg hlively
    rw [hidle]
    have hheard (hheard : time h ≤ idleSince time t) :
        Phase d (idleSince time t) (time (⟨.returned status', ()⟩ :: t)) c' := .fresh (by omega)
    cases hmanaged.turned with
    | inl hidle => exact hheard hidle
    | inr hturned =>
      cases hmanaged.went.idle with
      | inr hidle => exact hheard hidle
      | inl hsame =>
        rw [hsame]
        refine (hready.phase hd).turn hd hturned hpassed hprompt ?_
        have hquiet : ¬ (status' ≠ .MQTTSuccess ∧ status' ≠ .MQTTNeedMoreBytes) := fun hquiet =>
          hlively (Bool.and_eq_true_iff.mpr ⟨decide_eq_true hquiet.1, decide_eq_true hquiet.2⟩)
        split_ifs at hstatus with hnone
        · exact .inr (.inr hnone)
        · rw [hstatus] at hquiet
          tauto

private theorem wp_receiveSingleIteration_timed (hready : Ready time d h c) :
    (receiveSingleIteration true c).wp (clock_spec time d) (fun x t => ∃ c status, Ready time d h c ∧
      x.1 = (if status = .MQTTNoDataAvailable then .MQTTSuccess else status) ∧
      Managed time d h c (status, x.2) t) h := by
  refine wp_timed_bind (hready.went.watchful hready.bound nofun) fun r hregular => ?_
  obtain ⟨hready', hstatus⟩ := processReceived_timed hready (r.map Subtype.val)
  have hwent : Went time d h (⟨.recv (c.size - c.received.length), r⟩ :: h) := hready.went.cons nofun hregular
  refine Program.wp_seq (Program.wp_mono ?_ (wp_checkKeepAlive_timed hready.bound hwent
    (fun hwaiting => (hready'.due hwaiting).cons rfl hregular) (fun hsome => ?_) hstatus))
  · rintro ⟨status, c'⟩ t hmanaged
    refine Program.wp_seq (Program.wp_mono ?_ (wp_processPacket_timed hready.bound hmanaged))
    rintro ⟨status, c'⟩ u hmanaged
    exact (Program.wp_ret _ _).mpr ⟨_, status, hready', rfl, hmanaged⟩
  · refine hready.went.heard ?_ hregular
    cases r with
    | none => rfl
    | some data =>
      have hdata : data.val ≠ [] := fun hnil => hsome (congrArg some hnil)
      cases hval : data.val with
      | nil => exact absurd hval hdata
      | cons b bytes =>
        change (!data.val.isEmpty) = true
        rw [hval]
        rfl

theorem wp_connection_timed (hready : Ready time d [] c) :
    (connection true c).wp (clock_spec time d) (fun _ _ => True) [] := by
  refine Program.wp_repeated (fun c t => Ready time d t c) hready fun c t hready => ?_
  refine Program.wp_seq (Program.wp_mono ?_ (wp_receiveSingleIteration_timed hready))
  rintro ⟨status', c'⟩ u ⟨c, status, hready, hstatus, hmanaged⟩
  simp only at hstatus hmanaged
  refine wp_timed_bind ⟨(hmanaged.went.watchful (a := .getTime) hready.bound nofun).1, fun htimeout => ?_⟩
    fun r hregular => ?_
  · rw [Action.returned.injEq, hstatus] at htimeout
    split_ifs at htimeout
    exact hmanaged.timeout htimeout
  · have hnext := hready.next hmanaged hstatus hregular
    refine (Program.wp_ret _ _).mpr ?_
    split_ifs
    · trivial
    · exact hnext

theorem ready_connected (time : List Event → Nat) (d size : Nat) (keepAliveSeconds : UInt16) :
    Ready time d [] (connected size keepAliveSeconds) :=
  ⟨rfl, nofun, fun _ => .fresh (Nat.le_add_right _ _)⟩

theorem unhooked_of_punctual (hpunctual : Punctual time d t) :
    Program.Unhooked (fun _ _ t => ¬ Regular time d t) t := by
  induction t with
  | nil => trivial
  | cons e t ih => exact ⟨not_not.mpr hpunctual.1, ih hpunctual.2⟩

/-- A run by a clock is punctual if enough time is given. -/
theorem punctual_of_timed (htimed : Timed time t) (hd : time t ≤ d) : Punctual time d t := by
  induction t with
  | nil => trivial
  | cons e t ih =>
    obtain ⟨⟨hpassed, hreads⟩, htimed⟩ := htimed
    exact ⟨⟨hpassed, hd.trans (Nat.le_add_left _ _), hreads⟩, ih htimed (hpassed.trans hd)⟩

/-- A peer that has fallen silent is noticed: where the receiver is called again and again, each call and what
the caller does behind it in less than `d`, an error is returned before 35 seconds and seven calls have
passed. -/
theorem silence_is_noticed (size : Nat) (keepAliveSeconds : UInt16)
    (oracle : (a : Action) → List Event → a.Answer)
    (n : Nat) (time : List Event → Nat) (d : Nat) (hd : d < 1073741824)
    (hpunctual : Punctual time d ((connection true (connected size keepAliveSeconds)).recorded oracle n).2) :
    time ((connection true (connected size keepAliveSeconds)).recorded oracle n).2 ≤
      idleSince time ((connection true (connected size keepAliveSeconds)).recorded oracle n).2 +
        35000 + 7 * d := by
  have hrespects := Program.respects_until_recorded
    (wp_connection_timed (ready_connected time d size keepAliveSeconds)) (unhooked_of_punctual hpunctual)
  generalize ((connection true (connected size keepAliveSeconds)).recorded oracle n).2 = t
    at hpunctual hrespects
  cases t with
  | nil => exact Nat.le_add_right_of_le (Nat.le_add_right _ _)
  | cons e t =>
    have hbound := hrespects.1.1 hd
    have hprompt := hpunctual.1.2.1
    unfold idleSince
    split_ifs <;> omega

/-- A silent peer, where each action takes a second. -/
def mute : (a : Action) → List Event → a.Answer := silent fun h => .ofNat (1000 * (h.length + 1))

theorem mute_is_noticed :
    1000 * ((connection true (connected 64 60)).recorded mute 40).2.length ≤
      idleSince (1000 * ·.length) ((connection true (connected 64 60)).recorded mute 40).2 +
        35000 + 7 * 10000 :=
  silence_is_noticed 64 60 mute 40 (1000 * ·.length) 10000 (by decide) (by decide +kernel)

/-- A timeout is returned only where a PINGREQ has been sent more than five seconds ago and no PINGRESP has
come since, whatever the transport does and however late the receiver is called. -/
theorem timeout_is_earned (size : Nat) (keepAliveSeconds : UInt16)
    (oracle : (a : Action) → List Event → a.Answer)
    (n : Nat) (time : List Event → Nat)
    (htimed : Timed time ((connection true (connected size keepAliveSeconds)).recorded oracle n).2)
    (hnext : ((connection true (connected size keepAliveSeconds)).recorded oracle n).1.next =
      some (.returned .MQTTKeepAliveTimeout)) :
    ∃ sent ∈ answerDue time ((connection true (connected size keepAliveSeconds)).recorded oracle n).2,
      sent + 5000 < time ((connection true (connected size keepAliveSeconds)).recorded oracle n).2 := by
  have hpunctual := punctual_of_timed htimed le_rfl
  have hwp := Program.wp_until_recorded (wp_connection_timed (ready_connected time _ size keepAliveSeconds))
    (unhooked_of_punctual hpunctual)
  exact (Program.wp_next hwp hnext).2 rfl

theorem mute_has_earned_it :
    ∃ sent ∈ answerDue (1000 * ·.length) ((connection true (connected 64 60)).recorded mute 53).2,
      sent + 5000 < 1000 * ((connection true (connected 64 60)).recorded mute 53).2.length :=
  timeout_is_earned 64 60 mute 53 (1000 * ·.length) (by decide +kernel) (by decide +kernel)

end coremqtt.wire
