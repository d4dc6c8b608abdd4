import CatLitterBox.Program.Turns
import CatLitterBox.Provisioning.Session
import Mathlib.Algebra.Order.Ring.Nat

open program Program

namespace catbox.provisioning

/-- The readings of the clock, which starts anywhere and advances by less than 2^31 between two of
them, and the packets that the calls of the MQTT loop receive. -/
structure Readings where
  start : UInt32
  advance : Nat → Nat
  advance_lt : ∀ k, advance k < 2 ^ 31
  received : Nat → Option Received

/-- The time from the first reading to a later one. -/
def Readings.elapsed (r : Readings) : Nat → Nat
  | 0 => 0
  | k + 1 => r.elapsed k + r.advance k

/-- The clock has 32 bits. -/
def Readings.getTime (r : Readings) (k : Nat) : UInt32 := r.start + UInt32.ofNat (r.elapsed k)

def isGetTime : Action → Bool
  | .getTime => true
  | _ => false

def isProcessLoop : Action → Bool
  | .MQTT_ProcessLoop => true
  | _ => false

/-- No call fails, and the clock and the MQTT loop answer in turn. -/
def Readings.oracle (r : Readings) : (a : Action) → List Event → a.Answer
  | .getTime, h => r.getTime (performed isGetTime h)
  | .MQTT_ProcessLoop, h => ⟨true, r.received (performed isProcessLoop h)⟩
  | a, _ => a.success

/-- The first test of the loop at which the timeout has elapsed, modulo 2^32. -/
def Readings.FirstElapsed (r : Readings) (timeout : UInt32) (n : Nat) : Prop :=
  timeout.toNat ≤ r.elapsed n % 2 ^ 32 ∧ ∀ k < n, r.elapsed k % 2 ^ 32 < timeout.toNat

/-- The MQTT loop is called once at least, and the function leaves its loop exactly at the first test at
which the timeout has elapsed: after as many calls of the MQTT loop as the test has before it. -/
def Readings.OnTime (r : Readings) (timeout : UInt32) (code : Code (Bool × Static)) : Prop :=
  ∀ n, (EndsAfter r.oracle isProcessLoop n code [] → 1 ≤ n) ∧
    (EndsAfter r.oracle isProcessLoop n code [] ↔ r.FirstElapsed timeout n)

/-- No packet fails an assertion of the callback. -/
def Readings.Accepted (r : Readings) (s : Static) : Prop :=
  ∀ k packet, r.received k = some packet → (mqttCallback s packet).isSome

/-- The packet acknowledges an identifier. -/
def Received.Acknowledges (packetId : Nat) : Received → Prop
  | .SUBACK id | .UNSUBACK id | .PUBACK id => id = packetId
  | _ => False

def Readings.Unacknowledged (r : Readings) (packetId : Nat) : Prop :=
  ∀ k packet, r.received k = some packet → ¬ packet.Acknowledges packetId

/-- What stays as it is while packets are received. -/
structure Static.Waits (s w : Static) : Prop where
  subscribe : w.globalSubscribePacketIdentifier = s.globalSubscribePacketIdentifier
  unsubscribe : w.globalUnsubscribePacketIdentifier = s.globalUnsubscribePacketIdentifier

/-- A packet that is accepted. -/
theorem Static.Waits.receive {s w : Static} (h : s.Waits w) {packet : Received}
    (haccepted : (mqttCallback s packet).isSome) :
    ∃ w', mqttCallback w packet = some w' ∧ s.Waits w' ∧
      (w'.globalAckPacketIdentifier = w.globalAckPacketIdentifier ∨
        packet.Acknowledges w'.globalAckPacketIdentifier) := by
  cases packet with
  | SUBACK id =>
    have hid : w.globalSubscribePacketIdentifier = id :=
      h.subscribe.trans (by simpa [mqttCallback] using haccepted)
    exact ⟨{ w with globalAckPacketIdentifier := id }, if_pos hid, ⟨h.subscribe, h.unsubscribe⟩, .inr rfl⟩
  | UNSUBACK id =>
    have hid : w.globalUnsubscribePacketIdentifier = id :=
      h.unsubscribe.trans (by simpa [mqttCallback] using haccepted)
    exact ⟨{ w with globalAckPacketIdentifier := id }, if_pos hid, ⟨h.subscribe, h.unsubscribe⟩, .inr rfl⟩
  | PUBACK id => exact ⟨_, rfl, ⟨h.subscribe, h.unsubscribe⟩, .inr rfl⟩
  | PUBLISH => exact ⟨w, rfl, h, .inl rfl⟩
  | other => exact ⟨w, rfl, h, .inl rfl⟩

theorem comesTo_processLoop {oracle : (a : Action) → List Event → a.Answer} {w w' : Static} {hist : List Event}
    {answer : ProcessLoop} (hanswer : oracle .MQTT_ProcessLoop hist = answer)
    (hcallback : answer.received.elim (some w) (mqttCallback w) = some w') :
    ComesTo oracle (MQTT_ProcessLoop w, hist)
    (.ret (answer.status, w'), ⟨.MQTT_ProcessLoop, answer⟩ :: hist) := by
  subst hanswer
  apply Relation.ReflTransGen.single
  simp only [StepsTo, MQTT_ProcessLoop, act, perform, Bind.bind, Program.bind, advance,
    record, hcallback, pure_eq]

/-- A call of the MQTT loop. -/
theorem Readings.processLoop (r : Readings) {s w : Static} (haccepted : r.Accepted s)
    (h : s.Waits w) (hist : List Event) :
    ∃ w' e, ComesTo r.oracle (MQTT_ProcessLoop w, hist)
    (.ret (true, w'), ⟨.MQTT_ProcessLoop, e⟩ :: hist) ∧ s.Waits w' ∧
      (w'.globalAckPacketIdentifier = w.globalAckPacketIdentifier ∨
        ∃ packet, r.received (performed isProcessLoop hist) = some packet ∧
          packet.Acknowledges w'.globalAckPacketIdentifier) := by
  have hanswer : r.oracle .MQTT_ProcessLoop hist = ⟨true, r.received (performed isProcessLoop hist)⟩ := rfl
  cases hreceived : r.received (performed isProcessLoop hist) with
  | none =>
    rw [hreceived] at hanswer
    exact ⟨w, _, comesTo_processLoop hanswer rfl, h, .inl rfl⟩
  | some packet =>
    rw [hreceived] at hanswer
    obtain ⟨w', hcallback, hw', hack⟩ := h.receive (haccepted _ packet hreceived)
    exact ⟨w', _, comesTo_processLoop hanswer hcallback, hw', hack.imp_right fun h => ⟨packet, rfl, h⟩⟩

/-- The loop stands before a test: it has read the clock once more than it has called the MQTT loop. -/
structure Readings.At (r : Readings) (s : Static) (k : Nat) (w : Wait) (hist : List Event) : Prop where
  waits : s.Waits w.statics
  time : w.ulCurrentTime = r.getTime k
  status : w.status = true
  loops : performed isProcessLoop hist = k
  times : performed isGetTime hist = k + 1

variable {r : Readings} {s : Static} {timeout deadline : UInt32} {packetId : Nat}

/-- A turn before the deadline leads to the next reading of the clock. -/
theorem Readings.At.again {k : Nat} {w : Wait} {hist : List Event} (h : r.At s k w hist)
    (haccepted : r.Accepted s)
    (htest : r.getTime k < deadline) :
    ∃ w' hist', ComesTo r.oracle (ProcessLoopWithTimeout_turn deadline w, hist) (.ret (.inl w'), hist') ∧
      r.At s (k + 1) w' hist' := by
  obtain ⟨s', e, hloop, hwaits, -⟩ := r.processLoop haccepted h.waits hist
  unfold ProcessLoopWithTimeout_turn
  rw [if_pos ⟨h.time ▸ htest, h.status⟩]
  have hdelayed : performed isGetTime (⟨.vTaskDelay 10, ()⟩ :: ⟨.MQTT_ProcessLoop, e⟩ :: hist) = k + 1 := by
    simpa [isGetTime] using h.times
  have hread : r.oracle .getTime (⟨.vTaskDelay 10, ()⟩ :: ⟨.MQTT_ProcessLoop, e⟩ :: hist) = r.getTime (k + 1) :=
    congrArg r.getTime hdelayed
  refine ⟨⟨s', r.getTime (k + 1), true⟩,
    ⟨.getTime, r.getTime (k + 1)⟩ :: ⟨.vTaskDelay 10, ()⟩ :: ⟨.MQTT_ProcessLoop, e⟩ :: hist, ?_,
      hwaits, rfl, rfl, ?_, ?_⟩
  · rw [← hread]
    exact (comesTo_bind _ hloop).trans (.head rfl (.head rfl .refl))
  · simp [isProcessLoop, h.loops]
  · simp [isGetTime, h.times]

theorem Readings.At.wait_again {k : Nat} {w : Wait} {hist : List Event} (h : r.At s k w hist)
    (haccepted : r.Accepted s)
    (hunacknowledged : r.Unacknowledged packetId) (hack : w.statics.globalAckPacketIdentifier ≠ packetId)
    (htest : r.getTime k < deadline) :
    ∃ w' hist', ComesTo r.oracle (waitForPacketAck_turn packetId deadline w, hist) (.ret (.inl w'), hist') ∧
      r.At s (k + 1) w' hist' ∧ w'.statics.globalAckPacketIdentifier ≠ packetId := by
  obtain ⟨s', e, hloop, hwaits, hkept⟩ := r.processLoop haccepted h.waits hist
  have hgoes : ¬ w.ends packetId deadline := by
    rintro (hid | htime | hstatus)
    · exact hack hid
    · exact htime (h.time ▸ htest)
    · exact Bool.noConfusion (h.status.symm.trans hstatus)
  unfold waitForPacketAck_turn
  rw [if_neg hgoes]
  have hcalled : performed isGetTime (⟨.MQTT_ProcessLoop, e⟩ :: hist) = k + 1 := by
    simpa [isGetTime] using h.times
  have hread : r.oracle .getTime (⟨.MQTT_ProcessLoop, e⟩ :: hist) = r.getTime (k + 1) :=
    congrArg r.getTime hcalled
  refine ⟨⟨s', r.getTime (k + 1), true⟩, ⟨.getTime, r.getTime (k + 1)⟩ :: ⟨.MQTT_ProcessLoop, e⟩ :: hist, ?_,
    ⟨hwaits, rfl, rfl, ?_, ?_⟩, ?_⟩
  · rw [← hread]
    exact (comesTo_bind _ hloop).trans (.head rfl .refl)
  · simp [isProcessLoop, h.loops]
  · simp [isGetTime, h.times]
  · rintro hid
    rcases hkept with hsame | ⟨packet, hreceived, hpacket⟩
    · exact hack (hsame.symm.trans hid)
    · exact hunacknowledged _ packet hreceived (hid ▸ hpacket)

private theorem processLoop_turns (haccepted : r.Accepted s) :
    Turns r.oracle isProcessLoop (ProcessLoopWithTimeout_turn deadline) (fun k => r.getTime k < deadline)
      (r.At s) where
  count _ _ _ h := h.loops
  again _ _ _ h htest := h.again haccepted htest
  leave k w hist h htest := by
    refine ⟨(w.status, w.statics), ?_⟩
    unfold ProcessLoopWithTimeout_turn
    rw [if_neg fun hgoes => htest (h.time ▸ hgoes.1)]
    exact .refl

private theorem waitForPacketAck_turns (haccepted : r.Accepted s) (hunacknowledged : r.Unacknowledged packetId) :
    Turns r.oracle isProcessLoop (waitForPacketAck_turn packetId deadline) (fun k => r.getTime k < deadline)
      (fun k w hist => r.At s k w hist ∧ w.statics.globalAckPacketIdentifier ≠ packetId) where
  count _ _ _ h := h.1.loops
  again _ _ _ h htest := h.1.wait_again haccepted hunacknowledged h.2 htest
  leave k w hist h htest := by
    refine ⟨(w.status && decide (w.statics.globalAckPacketIdentifier = packetId), w.statics), ?_⟩
    unfold waitForPacketAck_turn
    rw [if_pos (.inr (.inl (h.1.time ▸ htest)))]
    exact .refl

/-- The function leaves its loop at the first test that finds the deadline reached. -/
theorem ProcessLoopWithTimeout_endsAfter_iff (haccepted : r.Accepted s) (n : Nat) :
    EndsAfter r.oracle isProcessLoop n (ProcessLoopWithTimeout s timeout) [] ↔
      ¬ r.getTime n < r.getTime 0 + timeout ∧ ∀ k < n, r.getTime k < r.getTime 0 + timeout := by
  refine endsAfter_perform_bind.trans ((processLoop_turns haccepted).endsAfter_iff ?_ n)
  exact ⟨⟨rfl, rfl⟩, rfl, rfl, rfl, rfl⟩

theorem waitForPacketAck_endsAfter_iff (haccepted : r.Accepted s) (hunacknowledged : r.Unacknowledged packetId)
    (hid : packetId ≠ 0) (n : Nat) :
    EndsAfter r.oracle isProcessLoop n (waitForPacketAck s packetId timeout) [] ↔
      ¬ r.getTime n < r.getTime 0 + timeout ∧ ∀ k < n, r.getTime k < r.getTime 0 + timeout := by
  refine endsAfter_perform_bind.trans ((waitForPacketAck_turns haccepted hunacknowledged).endsAfter_iff ?_ n)
  exact ⟨⟨⟨rfl, rfl⟩, rfl, rfl, rfl, rfl⟩, hid.symm⟩

theorem Readings.getTime_toNat (r : Readings) (k : Nat) :
    (r.getTime k).toNat = (r.start.toNat + r.elapsed k) % 2 ^ 32 := by
  rw [Readings.getTime, UInt32.toNat_add, UInt32.toNat_ofNat', Nat.add_mod_mod]

theorem Readings.getTime_zero (r : Readings) : r.getTime 0 = r.start := UInt32.add_zero _

/-- As long as the timeout has not elapsed, modulo 2^32, it has not elapsed. -/
theorem Readings.elapsed_lt {n : Nat} (hshort : timeout.toNat < 2 ^ 31)
    (hbefore : ∀ k < n, r.elapsed k % 2 ^ 32 < timeout.toNat) : ∀ k < n, r.elapsed k < timeout.toNat := by
  intro k
  induction k with
  | zero =>
    intro hk
    exact (Nat.zero_le _).trans_lt (hbefore 0 hk)
  | succ k ih =>
    intro hk
    have hlast := ih (Nat.lt_of_succ_lt hk)
    have hstep := r.advance_lt k
    have hnow := hbefore (k + 1) hk
    simp only [Readings.elapsed] at hnow ⊢
    omega

/-- At the next test the clock has not gone round since the entry. -/
theorem Readings.elapsed_small {n : Nat} (hshort : timeout.toNat < 2 ^ 31)
    (hbefore : ∀ k < n, r.elapsed k % 2 ^ 32 < timeout.toNat) : r.elapsed n < 2 ^ 32 := by
  cases n with
  | zero => simp [Readings.elapsed]
  | succ n =>
    have hlast := Readings.elapsed_lt hshort hbefore n (Nat.lt_succ_self n)
    have hstep := r.advance_lt n
    simp only [Readings.elapsed]
    omega

/-- If neither the deadline nor the reading goes round, the test says whether the timeout has elapsed. -/
theorem Readings.test_iff {k : Nat} (hdeadline : r.start.toNat + timeout.toNat < 2 ^ 32)
    (hreading : r.start.toNat + r.elapsed k < 2 ^ 32) :
    r.getTime k < r.getTime 0 + timeout ↔ r.elapsed k < timeout.toNat := by
  rw [UInt32.lt_iff_toNat_lt, r.getTime_toNat, r.getTime_zero, UInt32.toNat_add]
  omega

/-- If nothing goes round, the timeout has not elapsed where the tests have all held. -/
theorem Readings.unelapsed_of_tests {n : Nat} (hshort : timeout.toNat < 2 ^ 31)
    (hdeadline : r.start.toNat + timeout.toNat < 2 ^ 32)
    (hreading : ∀ n, r.FirstElapsed timeout n → r.start.toNat + r.elapsed n < 2 ^ 32)
    (htests : ∀ k < n, r.getTime k < r.getTime 0 + timeout) : ∀ k <
    n, r.elapsed k % 2 ^ 32 < timeout.toNat := by
  induction n with
  | zero => exact fun k hk => absurd hk (Nat.not_lt_zero k)
  | succ n ih =>
    intro k hk
    have hearlier := ih fun k hk => htests k (Nat.lt_succ_of_lt hk)
    obtain hlt | rfl : k < n ∨ k = n := by omega
    · exact hearlier k hlt
    · by_contra helapsed
      have hsmall := Readings.elapsed_small hshort hearlier
      have hreached := hreading k ⟨not_lt.mp helapsed, hearlier⟩
      have htest := (Readings.test_iff hdeadline hreached).mp (htests k hk)
      omega

/-- If nothing goes round, the first test that fails is the first after the timeout has elapsed. -/
theorem Readings.tests_iff {n : Nat} (hshort : timeout.toNat < 2 ^ 31)
    (hdeadline : r.start.toNat + timeout.toNat < 2 ^ 32)
    (hreading : ∀ n, r.FirstElapsed timeout n → r.start.toNat + r.elapsed n < 2 ^ 32) :
    (¬ r.getTime n < r.getTime 0 + timeout ∧ ∀ k < n, r.getTime k < r.getTime 0 + timeout) ↔
      r.FirstElapsed timeout n := by
  constructor
  · rintro ⟨hlast, htests⟩
    have hfirst := Readings.unelapsed_of_tests hshort hdeadline hreading htests
    have hsmall := Readings.elapsed_small hshort hfirst
    refine ⟨?_, hfirst⟩
    by_contra helapsed
    exact hlast ((Readings.test_iff hdeadline (by omega)).mpr (by omega))
  · rintro ⟨helapsed, hfirst⟩
    have hreached := hreading n ⟨helapsed, hfirst⟩
    have hsmall := Readings.elapsed_small hshort hfirst
    constructor
    · rw [Readings.test_iff hdeadline hreached]
      omega
    · intro k hk
      have hlt := Readings.elapsed_lt hshort hfirst k hk
      exact (Readings.test_iff hdeadline (by omega)).mpr hlt

/-- A deadline that goes round lies before the entry, and the first test fails. -/
theorem Readings.skipped_of_round (hshort : timeout.toNat < 2 ^ 31)
    (hround : 2 ^ 32 ≤ r.start.toNat + timeout.toNat) :
    ¬ r.getTime 0 < r.getTime 0 + timeout := by
  have hstart := r.start.toNat_lt
  rw [UInt32.lt_iff_toNat_lt, r.getTime_zero, UInt32.toNat_add]
  omega

/-- Such a loop is on time exactly if neither the deadline nor the first reading behind it goes
round. -/
theorem Readings.onTime_iff {code : Code (Bool × Static)} (hpositive : 0 < timeout.toNat)
    (hshort : timeout.toNat < 2 ^ 31)
    (hends : ∀ n, EndsAfter r.oracle isProcessLoop n code [] ↔
      ¬ r.getTime n < r.getTime 0 + timeout ∧ ∀ k < n, r.getTime k < r.getTime 0 + timeout) :
    r.OnTime timeout code ↔ r.start.toNat + timeout.toNat < 2 ^ 32 ∧
      ∀ n, r.FirstElapsed timeout n → r.start.toNat + r.elapsed n < 2 ^ 32 := by
  constructor
  · intro hontime
    have hdeadline : r.start.toNat + timeout.toNat < 2 ^ 32 := by
      by_contra hround
      have hskipped := Readings.skipped_of_round hshort (not_lt.mp hround)
      have hnone := (hontime 0).1 ((hends 0).mpr ⟨hskipped, fun k hk => absurd hk (Nat.not_lt_zero k)⟩)
      exact absurd hnone (by decide)
    refine ⟨hdeadline, ?_⟩
    intro n hfirst
    by_contra hround
    obtain ⟨hreached, -⟩ := (hends n).mp ((hontime n).2.mpr hfirst)
    rw [UInt32.lt_iff_toNat_lt, r.getTime_toNat, r.getTime_zero, UInt32.toNat_add] at hreached
    have hsmall := Readings.elapsed_small hshort hfirst.2
    omega
  · rintro ⟨hdeadline, hreading⟩ n
    have hends_first := (hends n).trans (Readings.tests_iff hshort hdeadline hreading)
    refine ⟨?_, hends_first⟩
    intro hn
    obtain ⟨helapsed, -⟩ := hends_first.mp hn
    by_contra hzero
    obtain rfl : n = 0 := by omega
    simp only [Readings.elapsed] at helapsed
    omega

/-- Both functions end on time exactly if the deadline does not go round and neither does the first
reading at or behind it. -/
theorem process_loops_on_time_iff (hpositive : 0 < timeout.toNat) (hshort : timeout.toNat < 2 ^ 31)
    (haccepted : r.Accepted s) :
    (r.OnTime timeout (ProcessLoopWithTimeout s timeout) ↔ r.start.toNat + timeout.toNat < 2 ^ 32 ∧
      ∀ n, r.FirstElapsed timeout n → r.start.toNat + r.elapsed n < 2 ^ 32) ∧
    ∀ packetId ≠ 0, r.Unacknowledged packetId →
      (r.OnTime timeout (waitForPacketAck s packetId timeout) ↔ r.start.toNat + timeout.toNat < 2 ^ 32 ∧
        ∀ n, r.FirstElapsed timeout n → r.start.toNat + r.elapsed n < 2 ^ 32) := by
  constructor
  · exact Readings.onTime_iff hpositive hshort (ProcessLoopWithTimeout_endsAfter_iff haccepted)
  · intro packetId hid hunacknowledged
    exact Readings.onTime_iff hpositive hshort (waitForPacketAck_endsAfter_iff haccepted hunacknowledged hid)

/-- A clock that is half a second before its wrap, and advances by ten milliseconds. -/
def lateReadings : Readings := ⟨4294966796, fun _ => 10, fun _ => by decide, fun _ => none⟩

/-- Thirty milliseconds, in which the loops go round three times, do not take the clock round. -/
theorem short_timeout_on_time : lateReadings.OnTime 30 (ProcessLoopWithTimeout .boot 30) ∧
    lateReadings.OnTime 30 (waitForPacketAck .boot 1 30) := by
  have haccepted : lateReadings.Accepted .boot := fun _ _ h => nomatch h
  have hfirst : ∀ n, lateReadings.FirstElapsed 30 n →
    lateReadings.start.toNat + lateReadings.elapsed n < 2 ^ 32 := by
    intro n hfirst
    have hn : n ≤ 3 := by
      by_contra hlater
      exact absurd (hfirst.2 3 (by omega)) (by decide)
    have hall : ∀ n ≤ 3, lateReadings.start.toNat + lateReadings.elapsed n < 2 ^ 32 := by decide
    exact hall n hn
  have hpositive : 0 < (30 : UInt32).toNat := by decide
  obtain ⟨hloop, hwait⟩ := process_loops_on_time_iff hpositive (by decide) haccepted
  exact ⟨hloop.mpr ⟨by decide, hfirst⟩, (hwait 1 (by decide) fun _ _ h => nomatch h).mpr ⟨by decide, hfirst⟩⟩

/-- The wait of a second that begins half a second before the wrap ends at once. -/
theorem wait_skipped_before_wrap : ¬ ∀ (r : Readings) (s : Static) (timeout : UInt32), 0 < timeout.toNat →
    timeout.toNat < 2 ^ 31 → r.Accepted s →
    r.OnTime timeout (ProcessLoopWithTimeout s timeout) ∧
      ∀ packetId ≠ 0, r.Unacknowledged packetId → r.OnTime timeout (waitForPacketAck s packetId timeout) := by
  intro hall
  have haccepted : lateReadings.Accepted .boot := fun _ _ h => nomatch h
  have hunacknowledged : lateReadings.Unacknowledged 1 := fun _ _ h => nomatch h
  have hontime := (hall lateReadings .boot MQTT_PROCESS_LOOP_TIMEOUT_MS (by decide) (by decide) haccepted).2 1
    (by decide) hunacknowledged
  have hrounds := (Readings.onTime_iff (by decide) (by decide)
    (waitForPacketAck_endsAfter_iff haccepted hunacknowledged (by decide))).mp hontime
  exact absurd hrounds.1 (by decide)

end catbox.provisioning
