import CatLitterBox.Ble.Motion

open text json temporal

namespace catbox.ble

variable {Ecdh : Type} (L : Library Ecdh)

/-- The device, and the transfer announced last: of how many points, none if there is no such
transfer, and how many of its packets have arrived. -/
structure Retry (Ecdh : Type) where
  device : Device Ecdh
  points : UInt16
  received : Nat

def Retry.boot (config : Config) : Retry Ecdh := ⟨Device.boot L config, 0, 0⟩

/-- What an input, handled by the device, makes of the transfer. -/
def Retry.count (s : Retry Ecdh) (device : Device Ecdh) : MotionInput → Retry Ecdh
  | .start_response points => if points ≠ 0 then ⟨device, points, 0⟩ else ⟨device, s.points, s.received⟩
  | .data _ => ⟨device, s.points, s.received + 1⟩
  | .expiry | .other => ⟨device, s.points, s.received⟩

/-- The timer expires only while it is running. -/
def Retry.step (s : Retry Ecdh) (i : Input) : Retry Ecdh :=
  if i.motion = .expiry ∧ s.device.Motion_Timeout_timer = false then s
  else if .LoadProhibited ∈ (s.device.handle L i).2 then ⟨(s.device.handle L i).1, 0, 0⟩
  else s.count (s.device.handle L i).1 i.motion

def Retry.Incomplete (s : Retry Ecdh) : Prop := s.received < packets s.points

/-- After a packet the timer is running exactly if the transfer is incomplete, and a transfer is
requested again only while it is. -/
def Retry.Disciplined (s : Retry Ecdh) (i : Input) : Prop :=
  match i.motion with
  | .start_response _ | .data _ => (s.step L i).device.Motion_Timeout_timer = true ↔ (s.step L i).Incomplete
  | .expiry => s.device.Motion_Timeout_timer = true → s.Incomplete
  | .other => True

/-- An announcement without points finds no incomplete transfer whose timer has run out. A data
packet is one of the announced ones, and the last one is not full and comes after the timer has
run out. -/
def Retry.Orderly (s : Retry Ecdh) (i : Input) : Prop :=
  match i.motion with
  | .start_response points => points = 0 → s.Incomplete → s.device.Motion_Timeout_timer = true
  | .data _ => s.Incomplete ∧ (s.received + 1 = packets s.points →
      s.points.toNat % 9 ≠ 0 ∧ s.device.Motion_Timeout_timer = false)
  | _ => True

/-- The counters stand for the transfer announced last, the timer runs only while that is
incomplete, and a complete transfer has ended with a packet that was not full. -/
structure Motion.Kept (m : Motion) (points : UInt16) (received : Nat) : Prop where
  none_announced : points = 0 → m.total_count = 0 ∧ m.input_count = 0 ∧ received = 0
  announced : points ≠ 0 → m.InTransfer points received
  complete : points ≠ 0 → received = packets points → points.toNat % 9 ≠ 0
  timer : m.running = true → received < packets points

def Retry.Kept (s : Retry Ecdh) : Prop := s.device.motion.Kept s.points s.received

variable {L}

/-- What a step comes to. -/
inductive Retry.Step (L : Library Ecdh) (s : Retry Ecdh) (i : Input) : Prop where
  | idle (motion : i.motion = .expiry) (off : s.device.Motion_Timeout_timer = false) (same : s.step L i = s)
  | restart (motion : i.motion = .other) (device : Device Ecdh) (boot : device.motion = Motion.boot)
      (result : s.step L i = ⟨device, 0, 0⟩)
  | handled (device : Device Ecdh) (moved : device.motion = (s.device.motion.step i.motion).1)
      (result : s.step L i = s.count device i.motion)

/-- What a step comes to, for each input. -/
theorem Retry.step_cases (s : Retry Ecdh) (i : Input) : Retry.Step L s i := by
  by_cases hidle : i.motion = .expiry ∧ s.device.Motion_Timeout_timer = false
  · exact .idle hidle.1 hidle.2 (if_pos hidle)
  · have hstep : s.step L i = _ := if_neg hidle
    rcases handle_motion (L := L) s.device i with ⟨hload, hboot⟩ | ⟨hmoved, -, hload⟩
    · refine .restart ?_ _ hboot (hstep.trans (if_pos hload))
      by_contra hother
      exact motion_input_runs hother hload
    · exact .handled _ hmoved (hstep.trans (if_neg hload))

theorem packets_pos {points : UInt16} (h : points ≠ 0) : 0 < packets points := by
  have hpoints : 0 < points.toNat := Nat.pos_of_ne_zero fun hzero => h (UInt16.toNat_inj.mp hzero)
  exact Nat.div_pos (by omega) (by decide)

section kept

variable {m : Motion} {points : UInt16} {received : Nat}

/-- While the transfer is incomplete, the counters are those of the transfer announced last. -/
theorem Motion.Kept.inTransfer (h : m.Kept points received) (hr : received < packets points) :
    m.InTransfer points received := by
  refine h.announced ?_
  rintro rfl
  exact absurd hr (Nat.not_lt_zero _)

theorem kept_boot : Motion.boot.Kept 0 0 := ⟨fun _ => ⟨rfl, rfl, rfl⟩, (absurd rfl ·), (absurd rfl ·), nofun⟩

theorem kept_start (h : points ≠ 0) : (m.step (.start_response points)).1.Kept points 0 where
  none_announced hzero := absurd hzero h
  announced _ := start_inTransfer h
  complete _ hall := absurd hall (packets_pos h).ne
  timer _ := packets_pos h

/-- When the timer expires, the points are asked for again, and the counters still fit. -/
theorem Motion.Kept.expiry (h : m.Kept points received) : (m.step .expiry).1.Kept points received :=
  ⟨h.none_announced, fun hp =>
    ⟨(h.announced hp).announced, (h.announced hp).counted, (h.announced hp).expected⟩,
    h.complete, nofun⟩

/-- Upon a data packet the timer is started again, unless the packet completes the count. -/
theorem data_running (m : Motion) (seq : UInt8) : (m.step (.data seq)).1.running = true ↔
    m.running = true ∨ m.input_count + 9 ≠ m.total_count := by
  simp only [Motion.step]
  split <;> simp_all

/-- A packet more than announced starts the timer. -/
theorem Motion.Kept.stray (h : m.Kept points received) (hr : ¬ received < packets points) (seq : UInt8) :
    (m.step (.data seq)).1.running = true := by
  rw [data_running]
  right
  by_cases hp : points = 0
  · obtain ⟨htotal, hinput, -⟩ := h.none_announced hp
    rw [htotal, hinput]
    decide
  · have hin := h.announced hp
    have hall : received = packets points := le_antisymm hin.expected (not_lt.mp hr)
    have hpart := h.complete hp hall
    intro hcount
    rw [← UInt32.toNat_inj, hin.next_count, hin.announced] at hcount
    unfold packets at hall
    omega

/-- A packet of the transfer leaves the timer as it should exactly if it is not the last one, or
that is not full and finds the timer stopped. -/
theorem Motion.Kept.data_running (h : m.Kept points received) (hr : received < packets points) (seq : UInt8) :
    ((m.step (.data seq)).1.running = true ↔ received + 1 < packets points) ↔
      (received + 1 = packets points → points.toNat % 9 ≠ 0 ∧ m.running = false) := by
  have hcount := (h.inTransfer hr).completes_iff hr
  rw [ble.data_running, ne_eq, hcount]
  by_cases hlast : received + 1 = packets points
  · simp [hlast, and_comm]
  · have hmore : received + 1 < packets points := lt_of_le_of_ne hr hlast
    simp [hlast, hmore]

/-- A packet keeps the invariant, unless it is full and completes the transfer, or completes it
before the timer has run out. -/
theorem Motion.Kept.data (h : m.Kept points received) (hr : received < packets points) (seq : UInt8)
    (hlast : received + 1 = packets points → points.toNat % 9 ≠ 0 ∧ m.running = false) :
    (m.step (.data seq)).1.Kept points (received + 1) where
  none_announced hzero := by
    rw [hzero] at hr
    exact absurd hr (Nat.not_lt_zero _)
  announced _ := (h.inTransfer hr).data hr seq
  complete _ hall := (hlast hall).1
  timer := ((h.data_running hr seq).mpr hlast).mp

end kept

/-- In a state kept so far, exactly the orderly steps are disciplined. -/
theorem disciplined_iff_orderly {s : Retry Ecdh} (i : Input) (h : s.Kept) :
    s.Disciplined L i ↔ s.Orderly i := by
  unfold Retry.Disciplined Retry.Orderly
  cases s.step_cases (L := L) i with
  | idle motion off same => simp [motion, off]
  | restart motion => simp [motion]
  | handled device moved result =>
    rw [result]
    have hrunning := congrArg Motion.running moved
    cases hi : i.motion with
    | start_response points =>
      rw [hi] at hrunning
      by_cases hpoints : points = 0
      · have hsame : device.Motion_Timeout_timer = s.device.Motion_Timeout_timer := by
          rw [hpoints] at hrunning
          exact hrunning
        simp only [Retry.count, hpoints, ne_eq, not_true_eq_false, if_false, hsame, forall_const]
        exact ⟨Iff.mpr, fun hon => ⟨h.timer, hon⟩⟩
      · simp only [Retry.count, hpoints, ne_eq, not_false_eq_true, if_true]
        rw [Motion.step, if_pos hpoints] at hrunning
        exact iff_of_true (iff_of_true hrunning (packets_pos hpoints)) fun hfalse => hfalse.elim
    | data seq =>
      rw [hi] at hrunning
      simp only [Retry.count]
      by_cases hr : s.Incomplete
      · rw [and_iff_right hr]
        have hlast := Motion.Kept.data_running h hr seq
        rw [← hrunning] at hlast
        exact hlast
      · have hon : device.Motion_Timeout_timer = true := hrunning.trans (Motion.Kept.stray h hr seq)
        rw [iff_true_left hon]
        exact iff_of_false (fun hmore => hr (Nat.lt_of_succ_lt hmore)) (fun hall => hr hall.1)
    | expiry => exact iff_of_true h.timer trivial
    | other => exact Iff.rfl

/-- An orderly step keeps the state. -/
theorem Retry.Kept.step {s : Retry Ecdh} {i : Input} (h : s.Kept) (hi : s.Orderly i) : (s.step L i).Kept := by
  unfold Retry.Orderly at hi
  cases s.step_cases (L := L) i with
  | idle motion off same =>
    rw [same]
    exact h
  | restart motion device boot result =>
    rw [result]
    unfold Retry.Kept
    rw [boot]
    exact kept_boot
  | handled device moved result =>
    rw [result]
    unfold Retry.Kept
    cases hmotion : i.motion with
    | start_response points =>
      rw [hmotion] at moved
      by_cases hpoints : points = 0
      · simp only [Retry.count, hpoints, ne_eq, not_true_eq_false, if_false]
        rw [moved, hpoints]
        exact h
      · simp only [Retry.count, hpoints, ne_eq, not_false_eq_true, if_true]
        rw [moved]
        exact kept_start hpoints
    | data seq =>
      rw [hmotion] at moved hi
      simp only [Retry.count]
      rw [moved]
      exact Motion.Kept.data h hi.1 seq hi.2
    | expiry =>
      rw [hmotion] at moved
      simp only [Retry.count]
      rw [moved]
      exact Motion.Kept.expiry h
    | other =>
      rw [hmotion] at moved
      simp only [Retry.count]
      rw [moved]
      exact h

variable (L)

/-- In a run from the boot the timer is disciplined in every step exactly if every step is orderly:
it runs after a packet just while the transfer is incomplete, and nothing is requested again of a
complete one. -/
theorem motion_timer_disciplined_iff (config : Config) (inputs : List Input) :
    Along (Retry.step L) (Retry.Disciplined L) (Retry.boot L config) inputs ↔
      Along (Retry.step L) Retry.Orderly (Retry.boot L config) inputs := by
  have hboot : (Retry.boot L config).Kept := kept_boot
  refine (along_congr ?_ ?_ hboot).symm
  · intro s i hs hi
    exact hs.step hi
  · intro s i hs
    exact (disciplined_iff_orderly i hs).symm

def tracker_message (bytes : Bytes) : Input := .message [] bytes quiet_surroundings

/-- A transfer of ten points that arrives without a pause. -/
def ten_points : List Input :=
  [tracker_message (packet MOTION_START_RESPONSE [0, 10, 0]), tracker_message (packet MOTION_DATA [1]),
    tracker_message (packet MOTION_DATA [2])]

/-- After the last packet of such a transfer the timer is still running. -/
theorem ten_points_timer_running : ¬ ∀ (Ecdh : Type) (L : Library Ecdh) (config : Config) (inputs : List Input),
    Along (Retry.step L) (Retry.Disciplined L) (Retry.boot L config) inputs := by
  intro hall
  obtain ⟨-, -, hlast, -⟩ := hall Unit plain_library ⟨[], [], []⟩ ten_points
  have hincomplete : (ten_points.foldl (Retry.step plain_library)
      (Retry.boot plain_library ⟨[], [], []⟩)).Incomplete :=
    hlast.mp (by decide)
  revert hincomplete
  unfold Retry.Incomplete
  decide

end catbox.ble
