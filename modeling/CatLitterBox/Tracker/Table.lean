import CatLitterBox.Text.CString
import Mathlib.Data.List.FinRange
import Mathlib.Logic.Function.Basic

open text

namespace catbox.tracker

abbrev TRACKER_DEVICE_MAX : Nat := 20

structure Tracker_Device_t where
  Device_ID : Bytes
  total_Device_Time : UInt32
  Device_Time : UInt32
  Disable_Time : UInt32
  diff_Time : UInt32
  Enable : UInt32
  Water_intake : UInt32

abbrev Tracker_Device_t.name (dev : Tracker_Device_t) : Bytes := cstring dev.Device_ID

/-- The pointers to the devices, of which some are `NULL`. -/
abbrev Table := Fin TRACKER_DEVICE_MAX → Option Tracker_Device_t

/-- The variables of `ble_tracker_id.c`. -/
structure Variables where
  Tracker_Device : Table
  Motion_Send_enable : Bool
  Motion_Send_tick : Int32

def Variables.start : Variables := ⟨fun _ => none, false, 50⟩

def Tracker_Device_t.disable (dev : Tracker_Device_t) : Tracker_Device_t :=
  { dev with
    total_Device_Time := dev.total_Device_Time + dev.Device_Time
    diff_Time := dev.Device_Time
    Enable := 0
    Device_Time := 0 }

/-- Where the scan of the table ends: at the slot of the ID, or with the first free slot. -/
inductive Lookup where
  | present (i : Fin TRACKER_DEVICE_MAX)
  | absent (target_index : Option (Fin TRACKER_DEVICE_MAX))

def lookup (table : Table) (Tracker_ID : Bytes) :
    List (Fin TRACKER_DEVICE_MAX) → Option (Fin TRACKER_DEVICE_MAX) → Lookup
  | [], target_index => .absent target_index
  | i :: rest, target_index =>
    match table i with
    | some dev => if dev.name = Tracker_ID then .present i else lookup table Tracker_ID rest target_index
    | none => lookup table Tracker_ID rest (if target_index = none then some i else target_index)

/-- What a sighting comes to. -/
inductive Outcome where
  | refreshed (i : Fin TRACKER_DEVICE_MAX)
  | registered (i : Fin TRACKER_DEVICE_MAX)
  | full
  | no_memory
deriving DecidableEq

/-- A device with an ID, of which the array takes 31 characters. -/
def Tracker_Device_t.new (Tracker_ID : Bytes) : Tracker_Device_t where
  Device_ID := holding 32 (Tracker_ID.take 31)
  total_Device_Time := 0
  Device_Time := 0
  Disable_Time := 0
  diff_Time := 0
  Enable := 1
  Water_intake := 0

def Tracker_Device_t.refresh (dev : Tracker_Device_t) : Tracker_Device_t :=
  { dev with Enable := 1, Disable_Time := 0 }

def Tracker_In_ID (table : Table) (Tracker_ID : Bytes) (malloc : Bool) : Table × Outcome :=
  match lookup table Tracker_ID (List.finRange TRACKER_DEVICE_MAX) none with
  | .present i => (Function.update table i ((table i).map Tracker_Device_t.refresh), .refreshed i)
  | .absent none => (table, .full)
  | .absent (some target_index) =>
    if malloc then (Function.update table target_index (some (.new Tracker_ID)), .registered target_index)
    else (table, .no_memory)

def MotionSetTimer (status : Bool) (v : Variables) : Variables :=
  { v with
    Motion_Send_enable := status
    Motion_Send_tick := if status then 50 else v.Motion_Send_tick }

def GetTracker_Id_active (table : Table) : Bool :=
  (List.finRange TRACKER_DEVICE_MAX).any fun i => (table i).any fun dev => dev.Enable ≠ 0

/-- The body of the capture loop over the devices. -/
def Tracker_Device_t.capture (dev : Tracker_Device_t) : Tracker_Device_t :=
  if dev.Enable ≠ 0 then
    if dev.Disable_Time + 100 ≥ 5000 then { dev with Disable_Time := dev.Disable_Time + 100 }.disable
    else { dev with Disable_Time := dev.Disable_Time + 100 }
  else dev

def capture_loop (table : Table) : Table :=
  (List.finRange TRACKER_DEVICE_MAX).foldl
    (fun table i => Function.update table i ((table i).map Tracker_Device_t.capture)) table

/-- The countdown of the capture task, and whether `motion_msg_send` is called. -/
def motion_countdown (motion_data_time : UInt32) (v : Variables) : Variables × Bool :=
  if v.Motion_Send_enable then
    if v.Motion_Send_tick - 1 ≤ 0 then ({ v with Motion_Send_tick := (motion_data_time * 10).toInt32 }, true)
    else ({ v with Motion_Send_tick := v.Motion_Send_tick - 1 }, false)
  else (v, false)

/-- One turn of `vTrackerCaptureTask`. -/
def vTrackerCaptureTask (motion_data_time : UInt32) (v : Variables) : Variables × Bool :=
  let (v, sent) := motion_countdown motion_data_time v
  ({ v with Tracker_Device := capture_loop v.Tracker_Device }, sent)

/-- An ID as the scan callback passes it. -/
@[ext] structure TrackerID where
  text : Bytes
  nonempty : text ≠ []
  bounded : text.length ≤ 63
  nul_free : 0 ∉ text

/-- What happens to the table: a sighting, with the answer of the heap, a turn of the capture task,
with the setting that it reads, and the switching of the motion timer. -/
inductive Event where
  | sighting (id : TrackerID) (malloc : Bool)
  | tick (motion_data_time : UInt32)
  | motion_timer (status : Bool)

def Variables.step (v : Variables) : Event → Variables
  | .sighting id malloc => { v with Tracker_Device := (Tracker_In_ID v.Tracker_Device id.text malloc).1 }
  | .tick motion_data_time => (vTrackerCaptureTask motion_data_time v).1
  | .motion_timer status => MotionSetTimer status v

/-- The slots that the scan stops at, and those that it takes for free. -/
theorem lookup_eq (table : Table) (Tracker_ID : Bytes) (slots : List (Fin TRACKER_DEVICE_MAX))
    (target_index : Option (Fin TRACKER_DEVICE_MAX)) :
    lookup table Tracker_ID slots target_index =
      match slots.find? fun i => (table i).any fun dev => dev.name = Tracker_ID with
      | some i => .present i
      | none => .absent (target_index.or (slots.find? fun i => table i = none)) := by
  induction slots generalizing target_index with
  | nil => simp [lookup]
  | cons i slots ih =>
    unfold lookup
    cases hi : table i with
    | none =>
      have hnext : (if target_index = none then some i else target_index) = target_index.or (some i) := by
        cases target_index <;> rfl
      rw [List.find?_cons_of_neg (by simp [hi]), List.find?_cons_of_pos (by simp [hi])]
      dsimp only
      rw [ih, hnext]
      cases target_index <;> rfl
    | some dev =>
      by_cases hname : dev.name = Tracker_ID
      · rw [List.find?_cons_of_pos (by simp [hi, hname])]
        exact if_pos hname
      · rw [List.find?_cons_of_neg (by simp [hi, hname]), List.find?_cons_of_neg (by simp [hi])]
        exact (if_neg hname).trans (ih target_index)

/-- The first index of a table that is searched for. -/
theorem find_finRange_eq_some_iff {n : Nat} {p : Fin n → Bool} {i : Fin n} :
    (List.finRange n).find? p = some i ↔ p i = true ∧ ∀ k < i, p k = false := by
  rw [List.find?_eq_some_iff_getElem]
  constructor
  · rintro ⟨hi, j, hj, rfl, hbefore⟩
    refine ⟨hi, ?_⟩
    intro k hk
    have hkj : k.val < j := by
      rw [List.getElem_finRange] at hk
      exact hk
    simpa using hbefore k.val hkj
  · rintro ⟨hi, hbefore⟩
    refine ⟨hi, i.val, by simp, by simp, ?_⟩
    intro j hj
    have hk := hbefore ⟨j, hj.trans i.isLt⟩ hj
    simpa using hk

/-- A sighting refreshes the first slot with the ID. -/
theorem Tracker_In_ID_present {table : Table} {Tracker_ID : Bytes} {malloc : Bool} {i : Fin TRACKER_DEVICE_MAX}
    {dev : Tracker_Device_t} (hi : table i = some dev) (hname : dev.name = Tracker_ID)
    (hfirst : ∀ k < i, ∀ dev, table k = some dev → dev.name ≠ Tracker_ID) :
    Tracker_In_ID table Tracker_ID malloc = (Function.update table i (some dev.refresh), .refreshed i) := by
  have hfind : (List.finRange TRACKER_DEVICE_MAX).find?
      (fun i => (table i).any fun dev => dev.name = Tracker_ID) = some i := by
    rw [find_finRange_eq_some_iff, hi]
    refine ⟨by simpa using hname, ?_⟩
    intro k hk
    cases hslot : table k with
    | none => rfl
    | some other => simpa using hfirst k hk other hslot
  unfold Tracker_In_ID
  rw [lookup_eq, hfind]
  dsimp only
  rw [hi]
  rfl

/-- The cases of a sighting. -/
theorem Tracker_In_ID_cases (table : Table) (Tracker_ID : Bytes) (malloc : Bool) :
    (∃ i dev, table i = some dev ∧ dev.name = Tracker_ID ∧
      (∀ k < i, ∀ dev, table k = some dev → dev.name ≠ Tracker_ID) ∧
      Tracker_In_ID table Tracker_ID malloc = (Function.update table i (some dev.refresh), .refreshed i)) ∨
    (∀ i dev, table i = some dev → dev.name ≠ Tracker_ID) ∧
      ((∃ i, table i = none ∧ (∀ k < i, table k ≠ none) ∧
        Tracker_In_ID table Tracker_ID malloc =
        (Function.update table i (some (.new Tracker_ID)), .registered i)) ∨
      Tracker_In_ID table Tracker_ID malloc = (table, .full) ∨
      Tracker_In_ID table Tracker_ID malloc = (table, .no_memory)) := by
  cases hfind : (List.finRange TRACKER_DEVICE_MAX).find? fun i => (table i).any fun dev =>
    dev.name = Tracker_ID with
  | some i =>
    left
    obtain ⟨hi, hfirst⟩ := find_finRange_eq_some_iff.mp hfind
    obtain ⟨dev, hdev, hname⟩ : ∃ dev, table i = some dev ∧ dev.name = Tracker_ID := by
      simpa [Option.any_eq_true] using hi
    have hbefore : ∀ k < i, ∀ dev, table k = some dev → dev.name ≠ Tracker_ID := by
      intro k hk other hother
      simpa [hother] using hfirst k hk
    exact ⟨i, dev, hdev, hname, hbefore, Tracker_In_ID_present hdev hname hbefore⟩
  | none =>
    right
    have habsent : ∀ i dev, table i = some dev → dev.name ≠ Tracker_ID := by
      intro i dev hdev
      simpa [hdev] using List.find?_eq_none.mp hfind i (List.mem_finRange i)
    refine ⟨habsent, ?_⟩
    unfold Tracker_In_ID
    rw [lookup_eq, hfind]
    dsimp only
    rw [Option.none_or]
    cases hfree : (List.finRange TRACKER_DEVICE_MAX).find? fun i => table i = none with
    | none => exact .inr (.inl rfl)
    | some i =>
      obtain ⟨hi, hfirst⟩ := find_finRange_eq_some_iff.mp hfree
      cases malloc with
      | false => exact .inr (.inr rfl)
      | true =>
        left
        refine ⟨i, by simpa using hi, ?_, rfl⟩
        intro k hk
        simpa using hfirst k hk

private theorem update_at_once {n : Nat} {A : Type} (f : A → A) (table : Fin n → A)
    {slots : List (Fin n)} (h : slots.Nodup)
    (i : Fin n) : slots.foldl (fun table i => Function.update table i (f (table i))) table i =
      if i ∈ slots then f (table i) else table i := by
  induction slots generalizing table with
  | nil => simp
  | cons j slots ih =>
    obtain ⟨hj, hrest⟩ := List.nodup_cons.mp h
    rw [List.foldl_cons, ih _ hrest]
    by_cases hij : i = j
    · subst hij
      simp [hj]
    · simp [hij]

/-- The loop deals with each device for itself. -/
theorem capture_loop_eq (table : Table) :
    capture_loop table = fun i => (table i).map Tracker_Device_t.capture := by
  funext i
  exact (update_at_once _ table (List.nodup_finRange _) i).trans (if_pos (List.mem_finRange i))

/-- The capture task treats each device alike. -/
theorem vTrackerCaptureTask_table (motion_data_time : UInt32) (v : Variables) :
    (vTrackerCaptureTask motion_data_time v).1.Tracker_Device =
      fun i => (v.Tracker_Device i).map Tracker_Device_t.capture := by
  rw [← capture_loop_eq]
  unfold vTrackerCaptureTask motion_countdown
  split_ifs <;> rfl

@[simp] theorem name_refresh (dev : Tracker_Device_t) : dev.refresh.name = dev.name := rfl

/-- A capture leaves the name. -/
@[simp] theorem name_capture (dev : Tracker_Device_t) : dev.capture.name = dev.name := by
  unfold Tracker_Device_t.capture
  split_ifs <;> rfl

/-- The array of a new device holds what it takes of the ID. -/
theorem name_new (id : TrackerID) : (Tracker_Device_t.new id.text).name = id.text.take 31 := by
  refine (cstring_holding 32 _).trans (cstring_of_not_mem ?_)
  exact fun h => id.nul_free (List.mem_of_mem_take h)

end catbox.tracker
