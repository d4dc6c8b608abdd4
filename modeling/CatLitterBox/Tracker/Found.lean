import CatLitterBox.Tracker.Table
import Mathlib.Data.List.Induction

open text

namespace catbox.tracker

/-- Service data of a 16-bit UUID, which begin with the UUID. -/
structure SvcDataUuid16 where
  bytes : Bytes
  holds_uuid : 2 ≤ bytes.length

/-- The members of `ble_hs_adv_fields` that the scan callback reads. -/
structure AdvFields where
  name : Option Bytes
  svc_data_uuid16 : Option SvcDataUuid16

/-- An advertising report, with the threshold of the configuration when it comes in. -/
structure Disc where
  addr : Bytes
  rssi : Int8
  data : Bytes
  gate_way_rssi_th : Int32

structure DevInfo where
  addr : Bytes
  name : Bytes
  rssi : Int8

/-- The variables of the scan callback. `dev_list` holds `dev_count` devices. -/
structure Scanner where
  tracker_found_f : Bool
  dev_list : List DevInfo
  rolling_idx : Nat

def Scanner.start : Scanner := ⟨false, [], 0⟩

def get_tracker_found (s : Scanner) : Bool := s.tracker_found_f

def SvcDataUuid16.uuid (svc : SvcDataUuid16) : UInt16 :=
  (svc.bytes.getD 1 0).toUInt16 <<< 8 ||| (svc.bytes.getD 0 0).toUInt16

/-- The characters of the service data that can be printed; dots for the others. -/
def str_dump (actual_data : Bytes) : Bytes :=
  (actual_data.take 63).map fun c => if c ≥ 32 ∧ c ≤ 126 then c else 46

/-- The index of a device in `dev_list`, if it has one. -/
def Scanner.idx (s : Scanner) (addr : Bytes) : Option Nat := s.dev_list.findIdx? fun dev => dev.addr = addr

/-- The name in the report, or that which is stored for the device. -/
def Scanner.current_packet_name (s : Scanner) (fields : AdvFields) (idx : Option Nat) : Bytes :=
  match fields.name with
  | some (c :: name) => cstring ((c :: name).take 31)
  | _ => ((idx.bind (s.dev_list[·]?)).map DevInfo.name).getD []

/-- A device is stored where it stands, in a new place, or in the place of another one. -/
def Scanner.store (s : Scanner) (idx : Option Nat) (dev : DevInfo) : Scanner :=
  match idx with
  | some idx => { s with dev_list := s.dev_list.set idx dev }
  | none =>
    if s.dev_list.length < 20 then { s with dev_list := s.dev_list ++ [dev] }
    else { s with dev_list := s.dev_list.set s.rolling_idx dev, rolling_idx := (s.rolling_idx + 1) % 20 }

/-- `BLE_GAP_EVENT_DISC` in `ble_spp_server_gap_event`, with the argument of `Tracker_In_ID` if that
is called. The parser is the library's: it returns nothing where the data are no advertising data. -/
def gap_event_disc (parse : Bytes → Option AdvFields) (s : Scanner) (disc : Disc) : Scanner × Option Bytes :=
  match parse disc.data with
  | none => (s, none)
  | some fields =>
    if disc.rssi.toInt < disc.gate_way_rssi_th.toInt then ({ s with tracker_found_f := false }, none)
    else
      let s := { s with tracker_found_f := true }
      match fields.svc_data_uuid16 with
      | none => (s, none)
      | some svc =>
        if svc.uuid ≠ 0x1234 then (s, none)
        else
          let idx := s.idx disc.addr
          (s.store idx ⟨disc.addr, s.current_packet_name fields idx, disc.rssi⟩,
            if svc.bytes.length > 2 then some (str_dump (svc.bytes.drop 2)) else none)

variable (parse : Bytes → Option AdvFields)

def received (reports : List Disc) : Scanner :=
  reports.foldl (fun s disc => (gap_event_disc parse s disc).1) .start

/-- The report carries service data with the UUID of the trackers. -/
def Carries (disc : Disc) : Bool :=
  ((parse disc.data).bind AdvFields.svc_data_uuid16).any fun svc => svc.uuid = 0x1234

/-- The report is at least as strong as the threshold. -/
def Disc.Near (disc : Disc) : Prop := disc.gate_way_rssi_th.toInt ≤ disc.rssi.toInt

instance (disc : Disc) : Decidable disc.Near := inferInstanceAs (Decidable (_ ≤ _))

/-- The report resets the indication. -/
def Resets (disc : Disc) : Prop := (parse disc.data).isSome ∧ ¬ disc.Near

/-- A tracker has been near since the last report that reset the indication, as far as that says
so, and the reports of other devices make no difference. -/
structure DependsOnTrackers (reports : List Disc) : Prop where
  tracked : get_tracker_found (received parse reports) = true →
    ∃ past tracker since, reports = past ++ tracker :: since ∧ Carries parse tracker ∧ tracker.Near ∧
      ∀ disc ∈ since, ¬ Resets parse disc
  undisturbed : get_tracker_found (received parse reports) =
    get_tracker_found (received parse (reports.filter (Carries parse)))

/-- A report that can be parsed leaves the indication as its strength says. -/
theorem get_tracker_found_disc (s : Scanner) (disc : Disc) :
    get_tracker_found (gap_event_disc parse s disc).1 =
      if (parse disc.data).isSome then decide disc.Near else get_tracker_found s := by
  have hstore : ∀ (s : Scanner) idx dev, (s.store idx dev).tracker_found_f = s.tracker_found_f := by
    intro s idx dev
    unfold Scanner.store
    split
    · rfl
    · split <;> rfl
  unfold gap_event_disc
  cases hparse : parse disc.data with
  | none => rfl
  | some fields =>
    rw [if_pos (Option.isSome_some)]
    dsimp only
    by_cases hnear : disc.Near
    · rw [if_neg (not_lt.mpr hnear), decide_eq_true hnear]
      split
      · rfl
      · split
        · rfl
        · exact hstore ..
    · rw [if_pos (not_le.mp hnear), decide_eq_false hnear]
      rfl

theorem received_append (reports : List Disc) (disc : Disc) :
    received parse (reports ++ [disc]) = (gap_event_disc parse (received parse reports) disc).1 := by
  unfold received
  rw [List.foldl_append]
  rfl

variable {parse}

private theorem parsed_of_carries {disc : Disc} (h : Carries parse disc = true) : (parse disc.data).isSome = true := by
  unfold Carries at h
  cases hparse : parse disc.data with
  | none => simp [hparse] at h
  | some fields => rfl

/-- One more report: of a tracker, of another device, or none. -/
theorem DependsOnTrackers.append {reports : List Disc} (h : DependsOnTrackers parse reports) {disc : Disc}
    (hforeign : (parse disc.data).isSome → ¬ Carries parse disc →
      (disc.Near ↔ get_tracker_found (received parse reports) = true)) :
    DependsOnTrackers parse (reports ++ [disc]) := by
  have hfound : get_tracker_found (received parse (reports ++ [disc])) =
      if (parse disc.data).isSome then decide disc.Near else get_tracker_found (received parse reports) := by
    rw [received_append, get_tracker_found_disc]
  by_cases hcarries : Carries parse disc = true
  · have hparsed := parsed_of_carries hcarries
    rw [if_pos hparsed] at hfound
    constructor
    · intro htrue
      have hnear : disc.Near := of_decide_eq_true (hfound ▸ htrue)
      exact ⟨reports, disc, [], rfl, hcarries, hnear, fun _ h => absurd h List.not_mem_nil⟩
    · rw [hfound, List.filter_append, List.filter_singleton, hcarries, Bool.cond_true, received_append,
        get_tracker_found_disc, if_pos hparsed]
  · have hkept : get_tracker_found (received parse (reports ++ [disc])) = get_tracker_found
        (received parse reports) := by
      rw [hfound]
      split
      · next hparsed => exact Bool.eq_iff_iff.mpr (by simpa using hforeign hparsed hcarries)
      · rfl
    have hresets : get_tracker_found (received parse reports) = true → ¬ Resets parse disc :=
      fun htrue hresets => hresets.2 ((hforeign hresets.1 hcarries).mpr htrue)
    constructor
    · intro htrue
      rw [hkept] at htrue
      obtain ⟨past, tracker, since, rfl, htracker, hnear, hsince⟩ := h.tracked htrue
      refine ⟨past, tracker, since ++ [disc], by simp, htracker, hnear, ?_⟩
      intro other hother
      rcases List.mem_append.mp hother with hother | hother
      · exact hsince other hother
      · exact List.mem_singleton.mp hother ▸ hresets htrue
    · rw [hkept, List.filter_append, List.filter_singleton, Bool.eq_false_iff.mpr hcarries, Bool.cond_false,
        List.append_nil]
      exact h.undisturbed

/-- The indication depends on trackers only, throughout a sequence of reports, exactly if each
report of another device leaves it as it is. -/
theorem tracker_found_depends_iff (reports : List Disc) :
    (∀ past, past <+: reports → DependsOnTrackers parse past) ↔
      ∀ past disc, past ++ [disc] <+: reports → (parse disc.data).isSome → ¬ Carries parse disc →
        (disc.Near ↔ get_tracker_found (received parse past) = true) := by
  constructor
  · intro hall past disc hprefix hparsed hcarries
    have hbefore := (hall past ((List.prefix_append ..).trans hprefix)).undisturbed
    have hafter := (hall _ hprefix).undisturbed
    rw [received_append, get_tracker_found_disc, if_pos hparsed, List.filter_append, List.filter_singleton,
      Bool.eq_false_iff.mpr hcarries, Bool.cond_false, List.append_nil, ← hbefore] at hafter
    rw [← hafter, decide_eq_true_iff]
  · intro hforeign past hprefix
    induction past using List.reverseRecOn with
    | nil => exact ⟨fun h => Bool.noConfusion h, rfl⟩
    | append_singleton past disc ih =>
      exact (ih ((List.prefix_append ..).trans hprefix)).append (hforeign past disc hprefix)

/-- A report with flags only, from a device that is near. -/
def flagsReport : Disc := ⟨zeros 6, -40, [2, 1, 6], -85⟩

/-- What the parser makes of flags. -/
def flagsParser (data : Bytes) : Option AdvFields := if data = [2, 1, 6] then some ⟨none, none⟩ else none

/-- A near device that is no tracker sets the indication. -/
theorem foreign_device_found : ¬ ∀ (parse : Bytes → Option AdvFields) (reports : List Disc),
    DependsOnTrackers parse reports := by
  intro hall
  have hfound : get_tracker_found (received flagsParser [flagsReport]) = true := by decide
  have hfiltered : get_tracker_found
      (received flagsParser ([flagsReport].filter (Carries flagsParser))) = false := by
    decide
  have hsame := (hall flagsParser [flagsReport]).undisturbed
  rw [hfound, hfiltered] at hsame
  cases hsame

end catbox.tracker
