import CatLitterBox.Memory.Capacity
import CatLitterBox.Wifi.Scan

open text memory

namespace catbox.wifi

def WIFI_MAX_VALUE : Nat := 30

/-- What the driver and the heap answer in one turn of the loop. -/
structure Turn where
  /-- `esp_wifi_scan_start` returns `ESP_OK`. -/
  scan_start : Bool
  /-- The number and the records that the driver then hands over. -/
  scan : Scan
  /-- The buffer for them can be allocated. -/
  temp_records : Bool

/-- What the driver and the heap answer in one call, by `scan_iter`. -/
structure ScanDriver where
  temp_ap_list : Bool
  turns : Nat → Turn
  realloc : Bool

/-- `temp_ap_list`, `total_found_count`, and the scans that have been performed. -/
structure Found where
  temp_ap_list : List wifi_ap_record_t
  total_found_count : UInt16
  scans : List Scan

/-- A record of zeros. -/
def wifi_ap_record_t.zero : wifi_ap_record_t := ⟨zeros 33, 0, 0, [], rfl⟩

def Found.start : Found := ⟨List.replicate WIFI_MAX_VALUE wifi_ap_record_t.zero, 0, []⟩

/-- The loop that appends the records of a scan, as long as there is room. -/
def Found.append (s : Found) : List wifi_ap_record_t → Found
  | [] => s
  | record :: temp_records =>
    if s.total_found_count.toNat < WIFI_MAX_VALUE then
      Found.append { s with
        temp_ap_list := s.temp_ap_list.set s.total_found_count.toNat record
        total_found_count := s.total_found_count + 1 } temp_records
    else s

/-- What a turn does with the records of its scan. -/
def Found.merge (s : Found) (scan : Scan) : Option Found :=
  if scan.count > 0 then do
    let pass ← remove_duplicate_best_rssi (s.append scan.list).temp_ap_list
      (s.append scan.list).total_found_count
    some { s with temp_ap_list := pass.list, total_found_count := pass.new_count }
  else some s

/-- The loop over `scan_iter`. -/
def scan_loop (turns : Nat → Turn) : List Nat → Found → Option Found
  | [], s => some s
  | scan_iter :: rest, s =>
    let turn := turns scan_iter
    if ¬ turn.scan_start then scan_loop turns rest s
    else if turn.scan.count > 0 ∧ ¬ turn.temp_records then some { s with scans := s.scans ++ [turn.scan] }
    else do
      let merged ← Found.merge { s with scans := s.scans ++ [turn.scan] } turn.scan
      if merged.total_found_count.toNat ≥ WIFI_MAX_VALUE then some merged
      else scan_loop turns rest merged

/-- `ap_list`, unless it is `NULL`, the number of access points that is returned, and the scans
that have been performed. -/
structure Result where
  ap_list : Option (List wifi_ap_record_t)
  total_found_count : UInt16
  scans : List Scan

def wifi_scan_start (driver : ScanDriver) : Option Result :=
  if ¬ driver.temp_ap_list then some ⟨none, 0, []⟩
  else do
    let found ← scan_loop driver.turns [1, 2, 3] Found.start
    if found.total_found_count = 0 then some ⟨none, 0, found.scans⟩
    else if driver.realloc then
      some ⟨some (found.temp_ap_list.take found.total_found_count.toNat), found.total_found_count, found.scans⟩
    else some ⟨some found.temp_ap_list, found.total_found_count, found.scans⟩

/-- The access points that the callers read. -/
def Result.networks (result : Result) : List wifi_ap_record_t :=
  (result.ap_list.getD []).take result.total_found_count.toNat

/-- The records of all scans that have been performed. -/
def Result.records (result : Result) : List wifi_ap_record_t := (result.scans.map Scan.list).flatten

/-- All calls succeed, and the scans find what is given. -/
def ScanDriver.delivering (scans : Nat → Scan) : ScanDriver :=
  ⟨true, fun scan_iter => ⟨true, scans scan_iter, true⟩, true⟩

/-- The records of the scans, of which the later ones may not be performed. -/
def batches (scans : Nat → Scan) (turns : List Nat) : List (List wifi_ap_record_t) :=
  turns.map fun scan_iter => (scans scan_iter).list

/-- The records that get a place in the buffer. -/
abbrev placedRecords (scans : Nat → Scan) : List wifi_ap_record_t :=
  placed wifi_ap_record_t.SSID WIFI_MAX_VALUE [] (batches scans [1, 2, 3])

/-- The records that are cut off from their scan, from the free places of the buffer on. -/
abbrev cutRecords (scans : Nat → Scan) : List wifi_ap_record_t :=
  cutOff wifi_ap_record_t.SSID WIFI_MAX_VALUE [] (batches scans [1, 2, 3])

/-- The records of the scans that are performed. -/
abbrev arrivedRecords (scans : Nat → Scan) : List wifi_ap_record_t :=
  (arrived wifi_ap_record_t.SSID WIFI_MAX_VALUE [] (batches scans [1, 2, 3])).flatten

/-- The buffer holds, of the records with a place, the strongest of each SSID. -/
structure Found.Holds (s : Found) (before : List wifi_ap_record_t) : Prop where
  length : s.temp_ap_list.length = WIFI_MAX_VALUE
  fits : s.total_found_count.toNat ≤ WIFI_MAX_VALUE
  held : s.temp_ap_list.take s.total_found_count.toNat = strongest before

/-- The count says how many networks are known. -/
theorem Found.Holds.count {s : Found} {before : List wifi_ap_record_t} (h : s.Holds before) :
    s.total_found_count.toNat = distinct wifi_ap_record_t.SSID before := by
  have hlength : (s.temp_ap_list.take s.total_found_count.toNat).length = s.total_found_count.toNat := by
    rw [List.length_take, h.length]
    exact min_eq_left h.fits
  rw [← hlength, h.held]
  exact (bestOfEach_foldl before).length

/-- The loop appends as many records as there is room for. -/
theorem Found.append_spec {s : Found} (records : List wifi_ap_record_t)
    (hlength : s.temp_ap_list.length = WIFI_MAX_VALUE) (hfits : s.total_found_count.toNat ≤ WIFI_MAX_VALUE) :
    (s.append records).temp_ap_list.length = WIFI_MAX_VALUE ∧
      (s.append records).total_found_count.toNat ≤ WIFI_MAX_VALUE ∧
      (s.append records).temp_ap_list.take (s.append records).total_found_count.toNat =
        s.temp_ap_list.take s.total_found_count.toNat ++
          records.take (WIFI_MAX_VALUE - s.total_found_count.toNat) := by
  induction records generalizing s with
  | nil =>
    refine ⟨hlength, hfits, ?_⟩
    rw [List.take_nil, List.append_nil]
    rfl
  | cons record records ih =>
    unfold Found.append
    split
    · next hroom =>
      have hcount : (s.total_found_count + 1).toNat = s.total_found_count.toNat + 1 := by
        rw [UInt16.toNat_add]
        exact Nat.mod_eq_of_lt (by unfold WIFI_MAX_VALUE at hroom; change _ + 1 < _; omega)
      have hset : s.total_found_count.toNat < (s.temp_ap_list.set s.total_found_count.toNat record).length := by
        rwa [List.length_set, hlength]
      obtain ⟨hlength', hfits', htake⟩ := ih
        (s := { s with
          temp_ap_list := s.temp_ap_list.set s.total_found_count.toNat record
          total_found_count := s.total_found_count + 1 })
        (by rw [List.length_set, hlength]) (by rw [hcount]; exact hroom)
      refine ⟨hlength', hfits', htake.trans ?_⟩
      have hleft : WIFI_MAX_VALUE - s.total_found_count.toNat =
          WIFI_MAX_VALUE - (s.total_found_count.toNat + 1) + 1 := by omega
      rw [hcount, List.take_succ_eq_append_getElem hset, List.getElem_set_self, List.take_set_of_le le_rfl,
        List.append_assoc, List.singleton_append, hleft, List.take_succ_cons]
    · next hfull =>
      have hleft : WIFI_MAX_VALUE - s.total_found_count.toNat = 0 := by omega
      refine ⟨hlength, hfits, ?_⟩
      rw [hleft, List.take_zero, List.append_nil]

/-- A scan without records changes nothing. -/
theorem Scan.list_eq_nil {scan : Scan} (h : ¬ scan.count > 0) : scan.list = [] := by
  rw [gt_iff_lt, UInt16.lt_iff_toNat_lt, scan.counted] at h
  exact List.eq_nil_of_length_eq_zero (Nat.le_zero.mp (not_lt.mp h))

/-- The duplicates are removed from the records that are there. -/
theorem remove_duplicate_best_rssi_take {list : List wifi_ap_record_t} {count : UInt16}
    (hlength : list.length = WIFI_MAX_VALUE) (hcount : count.toNat ≤ WIFI_MAX_VALUE) :
    ∃ pass, remove_duplicate_best_rssi list count = some pass ∧ pass.list.length = WIFI_MAX_VALUE ∧
      pass.new_count.toNat ≤ WIFI_MAX_VALUE ∧
      pass.list.take pass.new_count.toNat = strongest (list.take count.toNat) := by
  obtain ⟨pass, hrun, hmerged⟩ := Pass.Merged.pass ⟨list, 30, hlength.symm⟩ (hcount.trans_eq hlength.symm)
  exact ⟨pass, hrun, hmerged.length.trans hlength, hmerged.behind.trans hcount, hmerged.done⟩

/-- A turn adds its scan to the records with a place. -/
theorem Found.Holds.merge {s : Found} {before : List wifi_ap_record_t} (h : s.Holds before) (scan : Scan) :
    ∃ s', s.merge scan = some s' ∧ s'.scans = s.scans ∧
      s'.Holds (withBatch wifi_ap_record_t.SSID WIFI_MAX_VALUE before scan.list) := by
  unfold Found.merge
  split
  · obtain ⟨hlength, hfits, htake⟩ := Found.append_spec scan.list h.length h.fits
    obtain ⟨pass, hpass, hlength', hfits', hheld⟩ := remove_duplicate_best_rssi_take hlength hfits
    rw [hpass]
    refine ⟨_, rfl, rfl, hlength', hfits', hheld.trans ?_⟩
    rw [htake, h.held, h.count]
    exact foldl_keepBest_append ..
  · next hempty =>
    refine ⟨s, rfl, rfl, ?_⟩
    rw [withBatch, Scan.list_eq_nil hempty, List.take_nil, List.append_nil]
    exact h

/-- The loop performs the scans that arrive, and places what gets a place. -/
theorem Found.Holds.loop (scans : Nat → Scan) (turns : List Nat) {s : Found} {before : List wifi_ap_record_t}
    (h : s.Holds before) :
    ∃ s', scan_loop (ScanDriver.delivering scans).turns turns s = some s' ∧
      s'.Holds (placed wifi_ap_record_t.SSID WIFI_MAX_VALUE before (batches scans turns)) ∧
      s'.scans.map Scan.list = s.scans.map Scan.list ++
        arrived wifi_ap_record_t.SSID WIFI_MAX_VALUE before (batches scans turns) := by
  induction turns generalizing s before with
  | nil => exact ⟨s, rfl, h, (List.append_nil _).symm⟩
  | cons scan_iter turns ih =>
    have hscanned : Found.Holds { s with scans := s.scans ++ [scans scan_iter] } before :=
      ⟨h.length, h.fits, h.held⟩
    obtain ⟨merged, hmerge, hscans, hmerged⟩ := hscanned.merge (scans scan_iter)
    have hlists : merged.scans.map Scan.list = s.scans.map Scan.list ++ [(scans scan_iter).list] := by
      rw [hscans, List.map_append, List.map_singleton]
    have hbody : scan_loop (ScanDriver.delivering scans).turns (scan_iter :: turns) s =
        if merged.total_found_count.toNat ≥ WIFI_MAX_VALUE then some merged
        else scan_loop (ScanDriver.delivering scans).turns turns merged := by
      rw [scan_loop]
      simp [ScanDriver.delivering, hmerge]
    rw [hbody, batches, List.map_cons, placed, arrived]
    by_cases hfull : WIFI_MAX_VALUE ≤ merged.total_found_count.toNat
    · have hdistinct := hmerged.count ▸ hfull
      rw [if_pos hfull, if_pos hdistinct, if_pos hdistinct]
      exact ⟨merged, rfl, hmerged, hlists⟩
    · have hdistinct := hmerged.count ▸ hfull
      rw [if_neg hfull, if_neg hdistinct, if_neg hdistinct]
      obtain ⟨s', hrun, hs', hscans'⟩ := ih hmerged
      refine ⟨s', hrun, hs', hscans'.trans ?_⟩
      rw [hlists, List.append_assoc, List.singleton_append]
      rfl

theorem Found.start_holds : Found.start.Holds [] := ⟨rfl, Nat.zero_le _, rfl⟩

/-- Of the records that get a place, the strongest of each SSID is in `ap_list`. -/
theorem wifi_scan_start_delivering (scans : Nat → Scan) :
    ∃ result, wifi_scan_start (.delivering scans) = some result ∧
      result.networks = strongest (placedRecords scans) ∧ result.records = arrivedRecords scans := by
  obtain ⟨found, hloop, hfound, hscans⟩ := Found.start_holds.loop scans [1, 2, 3]
  unfold wifi_scan_start
  rw [if_neg (by simp [ScanDriver.delivering]), hloop]
  by_cases hnone : found.total_found_count = 0
  · refine ⟨⟨none, 0, found.scans⟩, by simp [hnone], ?_, congrArg List.flatten hscans⟩
    rw [← hfound.held, hnone]
    rfl
  · refine ⟨⟨some (found.temp_ap_list.take found.total_found_count.toNat),
      found.total_found_count, found.scans⟩,
      by simp [hnone, ScanDriver.delivering], ?_, congrArg List.flatten hscans⟩
    rw [← hfound.held]
    exact (List.take_take ..).trans (by rw [min_self])

/-- The scans lose no network exactly if every record that is cut off has the SSID of a record with
a place that is at least as strong. -/
theorem wifi_scan_start_keeps_every_network_iff (scans : Nat → Scan) :
    ∃ result, wifi_scan_start (.delivering scans) = some result ∧
      (KeepsEach wifi_ap_record_t.SSID wifi_ap_record_t.strength result.records result.networks ↔
        ∀ record ∈ cutRecords scans, ∃ kept ∈ placedRecords scans,
          kept.SSID = record.SSID ∧ record.strength ≤ kept.strength) := by
  obtain ⟨result, hrun, hnetworks, hrecords⟩ := wifi_scan_start_delivering scans
  refine ⟨result, hrun, ?_⟩
  rw [hnetworks, hrecords]
  exact keepsEach_iff

/-- An access point with an SSID of one character. -/
def accessPoint (ssid : UInt8) (rssi : Int8) : wifi_ap_record_t := ⟨holding 33 [ssid], rssi, 0, [], rfl⟩

/-- The thirty access points of one network, and one of another. -/
def crowded : Scan := ⟨List.replicate 30 (accessPoint 97 (-50)) ++ [accessPoint 98 (-60)], 31, rfl⟩

/-- The network that is read behind thirty access points of another is lost. -/
theorem wifi_scan_start_loses_a_network : ¬ ∀ scans : Nat → Scan,
    ∃ result, wifi_scan_start (.delivering scans) = some result ∧
      (distinct wifi_ap_record_t.SSID result.records ≤ WIFI_MAX_VALUE →
        KeepsEach wifi_ap_record_t.SSID wifi_ap_record_t.strength result.records result.networks) := by
  intro hall
  obtain ⟨result, hrun, hkeeps⟩ := hall fun _ => crowded
  obtain ⟨result', hrun', hnetworks, hrecords⟩ := wifi_scan_start_delivering fun _ => crowded
  obtain rfl : result = result' := Option.some.inj (hrun.symm.trans hrun')
  have hfew : distinct wifi_ap_record_t.SSID (arrivedRecords fun _ => crowded) ≤ WIFI_MAX_VALUE := by
    decide +kernel
  have hcut : ∃ record ∈ cutRecords fun _ => crowded, record.SSID = [98] := by decide +kernel
  have hplaced : ∀ kept ∈ placedRecords fun _ => crowded, kept.SSID = [97] := by decide +kernel
  rw [hnetworks, hrecords] at hkeeps
  obtain ⟨record, hrecord, hssid⟩ := hcut
  obtain ⟨kept, hkept, hsame, -⟩ := keepsEach_iff.mp (hkeeps hfew) record hrecord
  have hnames : ([97] : Bytes) = [98] := (hplaced kept hkept).symm.trans (hsame.trans hssid)
  cases hnames

end catbox.wifi
