import CatLitterBox.Memory.Compaction
import CatLitterBox.Text.CString

open text memory

namespace catbox.wifi

/-- An access point. Its SSID is a C string, unless it fills its array. -/
structure wifi_ap_record_t where
  ssid : Bytes
  rssi : Int8
  authmode : Nat
  /-- The fields that are copied with a record and read by nobody. -/
  rest : Bytes
  ssid_length : ssid.length = 33

def wifi_ap_record_t.SSID (r : wifi_ap_record_t) : Bytes := cstring r.ssid

/-- What a scan has found: the records, and how many there are. -/
structure Scan where
  list : List wifi_ap_record_t
  count : UInt16
  counted : count.toNat = list.length

/-- The array, and how many records at its start have been kept. -/
structure Pass where
  list : List wifi_ap_record_t
  new_count : UInt16

/-- The inner loop: where the record kept for the SSID stands. -/
def Pass.found (s : Pass) (record : wifi_ap_record_t) : Option Nat :=
  (s.list.take s.new_count.toNat).findIdx? fun r => strncmp record.ssid r.ssid 33 = 0

/-- The body of the outer loop. It fails where it would read behind the array. -/
def Pass.body (s : Pass) (i : Nat) : Option Pass := do
  let record ← s.list[i]?
  match s.found record with
  | some found =>
    let kept ← s.list[found]?
    if record.rssi.toInt > kept.rssi.toInt then some { s with list := s.list.set found record }
    else some s
  | none =>
    let list := if i ≠ s.new_count.toNat then s.list.set s.new_count.toNat record else s.list
    some ⟨list, s.new_count + 1⟩

def remove_duplicate_best_rssi (list : List wifi_ap_record_t) (count : UInt16) : Option Pass :=
  (List.range count.toNat).foldlM Pass.body ⟨list, 0⟩

abbrev wifi_ap_record_t.strength (r : wifi_ap_record_t) : Int := r.rssi.toInt

/-- A record joins those of which each is the strongest of its SSID. -/
abbrev keepStrongest : List wifi_ap_record_t → wifi_ap_record_t → List wifi_ap_record_t :=
  keepBest wifi_ap_record_t.SSID wifi_ap_record_t.strength

/-- What is to be kept of some records: of each SSID the strongest. -/
def strongest (records : List wifi_ap_record_t) : List wifi_ap_record_t :=
  records.foldl keepStrongest []

/-- After `i` records, those kept are the strongest of them, and the others are not yet touched. -/
def Pass.Merged (s : Pass) (scan : Scan) (i : Nat) : Prop :=
  Compacting scan.list (strongest (scan.list.take i)) s.list s.new_count.toNat i

private theorem same_ssid_iff (r record : wifi_ap_record_t) :
    strncmp record.ssid r.ssid 33 = 0 ↔ r.SSID = record.SSID := by
  rw [strncmp_eq_zero record.ssid_length r.ssid_length, eq_comm]
  rfl

/-- A record is looked for among the strongest of those before it. -/
theorem Pass.Merged.found {s : Pass} {scan : Scan} {i : Nat} (h : s.Merged scan i) (record : wifi_ap_record_t) :
    s.found record = (strongest (scan.list.take i)).findIdx? fun r => r.SSID = record.SSID := by
  unfold Pass.found
  simp only [h.done, same_ssid_iff]

theorem strongest_succ {records : List wifi_ap_record_t} {i : Nat} {record : wifi_ap_record_t}
    (h : records[i]? = some record) :
    strongest (records.take (i + 1)) = keepStrongest (strongest (records.take i)) record := by
  unfold strongest
  rw [List.take_add_one, h, Option.toList_some, List.foldl_append]
  rfl

theorem Pass.body_new {s : Pass} {i : Nat} {record : wifi_ap_record_t} (hread : s.list[i]? = some record)
    (hfind : s.found record = none) : s.body i = some
      ⟨if i ≠ s.new_count.toNat then s.list.set s.new_count.toNat record else s.list, s.new_count + 1⟩ := by
  simp only [Pass.body, hread, Option.bind_eq_bind, Option.bind_some, hfind]

theorem Pass.body_found {s : Pass} {i found : Nat} {record kept : wifi_ap_record_t}
    (hread : s.list[i]? = some record) (hfind : s.found record = some found)
    (hkept : s.list[found]? = some kept) :
    s.body i = some (if kept.strength < record.strength then
      { s with list := s.list.set found record } else s) := by
  simp only [Pass.body, hread, Option.bind_eq_bind, Option.bind_some, hfind, hkept]
  exact (apply_ite some ..).symm

/-- Each turn of the outer loop deals with one more record. -/
theorem Pass.Merged.body {s : Pass} {scan : Scan} {i : Nat} (h : s.Merged scan i) (hi : i < scan.list.length) :
    ∃ s', s.body i = some s' ∧ s'.Merged scan (i + 1) := by
  obtain ⟨record, hrecord⟩ : ∃ record, scan.list[i]? = some record := ⟨_, List.getElem?_eq_getElem hi⟩
  have hread : s.list[i]? = some record := by rw [h.next, hrecord]
  have hfound := h.found record
  have hlength := h.outcome_length hi.le
  unfold Pass.Merged
  rw [strongest_succ hrecord]
  cases hfind : s.found record with
  | none =>
    have hnew : keepStrongest _ record = _ := keepBest_of_find_none (hfound ▸ hfind)
    have hsmall : s.new_count.toNat + 1 < 2 ^ 16 := by
      have hcount := scan.count.toNat_lt
      have hbehind := h.behind
      have hcounted := scan.counted
      omega
    refine ⟨_, body_new hread hfind, ?_⟩
    have hcount : (s.new_count + 1).toNat = s.new_count.toNat + 1 := by
      rw [UInt16.toNat_add]
      exact Nat.mod_eq_of_lt hsmall
    rw [hnew, hcount]
    split
    · exact h.append hi
    · next hsame => exact h.extend hread (not_not.mp hsame).symm
  | some found =>
    obtain ⟨hlt, -, -⟩ := List.findIdx?_eq_some_iff_getElem.mp (hfound ▸ hfind)
    obtain ⟨kept, hkept⟩ : ∃ kept, (strongest (scan.list.take i))[found]? = some kept :=
      ⟨_, List.getElem?_eq_getElem hlt⟩
    have hnew : keepStrongest _ record = _ := keepBest_of_find (hfound ▸ hfind) hkept
    have hreadkept : s.list[found]? = some kept := by
      rw [← hkept, ← h.done, List.getElem?_take_of_lt (hlength ▸ hlt)]
    refine ⟨_, body_found hread hfind hreadkept, ?_⟩
    rw [hnew]
    split
    · exact h.replace (hlength ▸ hlt)
    · exact h.skip

/-- After so many turns of the loop, so many records have been merged. -/
theorem Pass.Merged.pass (scan : Scan) {i : Nat} (hi : i ≤ scan.list.length) :
    ∃ s, (List.range i).foldlM Pass.body ⟨scan.list, 0⟩ = some s ∧ s.Merged scan i := by
  induction i with
  | zero => exact ⟨_, rfl, Compacting.start⟩
  | succ i ih =>
    obtain ⟨s, hrun, hs⟩ := ih (Nat.le_of_succ_le hi)
    obtain ⟨s', hbody, hs'⟩ := hs.body hi
    refine ⟨s', ?_, hs'⟩
    rw [List.range_succ, List.foldlM_append, hrun]
    simpa using hbody

/-- The first `new_count` records are, of each SSID of the scan, a record of the greatest RSSI, the
SSIDs in the order of their first occurrence. -/
theorem remove_duplicate_best_rssi_keeps_the_best (scan : Scan) :
    ∃ s, remove_duplicate_best_rssi scan.list scan.count = some s ∧
      s.new_count.toNat ≤ s.list.length ∧
      BestOfEach wifi_ap_record_t.SSID wifi_ap_record_t.strength scan.list (s.list.take s.new_count.toNat) ∧
      s.new_count.toNat = (scan.list.map wifi_ap_record_t.SSID).toFinset.card := by
  obtain ⟨s, hrun, hs⟩ := Pass.Merged.pass scan le_rfl
  have hbest : BestOfEach wifi_ap_record_t.SSID wifi_ap_record_t.strength scan.list
      (s.list.take s.new_count.toNat) := by
    have hdone := hs.done
    rw [List.take_length] at hdone
    rw [hdone]
    exact bestOfEach_foldl scan.list
  have hfits : s.new_count.toNat ≤ s.list.length := by
    rw [hs.length]
    exact hs.behind
  refine ⟨s, ?_, hfits, hbest, ?_⟩
  · unfold remove_duplicate_best_rssi
    rwa [scan.counted]
  · rw [← hbest.length, List.length_take]
    exact (min_eq_left hfits).symm

end catbox.wifi
