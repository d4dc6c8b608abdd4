import CatLitterBox.Ble.Gating
import CatLitterBox.Wifi.Merge

open text json memory catbox.wifi

namespace catbox.ble

variable {Ecdh : Type} (L : Library Ecdh) (auth : Nat → AuthMode)

/-- The members of an access point that the handler reads; the values of `wifi_auth_mode_t` are the
driver's. -/
def apRecord (r : wifi_ap_record_t) : ApRecord := ⟨r.ssid, r.strength, auth r.authmode⟩

/-- The surroundings with the outcome of a scan. -/
def Surroundings.scanned (w : Surroundings) (result : Result) : Surroundings :=
  { w with ap_list := result.networks.map (apRecord auth) }

/-- The event that lists some access points. -/
def wifi_list (w : Surroundings) (session_key : Bytes) (aps : List ApRecord) : Effect :=
  ble_send_encrypted_event L w session_key (ascii "wifi_list")
    (L.cJSON_PrintUnformatted (.object [(ascii "aps", .array (aps.map ap_item))]))

/-- The handler lists the first access points of `ap_list`. -/
theorem scan_wifi_lists (w : Surroundings) (d : Device Ecdh) (result : Result) :
    scan_wifi L (w.scanned auth result) d =
      (d, [.wifi_scan_start, wifi_list L w d.session.session_key
        ((result.networks.take 10).map (apRecord auth))]) := by
  unfold scan_wifi Surroundings.scanned
  rw [← List.map_take]
  rfl

/-- The access points that the event leaves out are no stronger than those it lists, exactly if no
record of an SSID that ten others come before is stronger than all of one of the first ten. -/
theorem wifi_list_strongest_iff (scans : Nat → Scan) (w : Surroundings) (d : Device Ecdh) :
    ∃ result, wifi_scan_start (.delivering scans) = some result ∧
      ∃ listed left_out, result.networks = listed ++ left_out ∧ listed.length = min 10 result.networks.length ∧
        scan_wifi L (w.scanned auth result) d =
          (d, [.wifi_scan_start, wifi_list L w d.session.session_key (listed.map (apRecord auth))]) ∧
        ((∀ out ∈ left_out, ∀ ap ∈ listed, out.strength ≤ ap.strength) ↔
          ∀ late ∈ placedRecords scans, ∀ early ∈ placedRecords scans,
            10 ≤ keysBefore wifi_ap_record_t.SSID (placedRecords scans) late.SSID →
            keysBefore wifi_ap_record_t.SSID (placedRecords scans) early.SSID < 10 →
            ∃ reading ∈ placedRecords scans, reading.SSID = early.SSID ∧ late.strength ≤ reading.strength) := by
  obtain ⟨result, hrun, hnetworks, -⟩ := wifi_scan_start_delivering scans
  refine ⟨result, hrun, result.networks.take 10, result.networks.drop 10, (List.take_append_drop ..).symm,
    List.length_take, scan_wifi_lists L auth w d result, ?_⟩
  rw [hnetworks]
  exact (bestOfEach_foldl _).first_rank_highest_iff 10

/-- Ten networks, each alone in its SSID. -/
def tenNetworks : Scan := ⟨(List.range 10).map fun i => accessPoint (97 + i.toUInt8) (-70), 10, rfl⟩

/-- A network that shows up in the second scan. -/
def strongLatecomer : Scan := ⟨[accessPoint 122 (-40)], 1, rfl⟩

/-- A network that only the second scan finds is left out, however strong it is. -/
theorem wifi_list_leaves_out_the_strongest : ¬ ∀ (Ecdh : Type) (L : Library Ecdh) (auth : Nat → AuthMode)
    (scans : Nat → Scan) (w : Surroundings) (d : Device Ecdh),
    (∀ scan_iter, (scans scan_iter).list.Pairwise fun a b => b.strength ≤ a.strength) →
    ∃ result, wifi_scan_start (.delivering scans) = some result ∧
      ∃ listed left_out, result.networks = listed ++ left_out ∧ listed.length = min 10 result.networks.length ∧
        scan_wifi L (w.scanned auth result) d =
          (d, [.wifi_scan_start, wifi_list L w d.session.session_key (listed.map (apRecord auth))]) ∧
        ∀ out ∈ left_out, ∀ ap ∈ listed, out.strength ≤ ap.strength := by
  intro hall
  let scans : Nat → Scan := fun scan_iter => if scan_iter = 1 then tenNetworks else strongLatecomer
  have hsorted : ∀ scan_iter, (scans scan_iter).list.Pairwise fun a b => b.strength ≤ a.strength := by
    intro scan_iter
    by_cases h : scan_iter = 1
    · rw [show scans scan_iter = tenNetworks from if_pos h]
      decide +kernel
    · rw [show scans scan_iter = strongLatecomer from if_neg h]
      decide +kernel
  obtain ⟨result, hrun, listed, left_out, hnetworks, hlength, -, hstrongest⟩ :=
    hall Unit plain_library (fun _ => .other) scans quiet_surroundings
      (Device.boot plain_library ⟨[], [], []⟩) hsorted
  obtain ⟨result', hrun', hnetworks', -⟩ := wifi_scan_start_delivering scans
  obtain rfl : result = result' := Option.some.inj (hrun.symm.trans hrun')
  rw [hnetworks'] at hnetworks hlength
  have hten : listed.length = 10 := hlength.trans (by decide +kernel)
  have hlisted : (strongest (placedRecords scans)).take 10 = listed := hnetworks ▸ List.take_left' hten
  have hleft_out : (strongest (placedRecords scans)).drop 10 = left_out := hnetworks ▸ List.drop_left' hten
  have hstronger : ∃ out ∈ (strongest (placedRecords scans)).drop 10,
      ∃ ap ∈ (strongest (placedRecords scans)).take 10, ap.strength < out.strength := by decide +kernel
  rw [hlisted, hleft_out] at hstronger
  obtain ⟨out, hout, ap, hap, hlt⟩ := hstronger
  exact absurd (hstrongest out hout ap hap) hlt.not_ge

end catbox.ble
