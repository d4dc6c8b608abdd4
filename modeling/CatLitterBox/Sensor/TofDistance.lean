import CatLitterBox.Sensor.Tof
import Mathlib.Order.Bounds.Basic

namespace catbox.sensor

/-- The distances that count: the samples in the ring within the accepted range. -/
def TofRing.distances (ring : TofRing) : Set Int :=
  if 0 < ring.count then {v | tof_valid v ∧ ∃ i, ring.buf i = v} else ∅

/-- A distance in the ring is valid, and some cell of a ring in use holds it. -/
theorem TofRing.mem_distances {ring : TofRing} {v : Int} :
    v ∈ ring.distances ↔ 0 < ring.count ∧ tof_valid v ∧ ∃ i, ring.buf i = v := by
  unfold distances
  split
  · simp [*]
  · simp [*]

/-- The search keeps the least of its start value and the valid slots visited so far. -/
private theorem tof_min_foldl (ring : TofRing) (slots : List (Fin TOF_RING_BUF_SIZE)) (start : Int) :
    IsLeast {v | v = start ∨ tof_valid v ∧ ∃ i ∈ slots, ring.buf i = v}
      (slots.foldl (tof_min_step ring) start) := by
  induction slots generalizing start with
  | nil => simp [IsLeast, lowerBounds]
  | cons i slots ih =>
    obtain ⟨hmem, hlower⟩ := ih (tof_min_step ring start i)
    have hstep : tof_min_step ring start i ≤ start ∧
        (tof_valid (ring.buf i) → tof_min_step ring start i ≤ ring.buf i) ∧
        (tof_min_step ring start i = start ∨
          tof_valid (ring.buf i) ∧ tof_min_step ring start i = ring.buf i) := by
      unfold tof_min_step
      by_cases hvalid : tof_valid (ring.buf i)
      · by_cases hless : ring.buf i < start
        · simp only [hvalid, hless, if_true]
          exact ⟨hless.le, fun _ => le_rfl, .inr ⟨trivial, trivial⟩⟩
        · simp only [hvalid, hless, if_true, if_false]
          exact ⟨le_rfl, fun _ => not_lt.mp hless, .inl trivial⟩
      · simp only [hvalid, if_false]
        exact ⟨le_rfl, fun h => absurd h not_false, .inl trivial⟩
    obtain ⟨hstart, hslot, hstep⟩ := hstep
    rw [List.foldl_cons]
    constructor
    · obtain hsame | ⟨hvalid, j, hj, hv⟩ := hmem
      · obtain hstep | ⟨hvalid, hstep⟩ := hstep
        · exact .inl (hsame.trans hstep)
        · refine .inr ⟨?_, i, List.mem_cons_self, (hsame.trans hstep).symm⟩
          rw [hsame, hstep]
          exact hvalid
      · exact .inr ⟨hvalid, j, List.mem_cons_of_mem i hj, hv⟩
    · rintro v (rfl | ⟨hvalid, j, hj, rfl⟩)
      · exact (hlower (.inl rfl)).trans hstart
      · obtain rfl | hj := List.mem_cons.mp hj
        · exact (hlower (.inl rfl)).trans (hslot hvalid)
        · exact hlower (.inr ⟨hvalid, j, hj, rfl⟩)

/-- `get_tof_distance` returns the least distance that counts. -/
theorem get_tof_distance_isLeast {ring : TofRing} (h : ring.distances.Nonempty) :
    IsLeast ring.distances (get_tof_distance ring) := by
  obtain ⟨v, hv⟩ := h
  obtain ⟨hcount, hvalid, i, hi⟩ := TofRing.mem_distances.mp hv
  obtain ⟨hmem, hlower⟩ := tof_min_foldl ring (List.finRange TOF_RING_BUF_SIZE) 9999
  have hmin : tof_min_val ring = (List.finRange TOF_RING_BUF_SIZE).foldl (tof_min_step ring) 9999 :=
    if_pos hcount
  rw [← hmin] at hmem hlower
  have hle : tof_min_val ring ≤ v := hlower (.inr ⟨hvalid, i, List.mem_finRange i, hi⟩)
  have hsentinel : tof_min_val ring ≠ 9999 := by
    have := hvalid.2
    omega
  have hget : get_tof_distance ring = tof_min_val ring := if_pos ⟨hcount, hsentinel⟩
  rw [hget]
  constructor
  · obtain hstart | ⟨hslot, j, -, hj⟩ := hmem
    · exact absurd hstart hsentinel
    · exact TofRing.mem_distances.mpr ⟨hcount, hslot, j, hj⟩
  · intro u hu
    obtain ⟨-, huvalid, j, hj⟩ := TofRing.mem_distances.mp hu
    exact hlower (.inr ⟨huvalid, j, List.mem_finRange j, hj⟩)

/-- With no distance that counts it returns -1. -/
theorem get_tof_distance_of_empty {ring : TofRing} (h : ring.distances = ∅) : get_tof_distance ring = -1 := by
  by_cases hcount : 0 < ring.count
  · have hmem := (tof_min_foldl ring (List.finRange TOF_RING_BUF_SIZE) 9999).1
    have hmin : tof_min_val ring = 9999 := by
      rw [tof_min_val, if_pos hcount]
      obtain hstart | ⟨hvalid, i, -, hi⟩ := hmem
      · exact hstart
      · have hin : _ ∈ ring.distances := TofRing.mem_distances.mpr ⟨hcount, hvalid, i, hi⟩
        rw [h] at hin
        exact absurd hin (Set.notMem_empty _)
    exact if_neg fun hboth => hboth.2 hmin
  · exact if_neg fun hboth => hcount hboth.1

end catbox.sensor
