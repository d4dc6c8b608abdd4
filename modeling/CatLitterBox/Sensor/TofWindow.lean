import CatLitterBox.Queue.Window
import CatLitterBox.Sensor.TofDistance
import Mathlib.Algebra.Order.Ring.Int
import Mathlib.Data.List.Induction

open queue

namespace catbox.sensor

/-- The calls that change the ring, with the sensor board enabled. -/
inductive TofCall where
  | tof_proc (tof_value : Int)
  | reset_tof_ring_buffer

def TofCall.apply (ring : TofRing) : TofCall → TofRing
  | .tof_proc tof_value => sensor.tof_proc true tof_value ring
  | .reset_tof_ring_buffer => sensor.reset_tof_ring_buffer

/-- The values pushed since the last reset, the oldest first; 8191 counts as 2000. -/
def TofCall.pushed (past : List Int) : TofCall → List Int
  | .tof_proc tof_value => past ++ [if tof_value = 8191 then 2000 else tof_value]
  | .reset_tof_ring_buffer => []

/-- The ring after some calls from boot. -/
def tof_ring (calls : List TofCall) : TofRing := calls.foldl TofCall.apply sensor.reset_tof_ring_buffer

def tof_history (calls : List TofCall) : List Int := calls.foldl TofCall.pushed []

/-- The ring holds the latest values. -/
def TofRing.Holds (ring : TofRing) (past : List Int) : Prop := Recent (-1) ring.buf ring.idx ring.count past

variable {ring : TofRing} {past : List Int}

theorem reset_holds : sensor.reset_tof_ring_buffer.Holds [] := Recent.empty (-1)

theorem TofCall.apply_holds (h : ring.Holds past) (call : TofCall) :
    (call.apply ring).Holds (call.pushed past) := by
  cases call with
  | tof_proc tof_value => exact h.push _
  | reset_tof_ring_buffer => exact reset_holds

private theorem tof_ring_holds (calls : List TofCall) : (tof_ring calls).Holds (tof_history calls) := by
  unfold tof_ring tof_history
  induction calls using List.reverseRecOn with
  | nil => exact reset_holds
  | append_singleton calls call ih =>
    rw [List.foldl_append, List.foldl_append]
    exact TofCall.apply_holds ih call

/-- The distances that count are the valid values of the window. -/
theorem TofRing.Holds.mem_distances (h : ring.Holds past) {v : Int} :
    v ∈ ring.distances ↔ v ∈ (latest TOF_RING_BUF_SIZE past).filter tof_valid := by
  rw [TofRing.mem_distances, Recent.exists_cell_iff h, List.mem_filter, decide_eq_true_eq]
  constructor
  · rintro ⟨-, hvalid, hmem | ⟨-, rfl⟩⟩
    · exact ⟨hmem, hvalid⟩
    · exact absurd hvalid (by decide)
  · rintro ⟨hmem, hvalid⟩
    have hlength := List.length_pos_of_mem hmem
    rw [latest_length] at hlength
    refine ⟨?_, hvalid, .inl hmem⟩
    rw [Recent.count h]
    exact hlength

/-- `get_tof_distance` returns the least valid one of the last ten values, or -1 if there is
none, and `get_tof_ring_count` how many these values are. -/
theorem tof_distance_is_window_min (calls : List TofCall) :
    get_tof_distance (tof_ring calls) = ((latest 10 (tof_history calls)).filter tof_valid).min?.getD (-1) ∧
      get_tof_ring_count (tof_ring calls) = min 10 (tof_history calls).length := by
  have hholds := tof_ring_holds calls
  constructor
  · cases hmin : ((latest 10 (tof_history calls)).filter tof_valid).min? with
    | none =>
      rw [List.min?_eq_none_iff] at hmin
      apply get_tof_distance_of_empty
      rw [Set.eq_empty_iff_forall_notMem]
      intro v hv
      rw [hholds.mem_distances, hmin] at hv
      cases hv
    | some v =>
      obtain ⟨hmem, hlower⟩ := List.min?_eq_some_iff.mp hmin
      have hleast := get_tof_distance_isLeast ⟨v, hholds.mem_distances.mpr hmem⟩
      have hv : IsLeast (tof_ring calls).distances v :=
        ⟨hholds.mem_distances.mpr hmem, fun u hu => hlower u (hholds.mem_distances.mp hu)⟩
      exact hleast.unique hv
  · rw [Nat.min_comm]
    exact Recent.count hholds

example :
    get_tof_distance (tof_ring [.tof_proc 40, .reset_tof_ring_buffer, .tof_proc 8191, .tof_proc 2500]) =
      2000 := by
  decide

end catbox.sensor
