import Mathlib.Data.List.FinRange
import Mathlib.Logic.Function.Basic

namespace catbox.sensor

abbrev TOF_RING_BUF_SIZE : Nat := 10

/-- The TOF ring buffer: `g_tof_ring_buf`, `g_tof_ring_idx` and `g_tof_ring_count`. -/
structure TofRing where
  buf : Fin TOF_RING_BUF_SIZE → Int
  idx : Fin TOF_RING_BUF_SIZE
  count : Nat

def reset_tof_ring_buffer : TofRing where
  buf _ := -1
  idx := 0
  count := 0

def get_tof_ring_count (ring : TofRing) : Nat := ring.count

/-- The range in which `get_tof_distance` accepts a slot. -/
def tof_valid (v : Int) : Prop := 0 ≤ v ∧ v ≤ 2000

instance (v : Int) : Decidable (tof_valid v) := inferInstanceAs (Decidable (_ ∧ _))

/-- One iteration of the minimum search over the snapshot. -/
def tof_min_step (ring : TofRing) (min_val : Int) (i : Fin TOF_RING_BUF_SIZE) : Int :=
  if tof_valid (ring.buf i) then
    if ring.buf i < min_val then ring.buf i else min_val
  else min_val

/-- The minimum search of `get_tof_distance`, from the sentinel 9999. -/
def tof_min_val (ring : TofRing) : Int :=
  if 0 < ring.count then (List.finRange TOF_RING_BUF_SIZE).foldl (tof_min_step ring) 9999 else 9999

def get_tof_distance (ring : TofRing) : Int :=
  if 0 < ring.count ∧ tof_min_val ring ≠ 9999 then tof_min_val ring else -1

/-- The store part of `tof_proc`: a raw 8191 counts as 2000, and nothing is stored
while the sensor board is disabled. -/
def tof_proc (sensor_enable_f : Bool) (tof_value : Int) (ring : TofRing) : TofRing :=
  let processed_tof := if tof_value = 8191 then 2000 else tof_value
  if sensor_enable_f then
    { buf := Function.update ring.buf ring.idx processed_tof
      idx := ring.idx + 1
      count := if ring.count < TOF_RING_BUF_SIZE then ring.count + 1 else ring.count }
  else ring

end catbox.sensor
