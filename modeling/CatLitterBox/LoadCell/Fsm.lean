import Mathlib.Algebra.Order.Ring.Rat
import Mathlib.Logic.Function.Basic

namespace catbox.loadcell

abbrev CAT_RING_BUFFER_SIZE : Nat := 200
abbrev CAT_INIT_SAMPLE_COUNT : Nat := 30
abbrev CAT_ENTRY_THRESHOLD_G : ℚ := 1000
abbrev CAT_EXIT_THRESHOLD_G : ℚ := 300
abbrev CAT_CLEAN_DELAY_SEC : Int := 180

/-- `cat_detect_state_t`. -/
inductive CatDetectState where
  | CAT_STATE_INIT
  | CAT_STATE_IDLE
  | CAT_STATE_OCCUPIED
  | CAT_STATE_WAIT_CLEAN
deriving DecidableEq, Repr

/-- `g_ring_buffer`, `g_ring_head`, `g_ring_count` and `g_ring_sum`, with rationals for
the floats. -/
structure CatRing where
  buffer : Fin CAT_RING_BUFFER_SIZE → ℚ
  head : Fin CAT_RING_BUFFER_SIZE
  count : Nat
  sum : ℚ

def CatRing.empty : CatRing where
  buffer _ := 0
  head := 0
  count := 0
  sum := 0

/-- `push_cat_ring_buffer`, with the mean it returns. -/
def push_cat_ring_buffer (ring : CatRing) (new_val : ℚ) : CatRing × ℚ :=
  let pushed : CatRing :=
    if ring.count < CAT_RING_BUFFER_SIZE then
      { buffer := Function.update ring.buffer ring.head new_val
        head := ring.head + 1
        count := ring.count + 1
        sum := ring.sum + new_val }
    else
      { buffer := Function.update ring.buffer ring.head new_val
        head := ring.head + 1
        count := ring.count
        sum := ring.sum - ring.buffer ring.head + new_val }
  (pushed, pushed.sum / pushed.count)

/-- The state of the cat detection. What only its log lines read is left out. -/
structure CatFsm where
  g_cat_state : CatDetectState
  ring : CatRing
  g_baseline_weight : ℚ
  g_exit_timestamp_us : Int
  g_prev_clean_running : Bool

def reset_cat_ring_buffer (s : CatFsm) : CatFsm :=
  { s with ring := .empty, g_baseline_weight := 0, g_cat_state := .CAT_STATE_INIT }

/-- The state after `loadcell_init`. -/
def CatFsm.init : CatFsm where
  g_cat_state := .CAT_STATE_INIT
  ring := .empty
  g_baseline_weight := 0
  g_exit_timestamp_us := 0
  g_prev_clean_running := false

/-- What a call of `process_cat_detection_fsm` gets and reads: the weight, the time of
`esp_timer_get_time`, and the flags of the clean. -/
structure Call where
  current_weight : ℚ
  now : Int
  clean_running : Bool
  clean_pause_flag : Bool
  clean_resume_recovery_requested : Bool

/-- The test on which `process_cat_detection_fsm` returns without looking at the weight. -/
def Call.frozen (c : Call) : Bool :=
  c.clean_running || c.clean_pause_flag || c.clean_resume_recovery_requested

/-- Takes the sample into the running baseline. -/
def CatFsm.push (s : CatFsm) (current_weight : ℚ) : CatFsm :=
  { s with
    ring := (push_cat_ring_buffer s.ring current_weight).1
    g_baseline_weight := (push_cat_ring_buffer s.ring current_weight).2 }

/-- The entry test on a sample: at or above the baseline plus the entry threshold. -/
def CatFsm.entry (s : CatFsm) (current_weight : ℚ) : Prop :=
  current_weight ≥ s.g_baseline_weight + CAT_ENTRY_THRESHOLD_G

instance (s : CatFsm) (current_weight : ℚ) : Decidable (s.entry current_weight) :=
  inferInstanceAs (Decidable (_ ≥ _))

/-- The cases of the `switch`, each with whether it sends UI_CLEAN_CMD. -/
def fsm_switch (s : CatFsm) (c : Call) : CatFsm × Bool :=
  match s.g_cat_state with
  | .CAT_STATE_INIT =>
    let pushed := s.push c.current_weight
    if pushed.ring.count ≥ CAT_INIT_SAMPLE_COUNT then ({ pushed with g_cat_state := .CAT_STATE_IDLE }, false)
    else (pushed, false)
  | .CAT_STATE_IDLE =>
    if c.current_weight ≤ s.g_baseline_weight - CAT_ENTRY_THRESHOLD_G then (reset_cat_ring_buffer s, false)
    else
      let pushed := s.push c.current_weight
      if pushed.entry c.current_weight then ({ pushed with g_cat_state := .CAT_STATE_OCCUPIED }, false)
      else (pushed, false)
  | .CAT_STATE_OCCUPIED =>
    if c.current_weight ≤ s.g_baseline_weight + CAT_EXIT_THRESHOLD_G then
      ({ s with g_cat_state := .CAT_STATE_WAIT_CLEAN, g_exit_timestamp_us := c.now }, false)
    else (s, false)
  | .CAT_STATE_WAIT_CLEAN =>
    let pushed := s.push c.current_weight
    if pushed.entry c.current_weight then ({ pushed with g_cat_state := .CAT_STATE_OCCUPIED }, false)
    else
      let elapsed_sec := (c.now - s.g_exit_timestamp_us).tdiv 1000000
      if elapsed_sec ≥ CAT_CLEAN_DELAY_SEC then ({ pushed with g_cat_state := .CAT_STATE_IDLE }, true)
      else (pushed, false)

/-- The part of a call before the `switch`: the reset at the end of a clean. -/
def fsm_reset (s : CatFsm) (c : Call) : CatFsm :=
  let reset := if s.g_prev_clean_running && !c.clean_running then reset_cat_ring_buffer s else s
  { reset with g_prev_clean_running := c.clean_running }

/-- One call, with whether it sends UI_CLEAN_CMD. The weights and the mean are exact rationals,
where the code has `float`, and `double` for the sum of the ring: there they are rounded. -/
def process_cat_detection_fsm (s : CatFsm) (c : Call) : CatFsm × Bool :=
  if c.frozen then (fsm_reset s c, false) else fsm_switch (fsm_reset s c) c

end catbox.loadcell
