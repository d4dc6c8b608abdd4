import CatLitterBox.LoadCell.Fsm
import Mathlib.Algebra.Order.Field.Rat

namespace catbox.loadcell

abbrev STAGE1_OFFSET_V2 : Int := 144607
abbrev STAGE1_OFFSET_V3 : Int := 330013
abbrev STAGE1_OFFSET_V4 : Int := 135682
abbrev STAGE1_OFFSET_V5 : Int := 212343

abbrev WEIGHT_GAIN_V2 : ℚ := 714 / 1000
abbrev WEIGHT_GAIN_V3 : ℚ := 1244 / 1000
abbrev WEIGHT_GAIN_V4 : ℚ := 1208 / 1000
abbrev WEIGHT_GAIN_V5 : ℚ := 1029 / 1000

abbrev SCALE_MAIN : ℚ := 10416 / 1000000
abbrev SCALE_WASTE : ℚ := 6666 / 1000000
abbrev DEADBAND_GRAMS : ℚ := 30

/-- The sums and weights of the load cells and the cat detection, with rationals for the
floats. -/
structure LoadCell where
  current_main_sum : Int
  current_waste_sum : Int
  base_main_sum : Int
  base_waste_sum : Int
  final_main_weight : ℚ
  final_waste_weight : ℚ
  fsm : CatFsm

/-- The state after `loadcell_init`. -/
def LoadCell.init : LoadCell := ⟨0, 0, 0, 0, 0, 0, .init⟩

/-- What `loadcell_proc` finds outside: the time and the flags that the cat detection reads, and
whether it gets `cell_mutex`. -/
structure Surroundings where
  now : Int
  clean_running : Bool
  clean_pause_flag : Bool
  clean_resume_recovery_requested : Bool
  cell_mutex : Bool

def Surroundings.call (env : Surroundings) (current_weight : ℚ) : Call where
  current_weight := current_weight
  now := env.now
  clean_running := env.clean_running
  clean_pause_flag := env.clean_pause_flag
  clean_resume_recovery_requested := env.clean_resume_recovery_requested

/-- A `double` as `int64_t`. -/
def truncated (x : ℚ) : Int := x.num.tdiv x.den

def deadband (calc_weight : ℚ) : ℚ :=
  if calc_weight > -DEADBAND_GRAMS ∧ calc_weight < DEADBAND_GRAMS then 0 else calc_weight

/-- The sum of the four cells under the box, each with its offset and gain. The products and their sum are exact
rationals, where the code has `double`: next to an integer the sum can be truncated to the one below it. -/
def main_sum (values : Nat → Int) : Int :=
  let raw2_corr := (values 2 - STAGE1_OFFSET_V2 : ℚ) * WEIGHT_GAIN_V2
  let raw3_corr := (values 3 - STAGE1_OFFSET_V3 : ℚ) * WEIGHT_GAIN_V3
  let raw4_corr := (values 4 - STAGE1_OFFSET_V4 : ℚ) * WEIGHT_GAIN_V4
  let raw5_corr := (values 5 - STAGE1_OFFSET_V5 : ℚ) * WEIGHT_GAIN_V5
  truncated (raw2_corr + raw3_corr + raw4_corr + raw5_corr)

/-- `loadcell_proc`, with whether the cat detection sends UI_CLEAN_CMD. -/
def loadcell_proc (env : Surroundings) (s : LoadCell) (values : Nat → Int) : LoadCell × Bool :=
  let current_main_sum := main_sum values
  let current_waste_sum := values 0 + values 1
  let temp_main_weight := deadband ((current_main_sum - s.base_main_sum : ℚ) * SCALE_MAIN)
  let temp_waste_weight := deadband ((current_waste_sum - s.base_waste_sum : ℚ) * SCALE_WASTE)
  let (fsm, clean) := process_cat_detection_fsm s.fsm (env.call temp_main_weight)
  let updated : LoadCell := { s with current_main_sum, current_waste_sum, fsm }
  if env.cell_mutex then
    ({ updated with final_main_weight := temp_main_weight, final_waste_weight := temp_waste_weight }, clean)
  else (updated, clean)

end catbox.loadcell
