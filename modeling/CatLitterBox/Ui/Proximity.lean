import CatLitterBox.Motor.Types
import Mathlib.Algebra.Order.Ring.Rat

open catbox.motor

namespace catbox.ui

/-- `PROXI_MODE_T`. -/
inductive ProxiMode where
  | PROXI_MODE_IDLE
  | PROXI_MODE_USE
  | PROXI_MODE_ESCAPE
  | PROXI_MODE_HARDEN
deriving DecidableEq, Repr

/-- The fields of `app_config_t` that `proximity_task` loads. -/
structure ProximityConfig where
  CAT_ENTRY_MIN_WEIGHT : UInt32
  CLUMPING_WAIT_MIN : UInt32

/-- The local `cat_wg`. The local `harden_tm`, loaded from CLUMPING_WAIT_MIN, is only logged. -/
def ProximityConfig.cat_wg (cfg : ProximityConfig) : ℚ := cfg.CAT_ENTRY_MIN_WEIGHT.toNat

/-- The locals of `proximity_task`, and the flag it sets. Those that only its log lines
read are left out. -/
structure Proximity where
  cat_enter_f : Bool
  cat_enter_cnt : Nat
  mode : ProxiMode
  prev_wg : ℚ
  g_is_system_ready : Bool

def Proximity.init : Proximity where
  cat_enter_f := false
  cat_enter_cnt := 0
  mode := .PROXI_MODE_IDLE
  prev_wg := 0
  g_is_system_ready := false

/-- What one turn of the loop reads: `check_operating`, and up to two results of
`get_weight(LOADCELL_MAIN)`. -/
structure Tick where
  operating : Bool
  weight : ℚ
  weight_again : ℚ

/-- What one turn of the loop does. -/
inductive ProximityEffect where
  | send_led_cmd_msg (cmd : LedCmd)
  | print_boot_photo_sensor_status
  | create_ui_clean_task
deriving DecidableEq

/-- The comparison of a weight with `cat_wg`. -/
def Tick.shows_cat (t : Tick) (cfg : ProximityConfig) : Prop := t.weight > cfg.cat_wg

instance (t : Tick) (cfg : ProximityConfig) : Decidable (t.shows_cat cfg) :=
  inferInstanceAs (Decidable (_ > _))

/-- The part of PROXI_MODE_IDLE for an empty box that has been watched for long enough:
the system is ready once two weights in a row differ by less than 3 g. -/
def proximity_settle (s : Proximity) (gap : ℚ) : Proximity × List ProximityEffect :=
  let prev_wg := if s.prev_wg < 100 then gap else s.prev_wg
  let settled : Proximity := { s with cat_enter_cnt := 12, prev_wg := gap }
  if |gap - prev_wg| < 3 ∧ !s.g_is_system_ready then
    ({ settled with g_is_system_ready := true },
      [.send_led_cmd_msg .LED_IDLE_CMD, .print_boot_photo_sensor_status])
  else (settled, [])

def proximity_idle (cfg : ProximityConfig) (s : Proximity) (t : Tick) : Proximity × List ProximityEffect :=
  if t.shows_cat cfg then
    if !s.cat_enter_f then ({ s with cat_enter_f := true, cat_enter_cnt := 0 }, [])
    else if s.cat_enter_cnt + 1 > 10 then
      ({ s with cat_enter_f := false, cat_enter_cnt := 0, mode := .PROXI_MODE_USE },
        [.send_led_cmd_msg .LED_INUSE_CMD])
    else ({ s with cat_enter_cnt := s.cat_enter_cnt + 1 }, [])
  else if s.cat_enter_f then ({ s with cat_enter_f := false, cat_enter_cnt := 0 }, [])
  else if s.cat_enter_cnt + 1 > 10 then
    if s.cat_enter_cnt + 1 = 11 then ({ s with cat_enter_cnt := 11, prev_wg := t.weight_again }, [])
    else proximity_settle s t.weight_again
  else ({ s with cat_enter_cnt := s.cat_enter_cnt + 1 }, [])

def proximity_use (cfg : ProximityConfig) (s : Proximity) (t : Tick) : Proximity × List ProximityEffect :=
  if t.shows_cat cfg then ({ s with cat_enter_cnt := 0 }, [])
  else if s.cat_enter_cnt + 1 > 10 then
    ({ s with cat_enter_cnt := s.cat_enter_cnt + 1, mode := .PROXI_MODE_ESCAPE }, [])
  else ({ s with cat_enter_cnt := s.cat_enter_cnt + 1 }, [])

def proximity_harden (s : Proximity) : Proximity × List ProximityEffect :=
  if s.cat_enter_cnt + 1 > 20 then
    ({ s with cat_enter_f := false, cat_enter_cnt := 0, mode := .PROXI_MODE_IDLE }, [.create_ui_clean_task])
  else ({ s with cat_enter_cnt := s.cat_enter_cnt + 1 }, [])

/-- One turn of the loop of `proximity_task`. -/
def proximity_turn (cfg : ProximityConfig) (s : Proximity) (t : Tick) : Proximity × List ProximityEffect :=
  if t.operating then ({ s with cat_enter_f := false, cat_enter_cnt := 0, mode := .PROXI_MODE_IDLE }, [])
  else
    match s.mode with
    | .PROXI_MODE_IDLE => proximity_idle cfg s t
    | .PROXI_MODE_USE => proximity_use cfg s t
    | .PROXI_MODE_ESCAPE => ({ s with cat_enter_cnt := 0, mode := .PROXI_MODE_HARDEN },
        [.send_led_cmd_msg .LED_IDLE_CMD])
    | .PROXI_MODE_HARDEN => proximity_harden s

end catbox.ui
