import CatLitterBox.Program.Every

open program

namespace catbox.led

/-- The modes of `led.h`, in their order. -/
inductive Mode where
  | LED_IDLE_MODE
  | LED_NORMAL_MODE
  | LED_INITOK_MODE
  | LED_INITOK_MODE_1
  | LED_INITOK_MODE_2
  | LED_PAIRING_MODE
  | LED_PAIRING_MODE_1
  | LED_PAIRING_MODE_2
  | LED_UNLOCK_MODE
  | LED_UNLOCK_MODE_1
  | LED_UNLOCK_MODE_2
  | LED_UNLOCK_MODE_3
  | LED_UNLOCK_MODE_4
  | LED_LOCK_MODE
  | LED_LOCK_MODE_1
  | LED_LOCK_MODE_2
  | LED_INVALID_MODE
  | LED_INVALID_MODE_1
  | LED_INVALID_MODE_2
  | LED_INVALID_MODE_3
  | LED_INVALID_MODE_4
  | LED_INUSE_MODE
  | LED_CLEANING_MODE
  | LED_CLEANING_MODE_1
  | LED_MANAGE_MODE
  | LED_MANAGE_MODE_1
  | LED_BINFULL_MODE
  | LED_ERROR_MODE
  | LED_ERROR_MODE_1
  | LED_ERROR_MODE_2
  | LED_QCMODE_MODE
  | LED_QCMODE_MODE_1
  | LED_QCMODE_MODE_2
  | LED_QCQUIT_MODE
  | LED_QCQUIT_MODE_1
  | LED_QCQUIT_MODE_2
  | LED_QCQUIT_MODE_3
  | LED_QCQUIT_MODE_4
  | LED_QCQUIT_MODE_5
  | LED_PAUSE_MODE
  | LED_PAUSE_MODE_1
  | LED_PAUSE_MODE_2
deriving DecidableEq

/-- The commands of `led.h`, in their order. -/
inductive Cmd where
  | LED_IDLE_CMD
  | LED_INITOK_CMD
  | LED_PAIRING_CMD
  | LED_UNLOCK_CMD
  | LED_LOCK_CMD
  | LED_INVALID_CMD
  | LED_INUSE_CMD
  | LED_CLEANING_CMD
  | LED_MANAGE_CMD
  | LED_BINFULL_CMD
  | LED_ERROR_CMD
  | LED_QCMODE_CMD
  | LED_QCQUIT_CMD
  | LED_PAUSE_CMD
deriving DecidableEq

/-- The commands by their numbers. -/
def Cmd.all : List Cmd :=
  [.LED_IDLE_CMD, .LED_INITOK_CMD, .LED_PAIRING_CMD, .LED_UNLOCK_CMD, .LED_LOCK_CMD,
    .LED_INVALID_CMD, .LED_INUSE_CMD,
    .LED_CLEANING_CMD, .LED_MANAGE_CMD, .LED_BINFULL_CMD, .LED_ERROR_CMD, .LED_QCMODE_CMD,
      .LED_QCQUIT_CMD, .LED_PAUSE_CMD]

/-- The mode that `led_task` sets upon a command. -/
def Cmd.mode : Cmd → Mode
  | .LED_IDLE_CMD => .LED_NORMAL_MODE
  | .LED_INITOK_CMD => .LED_INITOK_MODE
  | .LED_PAIRING_CMD => .LED_PAIRING_MODE
  | .LED_UNLOCK_CMD => .LED_UNLOCK_MODE
  | .LED_LOCK_CMD => .LED_LOCK_MODE
  | .LED_INVALID_CMD => .LED_INVALID_MODE
  | .LED_INUSE_CMD => .LED_INUSE_MODE
  | .LED_CLEANING_CMD => .LED_CLEANING_MODE
  | .LED_MANAGE_CMD => .LED_MANAGE_MODE
  | .LED_BINFULL_CMD => .LED_BINFULL_MODE
  | .LED_ERROR_CMD => .LED_ERROR_MODE
  | .LED_QCMODE_CMD => .LED_QCMODE_MODE
  | .LED_QCQUIT_CMD => .LED_QCQUIT_MODE
  | .LED_PAUSE_CMD => .LED_PAUSE_MODE

/-- A turn of `led_task`: the mode that it sets upon a message, if it sets one. -/
def led_task (cmd : UInt32) : Option Mode := (Cmd.all[cmd.toNat]?).map Cmd.mode

/-- The values of the red, green, blue and white diodes. -/
structure Rgbw where
  r : Nat
  g : Nat
  b : Nat
  w : Nat
deriving DecidableEq

/-- What `led_process_task` does with the mode, the strip and the clock. The four pixels always get
the same colour. -/
inductive Action where
  | led_mode
  | set_led_opmode (mode : Mode)
  | led_strip_refresh (color : Rgbw)
  | led_strip_clear
  | esp_timer_get_time
  | vTaskDelay (ms : Nat)

def Action.Answer : Action → Type
  | .led_mode => Mode
  | .esp_timer_get_time => Int
  | _ => Unit

abbrev Code (α : Type) : Type 1 := Program Action Action.Answer α

def act (a : Action) : Code a.Answer := Program.perform a

/-- The static variables that only `led_process_task` uses. -/
structure Static where
  ani_color : Int
  ani_dir : Int
  start_tm : Int
  end_tm : Int
  elapsed : Int

def Static.boot : Static := ⟨0, 0, 0, 0, 0⟩

def LED_ANIMATION_STEP : Int := 1

def led_full_rgbw (mode : Nat) : Code Unit :=
  act (.led_strip_refresh (match mode with
    | 0 => ⟨255, 0, 0, 0⟩
    | 1 => ⟨0, 255, 0, 0⟩
    | 2 => ⟨0, 0, 255, 0⟩
    | 3 => ⟨0, 0, 0, 255⟩
    | _ => ⟨0, 0, 0, 0⟩))

def led_full_rgbw_color (mode value : Nat) : Code Unit :=
  act (.led_strip_refresh (match mode with
    | 0 => ⟨value, 0, 0, 0⟩
    | 1 => ⟨0, value, 0, 0⟩
    | 2 => ⟨0, 0, value, 0⟩
    | 3 => ⟨0, 0, 0, value⟩
    | 4 => ⟨value, value, 0, 0⟩
    | _ => ⟨0, 0, 0, 0⟩))

def led_full_white : Code Unit := led_full_rgbw 3

def led_full_off : Code Unit := act .led_strip_clear

/-- The next step of the animation, up to the full colour and down again. -/
def Static.animate (s : Static) : Static :=
  if s.ani_dir = 0 then
    if s.ani_color + LED_ANIMATION_STEP > 255 then { s with ani_dir := 1, ani_color := 255 }
    else { s with ani_color := s.ani_color + LED_ANIMATION_STEP }
  else
    if s.ani_color - LED_ANIMATION_STEP < 0 then { s with ani_dir := 0, ani_color := 0 }
    else { s with ani_color := s.ani_color - LED_ANIMATION_STEP }

def led_animation (mode color : Nat) (s : Static) : Code Static := do
  if mode = 0 then return { s with ani_color := 0, ani_dir := 0 }
  else do
    led_full_rgbw_color color s.ani_color.toNat
    return s.animate

/-- `set_led_opmode` and the end of the case. -/
def leave (mode : Mode) (s : Static) : Code Static := do
  let _ ← act (.set_led_opmode mode)
  return s

/-- A colour is shown, and the time is taken. -/
def shown (color : Code Unit) (mode : Mode) (s : Static) : Code Static := do
  color
  let start_tm : Int ← act .esp_timer_get_time
  leave mode { s with start_tm }

/-- A case that waits: what comes after `ms` milliseconds is done as soon as they have elapsed. -/
def waiting (ms : Int) (after : Static → Code Static) (s : Static) : Code Static := do
  let end_tm : Int ← act .esp_timer_get_time
  let s := { s with end_tm, elapsed := (end_tm - s.start_tm).tdiv 1000 }
  if ms ≤ s.elapsed then after s else return s

/-- A case that begins an animation. -/
def animated (color : Nat) (mode : Mode) (s : Static) : Code Static := do
  let s ← led_animation 0 0 s
  let s ← led_animation 1 color s
  leave mode s

/-- A case that shows a colour and waits for nothing. -/
def lit (color : Code Unit) (mode : Mode) (s : Static) : Code Static := do
  color
  leave mode s

/-- The cases of `led_process_task`. -/
def led_pattern : Mode → Static → Code Static
  | .LED_IDLE_MODE => fun s => return s
  | .LED_NORMAL_MODE => lit led_full_white .LED_IDLE_MODE
  | .LED_INITOK_MODE => shown led_full_white .LED_INITOK_MODE_1
  | .LED_INITOK_MODE_1 => waiting 2000 (shown led_full_off .LED_INITOK_MODE_2)
  | .LED_INITOK_MODE_2 => waiting 2000 (leave .LED_IDLE_MODE)
  | .LED_PAIRING_MODE => shown (led_full_rgbw 2) .LED_PAIRING_MODE_1
  | .LED_PAIRING_MODE_1 => waiting 500 (shown (led_full_rgbw 0) .LED_PAIRING_MODE_2)
  | .LED_PAIRING_MODE_2 => waiting 500 (leave .LED_PAIRING_MODE)
  -- The first two of the unlock cases go on with the lock.
  | .LED_UNLOCK_MODE => shown led_full_white .LED_LOCK_MODE_1
  | .LED_UNLOCK_MODE_1 => waiting 500 (shown led_full_off .LED_LOCK_MODE_2)
  | .LED_UNLOCK_MODE_2 => waiting 500 (shown led_full_white .LED_UNLOCK_MODE_3)
  | .LED_UNLOCK_MODE_3 => waiting 500 (shown led_full_off .LED_UNLOCK_MODE_4)
  | .LED_UNLOCK_MODE_4 => waiting 500 (leave .LED_IDLE_MODE)
  | .LED_LOCK_MODE => shown (led_full_rgbw 0) .LED_LOCK_MODE_1
  | .LED_LOCK_MODE_1 => waiting 2000 (shown led_full_off .LED_LOCK_MODE_2)
  | .LED_LOCK_MODE_2 => waiting 2000 (leave .LED_IDLE_MODE)
  | .LED_INVALID_MODE => shown (led_full_rgbw 0) .LED_INVALID_MODE_1
  | .LED_INVALID_MODE_1 => waiting 500 (shown led_full_off .LED_INVALID_MODE_2)
  | .LED_INVALID_MODE_2 => waiting 500 (shown (led_full_rgbw 0) .LED_INVALID_MODE_3)
  | .LED_INVALID_MODE_3 => waiting 500 (shown led_full_off .LED_INVALID_MODE_4)
  | .LED_INVALID_MODE_4 => waiting 500 (leave .LED_IDLE_MODE)
  | .LED_INUSE_MODE => lit (led_full_rgbw 1) .LED_IDLE_MODE
  | .LED_CLEANING_MODE => animated 2 .LED_CLEANING_MODE_1
  | .LED_CLEANING_MODE_1 => led_animation 1 2
  | .LED_MANAGE_MODE => animated 4 .LED_MANAGE_MODE_1
  | .LED_MANAGE_MODE_1 => led_animation 1 4
  | .LED_BINFULL_MODE => lit (led_full_rgbw 0) .LED_IDLE_MODE
  | .LED_ERROR_MODE => shown (led_full_rgbw 0) .LED_ERROR_MODE_1
  | .LED_ERROR_MODE_1 => waiting 300 (shown led_full_off .LED_ERROR_MODE_2)
  | .LED_ERROR_MODE_2 => waiting 300 (leave .LED_ERROR_MODE)
  | .LED_QCMODE_MODE => shown led_full_white .LED_QCMODE_MODE_1
  | .LED_QCMODE_MODE_1 => waiting 300 (shown led_full_off .LED_QCMODE_MODE_2)
  | .LED_QCMODE_MODE_2 => waiting 300 (leave .LED_QCMODE_MODE)
  | .LED_QCQUIT_MODE => shown (led_full_rgbw 1) .LED_QCQUIT_MODE_1
  | .LED_QCQUIT_MODE_1 => waiting 300 (shown led_full_off .LED_QCQUIT_MODE_2)
  | .LED_QCQUIT_MODE_2 => waiting 300 (shown (led_full_rgbw 1) .LED_QCQUIT_MODE_3)
  | .LED_QCQUIT_MODE_3 => waiting 300 (shown led_full_off .LED_QCQUIT_MODE_4)
  | .LED_QCQUIT_MODE_4 => waiting 300 (shown (led_full_rgbw 1) .LED_QCQUIT_MODE_5)
  | .LED_QCQUIT_MODE_5 => waiting 300 (lit led_full_white .LED_IDLE_MODE)
  | .LED_PAUSE_MODE => shown (led_full_rgbw_color 4 255) .LED_PAUSE_MODE_1
  | .LED_PAUSE_MODE_1 => waiting 500 (shown led_full_off .LED_PAUSE_MODE_2)
  | .LED_PAUSE_MODE_2 => waiting 500 (leave .LED_PAUSE_MODE)

/-- One turn of the loop of `led_process_task`. -/
def led_process_turn (s : Static) : Code (Static ⊕ Empty) := do
  let mode : Mode ← act .led_mode
  let s ← led_pattern mode s
  let _ ← act (.vTaskDelay 20)
  return .inl s

def led_process_task : Code Empty := Program.repeated led_process_turn .boot

end catbox.led
