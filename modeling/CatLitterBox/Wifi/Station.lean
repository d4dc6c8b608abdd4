import CatLitterBox.Program.Basic
import CatLitterBox.Text.CString

open text program program.Program

namespace catbox.wifi

/-- The bits of `s_wifi_event_group`. -/
structure WifiBits where
  WIFI_CONNECTED_BIT : Bool
  WIFI_FAIL_BIT : Bool
deriving DecidableEq

/-- The statements of `Wifi_Connect` and `Wifi_Disconnect` between which other tasks and the
event handler may run. -/
inductive Act where
  | esp_wifi_sta_get_ap_info
  | forbid_reconnect
  | esp_wifi_disconnect
  | vTaskDelay (ms : Nat)
  | esp_wifi_set_config (ssid password : Bytes)
  | ble_send_data_to_queue (data : Bytes)
  | xEventGroupClearBits
  | reset_retry_num
  | esp_wifi_connect
  | xEventGroupWaitBits (ms : Nat)

/-- What a statement is answered: whether the driver returns ESP_OK, or the event bits. -/
abbrev Act.Answer : Act → Type
  | .esp_wifi_sta_get_ap_info | .esp_wifi_set_config .. => Bool
  | .xEventGroupWaitBits _ => WifiBits
  | _ => Unit

abbrev Code (α : Type) := Program Act Act.Answer α

def MAXIMUM_RETRY : Nat := 5

def get_ap_info : Code Bool := perform Act.esp_wifi_sta_get_ap_info
def set_config (ssid password : Bytes) : Code Bool := perform (Act.esp_wifi_set_config ssid password)
def wait_bits (ms : Nat) : Code WifiBits := perform (Act.xEventGroupWaitBits ms)
def forbid_reconnect : Code Unit := perform Act.forbid_reconnect
def reset_retry_num : Code Unit := perform Act.reset_retry_num
def clear_bits : Code Unit := perform Act.xEventGroupClearBits
def esp_wifi_connect : Code Unit := perform Act.esp_wifi_connect
def esp_wifi_disconnect : Code Unit := perform Act.esp_wifi_disconnect
def delay (ms : Nat) : Code Unit := perform (Act.vTaskDelay ms)
def send_to_app (data : Bytes) : Code Unit := perform (Act.ble_send_data_to_queue data)

def Wifi_Disconnect : Code Unit := do
  let status ← get_ap_info
  if status then
    forbid_reconnect
    esp_wifi_disconnect
    delay 500

/-- The credentials are cut to the sizes of their arrays. -/
def Wifi_Connect (target_ssid target_password : Bytes) : Code Unit := do
  Wifi_Disconnect
  let err ← set_config (target_ssid.take 31) (target_password.take 63)
  if !err then send_to_app (ascii "CONNECT_AP FAIL")
  else
    clear_bits
    reset_retry_num
    esp_wifi_connect
    let bits ← wait_bits 15000
    if !bits.WIFI_CONNECTED_BIT && !bits.WIFI_FAIL_BIT then esp_wifi_disconnect

/-- The events of the driver and of the IP stack. -/
inductive Event where
  | WIFI_EVENT_STA_START
  | WIFI_EVENT_STA_DISCONNECTED
  | IP_EVENT_STA_GOT_IP
deriving DecidableEq

/-- What has happened: calls, events, and what they do to the connection. -/
inductive Happening where
  | called_connect
  | called_disconnect
  | event (e : Event)
  /-- `Wifi_Disconnect` has cleared `s_allow_reconnect` to disconnect an access point. -/
  | forbids
  /-- `Wifi_Connect` has cleared the bits, and the number of retries, for its attempt. -/
  | clears
  | resets
  /-- `Wifi_Connect` has called `esp_wifi_connect`. -/
  | connects
  /-- The event handler has called `esp_wifi_connect`, or set WIFI_FAIL_BIT. -/
  | retries
  | fails
deriving DecidableEq

/-- The variables of `wifi_task.c`, and what has happened, the latest first. -/
structure Wifi where
  s_retry_num : Nat
  s_allow_reconnect : Bool
  bits : WifiBits
  past : List Happening

def Wifi.boot : Wifi := ⟨0, true, ⟨false, false⟩, []⟩

def Wifi.happens (s : Wifi) (h : Happening) : Wifi := { s with past := h :: s.past }

/-- How the driver answers a statement, and whether a wait has lasted its time. -/
structure Driver where
  ap_info : Bool
  set_config : Bool
  timeout : Bool

/-- The answer to a statement, and its effect on the variables. -/
def Act.perform (d : Driver) : (a : Act) → Wifi → a.Answer × Wifi
  | .esp_wifi_sta_get_ap_info, s => (d.ap_info, s)
  | .forbid_reconnect, s => ((), { s.happens .forbids with s_allow_reconnect := false })
  | .esp_wifi_disconnect, s => ((), s)
  | .vTaskDelay _, s => ((), s)
  | .esp_wifi_set_config .., s => (d.set_config, s)
  | .ble_send_data_to_queue _, s => ((), s)
  | .xEventGroupClearBits, s => ((), { s.happens .clears with bits := ⟨false, false⟩ })
  | .reset_retry_num, s => ((), { s.happens .resets with s_retry_num := 0 })
  | .esp_wifi_connect, s => ((), s.happens .connects)
  | .xEventGroupWaitBits _, s => (s.bits, s)

/-- `wifi_event_handler`. -/
def wifi_event_handler (s : Wifi) (e : Event) : Wifi :=
  let s := s.happens (.event e)
  match e with
  | .WIFI_EVENT_STA_START => s
  | .WIFI_EVENT_STA_DISCONNECTED =>
    if s.s_allow_reconnect then
      if s.s_retry_num < MAXIMUM_RETRY then { s.happens .retries with s_retry_num := s.s_retry_num + 1 }
      else { s.happens .fails with bits.WIFI_FAIL_BIT := true }
    else s
  | .IP_EVENT_STA_GOT_IP => { s with s_retry_num := 0, bits.WIFI_CONNECTED_BIT := true }

/-- The variables, and the calls in progress with what is left of them. -/
structure Station where
  vars : Wifi
  calls : List (Code Unit)

def Station.boot : Station := ⟨Wifi.boot, []⟩

/-- A wait goes on until a bit is set or its time is over. -/
def Wifi.waits (s : Wifi) (d : Driver) : Act → Bool
  | .xEventGroupWaitBits _ => !s.bits.WIFI_CONNECTED_BIT && !s.bits.WIFI_FAIL_BIT && !d.timeout
  | _ => false

/-- The next statement of a call. -/
def Station.call_step (s : Station) (i : Nat) (d : Driver) : Station :=
  match s.calls[i]? with
  | none => s
  | some code =>
    if code.next.any (s.vars.waits d) then s
    else
      let (code, vars) := code.advance (Act.perform d) s.vars
      ⟨vars, s.calls.set i code⟩

/-- An event is handled, a task calls a function of the module, or a call goes on by a
statement. -/
inductive Move where
  | event (e : Event)
  | Wifi_Connect (ssid password : Bytes)
  | Wifi_Disconnect
  | call (i : Nat) (d : Driver)

def Station.step (s : Station) : Move → Station
  | .event e => { s with vars := wifi_event_handler s.vars e }
  | .Wifi_Connect ssid password =>
      ⟨s.vars.happens .called_connect, s.calls ++ [wifi.Wifi_Connect ssid password]⟩
  | .Wifi_Disconnect => ⟨s.vars.happens .called_disconnect, s.calls ++ [wifi.Wifi_Disconnect]⟩
  | .call i d => s.call_step i d

/-- A step of a call leaves the variables, or performs one statement. -/
theorem call_step_cases (s : Station) (i : Nat) (d : Driver) :
    (s.call_step i d).vars = s.vars ∨ ∃ a, (s.call_step i d).vars = (Act.perform d a s.vars).2 := by
  unfold Station.call_step
  cases s.calls[i]? with
  | none => exact .inl rfl
  | some code =>
    simp only
    split_ifs
    · exact .inl rfl
    · cases code with
      | ret a => exact .inl rfl
      | act a k => exact .inr ⟨a, rfl⟩
      | loop body x k => exact .inl rfl

end catbox.wifi
