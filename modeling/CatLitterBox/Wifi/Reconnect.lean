import CatLitterBox.Wifi.Station
import CatLitterBox.Temporal.Run

open temporal

namespace catbox.wifi

/-- `Wifi_Connect` has called `esp_wifi_connect`, and neither function has been called since. -/
def armed : List Happening → Bool
  | [] => false
  | .connects :: _ => true
  | .called_connect :: _ | .called_disconnect :: _ => false
  | _ :: past => armed past

/-- The retries since the latest got-IP event, or since `Wifi_Connect` has begun its latest
attempt. -/
def retries : List Happening → Nat
  | [] => 0
  | .event .IP_EVENT_STA_GOT_IP :: _ | .resets :: _ => 0
  | .retries :: past => retries past + 1
  | _ :: past => retries past

/-- A disconnected event of an attempt is answered by a retry while there have been fewer than
five, and by WIFI_FAIL_BIT otherwise. -/
def Retried (s : Station) (m : Move) : Prop :=
  m = .event .WIFI_EVENT_STA_DISCONNECTED → armed s.vars.past = true →
    (s.step m).vars.past = (if retries s.vars.past < 5 then .retries else .fails) ::
      .event .WIFI_EVENT_STA_DISCONNECTED :: s.vars.past

/-- When a disconnected event of an attempt arrives, no `Wifi_Disconnect` since the boot has
disconnected an access point. -/
def Allowed (s : Station) (m : Move) : Prop :=
  m = .event .WIFI_EVENT_STA_DISCONNECTED → armed s.vars.past = true → .forbids ∉ s.vars.past

instance (s : Station) (m : Move) : Decidable (Allowed s m) :=
  match m with
  | .event .WIFI_EVENT_STA_DISCONNECTED =>
    decidable_of_iff (armed s.vars.past = true → .forbids ∉ s.vars.past) ⟨fun h _ => h, fun h => h rfl⟩
  | .event .WIFI_EVENT_STA_START | .event .IP_EVENT_STA_GOT_IP | .Wifi_Connect .. | .Wifi_Disconnect
  | .call .. =>
    .isTrue fun h => by cases h

/-- The variables agree with what has happened. -/
structure Wifi.Counted (s : Wifi) : Prop where
  retry_num : s.s_retry_num = retries s.past
  allow_reconnect : s.s_allow_reconnect = true ↔ .forbids ∉ s.past

theorem boot_counted : Wifi.boot.Counted := ⟨rfl, by decide⟩

private theorem event_counted {s : Wifi} (h : s.Counted) (e : Event) : (wifi_event_handler s e).Counted := by
  obtain ⟨hretry, hallow⟩ := h
  unfold wifi_event_handler
  cases e with
  | WIFI_EVENT_STA_START => exact ⟨hretry, by simpa [Wifi.happens] using hallow⟩
  | IP_EVENT_STA_GOT_IP => exact ⟨rfl, by simpa [Wifi.happens] using hallow⟩
  | WIFI_EVENT_STA_DISCONNECTED =>
    simp only
    split_ifs
    · exact ⟨congrArg (· + 1) hretry, by simpa [Wifi.happens] using hallow⟩
    · exact ⟨hretry, by simpa [Wifi.happens] using hallow⟩
    · exact ⟨hretry, by simpa [Wifi.happens] using hallow⟩

private theorem perform_counted {s : Wifi} (h : s.Counted) (d : Driver)
    (a : Act) : (Act.perform d a s).2.Counted := by
  obtain ⟨hretry, hallow⟩ := h
  cases a with
  | forbid_reconnect => exact ⟨hretry, by simp [Act.perform, Wifi.happens]⟩
  | xEventGroupClearBits => exact ⟨hretry, by simpa [Act.perform, Wifi.happens] using hallow⟩
  | reset_retry_num => exact ⟨rfl, by simpa [Act.perform, Wifi.happens] using hallow⟩
  | esp_wifi_connect => exact ⟨hretry, by simpa [Act.perform, Wifi.happens] using hallow⟩
  | _ => exact ⟨hretry, hallow⟩

/-- Every step keeps the variables in agreement with what has happened. -/
theorem step_counted (s : Station) (m : Move) (h : s.vars.Counted) : (s.step m).vars.Counted := by
  cases m with
  | event e => exact event_counted h e
  | Wifi_Connect ssid password =>
    obtain ⟨hretry, hallow⟩ := h
    exact ⟨hretry, by simpa [Station.step, Wifi.happens] using hallow⟩
  | Wifi_Disconnect =>
    obtain ⟨hretry, hallow⟩ := h
    exact ⟨hretry, by simpa [Station.step, Wifi.happens] using hallow⟩
  | call i d =>
    obtain hsame | ⟨a, hperform⟩ := call_step_cases s i d
    · change (s.call_step i d).vars.Counted
      rw [hsame]
      exact h
    · change (s.call_step i d).vars.Counted
      rw [hperform]
      exact perform_counted h d a

/-- A disconnected event is answered exactly while reconnecting is allowed. -/
theorem disconnected_past {s : Wifi} (h : s.Counted) :
    (wifi_event_handler s .WIFI_EVENT_STA_DISCONNECTED).past =
        (if retries s.past < 5 then .retries else .fails) :: .event .WIFI_EVENT_STA_DISCONNECTED :: s.past ↔
      .forbids ∉ s.past := by
  obtain ⟨hretry, hallow⟩ := h
  rw [← hallow]
  unfold wifi_event_handler
  simp only [Wifi.happens, hretry, MAXIMUM_RETRY]
  cases hreconnect : s.s_allow_reconnect with
  | true =>
    simp only [if_true, iff_true]
    split_ifs <;> rfl
  | false =>
    constructor
    · intro hpast
      have hlength := congrArg List.length hpast
      simp at hlength
    · intro hfalse
      cases hfalse

private theorem allowed_iff_retried (s : Station) (m : Move) (h : s.vars.Counted) : Allowed s m ↔ Retried s m := by
  constructor
  · rintro hallowed rfl harmed
    exact (disconnected_past h).mpr (hallowed rfl harmed)
  · rintro hretried rfl harmed
    exact (disconnected_past h).mp (hretried rfl harmed)

theorem along_retried_iff {s : Station} (h : s.vars.Counted) {moves : List Move} :
    Along Station.step Retried s moves ↔ Along Station.step Allowed s moves :=
  along_congr (I := fun s => s.vars.Counted) (fun s m hs _ => step_counted s m hs)
    (fun s m hs => (allowed_iff_retried s m hs).symm) h

/-- An attempt after a deliberate disconnect: the whole call of `Wifi_Disconnect` with an
access point connected, then `Wifi_Connect` up to its wait, and a disconnected event. -/
def attempt_after_disconnect : List Move :=
  [.Wifi_Disconnect] ++ List.replicate 4 (.call 0 ⟨true, true, false⟩) ++ [.Wifi_Connect [65] [66]] ++
    List.replicate 5 (.call 1 ⟨false, true, false⟩) ++ [.event .WIFI_EVENT_STA_DISCONNECTED]

end catbox.wifi
