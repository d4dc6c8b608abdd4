import CatLitterBox.Wifi.Station
import CatLitterBox.Temporal.Run

open temporal

namespace catbox.wifi

/-- What has happened since the latest got-IP event, the latest first, where there has been
one. -/
def sinceGotIp : List Happening → Option (List Happening)
  | [] => none
  | .event .IP_EVENT_STA_GOT_IP :: _ => some []
  | h :: past => (sinceGotIp past).map (h :: ·)

theorem sinceGotIp_cons {h : Happening} {past : List Happening} (hne : h ≠ .event .IP_EVENT_STA_GOT_IP) :
    sinceGotIp (h :: past) = (sinceGotIp past).map (h :: ·) := by
  cases h with
  | event e =>
    cases e with
    | IP_EVENT_STA_GOT_IP => exact absurd rfl hne
    | _ => rfl
  | _ => rfl

/-- A got-IP event has been handled since the most recent disconnected event. -/
def up (past : List Happening) : Prop :=
  ∃ later ∈ sinceGotIp past, .event .WIFI_EVENT_STA_DISCONNECTED ∉ later

/-- A got-IP event has been handled since the most recent disconnected event and the most
recent call of `Wifi_Connect`. -/
def linked (past : List Happening) : Prop :=
  ∃ later ∈ sinceGotIp past, .event .WIFI_EVENT_STA_DISCONNECTED ∉ later ∧ .called_connect ∉ later

/-- What `aws_iot_main_entry` waits for before it provisions. -/
def Wifi.provisions (s : Wifi) : Bool := s.bits.WIFI_CONNECTED_BIT

/-- After the handling of an event WIFI_CONNECTED_BIT tells whether there is a link, and
provisioning never goes on with a link that has gone down. -/
structure Reflecting (s : Station) (m : Move) : Prop where
  bit : ∀ e, m = .event e → ((s.step m).vars.bits.WIFI_CONNECTED_BIT = true ↔ linked (s.step m).vars.past)
  provisions : (s.step m).vars.provisions = true → up (s.step m).vars.past

/-- A disconnected event comes after `Wifi_Connect` has cleared the bits of the latest got-IP
event. The driver starts again only where a `Wifi_Connect` that has been called since that
event has come to clear them, and where one that has cleared them has been called since, or
the link has gone down. -/
structure InOrder (s : Station) (m : Move) : Prop where
  disconnected : m = .event .WIFI_EVENT_STA_DISCONNECTED → ∀ later ∈ sinceGotIp s.vars.past, .clears ∈ later
  started : m = .event .WIFI_EVENT_STA_START → ∀ later ∈ sinceGotIp s.vars.past,
    (.called_connect ∈ later → .clears ∈ later) ∧
      (.clears ∈ later → .called_connect ∈ later ∨ .event .WIFI_EVENT_STA_DISCONNECTED ∈ later)

/-- The bit is set from a got-IP event until the bits are cleared, and no disconnected event
has found it set. -/
structure Wifi.Marks (s : Wifi) : Prop where
  bit : s.bits.WIFI_CONNECTED_BIT = true ↔ ∃ later ∈ sinceGotIp s.past, .clears ∉ later
  lost : ∀ later ∈ sinceGotIp s.past, .event .WIFI_EVENT_STA_DISCONNECTED ∈ later → .clears ∈ later

/-- Where the marks are right, provisioning goes on only with a link that is up. -/
theorem Wifi.Marks.up {s : Wifi} (hs : s.Marks) (hprovisions : s.provisions = true) : up s.past := by
  obtain ⟨later, hlater, hclears⟩ := hs.bit.mp hprovisions
  exact ⟨later, hlater, fun hlost => hclears (hs.lost later hlater hlost)⟩

theorem Wifi.Marks.bit_eq_false_iff {s : Wifi} (hs : s.Marks) :
    s.bits.WIFI_CONNECTED_BIT = false ↔ ∀ later ∈ sinceGotIp s.past, .clears ∈ later := by
  rw [← Bool.not_eq_true, hs.bit]
  push Not
  rfl

/-- What happens next, got-IP events apart, is a part of what has happened since the latest of
them. Only the clearing of the bits makes a difference to the bit. -/
theorem Wifi.Marks.cons {s s' : Wifi} (hs : s.Marks) {h : Happening} (hpast : s'.past = h :: s.past)
    (hne : h ≠ .event .IP_EVENT_STA_GOT_IP)
    (hbit : s'.bits.WIFI_CONNECTED_BIT = true ↔ s.bits.WIFI_CONNECTED_BIT = true ∧ h ≠ .clears)
    (hlost : h = .event .WIFI_EVENT_STA_DISCONNECTED → s.bits.WIFI_CONNECTED_BIT = false) : s'.Marks := by
  have hsince : sinceGotIp (h :: s.past) = (sinceGotIp s.past).map (h :: ·) := sinceGotIp_cons hne
  rw [← hpast] at hsince
  constructor
  · rw [hbit, hs.bit, hsince]
    constructor
    · rintro ⟨⟨later, hlater, hclears⟩, hne⟩
      exact ⟨h :: later, Option.mem_map_of_mem _ hlater, List.not_mem_cons_of_ne_of_not_mem hne.symm hclears⟩
    · rintro ⟨_, hmem, hclears⟩
      obtain ⟨later, hlater, rfl⟩ := Option.map_eq_some_iff.mp hmem
      exact ⟨⟨later, hlater, List.not_mem_of_not_mem_cons hclears⟩, (List.ne_of_not_mem_cons hclears).symm⟩
  · rw [hsince]
    intro _ hmem hdown
    obtain ⟨later, hlater, rfl⟩ := Option.map_eq_some_iff.mp hmem
    obtain heq | hbefore := List.mem_cons.mp hdown
    · exact List.mem_cons_of_mem _ (hs.bit_eq_false_iff.mp (hlost heq.symm) later hlater)
    · exact List.mem_cons_of_mem _ (hs.lost later hlater hbefore)

private theorem perform_marks {s : Wifi} (hs : s.Marks) (d : Driver) (a : Act) : (Act.perform d a s).2.Marks := by
  cases a with
  | xEventGroupClearBits => exact hs.cons rfl nofun (by simp [Act.perform]) nofun
  | forbid_reconnect => exact hs.cons rfl nofun (and_iff_left nofun).symm nofun
  | reset_retry_num => exact hs.cons rfl nofun (and_iff_left nofun).symm nofun
  | esp_wifi_connect => exact hs.cons rfl nofun (and_iff_left nofun).symm nofun
  | _ => exact hs

/-- A disconnected event that finds the bit clear keeps the marks. -/
theorem disconnected_marks {s : Wifi} (hs : s.Marks) (hclear : s.bits.WIFI_CONNECTED_BIT = false) :
    (wifi_event_handler s .WIFI_EVENT_STA_DISCONNECTED).Marks := by
  have hdown : (s.happens (.event .WIFI_EVENT_STA_DISCONNECTED)).Marks :=
    hs.cons rfl nofun (and_iff_left nofun).symm fun _ => hclear
  unfold wifi_event_handler
  simp only
  split_ifs
  · exact hdown.cons rfl nofun (and_iff_left nofun).symm nofun
  · exact hdown.cons rfl nofun (and_iff_left nofun).symm nofun
  · exact hdown

/-- Every step but the handling of a disconnected event that finds the bit set keeps the marks. -/
theorem step_marks {s : Station} {m : Move} (hs : s.vars.Marks)
    (hm : m = .event .WIFI_EVENT_STA_DISCONNECTED → s.vars.bits.WIFI_CONNECTED_BIT = false) :
    (s.step m).vars.Marks := by
  cases m with
  | event e =>
    cases e with
    | WIFI_EVENT_STA_START => exact hs.cons rfl nofun (and_iff_left nofun).symm nofun
    | IP_EVENT_STA_GOT_IP => exact ⟨by simp [Station.step, wifi_event_handler, Wifi.happens, sinceGotIp], by
        simp [Station.step, wifi_event_handler, Wifi.happens, sinceGotIp]⟩
    | WIFI_EVENT_STA_DISCONNECTED => exact disconnected_marks hs (hm rfl)
  | Wifi_Connect ssid password => exact hs.cons rfl nofun (and_iff_left nofun).symm nofun
  | Wifi_Disconnect => exact hs.cons rfl nofun (and_iff_left nofun).symm nofun
  | call i d =>
    change (s.call_step i d).vars.Marks
    obtain hsame | ⟨a, hperform⟩ := call_step_cases s i d
    · rw [hsame]
      exact hs
    · rw [hperform]
      exact perform_marks hs d a

theorem up_of_cons (h : Happening) {past : List Happening} (hne : h ≠ .event .IP_EVENT_STA_GOT_IP)
    (hup : up (h :: past)) : up past := by
  obtain ⟨_, hmem, hdown⟩ := hup
  rw [sinceGotIp_cons hne] at hmem
  obtain ⟨later, hlater, rfl⟩ := Option.map_eq_some_iff.mp hmem
  exact ⟨later, hlater, List.not_mem_of_not_mem_cons hdown⟩

theorem disconnected_bit (s : Wifi) : (wifi_event_handler s .WIFI_EVENT_STA_DISCONNECTED).bits.WIFI_CONNECTED_BIT =
    s.bits.WIFI_CONNECTED_BIT := by
  unfold wifi_event_handler
  simp only
  split_ifs <;> rfl

private theorem disconnected_down (s : Wifi) : ¬ up (wifi_event_handler s .WIFI_EVENT_STA_DISCONNECTED).past := by
  have hdown : ¬ up (.event .WIFI_EVENT_STA_DISCONNECTED :: s.past) := by
    rintro ⟨_, hmem, hnone⟩
    obtain ⟨later, -, rfl⟩ := Option.map_eq_some_iff.mp hmem
    exact hnone List.mem_cons_self
  unfold wifi_event_handler
  simp only
  split_ifs
  · exact fun hup => hdown (up_of_cons .retries nofun hup)
  · exact fun hup => hdown (up_of_cons .fails nofun hup)
  · exact hdown

theorem linked_up {past : List Happening} (h : linked past) : up past := by
  obtain ⟨later, hlater, hdown, -⟩ := h
  exact ⟨later, hlater, hdown⟩

theorem disconnected_reflecting_iff (s : Station) :
    Reflecting s (.event .WIFI_EVENT_STA_DISCONNECTED) ↔ s.vars.bits.WIFI_CONNECTED_BIT = false := by
  have hbit : (s.step (.event .WIFI_EVENT_STA_DISCONNECTED)).vars.bits.WIFI_CONNECTED_BIT =
      s.vars.bits.WIFI_CONNECTED_BIT := disconnected_bit s.vars
  have hdown : ¬ up (s.step (.event .WIFI_EVENT_STA_DISCONNECTED)).vars.past := disconnected_down s.vars
  constructor
  · intro h
    rw [← hbit, ← Bool.not_eq_true, h.bit _ rfl]
    exact fun hlinked => hdown (linked_up hlinked)
  · intro hclear
    constructor
    · intro e _
      rw [hbit, hclear]
      exact iff_of_false Bool.false_ne_true fun hlinked => hdown (linked_up hlinked)
    · intro hprovisions
      exact absurd (hbit.symm.trans hprovisions) (by simp [hclear])

/-- The start of the driver leaves the bit and the link, which agree exactly if the calls of
`Wifi_Connect` since the latest got-IP event and the clearing of the bits go together. -/
theorem started_reflecting_iff {s : Station} (hs : s.vars.Marks) :
    Reflecting s (.event .WIFI_EVENT_STA_START) ↔ ∀ later ∈ sinceGotIp s.vars.past,
      (.called_connect ∈ later → .clears ∈ later) ∧
        (.clears ∈ later → .called_connect ∈ later ∨ .event .WIFI_EVENT_STA_DISCONNECTED ∈ later) := by
  have hafter : (s.step (.event .WIFI_EVENT_STA_START)).vars.Marks := step_marks hs nofun
  have hlinked : linked (s.step (.event .WIFI_EVENT_STA_START)).vars.past ↔ linked s.vars.past := by
    have hsince : sinceGotIp (s.step (.event .WIFI_EVENT_STA_START)).vars.past =
        (sinceGotIp s.vars.past).map (.event .WIFI_EVENT_STA_START :: ·) := rfl
    unfold linked
    rw [hsince]
    simp
  have hreflecting : Reflecting s (.event .WIFI_EVENT_STA_START) ↔
      (s.vars.bits.WIFI_CONNECTED_BIT = true ↔ linked s.vars.past) := by
    rw [← hlinked]
    constructor
    · exact fun h => h.bit _ rfl
    · exact fun h => ⟨fun _ _ => h, hafter.up⟩
  rw [hreflecting, hs.bit]
  unfold linked
  have hlost := hs.lost
  cases hsince : sinceGotIp s.vars.past with
  | none => simp
  | some later =>
    have hlost := hs.lost later hsince
    simp only [Option.mem_def, Option.some.injEq, exists_eq_left', forall_eq']
    tauto

/-- A call, or a statement of one, cannot let provisioning go on with a link that has gone down. -/
theorem call_reflecting {s : Station} {m : Move} (hs : s.vars.Marks) (hm : ∀ e, m ≠ .event e) : Reflecting s m :=
  ⟨fun e heq => absurd heq (hm e), (step_marks hs fun heq => absurd heq (hm _)).up⟩

theorem call_inOrder {s : Station} {m : Move} (hm : ∀ e, m ≠ .event e) : InOrder s m :=
  ⟨fun heq => absurd heq (hm _), fun heq => absurd heq (hm _)⟩

private theorem reflecting_iff (s : Station) (m : Move) (hs : s.vars.Marks) : Reflecting s m ↔ InOrder s m := by
  cases m with
  | event e =>
    cases e with
    | WIFI_EVENT_STA_START =>
      rw [started_reflecting_iff hs]
      exact ⟨fun h => ⟨nofun, fun _ => h⟩, fun h => h.started rfl⟩
    | IP_EVENT_STA_GOT_IP =>
      have hlinked : linked (s.step (.event .IP_EVENT_STA_GOT_IP)).vars.past :=
        ⟨[], rfl, List.not_mem_nil, List.not_mem_nil⟩
      exact iff_of_true ⟨fun _ _ => iff_of_true rfl hlinked, fun _ => linked_up hlinked⟩ ⟨nofun, nofun⟩
    | WIFI_EVENT_STA_DISCONNECTED =>
      rw [disconnected_reflecting_iff, hs.bit_eq_false_iff]
      exact ⟨fun h => ⟨fun _ => h, nofun⟩, fun h => h.disconnected rfl⟩
  | Wifi_Connect ssid password => exact iff_of_true (call_reflecting hs nofun) (call_inOrder nofun)
  | Wifi_Disconnect => exact iff_of_true (call_reflecting hs nofun) (call_inOrder nofun)
  | call i d => exact iff_of_true (call_reflecting hs nofun) (call_inOrder nofun)

private theorem reflecting_step (s : Station) (m : Move) (hs : s.vars.Marks) (hm : Reflecting s m) :
    (s.step m).vars.Marks := by
  refine step_marks hs ?_
  rintro rfl
  exact (disconnected_reflecting_iff s).mp hm

theorem along_reflecting_iff {s : Station} (hs : s.vars.Marks) {moves : List Move} :
    Along Station.step Reflecting s moves ↔ Along Station.step InOrder s moves :=
  along_congr (I := fun s => s.vars.Marks) reflecting_step reflecting_iff hs

theorem boot_marks : Wifi.boot.Marks := ⟨by simp [Wifi.boot, sinceGotIp], by simp [Wifi.boot, sinceGotIp]⟩

end catbox.wifi
