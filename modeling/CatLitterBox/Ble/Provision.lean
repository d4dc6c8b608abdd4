import CatLitterBox.Ble.Parse
import CatLitterBox.Program.Rely

open text json program program.Program catbox.wifi temporal

namespace catbox.ble

/-- What of a connection attempt bears on its verdict, as it happens. -/
inductive Occurrence where
  | configured (ssid password : Bytes)
  | cleared
  | event (e : Event)
deriving DecidableEq

/-- The variables of `wifi_task.c`, how the driver would answer, and what has occurred since the
call, the latest first. -/
structure Attempt where
  vars : Wifi
  driver : Driver
  trace : List Occurrence

/-- What the event loop and the driver may do between two statements of the call. -/
inductive Happens where
  | event (e : Event)
  | driver (d : Driver)

def Attempt.occurs (s : Attempt) : Act → List Occurrence
  | .esp_wifi_set_config ssid password => if s.driver.set_config then [.configured ssid password] else []
  | .xEventGroupClearBits => [.cleared]
  | _ => []

def Attempt.perform (a : Act) (s : Attempt) : a.Answer × Attempt :=
  ((a.perform s.driver s.vars).1,
    { s with vars := (a.perform s.driver s.vars).2, trace := s.occurs a ++ s.trace })

def Attempt.change (s : Attempt) : Happens → Attempt
  | .event e => { s with vars := wifi_event_handler s.vars e, trace := .event e :: s.trace }
  | .driver d => { s with driver := d }

/-- What `wifi_prov` reports, and whether it requests the credentials to be saved. -/
structure Verdict where
  result : Bytes
  save : Bool
deriving DecidableEq

/-- The verdict of `wifi_prov` upon the bits after `Wifi_Connect`. -/
def verdict (bits : WifiBits) : Verdict := ⟨wifi_result bits, bits.WIFI_CONNECTED_BIT⟩

/-- A call of `Wifi_Connect`. -/
def attempt (ssid password : Bytes) (vars : Wifi) (driver : Driver) : Shared Act Act.Answer Unit Attempt :=
  ⟨Wifi_Connect ssid password, vars, driver, []⟩

/-- A call of `Wifi_Connect` by `wifi_prov` in any state, up to the reading of the bits. -/
structure Provisioning where
  ssid : Bytes
  password : Bytes
  vars : Wifi
  driver : Driver
  turns : List (Turn Happens)
  ended : ((attempt ssid password vars driver).run Attempt.perform Attempt.change turns).code.result = some ()

/-- The attempt when the bits are read. -/
def Provisioning.reading (p : Provisioning) : Attempt :=
  ((attempt p.ssid p.password p.vars p.driver).run Attempt.perform Attempt.change p.turns).state

/-- A got-IP event has been handled after the station was configured with the credentials. -/
def Provisioning.granted (p : Provisioning) : Prop :=
  ∃ after before, p.reading.trace = after ++ .configured p.ssid p.password :: before ∧
    .event .IP_EVENT_STA_GOT_IP ∈ after

/-- Success is reported, and the saving requested, only if the new credentials have been granted. -/
def Provisioning.Honest (p : Provisioning) : Prop :=
  p.granted ∨ verdict p.reading.vars.bits = ⟨ascii "\x7b\"result\":\"auth_fail\"\x7d", false⟩ ∨
    verdict p.reading.vars.bits = ⟨ascii "\x7b\"result\":\"timeout\"\x7d", false⟩

/-- A got-IP event has been handled since the bits were cleared, or WIFI_CONNECTED_BIT was set before
and has not been cleared. -/
def got_ip (before : Bool) : List Occurrence → Bool
  | [] => before
  | .event .IP_EVENT_STA_GOT_IP :: _ => true
  | .cleared :: _ => false
  | _ :: trace => got_ip before trace

/-- The driver has accepted the configuration, and the credentials fit into it uncut, or nothing has
set WIFI_CONNECTED_BIT. -/
def Provisioning.Sure (p : Provisioning) : Prop :=
  (.configured (p.ssid.take 31) (p.password.take 63) ∈ p.reading.trace ∧
      p.ssid.length ≤ 31 ∧ p.password.length ≤ 63) ∨
    got_ip p.vars.bits.WIFI_CONNECTED_BIT p.reading.trace = false

section attempt

variable {before : Bool} {s : Attempt}

/-- WIFI_CONNECTED_BIT tells what `got_ip` tells of the trace. -/
def Attempt.Tells (before : Bool) (s : Attempt) : Prop := s.vars.bits.WIFI_CONNECTED_BIT = got_ip before s.trace

/-- Every action of the attempt leaves the connected bit as the trace tells. -/
theorem Attempt.Tells.perform (h : s.Tells before) (a : Act) : (s.perform a).2.Tells before := by
  cases a with
  | esp_wifi_set_config ssid password =>
    simp only [Attempt.perform, Attempt.occurs]
    split <;> exact h
  | xEventGroupClearBits => rfl
  | _ => exact h

/-- What happens meanwhile sets and clears the connected bit as the events say. -/
theorem Attempt.Tells.change (h : s.Tells before) (e : Happens) : (s.change e).Tells before := by
  cases e with
  | driver d => exact h
  | event e =>
    cases e with
    | WIFI_EVENT_STA_START => exact h
    | IP_EVENT_STA_GOT_IP => rfl
    | WIFI_EVENT_STA_DISCONNECTED =>
      have hbit : (wifi_event_handler s.vars .WIFI_EVENT_STA_DISCONNECTED).bits.WIFI_CONNECTED_BIT =
          s.vars.bits.WIFI_CONNECTED_BIT := by
        unfold wifi_event_handler
        simp only
        split_ifs <;> rfl
      exact hbit.trans h

end attempt

section trace

variable {P : List Occurrence → Prop} {ssid password : Bytes}

/-- Between two statements nothing but events occurs. -/
def provisioning : Spec Act Act.Answer Attempt :=
  .rely Attempt.perform (Changes Attempt.change fun _ _ => True) fun _ _ => True

/-- More events do not matter. -/
def EventClosed (P : List Occurrence → Prop) : Prop := ∀ e trace, P trace → P (.event e :: trace)

def Events (trace : List Occurrence) : Prop := ∀ o ∈ trace, ∃ e, o = .event e

def Configured (ssid password : Bytes) (trace : List Occurrence) : Prop :=
  ∃ after before, trace = after ++ .configured ssid password :: before ∧ Events after ∧ Events before

/-- The bits have been cleared for an attempt with this configuration. -/
def Attempted (ssid password : Bytes) (trace : List Occurrence) : Prop :=
  ∃ after before, trace = after ++ .cleared :: before ∧ Events after ∧ Configured ssid password before

/-- One more event, and there is still nothing but events. -/
theorem Events.cons {trace : List Occurrence} (h : Events trace) (e : Event) : Events (.event e :: trace) := by
  intro o ho
  rcases List.mem_cons.mp ho with rfl | ho
  · exact ⟨e, rfl⟩
  · exact h o ho

theorem events_closed : EventClosed Events := fun e _ h => h.cons e

theorem configured_closed : EventClosed (Configured ssid password) := by
  rintro e _ ⟨after, before, rfl, hafter, hbefore⟩
  exact ⟨.event e :: after, before, rfl, hafter.cons e, hbefore⟩

theorem attempted_closed : EventClosed (Attempted ssid password) := by
  rintro e _ ⟨after, before, rfl, hafter, hbefore⟩
  exact ⟨.event e :: after, before, rfl, hafter.cons e, hbefore⟩

/-- What holds of a trace holds after all that happens between two actions. -/
theorem EventClosed.changes (hP : EventClosed P) {s t : Attempt}
    (h : Changes Attempt.change (fun _ _ => True) s t) (hs : P s.trace) : P t.trace := by
  refine h.keep (I := fun s => P s.trace) ?_ hs
  intro s e _ hs
  cases e with
  | event e => exact hP e _ hs
  | driver d => exact hs

/-- A statement that leaves no trace. -/
def Act.silent (a : Act) : Prop := ∀ s : Attempt, s.occurs a = []

/-- An action that leaves no mark keeps what does not depend on events. -/
theorem EventClosed.keeps (hP : EventClosed P) {a : Act} (ha : Act.silent a) :
    provisioning.Keeps (fun s => P s.trace) a := by
  refine keeps_rely (fun s t henv hs => hP.changes henv hs) ?_
  intro s _ hs
  change P (s.occurs a ++ s.trace)
  rw [ha]
  exact hs

/-- Code whose actions leave no mark keeps such a property from its start to its end. -/
theorem EventClosed.wp (hP : EventClosed P) {α : Type} {c : Code α} {Q : α → Attempt → Prop} {s : Attempt}
    (hc : c.Every Act.silent) (hs : P s.trace) (hQ : ∀ x t, P t.trace → Q x t) : c.wp provisioning Q s :=
  wp_of_keeps (every_mono (fun _ ha => hP.keeps ha) hc) hs hQ

/-- A statement, before which only events occur. -/
theorem EventClosed.wp_perform (hP : EventClosed P) {a : Act} {β : Type} {f : a.Answer → Code β}
    {Q : β → Attempt → Prop} {s : Attempt} (hs : P s.trace)
    (hf : ∀ u : Attempt, P u.trace → (f (u.perform a).1).wp provisioning Q (u.perform a).2) :
    ((Program.perform a : Code a.Answer).bind f).wp provisioning Q s := by
  refine wp_perform_bind trivial ?_
  rintro r t ⟨u, henv, -, hanswer⟩
  have hr : (u.perform a).1 = r := by rw [hanswer]
  have ht : (u.perform a).2 = t := by rw [hanswer]
  exact hr ▸ ht ▸ hf u (hP.changes henv hs)

private theorem Wifi_Disconnect_silent : Wifi_Disconnect.Every Act.silent := by
  refine every_perform_bind (fun _ => rfl) fun status => every_ite ?_ trivial
  exact every_perform_bind (fun _ => rfl) fun _ => every_perform_bind (fun _ => rfl) fun _ =>
    every_perform fun _ => rfl

/-- `Wifi_Connect` leaves nothing but events when the driver refuses the configuration, and otherwise
clears the bits for an attempt with the credentials, cut to size. -/
theorem Wifi_Connect_wp {s : Attempt} (hs : Events s.trace) : (Wifi_Connect ssid password).wp provisioning
    (fun _ t => Events t.trace ∨ Attempted (ssid.take 31) (password.take 63) t.trace) s := by
  refine wp_seq (events_closed.wp Wifi_Disconnect_silent hs fun _ t ht => ?_)
  refine events_closed.wp_perform ht fun u hu => ?_
  have hanswer : (u.perform (.esp_wifi_set_config (ssid.take 31) (password.take 63))).1 = u.driver.set_config :=
    rfl
  have htrace : (u.perform (.esp_wifi_set_config (ssid.take 31) (password.take 63))).2.trace =
      (if u.driver.set_config then [.configured (ssid.take 31) (password.take 63)] else []) ++ u.trace := rfl
  rw [hanswer]
  cases hdriver : u.driver.set_config with
  | false =>
    rw [hdriver] at htrace
    refine events_closed.wp (every_perform fun _ => rfl) ?_ fun _ t ht => .inl ht
    rw [htrace]
    exact hu
  | true =>
    have hconfigured : Configured (ssid.take 31) (password.take 63)
        (u.perform (.esp_wifi_set_config (ssid.take 31) (password.take 63))).2.trace := by
      rw [htrace, hdriver]
      exact ⟨[], u.trace, rfl, nofun, hu⟩
    refine configured_closed.wp_perform hconfigured fun v hv => ?_
    have hattempted : Attempted (ssid.take 31) (password.take 63) (v.perform .xEventGroupClearBits).2.trace :=
      ⟨[], v.trace, rfl, nofun, hv⟩
    refine attempted_closed.wp ?_ hattempted fun _ t ht => .inr ht
    refine every_perform_bind (fun _ => rfl) fun _ => every_perform_bind (fun _ => rfl) fun _ => ?_
    exact every_perform_bind (fun _ => rfl) fun bits => every_ite (every_perform fun _ => rfl) trivial

end trace

section provisioning

variable (p : Provisioning)

theorem Provisioning.tells : p.reading.Tells p.vars.bits.WIFI_CONNECTED_BIT :=
  Shared.run_invariant (c := attempt p.ssid p.password p.vars p.driver)
    (I := Attempt.Tells p.vars.bits.WIFI_CONNECTED_BIT) (fun a _ h => h.perform a)
      (fun _ e h => h.change e) rfl p.turns

/-- What has occurred when the bits are read. -/
theorem Provisioning.trace_cases : Events p.reading.trace ∨
    Attempted (p.ssid.take 31) (p.password.take 63) p.reading.trace := by
  have hstart : (attempt p.ssid p.password p.vars p.driver).holds Attempt.perform Attempt.change
      (fun _ _ => True) (fun _ _ => True)
      (fun _ t => Events t.trace ∨ Attempted (p.ssid.take 31) (p.password.take 63) t.trace) :=
    ⟨⟨p.vars, p.driver, []⟩, Wifi_Connect_wp nofun, .refl⟩
  obtain ⟨t, ht, henv⟩ := Shared.holds_run hstart
    (along_of_forall (fun _ turn => by cases turn <;> simp [Shared.permits]) p.turns _)
  rcases wp_result ht p.ended with hevents | hattempted
  · exact .inl (events_closed.changes henv hevents)
  · exact .inr (attempted_closed.changes henv hattempted)

/-- No credentials are configured by events alone. -/
theorem configured_not_mem_events {trace : List Occurrence} {ssid password : Bytes} (h : Events trace) :
    .configured ssid password ∉ trace := by
  intro hmem
  obtain ⟨e, he⟩ := h _ hmem
  cases he

/-- The station is configured once. -/
theorem Attempted.unique {trace : List Occurrence} {ssid password ssid' password' : Bytes}
    (h : Attempted ssid password trace) (hmem : .configured ssid' password' ∈ trace) :
    ssid' = ssid ∧ password' = password := by
  obtain ⟨after, _, rfl, hafter, between, before, rfl, hbetween, hbefore⟩ := h
  simp only [List.mem_append, List.mem_cons, configured_not_mem_events hafter,
    configured_not_mem_events hbetween,
    configured_not_mem_events hbefore, false_or, or_false, reduceCtorEq, Occurrence.configured.injEq] at hmem
  exact hmem

/-- After the clearing only a got-IP event sets the bit. -/
theorem got_ip_since_cleared {after rest : List Occurrence} {before : Bool} (hafter : Events after)
    (h : got_ip before (after ++ .cleared :: rest) = true) : .event .IP_EVENT_STA_GOT_IP ∈ after := by
  induction after with
  | nil => cases h
  | cons o after ih =>
    obtain ⟨e, rfl⟩ := hafter o List.mem_cons_self
    have hrest : Events after := fun o ho => hafter o (List.mem_cons_of_mem _ ho)
    cases e with
    | IP_EVENT_STA_GOT_IP => exact List.mem_cons_self
    | _ => exact List.mem_cons_of_mem _ (ih hrest h)

/-- The verdict is a failure exactly when the connected bit is clear. -/
theorem verdict_fails_iff (bits : WifiBits) :
    (verdict bits = ⟨ascii "\x7b\"result\":\"auth_fail\"\x7d", false⟩ ∨
      verdict bits = ⟨ascii "\x7b\"result\":\"timeout\"\x7d", false⟩) ↔ bits.WIFI_CONNECTED_BIT = false := by
  obtain ⟨connected, fail⟩ := bits
  cases connected <;> cases fail <;> decide

theorem Provisioning.granted_of_fitting {p : Provisioning}
    (haccepted : .configured (p.ssid.take 31) (p.password.take 63) ∈ p.reading.trace)
    (hssid : p.ssid.length ≤ 31) (hpassword : p.password.length ≤ 63)
    (hbit : got_ip p.vars.bits.WIFI_CONNECTED_BIT p.reading.trace = true) : p.granted := by
  rcases p.trace_cases with hevents | ⟨after, _, htrace, hafter, between, before, rfl, -, -⟩
  · exact absurd haccepted (configured_not_mem_events hevents)
  · rw [htrace] at hbit
    rw [List.take_of_length_le hssid, List.take_of_length_le hpassword] at htrace
    refine ⟨after ++ .cleared :: between, before, ?_, List.mem_append_left _ (got_ip_since_cleared hafter hbit)⟩
    rw [htrace, List.append_assoc, List.cons_append]

theorem Provisioning.fitting_of_granted {p : Provisioning} (h : p.granted) :
    .configured (p.ssid.take 31) (p.password.take 63) ∈ p.reading.trace ∧
      p.ssid.length ≤ 31 ∧ p.password.length ≤ 63 := by
  obtain ⟨after, before, htrace, -⟩ := h
  have hmem : .configured p.ssid p.password ∈ p.reading.trace := by
    rw [htrace]
    exact List.mem_append_right _ List.mem_cons_self
  rcases p.trace_cases with hevents | hattempted
  · exact absurd hmem (configured_not_mem_events hevents)
  · obtain ⟨hssid, hpassword⟩ := hattempted.unique hmem
    refine ⟨?_, List.take_eq_self_iff _ |>.mp hssid.symm, List.take_eq_self_iff _ |>.mp hpassword.symm⟩
    rwa [← hssid, ← hpassword]

/-- Success is reported for the new credentials only, exactly if the driver has accepted them and they
have not been cut, or no got-IP event has set the bit. -/
theorem wifi_prov_honest_iff (p : Provisioning) : p.Honest ↔ p.Sure := by
  have htells : p.reading.vars.bits.WIFI_CONNECTED_BIT = _ := p.tells
  unfold Provisioning.Honest Provisioning.Sure
  rw [verdict_fails_iff, htells]
  constructor
  · rintro (hgranted | hclear)
    · exact .inl (Provisioning.fitting_of_granted hgranted)
    · exact .inr hclear
  · rintro (⟨haccepted, hssid, hpassword⟩ | hclear)
    · cases hbit : got_ip p.vars.bits.WIFI_CONNECTED_BIT p.reading.trace with
      | false => exact .inr rfl
      | true => exact .inl (Provisioning.granted_of_fitting haccepted hssid hpassword hbit)
    · exact .inr hclear

end provisioning

/-- A device that is connected, and a driver that refuses the configuration. -/
def refused : Provisioning where
  ssid := ascii "home"
  password := ascii "wrong"
  vars := { Wifi.boot with bits.WIFI_CONNECTED_BIT := true }
  driver := ⟨false, false, false⟩
  turns := [.own, .own, .own]
  ended := rfl

/-- The success of an earlier connection is reported for credentials that were never tried. -/
theorem refused_not_honest : ¬ ∀ p : Provisioning, p.Honest := by
  intro hall
  rcases hall refused with ⟨after, before, htrace, -⟩ | hfails
  · have hnothing : refused.reading.trace = [] := rfl
    rw [hnothing] at htrace
    simp at htrace
  · exact absurd ((verdict_fails_iff _).mp hfails) (by decide)

end catbox.ble
