import CatLitterBox.Ble.Parse
import CatLitterBox.Temporal.Run

open text json temporal

namespace catbox.ble

/-- What reaches the device: a message of a BLE peer, an MQTT message, a connection or
disconnection of the phone, and the expiry of the motion timer. -/
inductive Input where
  | message (mac data : Bytes) (w : Surroundings)
  | mqtt (thing_name payload : Bytes) (w : Surroundings)
  | connect
  | disconnect
  | motion_timeout

variable {Ecdh : Type} (L : Library Ecdh)

/-- The device after an input, with what it has done outside its variables. -/
def Device.handle (d : Device Ecdh) : Input → Device Ecdh × List Effect
  | .message mac data w => BLE_Receive_data L w mac data d
  | .mqtt thing_name payload w => mqtt_rx_messege L w thing_name payload d
  | .connect => ({ d with is_phone_connected := true }, [])
  | .disconnect => ({ d with is_phone_connected := false }, [])
  | .motion_timeout => Motion_Timeout_callback d

/-- The object of a message that is handled as a JSON command, with its event type. -/
def app_request (w : Surroundings) (data : Bytes) : Option (Bytes × cJSON) :=
  if byte w data 0 = MOTION_START_RESPONSE ∨ byte w data 0 = MOTION_DATA ∨
    byte w data 0 = HEALTH_DATA_RESPONSE then none
  else
    match L.cJSON_Parse (cstring (data.take 255)) with
    | none => none
    | some root => (L.string_item root (ascii "event_type")).map fun event_type => (event_type, root)

/-- The public key and the random bytes of an input that asks for a key exchange. -/
def exchange_request : Input → Option (Entropy × Bytes)
  | .message _ data w =>
    match app_request L w data with
    | some (event_type, root) =>
      if event_type = ascii "key_exchange" then
        ((L.cJSON_GetObjectItem root (ascii "data")).bind (L.string_item · (ascii "pub_key"))).map fun pub =>
        (w.exchange, pub)
      else none
    | none => none
  | _ => none

/-- The key of the latest exchange, if it went through, after one more input. -/
def latest_key (latest : Option Bytes) (i : Input) (effects : List Effect) : Option Bytes :=
  if .LoadProhibited ∈ effects then none
  else
    match exchange_request L i with
    | some (entropy, pub) => agreed_key L entropy pub
    | none => latest

/-- The device, and the key that its latest key exchange since the boot has derived. -/
structure Link (Ecdh : Type) where
  device : Device Ecdh
  latest : Option Bytes

def Link.boot (config : Config) : Link Ecdh := ⟨Device.boot L config, none⟩

def Link.step (s : Link Ecdh) (i : Input) : Link Ecdh :=
  let (device, effects) := s.device.handle L i
  ⟨device, latest_key L s.latest i effects⟩

/-- A command has taken effect, or an event has been encrypted, under this key. -/
def Effect.under (key : Bytes) : Effect → Prop
  | .set_env k _ | .wifi_prov k _ _ | .encrypted_event k _ _ => k = key
  | _ => False

/-- Commands and events are under the key of the latest exchange, with `is_encrypted` set,
and an exchange is acknowledged only if it has derived a key. -/
structure Gated (s : Link Ecdh) (i : Input) : Prop where
  session : ∀ e ∈ (s.device.handle L i).2, ∀ key, e.under key →
    s.device.session.is_encrypted = true ∧ s.latest = some key
  acknowledged : ∀ payload, .key_exchange_ack payload ∈ (s.device.handle L i).2 →
    ∃ entropy pub, exchange_request L i = some (entropy, pub) ∧ (agreed_key L entropy pub).isSome

/-- The object in a message's field `data` decrypts, under this key, to an object with a
string of that name. -/
def sealed (w : Surroundings) (key : Bytes) (root : cJSON) (name : Bytes) : Prop :=
  ∃ plaintext,
    ble_decrypt_json_data L w key (L.cJSON_GetObjectItem root (ascii "data")) = .plaintext plaintext ∧
    ((L.cJSON_Parse plaintext).bind (L.string_item · name)).isSome

/-- An input on which the device uses the key in its session. -/
inductive UsesKey (key : Bytes) : Input → Prop where
  | set_env {mac data w root} : app_request L w data = some (ascii "set_env", root) →
      sealed L w key root (ascii "env") → UsesKey key (.message mac data w)
  | wifi_prov {mac data w root} : app_request L w data = some (ascii "wifi_prov", root) →
      sealed L w key root (ascii "ssid") → UsesKey key (.message mac data w)
  | scan_wifi {mac data w root} : app_request L w data = some (ascii "scan_wifi", root) →
      UsesKey key (.message mac data w)
  | registration {thing_name payload w root} : payload ≠ [] → L.cJSON_Parse (cstring payload) = some root →
      L.string_item root (ascii "event_type") = some (ascii "registration") →
      L.string_item root (ascii "result") = some (ascii "ok") → UsesKey key (.mqtt thing_name payload w)

/-- The input is handled within a session: the key is used only while `is_encrypted` is set,
and a key exchange for which the device has a key pair brings a valid public key. -/
structure InSession (s : Link Ecdh) (i : Input) : Prop where
  encrypted : UsesKey L s.device.session.session_key i → s.device.session.is_encrypted = true
  valid : ∀ entropy pub, exchange_request L i = some (entropy, pub) →
    (ble_crypto_init_and_get_pubkey L entropy).2.isSome →
      ValidPubkey L entropy pub (ble_crypto_init_and_get_pubkey L entropy).1.ecdh

variable {L}

/-- An effect that neither uses a key nor belongs to an exchange or a restart. -/
def Effect.quiet : Effect → Prop
  | .key_exchange_ack _ | .encrypted_event .. | .set_env .. | .wifi_prov .. | .LoadProhibited => False
  | _ => True

/-- What the handling of an input can come to. -/
inductive Handled (L : Library Ecdh) (d : Device Ecdh) (i : Input) : Prop where
  | quiet (session : (d.handle L i).1.session = d.session) (effects : ∀ e ∈ (d.handle L i).2, e.quiet)
      (request : exchange_request L i = none) (unused : ¬ UsesKey L d.session.session_key i)
  | restart (session : (d.handle L i).1.session = Session.boot L)
      (effects : (d.handle L i).2 = [.LoadProhibited])
      (request : exchange_request L i = none) (unused : ¬ UsesKey L d.session.session_key i)
  | exchange (entropy : Entropy) (pub : Bytes) (request : exchange_request L i = some (entropy, pub))
      (session : (d.handle L i).1.session.key = agreed_key L entropy pub)
      (effects : ∀ e, e ∈ (d.handle L i).2 ↔
        ∃ dev_pub, (ble_crypto_init_and_get_pubkey L entropy).2 = some dev_pub ∧
        e = .key_exchange_ack (key_exchange_ack_json dev_pub))
      (unused : ¬ UsesKey L d.session.session_key i)
  | uses (used : UsesKey L d.session.session_key i) (session : (d.handle L i).1.session = d.session)
      (event : ∃ e ∈ (d.handle L i).2, e.under d.session.session_key)
      (effects : ∀ e ∈ (d.handle L i).2, e.under d.session.session_key ∨ e.quiet)
      (request : exchange_request L i = none)

section message

variable {d : Device Ecdh} {mac data : Bytes} {w : Surroundings} {event_type : Bytes} {root : cJSON}

/-- A message uses the key exactly if it is one of the requests with sealed fields, or asks for a
scan. -/
theorem usesKey_message_iff {key : Bytes} : UsesKey L key (.message mac data w) ↔
    ∃ event_type root, app_request L w data = some (event_type, root) ∧
      (event_type = ascii "set_env" ∧ sealed L w key root (ascii "env") ∨
        event_type = ascii "wifi_prov" ∧ sealed L w key root (ascii "ssid") ∨
        event_type = ascii "scan_wifi") := by
  constructor
  · intro hused
    cases hused with
    | set_env hrequest hsealed => exact ⟨_, _, hrequest, .inl ⟨rfl, hsealed⟩⟩
    | wifi_prov hrequest hsealed => exact ⟨_, _, hrequest, .inr (.inl ⟨rfl, hsealed⟩)⟩
    | scan_wifi hrequest => exact ⟨_, _, hrequest, .inr (.inr rfl)⟩
  · rintro ⟨event_type, root, hrequest, ⟨rfl, hsealed⟩ | ⟨rfl, hsealed⟩ | rfl⟩
    · exact .set_env hrequest hsealed
    · exact .wifi_prov hrequest hsealed
    · exact .scan_wifi hrequest

/-- A message that is no JSON command leaves the session alone. -/
theorem receive_of_no_request (h : app_request L w data = none) :
    (BLE_Receive_data L w mac data d).1.session = d.session ∧
      ∀ e ∈ (BLE_Receive_data L w mac data d).2, e.quiet := by
  unfold app_request at h
  unfold BLE_Receive_data
  split_ifs with hstart hdata hhealth
  · unfold motion_start_response
    simp only
    split_ifs
    · exact ⟨rfl, by simp⟩
    · exact ⟨rfl, by simp⟩
  · unfold motion_data
    simp only
    split_ifs
    · exact ⟨rfl, by simp [Effect.quiet]⟩
    · exact ⟨rfl, by simp [Effect.quiet]⟩
  · exact ⟨rfl, by simp⟩
  · rw [if_neg (by simp [hstart, hdata, hhealth])] at h
    unfold BLE_APP_Command
    simp only
    cases hroot : L.cJSON_Parse (cstring (data.take 255)) with
    | none =>
      unfold app_text_command
      simp only
      split_ifs with hscan hota
      · exact ⟨rfl, by simp [Effect.quiet]⟩
      · exact ⟨rfl, by simp⟩
      · split
        · split_ifs
          · exact ⟨rfl, by simp [Effect.quiet]⟩
          · exact ⟨rfl, by simp⟩
        · exact ⟨rfl, by simp⟩
    | some root =>
      rw [hroot] at h
      have hnone : L.string_item root (ascii "event_type") = none := by simpa using h
      simp [app_json_command, hnone]

/-- A JSON command goes to the branch of its event type. -/
theorem receive_of_request (h : app_request L w data = some (event_type, root)) :
    BLE_Receive_data L w mac data d =
      if event_type = ascii "mtu_info" then mtu_info L root d
      else if event_type = ascii "key_exchange" then key_exchange L w root d
      else if event_type = ascii "set_env" then set_env L w root d
      else if event_type = ascii "scan_wifi" then scan_wifi L w d
      else if event_type = ascii "wifi_prov" then wifi_prov L w root d
      else (d, []) := by
  unfold app_request at h
  split_ifs at h with hmotion
  rw [not_or, not_or] at hmotion
  obtain ⟨hstart, hdata, hhealth⟩ := hmotion
  unfold BLE_Receive_data BLE_APP_Command
  rw [if_neg hstart, if_neg hdata, if_neg hhealth]
  simp only
  cases hroot : L.cJSON_Parse (cstring (data.take 255)) with
  | none => simp [hroot] at h
  | some parsed =>
    rw [hroot] at h
    simp only [Option.map_eq_some_iff, Prod.mk.injEq] at h
    obtain ⟨_, hevent, rfl, rfl⟩ := h
    simp only [app_json_command, hevent]

theorem exchange_request_of_other (h : app_request L w data = some (event_type, root))
    (hother : event_type ≠ ascii "key_exchange") : exchange_request L (.message mac data w) = none := by
  simp [exchange_request, h, hother]

/-- Asking for the MTU sends nothing, and the session stays as it was. -/
theorem mtu_info_session : (mtu_info L root d).1.session = d.session ∧ (mtu_info L root d).2 = [] := by
  unfold mtu_info
  split <;> exact ⟨rfl, rfl⟩

/-- An exchange leaves the key that it derives, or none. -/
theorem key_exchange_session {pub : Bytes}
    (h : (L.cJSON_GetObjectItem root (ascii "data")).bind (L.string_item · (ascii "pub_key")) = some pub) :
    (key_exchange L w root d).1.session.key = agreed_key L w.exchange pub ∧
      ∀ e, e ∈ (key_exchange L w root d).2 ↔
      ∃ dev_pub, (ble_crypto_init_and_get_pubkey L w.exchange).2 = some dev_pub ∧
        e = .key_exchange_ack (key_exchange_ack_json dev_pub) := by
  obtain ⟨hencrypted, -⟩ := init_spec (L := L) w.exchange
  unfold key_exchange agreed_key
  simp only [h]
  generalize ble_crypto_init_and_get_pubkey L w.exchange = init at hencrypted
  obtain ⟨session, _ | dev_pub⟩ := init
  · simp only at hencrypted
    exact ⟨by simp [Session.key, hencrypted], by simp⟩
  · have hcomputed := compute_is_encrypted (L := L) w.exchange pub hencrypted
    simp only at hcomputed ⊢
    generalize ble_crypto_compute_session_key L w.exchange pub session = computed at hcomputed
    obtain ⟨session, _ | _⟩ := computed
    · exact ⟨by simpa [Session.key] using hcomputed, by simp⟩
    · exact ⟨by simpa [Session.key] using hcomputed, by simp⟩

theorem event_under (key event_type plain : Bytes) :
    (ble_send_encrypted_event L w key event_type plain).under key := rfl

/-- What a command that uses the key comes to: nothing, a restart, or effects under the key. -/
inductive KeyCommand (d : Device Ecdh) (used : Prop) (result : Device Ecdh × List Effect) : Prop where
  | nothing (session : result.1.session = d.session) (effects : result.2 = []) (unused : ¬ used)
  | restart (session : result.1.session = Session.boot L)
      (effects : result.2 = [.LoadProhibited]) (unused : ¬ used)
  | done (session : result.1.session = d.session) (event : ∃ e ∈ result.2, e.under d.session.session_key)
      (effects : ∀ e ∈ result.2, e.under d.session.session_key ∨ e.quiet) (used : used)

theorem set_env_command :
    KeyCommand (L := L) d (sealed L w d.session.session_key root (ascii "env")) (set_env L w root d) := by
  unfold set_env sealed
  cases hdata : ble_decrypt_json_data L w d.session.session_key (L.cJSON_GetObjectItem root (ascii "data")) with
  | NULL => exact .nothing rfl rfl (by simp)
  | LoadProhibited => exact .restart rfl rfl (by simp)
  | plaintext plaintext =>
    simp only
    cases henv : (L.cJSON_Parse plaintext).bind (L.string_item · (ascii "env")) with
    | none => exact .nothing rfl rfl (by simp [henv])
    | some env =>
      have hsealed : ∃ text, Decrypted.plaintext plaintext = .plaintext text ∧
          ((L.cJSON_Parse text).bind (L.string_item · (ascii "env"))).isSome = true :=
        ⟨plaintext, rfl, by rw [henv]; rfl⟩
      simp only
      split_ifs with hmode
      · refine .done rfl ⟨_, List.mem_cons_self, rfl⟩ ?_ hsealed
        intro e he
        simp only [List.mem_cons, List.not_mem_nil, or_false] at he
        obtain rfl | rfl := he
        · exact .inl rfl
        · exact .inl (event_under _ _ _)
      · refine .done rfl ⟨_, List.mem_cons_self, event_under _ _ _⟩ ?_ hsealed
        intro e he
        rw [List.mem_singleton] at he
        rw [he]
        exact .inl (event_under _ _ _)

theorem wifi_prov_command :
    KeyCommand (L := L) d (sealed L w d.session.session_key root (ascii "ssid")) (wifi_prov L w root d) := by
  unfold wifi_prov sealed
  cases hdata : ble_decrypt_json_data L w d.session.session_key (L.cJSON_GetObjectItem root (ascii "data")) with
  | NULL => exact .nothing rfl rfl (by simp)
  | LoadProhibited => exact .restart rfl rfl (by simp)
  | plaintext plaintext =>
    simp only
    cases hjson : L.cJSON_Parse plaintext with
    | none => exact .nothing rfl rfl (by simp [hjson])
    | some prov_json =>
      simp only
      cases hssid : L.string_item prov_json (ascii "ssid") with
      | none => exact .nothing rfl rfl (by simp [hjson, hssid])
      | some ssid =>
        have hsealed : ∃ text, Decrypted.plaintext plaintext = .plaintext text ∧
            ((L.cJSON_Parse text).bind (L.string_item · (ascii "ssid"))).isSome = true :=
          ⟨plaintext, rfl, by rw [hjson, Option.bind_some, hssid]; rfl⟩
        refine .done rfl ⟨_, List.mem_cons_self, rfl⟩ ?_ hsealed
        intro e he
        simp only [List.mem_append, List.mem_cons, List.not_mem_nil, or_false] at he
        obtain ((rfl | rfl) | hsaved) | rfl := he
        · exact .inl rfl
        · exact .inr trivial
        · split_ifs at hsaved
          · rw [List.mem_singleton] at hsaved
            rw [hsaved]
            exact .inr trivial
          · cases hsaved
        · exact .inl (event_under _ _ _)

theorem scan_wifi_command : KeyCommand (L := L) d True (scan_wifi L w d) := by
  refine .done rfl ⟨_, List.mem_cons_of_mem _ List.mem_cons_self, event_under _ _ _⟩ ?_ trivial
  intro e he
  unfold scan_wifi at he
  simp only [List.mem_cons, List.not_mem_nil, or_false] at he
  obtain rfl | rfl := he
  · exact .inr trivial
  · exact .inl (event_under _ _ _)

theorem usesKey_of_request_iff {key : Bytes} (h : app_request L w data = some (event_type, root)) :
    UsesKey L key (.message mac data w) ↔
      event_type = ascii "set_env" ∧ sealed L w key root (ascii "env") ∨
        event_type = ascii "wifi_prov" ∧ sealed L w key root (ascii "ssid") ∨
        event_type = ascii "scan_wifi" := by
  rw [usesKey_message_iff, h]
  constructor
  · rintro ⟨_, _, heq, hcase⟩
    cases heq
    exact hcase
  · intro hcase
    exact ⟨_, _, rfl, hcase⟩

/-- Any other request uses no key. -/
theorem not_usesKey_of_other {key : Bytes} (h : app_request L w data = some (event_type, root))
    (hset_env : event_type ≠ ascii "set_env") (hwifi_prov : event_type ≠ ascii "wifi_prov")
    (hscan_wifi : event_type ≠ ascii "scan_wifi") : ¬ UsesKey L key (.message mac data w) := by
  rw [usesKey_of_request_iff h]
  rintro (⟨rfl, -⟩ | ⟨rfl, -⟩ | rfl)
  · exact hset_env rfl
  · exact hwifi_prov rfl
  · exact hscan_wifi rfl

/-- The handling of a command that uses the key. -/
theorem KeyCommand.handled {used : Prop} {i : Input} (h : KeyCommand (L := L) d used (d.handle L i))
    (hused : UsesKey L d.session.session_key i ↔ used) (hrequest : exchange_request L i = none) :
      Handled L d i := by
  cases h with
  | nothing session effects unused =>
    refine .quiet session ?_ hrequest (hused.not.mpr unused)
    rw [effects]
    simp
  | restart session effects unused => exact .restart session effects hrequest (hused.not.mpr unused)
  | done session event effects used => exact .uses (hused.mpr used) session event effects hrequest

/-- A JSON command other than `key_exchange` goes to the handler of its event type. -/
theorem KeyCommand.handled_message {used : Prop} {result : Device Ecdh × List Effect}
    (hcommand : KeyCommand (L := L) d used result) (h : app_request L w data = some (event_type, root))
    (hother : event_type ≠ ascii "key_exchange") (hresult : BLE_Receive_data L w mac data d = result)
    (hused : UsesKey L d.session.session_key (.message mac data w) ↔ used) :
    Handled L d (.message mac data w) := by
  subst hresult
  exact hcommand.handled hused (exchange_request_of_other h hother)

/-- The handling of a key exchange. -/
theorem handled_of_key_exchange (h : app_request L w data = some (ascii "key_exchange", root)) :
    Handled L d (.message mac data w) := by
  have hhandle : d.handle L (.message mac data w) = key_exchange L w root d := receive_of_request h
  have hunused : ¬ UsesKey L d.session.session_key (.message mac data w) :=
    not_usesKey_of_other h (by decide) (by decide) (by decide)
  cases hpub : (L.cJSON_GetObjectItem root (ascii "data")).bind (L.string_item · (ascii "pub_key")) with
  | none =>
    have hnothing : key_exchange L w root d = (d, []) := by
      unfold key_exchange
      rw [hpub]
    refine .quiet ?_ ?_ (by simp [exchange_request, h, hpub]) hunused
    · rw [hhandle, hnothing]
    · rw [hhandle, hnothing]
      simp
  | some pub =>
    obtain ⟨hsession, heffects⟩ := key_exchange_session (L := L) (w := w) (d := d) hpub
    refine .exchange w.exchange pub (by simp [exchange_request, h, hpub]) ?_ ?_ hunused
    · rw [hhandle, hsession]
    · rw [hhandle]
      exact heffects

/-- The handling of a JSON command. -/
theorem handled_of_request (h : app_request L w data = some (event_type, root)) :
    Handled L d (.message mac data w) := by
  by_cases hexchange : event_type = ascii "key_exchange"
  · rw [hexchange] at h
    exact handled_of_key_exchange h
  by_cases hset_env : event_type = ascii "set_env"
  · subst hset_env
    refine set_env_command.handled_message h hexchange (receive_of_request h) ?_
    rw [usesKey_of_request_iff h]
    simp [show ascii "set_env" ≠ ascii "wifi_prov" by decide,
      show ascii "set_env" ≠ ascii "scan_wifi" by decide]
  by_cases hscan_wifi : event_type = ascii "scan_wifi"
  · subst hscan_wifi
    refine scan_wifi_command.handled_message h hexchange (receive_of_request h) ?_
    rw [usesKey_of_request_iff h]
    simp
  by_cases hwifi_prov : event_type = ascii "wifi_prov"
  · subst hwifi_prov
    refine wifi_prov_command.handled_message h hexchange (receive_of_request h) ?_
    rw [usesKey_of_request_iff h]
    simp [show ascii "wifi_prov" ≠ ascii "set_env" by decide,
      show ascii "wifi_prov" ≠ ascii "scan_wifi" by decide]
  have hhandle : d.handle L (.message mac data w) =
      if event_type = ascii "mtu_info" then mtu_info L root d else (d, []) := by
    rw [show d.handle L (.message mac data w) = _ from receive_of_request h,
      if_neg hexchange, if_neg hset_env,
      if_neg hscan_wifi, if_neg hwifi_prov]
  have hquiet : (d.handle L (.message mac data w)).1.session = d.session ∧
      (d.handle L (.message mac data w)).2 = [] := by
    rw [hhandle]
    split_ifs
    · exact mtu_info_session
    · exact ⟨rfl, rfl⟩
  refine .quiet hquiet.1 ?_ (exchange_request_of_other h hexchange)
    (not_usesKey_of_other h hset_env hwifi_prov hscan_wifi)
  rw [hquiet.2]
  simp

end message

/-- The handling of an MQTT message. -/
theorem handled_of_mqtt {d : Device Ecdh} {thing_name payload : Bytes} {w : Surroundings} :
    Handled L d (.mqtt thing_name payload w) := by
  by_cases hused : UsesKey L d.session.session_key (.mqtt thing_name payload w)
  · cases hused with
    | registration hpayload hroot hevent hresult =>
      have hhandle : d.handle L (.mqtt thing_name payload w) =
          registration_callback L w thing_name (ascii "ok") d := by
        simp [Device.handle, mqtt_rx_messege, hpayload, hroot, hevent, hresult]
      refine .uses (.registration hpayload hroot hevent hresult) ?_ ?_ ?_ rfl
      · rw [hhandle]
        rfl
      · rw [hhandle]
        exact ⟨_, List.mem_cons_of_mem _ List.mem_cons_self, event_under _ _ _⟩
      · rw [hhandle]
        intro e he
        simp only [registration_callback, if_pos, List.mem_cons, List.not_mem_nil, or_false] at he
        obtain rfl | rfl := he
        · exact .inr trivial
        · exact .inl (event_under _ _ _)
  · have hnothing : d.handle L (.mqtt thing_name payload w) = (d, []) := by
      simp only [Device.handle, mqtt_rx_messege]
      split_ifs with hpayload
      · rfl
      · cases hroot : L.cJSON_Parse (cstring payload) with
        | none => rfl
        | some root =>
          simp only
          split
          · rename_i event_type result hevent hresult
            split_ifs with hregistration
            · unfold registration_callback
              rw [if_neg]
              rintro rfl
              rw [hregistration] at hevent
              exact hused (.registration hpayload hroot hevent hresult)
            · rfl
          · rfl
    refine .quiet ?_ ?_ rfl hused
    · rw [hnothing]
    · rw [hnothing]
      simp

/-- Every input is handled in one of the ways of `Handled`. -/
theorem handled (d : Device Ecdh) (i : Input) : Handled L d i := by
  cases i with
  | message mac data w =>
    cases hrequest : app_request L w data with
    | none =>
      obtain ⟨hsession, heffects⟩ : (BLE_Receive_data L w mac data d).1.session = d.session ∧
          ∀ e ∈ (BLE_Receive_data L w mac data d).2, e.quiet := receive_of_no_request hrequest
      refine .quiet hsession heffects (by simp [exchange_request, hrequest]) ?_
      rw [usesKey_message_iff, hrequest]
      simp
    | some request => exact handled_of_request hrequest
  | mqtt thing_name payload w => exact handled_of_mqtt
  | connect => exact .quiet rfl (by simp [Device.handle]) rfl nofun
  | disconnect => exact .quiet rfl (by simp [Device.handle]) rfl nofun
  | motion_timeout =>
    exact .quiet rfl (by simp [Device.handle, Motion_Timeout_callback, Effect.quiet]) rfl nofun

/-- The session holds the key of the latest exchange, and `is_encrypted` tells whether there
is one. -/
def Link.Tied (s : Link Ecdh) : Prop := s.latest = s.device.session.key

theorem tied_step (s : Link Ecdh) (i : Input) (h : s.Tied) : (s.step L i).Tied := by
  unfold Link.Tied at h ⊢
  change latest_key L s.latest i (s.device.handle L i).2 = (s.device.handle L i).1.session.key
  unfold latest_key
  cases handled (L := L) s.device i with
  | quiet session effects request unused =>
    have hrunning : Effect.LoadProhibited ∉ (s.device.handle L i).2 := fun hload => effects _ hload
    rw [if_neg hrunning, request, session]
    exact h
  | restart session effects request unused =>
    rw [effects, if_pos List.mem_cons_self, session]
    rfl
  | exchange entropy pub request session effects unused =>
    rw [if_neg, request, session]
    intro hload
    obtain ⟨_, _, hack⟩ := (effects _).mp hload
    cases hack
  | uses used session event effects request =>
    rw [if_neg, request, session]
    · exact h
    · intro hload
      obtain hunder | hquiet := effects _ hload
      · exact hunder
      · exact hquiet

theorem Effect.quiet.not_under {e : Effect} {key : Bytes} (h : e.quiet) : ¬ e.under key := by
  intro hunder
  cases e with
  | set_env | wifi_prov | encrypted_event => exact h
  | _ => exact hunder

/-- An effect is encrypted under one key at most. -/
theorem Effect.under.unique {e : Effect} {key key' : Bytes} (h : e.under key) (h' : e.under key') :
    key = key' := by
  cases e with
  | set_env | wifi_prov | encrypted_event => exact h.symm.trans h'
  | _ => exact h.elim

/-- The handling of an input without an effect that uses a key or belongs to an exchange. -/
theorem iff_of_silent {s : Link Ecdh} {i : Input}
    (hunder : ∀ e ∈ (s.device.handle L i).2, ∀ key, ¬ e.under key)
    (hack : ∀ payload, .key_exchange_ack payload ∉ (s.device.handle L i).2)
    (hrequest : exchange_request L i = none) (hunused : ¬ UsesKey L s.device.session.session_key i) :
    InSession L s i ↔ Gated L s i := by
  constructor
  · intro _
    constructor
    · intro e he key h
      exact absurd h (hunder e he key)
    · intro payload h
      exact absurd h (hack payload)
  · intro _
    constructor
    · intro hused
      exact absurd hused hunused
    · intro entropy pub hsome
      rw [hrequest] at hsome
      cases hsome

/-- The handling of an exchange: the acknowledgement is gated exactly if the public key is valid. -/
theorem iff_of_exchange {s : Link Ecdh} {i : Input} {entropy : Entropy} {pub : Bytes}
    (hrequest : exchange_request L i = some (entropy, pub))
    (heffects : ∀ e, e ∈ (s.device.handle L i).2 ↔
      ∃ dev_pub, (ble_crypto_init_and_get_pubkey L entropy).2 = some dev_pub ∧
        e = .key_exchange_ack (key_exchange_ack_json dev_pub))
    (hunused : ¬ UsesKey L s.device.session.session_key i) : InSession L s i ↔ Gated L s i := by
  constructor
  · intro hin
    constructor
    · intro e he key hunder
      obtain ⟨_, _, rfl⟩ := (heffects e).mp he
      exact hunder.elim
    · intro payload hack
      obtain ⟨dev_pub, hdev, -⟩ := (heffects _).mp hack
      have hinit : (ble_crypto_init_and_get_pubkey L entropy).2.isSome := by
        rw [hdev]
        rfl
      exact ⟨entropy, pub, hrequest,
        (agreed_key_isSome_iff entropy pub).mpr ⟨hinit, hin.valid entropy pub hrequest hinit⟩⟩
  · intro hgated
    constructor
    · intro hused
      exact absurd hused hunused
    · intro entropy' pub' hrequest' hinit
      obtain ⟨rfl, rfl⟩ : entropy = entropy' ∧ pub = pub' := by
        rw [hrequest] at hrequest'
        cases hrequest'
        exact ⟨rfl, rfl⟩
      obtain ⟨dev_pub, hdev⟩ := Option.isSome_iff_exists.mp hinit
      obtain ⟨_, _, hagain, hagreed⟩ := hgated.acknowledged _ ((heffects _).mpr ⟨dev_pub, hdev, rfl⟩)
      rw [hrequest] at hagain
      cases hagain
      exact ((agreed_key_isSome_iff entropy pub).mp hagreed).2

/-- The handling of an input that uses the key: its effects are gated exactly if the key is that
of an exchange. -/
theorem iff_of_uses {s : Link Ecdh} {i : Input} (h : s.Tied)
    (hused : UsesKey L s.device.session.session_key i)
    (hevent : ∃ e ∈ (s.device.handle L i).2, e.under s.device.session.session_key)
    (heffects : ∀ e ∈ (s.device.handle L i).2, e.under s.device.session.session_key ∨ e.quiet)
    (hrequest : exchange_request L i = none) : InSession L s i ↔ Gated L s i := by
  constructor
  · intro hin
    have hencrypted := hin.encrypted hused
    have hlatest : s.latest = some s.device.session.session_key := by
      rw [show s.latest = s.device.session.key from h, Session.key_eq_some]
      exact ⟨hencrypted, rfl⟩
    constructor
    · intro e he key hunder
      obtain hsession | hquiet := heffects e he
      · rw [hsession.unique hunder] at hlatest
        exact ⟨hencrypted, hlatest⟩
      · exact absurd hunder hquiet.not_under
    · intro payload hack
      obtain hunder | hquiet := heffects _ hack
      · exact hunder.elim
      · exact hquiet.elim
  · intro hgated
    constructor
    · intro _
      obtain ⟨e, he, hunder⟩ := hevent
      exact (hgated.session e he _ hunder).1
    · intro entropy pub hsome
      rw [hrequest] at hsome
      cases hsome

/-- An input is gated exactly if it is handled within a session. -/
theorem inSession_iff_gated (s : Link Ecdh) (i : Input) (h : s.Tied) : InSession L s i ↔ Gated L s i := by
  cases handled (L := L) s.device i with
  | quiet session effects request unused =>
    refine iff_of_silent ?_ ?_ request unused
    · intro e he key
      exact (effects e he).not_under
    · intro payload hack
      exact effects _ hack
  | restart session effects request unused =>
    refine iff_of_silent ?_ ?_ request unused
    · rw [effects]
      intro e he key
      rw [List.mem_singleton] at he
      rw [he]
      exact id
    · rw [effects]
      intro payload hack
      rw [List.mem_singleton] at hack
      cases hack
  | exchange entropy pub request session effects unused => exact iff_of_exchange request effects unused
  | uses used session event effects request => exact iff_of_uses h used event effects request

variable (L)

/-- In every step of a run from the boot commands and events are under the key of the latest
exchange, and acknowledged exchanges have derived one, exactly if each input is handled within
a session. -/
theorem session_gated_iff (config : Config) (inputs : List Input) :
    Along (Link.step L) (Gated L) (Link.boot L config) inputs ↔
      Along (Link.step L) (InSession L) (Link.boot L config) inputs := by
  have hboot : (Link.boot L config).Tied := rfl
  exact along_congr (fun s i hs _ => tied_step s i hs) (fun s i hs => (inSession_iff_gated s i hs).symm) hboot

/-- The bytes of a message that asks for a scan. -/
def scan_message : Bytes := ascii "\x7b\"event_type\":\"scan_wifi\"\x7d"

/-- A library that parses the request for a scan, and whose cipher keeps the text. -/
def plain_library : Library Unit where
  ecdh_init := ()
  ecdh_setup _ := (true, ())
  ecdh_make_public _ _ := (true, (), List.replicate 32 9)
  ecdh_read_public _ _ := (true, ())
  ecdh_calc_secret _ _ := (true, (), List.replicate 32 7)
  ecdh_free _ := ()
  hkdf secret _ := (true, secret)
  gcm_auth_decrypt _ _ _ _ := none
  gcm_crypt_and_tag _ _ plaintext := (plaintext, List.replicate 16 0)
  base64_encode source := source
  base64_decode _ _ memory := (false, memory)
  cJSON_Parse text :=
    if text = scan_message then some (.object [(ascii "event_type", .string (ascii "scan_wifi"))]) else none
  cJSON_GetObjectItem := object_item
  cJSON_PrintUnformatted _ := ascii "\x7b\"aps\":[]\x7d"

/-- Nothing to be drawn from the surroundings. -/
def quiet_surroundings : Surroundings where
  exchange := ⟨[], [], []⟩
  event_iv := []
  iv := []
  tag := []
  ciphertext := []
  beyond := fun _ => 0
  ap_list := []
  bits := ⟨false, false⟩
  flash := ⟨[], [], []⟩

/-- A peer that has never exchanged a key gets an event encrypted under the zeroed key. -/
theorem scan_encrypted_under_zero_key :
    ¬ ∀ (Ecdh : Type) (L : Library Ecdh) (config : Config) (inputs : List Input),
    Along (Link.step L) (Gated L) (Link.boot L config) inputs := by
  intro hall
  let w : Surroundings := {
    exchange := ⟨[], [], []⟩
    event_iv := List.replicate 12 1
    iv := []
    tag := []
    ciphertext := []
    beyond := fun _ => 0
    ap_list := []
    bits := ⟨false, false⟩
    flash := ⟨[], [], []⟩ }
  have hgated := (hall Unit plain_library ⟨[], [], []⟩ [.message [] scan_message w]).1
  have hevent : ble_send_encrypted_event plain_library w zero_key (ascii "wifi_list")
      (ascii "\x7b\"aps\":[]\x7d") ∈
      ((Link.boot plain_library ⟨[], [], []⟩).device.handle plain_library
        (.message [] scan_message w)).2 := by
    decide +kernel
  have hencrypted := (hgated.session _ hevent zero_key rfl).1
  exact absurd hencrypted (by decide)

end catbox.ble
