import CatLitterBox.Ble.Sealing

open text json catbox.wifi

namespace catbox.ble

/-- Credentials of the sizes that `app_wifi_config_t` admits. -/
structure Credentials where
  ssid : PlainText
  pwd : PlainText
  ssid_length : ssid.1.length ≤ 31
  pwd_length : pwd.1.length ≤ 63

def Credentials.members (c : Credentials) : Members :=
  .more ⟨ascii "ssid", by decide⟩ (.string c.ssid) (.one ⟨ascii "pwd", by decide⟩ (.string c.pwd))

def Credentials.text (c : Credentials) : Bytes := (Doc.object c.members).render

/-- What a peer sends to provision a device, under a session key and with an iv of its own. -/
structure Provision where
  credentials : Credentials
  key : Bytes
  iv : Bytes
  key_length : key.length = 32
  iv_length : iv.length = 12

variable {Ecdh : Type} (L : Library Ecdh)

/-- The `wifi_prov` message of a conforming peer. -/
def Provision.message (p : Provision) : Bytes :=
  encrypted_json (ascii "wifi_prov") (base64.encode p.iv)
    (base64.encode (L.gcm_crypt_and_tag p.key p.iv p.credentials.text).1)
    (base64.encode (L.gcm_crypt_and_tag p.key p.iv p.credentials.text).2)

/-- The message reaches the parser whole, and its credentials are placed in the configuration and
taken for the connection. -/
structure Provision.Received (p : Provision) (w : Surroundings) (d : Device Ecdh) : Prop where
  whole : cstring ((p.message L).take 255) = p.message L
  command : .wifi_prov p.key p.credentials.ssid.1 p.credentials.pwd.1 ∈ (BLE_APP_Command L w (p.message L) d).2
  ssid : (BLE_APP_Command L w (p.message L) d).1.config.conn_ssid = p.credentials.ssid.1
  password : (BLE_APP_Command L w (p.message L) d).1.config.conn_password = p.credentials.pwd.1

variable {L}

def wifi_prov_type : PlainText := ⟨ascii "wifi_prov", by decide⟩

theorem Provision.message_render (p : Provision) : p.message L =
    (Doc.object (message_members wifi_prov_type (encoded p.iv)
      (encoded (L.gcm_crypt_and_tag p.key p.iv p.credentials.text).1)
      (encoded (L.gcm_crypt_and_tag p.key p.iv p.credentials.text).2))).render :=
  encrypted_json_render wifi_prov_type (encoded _) (encoded _) (encoded _)

theorem Credentials.text_length (c : Credentials) : c.text.length = 20 + c.ssid.1.length + c.pwd.1.length := by
  have hnames : (ascii "ssid").length = 4 ∧ (ascii "pwd").length = 3 := by decide
  simp only [Credentials.text, Credentials.members, Doc.render, Members.render, quote, List.length_append,
    List.length_cons, List.length_nil]
  omega

/-- How long the message is depends on the lengths of the name and of the password. -/
theorem Provision.message_length (hL : L.Documented) (p : Provision) : (p.message L).length =
    108 + 4 * ((22 + p.credentials.ssid.1.length + p.credentials.pwd.1.length) / 3) := by
  obtain ⟨hlength, htag⟩ := hL.gcm_length p.key p.iv p.credentials.text p.key_length p.iv_length
  have hevent : (ascii "wifi_prov").length = 9 := by decide
  have htext := p.credentials.text_length
  have hiv := p.iv_length
  rw [Provision.message, encrypted_json_length, base64.encode_length,
    base64.encode_length, base64.encode_length,
    hlength, htag, hevent, htext, hiv]
  omega

/-- The message fits into the command buffer exactly if the credentials have 88 characters at most. -/
theorem Provision.fits_iff (hL : L.Documented) (p : Provision) : (p.message L).length ≤ 255 ↔
    p.credentials.ssid.1.length + p.credentials.pwd.1.length ≤ 88 := by
  rw [p.message_length hL]
  omega

theorem Provision.credentials_read (hL : L.Documented) (p : Provision) :
    ∃ root, L.cJSON_Parse (cstring p.credentials.text) = some root ∧
      L.string_item root (ascii "ssid") = some p.credentials.ssid.1 ∧
      L.string_item root (ascii "pwd") = some p.credentials.pwd.1 := by
  simp only [hL.string_item]
  refine ⟨(Doc.object p.credentials.members).value, ?_, rfl, rfl⟩
  rw [Credentials.text, cstring_of_not_mem (nul_not_mem_render _)]
  have hdepth : p.credentials.members.depth = 0 := rfl
  exact hL.parse _ (by rw [hdepth]; decide)

section command

variable {w : Surroundings} {d : Device Ecdh}

/-- A message that fits is handled as a `wifi_prov` command with the credentials. -/
theorem Provision.handled (hL : L.Documented) (p : Provision) (hkey : d.session.session_key = p.key)
    (hfits : (p.message L).length ≤ 255) : ∃ effects, BLE_APP_Command L w (p.message L) d =
      ({ d with config := d.config.credentials p.credentials.ssid.1 p.credentials.pwd.1 },
        .wifi_prov p.key p.credentials.ssid.1 p.credentials.pwd.1 :: effects) := by
  have hnul : 0 ∉ p.message L := by
    rw [p.message_render]
    exact nul_not_mem_render _
  let root := (Doc.object (message_members wifi_prov_type (encoded p.iv)
    (encoded (L.gcm_crypt_and_tag p.key p.iv p.credentials.text).1)
    (encoded (L.gcm_crypt_and_tag p.key p.iv p.credentials.text).2))).value
  have hparse : L.cJSON_Parse (p.message L) = some root := by
    rw [p.message_render]
    have hdepth : (message_members wifi_prov_type (encoded p.iv)
        (encoded (L.gcm_crypt_and_tag p.key p.iv p.credentials.text).1)
        (encoded (L.gcm_crypt_and_tag p.key p.iv p.credentials.text).2)).depth = 1 := rfl
    exact hL.parse _ (by rw [hdepth]; decide)
  have htype : L.string_item root (ascii "event_type") = some (ascii "wifi_prov") := by
    rw [hL.string_item]
    rfl
  have hdata : L.cJSON_GetObjectItem root (ascii "data") =
      some (Doc.object (sealing L p.key p.iv p.credentials.text)).value := by
    rw [hL.get_object_item]
    rfl
  obtain ⟨prov_json, hcredentials, hssid, hpwd⟩ := p.credentials_read hL
  have hcommand : BLE_APP_Command L w (p.message L) d = wifi_prov L w root d := by
    unfold BLE_APP_Command app_json_command
    simp only [List.take_of_length_le hfits, cstring_of_not_mem hnul, hparse, htype]
    rw [if_neg (by decide), if_neg (by decide), if_neg (by decide), if_neg (by decide), if_pos trivial]
  rw [hcommand, wifi_prov, hdata, hkey]
  simp only [decrypt_sealing hL p.key_length p.iv_length w, hcredentials, hssid, hpwd, Option.getD_some]
  exact ⟨_, rfl⟩

/-- The message has no white space. -/
theorem Provision.visible (p : Provision) {c : UInt8} (h : c ∈ p.message L) : 32 < c := by
  have hframe : (∀ c ∈ ascii "\x7b\"event_type\":\"", 32 < c) ∧ (∀ c ∈ ascii "wifi_prov", 32 < c) ∧
      (∀ c ∈ ascii "\",\"data\":\x7b\"iv\":\"", 32 < c) ∧ (∀ c ∈ ascii "\",\"ciphertext\":\"", 32 < c) ∧
      (∀ c ∈ ascii "\",\"tag\":\"", 32 < c) ∧ (∀ c ∈ ascii "\"\x7d\x7d", 32 < c) := by decide +kernel
  obtain ⟨hfirst, htype, hdata, hciphertext, htag, hlast⟩ := hframe
  simp only [Provision.message, encrypted_json, List.mem_append] at h
  rcases h with (((((((h | h) | h) | h) | h) | h) | h) | h) | h
  · exact hfirst c h
  · exact htype c h
  · exact hdata c h
  · exact (base64.encode_plain h).1
  · exact hciphertext c h
  · exact (base64.encode_plain h).1
  · exact htag c h
  · exact (base64.encode_plain h).1
  · exact hlast c h

/-- A text of visible characters that begins with a brace is no text command. -/
theorem app_text_command_of_brace {rest : Bytes} (h : ∀ c ∈ 123 :: rest, 32 < c) :
    app_text_command (123 :: rest) d = (d, []) := by
  have hline : (123 :: rest : Bytes).takeWhile (fun c => c ≠ 13 ∧ c ≠ 10) = 123 :: rest := by
    rw [List.takeWhile_eq_self_iff]
    intro c hc
    have hvisible := h c hc
    simp only [ne_eq, Bool.decide_and, decide_not, Bool.and_eq_true, Bool.not_eq_true', decide_eq_false_iff_not]
    constructor
    · rintro rfl
      exact absurd hvisible (by decide)
    · rintro rfl
      exact absurd hvisible (by decide)
  have htokens : tokens (123 :: rest) = [123 :: rest] := by
    have hsplit : (123 :: rest : Bytes).splitOn 32 = [123 :: rest] :=
      List.splitOn_eq_singleton fun hblank => absurd (h 32 hblank) (by decide)
    rw [tokens, hsplit]
    rfl
  have hscan : (123 :: rest : Bytes) ≠ ascii "scan" := by
    intro heq
    have hhead : some (123 : UInt8) = some 115 := congrArg List.head? heq
    exact absurd hhead (by decide)
  have hota : (123 :: rest : Bytes) ≠ ascii "OTA" := by
    intro heq
    have hhead : some (123 : UInt8) = some 79 := congrArg List.head? heq
    exact absurd hhead (by decide)
  unfold app_text_command
  simp only [if_neg hscan, hline, if_neg hota, htokens]

/-- A longer message is cut, and then it is no command at all. -/
theorem Provision.dropped (hL : L.Documented) (p : Provision) (hlong : 255 < (p.message L).length) :
    BLE_APP_Command L w (p.message L) d = (d, []) := by
  have hnul : 0 ∉ (p.message L).take 255 := by
    intro h
    exact absurd (p.visible (List.mem_of_mem_take h)) (by decide)
  have hparse : L.cJSON_Parse ((p.message L).take 255) = none := by
    rw [p.message_render] at hlong ⊢
    exact hL.parse_cut _ 255 hlong
  obtain ⟨rest, hrest⟩ : ∃ rest, (p.message L).take 255 = 123 :: rest := by
    rw [p.message_render]
    exact ⟨_, rfl⟩
  unfold BLE_APP_Command
  simp only [cstring_of_not_mem hnul, hparse]
  rw [hrest]
  refine app_text_command_of_brace ?_
  intro c hc
  rw [← hrest] at hc
  exact p.visible (List.mem_of_mem_take hc)

/-- The credentials are received exactly if their name and their password have 88 characters
together at most: from there on the encrypted message is longer than the 255 bytes that are kept of
it. -/
theorem wifi_prov_received_iff (hL : L.Documented) (p : Provision) (w : Surroundings) (d : Device Ecdh)
    (hkey : d.session.session_key = p.key) :
    p.Received L w d ↔ p.credentials.ssid.1.length + p.credentials.pwd.1.length ≤ 88 := by
  rw [← p.fits_iff hL]
  constructor
  · intro h
    by_contra hlong
    have hcommand := h.command
    rw [p.dropped hL (Nat.lt_of_not_le hlong)] at hcommand
    exact absurd hcommand List.not_mem_nil
  · intro hfits
    obtain ⟨effects, hhandled⟩ := p.handled (w := w) hL hkey hfits
    have hnul : 0 ∉ p.message L := by
      rw [p.message_render]
      exact nul_not_mem_render _
    constructor
    · rw [List.take_of_length_le hfits, cstring_of_not_mem hnul]
    · rw [hhandled]
      exact List.mem_cons_self
    · rw [hhandled]
      exact List.take_of_length_le p.credentials.ssid_length
    · rw [hhandled]
      exact List.take_of_length_le p.credentials.pwd_length

end command

/-- A short pair of credentials under a key of 32 bytes, and its encryption. -/
def home_credentials : Credentials where
  ssid := ⟨ascii "home", by decide⟩
  pwd := ⟨ascii "secret", by decide⟩
  ssid_length := by decide
  pwd_length := by decide

def home_encryption : Encryption where
  key := (List.range 32).map Nat.toUInt8
  iv := [1, 2, 3, 4, 5, 6, 7, 8, 9, 10, 11, 12]
  plaintext := home_credentials.text
  ciphertext := [126, 200, 41, 166, 133, 240, 210, 188, 110, 202, 12, 42, 117, 49, 198, 10,
    50, 52, 133, 220, 173, 79,
    35, 160, 194, 45, 156, 80, 188, 203]
  tag := [17, 76, 66, 193, 248, 155, 80, 107, 150, 191, 75, 6, 92, 4, 231, 36]
  ciphertext_length := by decide
  tag_length := by decide
  tag_ne := by decide

def home_provision : Provision where
  credentials := home_credentials
  key := home_encryption.key
  iv := home_encryption.iv
  key_length := by decide
  iv_length := by decide

/-- A device in a session under that key. -/
def home_device : Device Unit :=
  { Device.boot (known_library home_encryption) ⟨[], [], []⟩ with session := ⟨(), home_encryption.key, true⟩ }

theorem home_provision_received :
    home_provision.Received (known_library home_encryption) ⟨⟨[], [], []⟩, [], [], [], [], fun _ => 0, [],
      ⟨false, false⟩, ⟨[], [], []⟩⟩ home_device :=
  (wifi_prov_received_iff (known_library_documented home_encryption) home_provision _ home_device rfl).mpr
    (by decide)

/-- The longest credentials that the configuration admits. -/
def longest_credentials : Credentials where
  ssid := ⟨List.replicate 31 97, by decide⟩
  pwd := ⟨List.replicate 63 97, by decide⟩
  ssid_length := by decide
  pwd_length := by decide

/-- The longest credentials are cut and dropped. -/
theorem longest_credentials_dropped : ¬ ∀ (Ecdh : Type) (L : Library Ecdh) (p : Provision) (w : Surroundings)
    (d : Device Ecdh), L.Documented → d.session.session_key = p.key → p.Received L w d := by
  intro hall
  let longest : Provision := { home_provision with credentials := longest_credentials }
  have hdocumented := known_library_documented home_encryption
  have hreceived := (hall Unit (known_library home_encryption) longest quiet_surroundings home_device
    hdocumented rfl).command
  have hlong : 255 < (longest.message (known_library home_encryption)).length := by
    rw [longest.message_length hdocumented]
    decide
  rw [longest.dropped hdocumented hlong] at hreceived
  exact absurd hreceived List.not_mem_nil

end catbox.ble
