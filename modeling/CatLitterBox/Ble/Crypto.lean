import CatLitterBox.Json.Basic

open text json

namespace catbox.ble

/-- The routines of mbedTLS and of cJSON that the firmware calls. A status is `true` for the
return value 0; `Ecdh` is `mbedtls_ecdh_context`. -/
structure Library (Ecdh : Type) where
  ecdh_init : Ecdh
  ecdh_setup : Ecdh → Bool × Ecdh
  ecdh_make_public : Ecdh → (random : Bytes) → Bool × Ecdh × Bytes
  ecdh_read_public : Ecdh → Bytes → Bool × Ecdh
  ecdh_calc_secret : Ecdh → (random : Bytes) → Bool × Ecdh × Bytes
  ecdh_free : Ecdh → Ecdh
  /-- What the output buffer holds afterwards, from what it held before. -/
  hkdf : (secret : Bytes) → (output : Bytes) → Bool × Bytes
  /-- The plaintext, if the tag is right. -/
  gcm_auth_decrypt : (key iv tag ciphertext : Bytes) → Option Bytes
  gcm_crypt_and_tag : (key iv plaintext : Bytes) → Bytes × Bytes
  base64_encode : Bytes → Bytes
  /-- The status, and the bytes that the buffer of `size` bytes and the length designate
  afterwards, from what lay in the buffer and behind it before. -/
  base64_decode : (size : Nat) → (source : Bytes) → (memory : Bytes) → Bool × Bytes
  cJSON_Parse : Bytes → Option cJSON
  cJSON_GetObjectItem : cJSON → Bytes → Option cJSON
  cJSON_PrintUnformatted : cJSON → Bytes

/-- The text of a member that is there and satisfies `cJSON_IsString`. -/
def Library.string_item {Ecdh : Type} (L : Library Ecdh) (object : cJSON) (name : Bytes) : Option Bytes :=
  (L.cJSON_GetObjectItem object name).bind cJSON.valuestring

/-- `ble_session_t`. -/
structure Session (Ecdh : Type) where
  ecdh : Ecdh
  session_key : Bytes
  is_encrypted : Bool

/-- The bytes of `session_key` before any exchange and after `memset`. -/
def zero_key : Bytes := List.replicate 32 0

/-- What `esp_fill_random` delivers during an exchange, and what the decoding buffer holds. -/
structure Entropy where
  keypair : Bytes
  blinding : Bytes
  app_raw_pubkey : Bytes

variable {Ecdh : Type} (L : Library Ecdh)

/-- The session of a device that has just booted. -/
def Session.boot : Session Ecdh := ⟨L.ecdh_init, zero_key, false⟩

/-- The new session, and the public key in base64 unless the function fails. The buffer of
64 characters holds the encoding of 32 bytes. -/
def ble_crypto_init_and_get_pubkey (r : Entropy) : Session Ecdh × Option Bytes :=
  let session : Session Ecdh := ⟨L.ecdh_init, zero_key, false⟩
  let (setup, ecdh) := L.ecdh_setup session.ecdh
  if setup = false then ({ session with ecdh }, none)
  else
    let (made, ecdh, tls_pubkey) := L.ecdh_make_public ecdh r.keypair
    if made = false then ({ session with ecdh }, none)
    -- the TLS format: a length byte before the 32 bytes
    else if tls_pubkey.length = 33 ∧ tls_pubkey.head? = some 32 then
      ({ session with ecdh }, some (L.base64_encode (tls_pubkey.drop 1)))
    else if tls_pubkey.length ≠ 32 then ({ session with ecdh }, none)
    else ({ session with ecdh }, some (L.base64_encode tls_pubkey))

/-- The session after the computation, and whether it returns ESP_OK. -/
def ble_crypto_compute_session_key (r : Entropy) (app_base64_pubkey : Bytes) (session : Session Ecdh) :
    Session Ecdh × Bool :=
  let (decoded, app_raw_pubkey) := L.base64_decode 32 app_base64_pubkey r.app_raw_pubkey
  if decoded = false ∨ app_raw_pubkey.length ≠ 32 then (session, false)
  else
    let (read, ecdh) := L.ecdh_read_public session.ecdh (32 :: app_raw_pubkey)
    if read = false then ({ session with ecdh }, false)
    else
      let (calculated, ecdh, shared_secret) := L.ecdh_calc_secret ecdh r.blinding
      if calculated = false ∨ shared_secret.length ≠ 32 then ({ session with ecdh }, false)
      else
        let (derived, session_key) := L.hkdf shared_secret session.session_key
        if derived = false then ({ session with ecdh, session_key }, false)
        else ({ ecdh := L.ecdh_free ecdh, session_key, is_encrypted := true }, true)

/-- The key that an exchange derives when it goes through, from the public key of the peer. -/
def agreed_key (r : Entropy) (app_base64_pubkey : Bytes) : Option Bytes :=
  match ble_crypto_init_and_get_pubkey L r with
  | (_, none) => none
  | (session, some _) =>
    match ble_crypto_compute_session_key L r app_base64_pubkey session with
    | (_, false) => none
    | (session, true) => some session.session_key

/-- A public key of the peer that the context takes: 32 bytes in base64 from which the secret
and the session key can be computed. -/
structure ValidPubkey (r : Entropy) (app_base64_pubkey : Bytes) (ecdh : Ecdh) : Prop where
  decoded : (L.base64_decode 32 app_base64_pubkey r.app_raw_pubkey).1 = true
  raw : (L.base64_decode 32 app_base64_pubkey r.app_raw_pubkey).2.length = 32
  computable : ∃ read calculated shared_secret,
    L.ecdh_read_public ecdh (32 :: (L.base64_decode 32 app_base64_pubkey r.app_raw_pubkey).2) = (true, read) ∧
    L.ecdh_calc_secret read r.blinding = (true, calculated, shared_secret) ∧ shared_secret.length = 32 ∧
    (L.hkdf shared_secret zero_key).1 = true

variable {L}

/-- The key of a session in which an exchange has gone through. -/
def Session.key (session : Session Ecdh) : Option Bytes :=
  if session.is_encrypted then some session.session_key else none

/-- A session has a key exactly when the handshake has switched the encryption on. -/
theorem Session.key_eq_some {session : Session Ecdh} {key : Bytes} :
    session.key = some key ↔ session.is_encrypted = true ∧ session.session_key = key := by
  unfold Session.key
  split_ifs with h <;> simp [h]

/-- `ble_crypto_init_and_get_pubkey` leaves no session, and the zeroed key. -/
theorem init_spec (r : Entropy) : (ble_crypto_init_and_get_pubkey L r).1.is_encrypted = false ∧
    (ble_crypto_init_and_get_pubkey L r).1.session_key = zero_key := by
  unfold ble_crypto_init_and_get_pubkey
  simp only
  split_ifs <;> exact ⟨rfl, rfl⟩

/-- The computation sets `is_encrypted` exactly if it returns ESP_OK. -/
theorem compute_is_encrypted (r : Entropy) (pub : Bytes) {session : Session Ecdh}
    (h : session.is_encrypted = false) :
    (ble_crypto_compute_session_key L r pub session).1.is_encrypted =
      (ble_crypto_compute_session_key L r pub session).2 := by
  unfold ble_crypto_compute_session_key
  simp only
  split_ifs <;> simp [h]

/-- In a zeroed session the computation returns ESP_OK exactly for the valid public keys. -/
theorem compute_iff_valid (r : Entropy) (pub : Bytes) {session : Session Ecdh}
    (hkey : session.session_key = zero_key) :
    (ble_crypto_compute_session_key L r pub session).2 = true ↔ ValidPubkey L r pub session.ecdh := by
  unfold ble_crypto_compute_session_key
  simp only
  constructor
  · intro hok
    split_ifs at hok with hraw hread hsecret hderived
    rw [not_or, Bool.not_eq_false, ne_eq, not_not] at hraw hsecret
    rw [Bool.not_eq_false] at hread hderived
    refine ⟨hraw.1, hraw.2, _, _, _, Prod.ext hread rfl, Prod.ext hsecret.1 rfl, hsecret.2, ?_⟩
    rw [← hkey]
    exact hderived
  · rintro ⟨hdecoded, hraw, read, calculated, secret, hread, hcalc, hsecret, hderived⟩
    rw [← hkey] at hderived
    simp [hdecoded, hraw, hread, hcalc, hsecret, hderived]

/-- An exchange derives a key exactly if the device has its own key pair and the public key of
the peer is valid for it. -/
theorem agreed_key_isSome_iff (r : Entropy) (pub : Bytes) :
    (agreed_key L r pub).isSome ↔ (ble_crypto_init_and_get_pubkey L r).2.isSome ∧
      ValidPubkey L r pub (ble_crypto_init_and_get_pubkey L r).1.ecdh := by
  obtain ⟨hencrypted, hkey⟩ := init_spec (L := L) r
  have hvalid := compute_iff_valid (L := L) r pub hkey
  unfold agreed_key
  generalize ble_crypto_init_and_get_pubkey L r = init at hvalid
  obtain ⟨session, _ | answer⟩ := init
  · simp
  · simp only at hvalid ⊢
    rw [← hvalid]
    generalize ble_crypto_compute_session_key L r pub session = computed
    obtain ⟨session, _ | _⟩ := computed <;> simp

end catbox.ble
