import CatLitterBox.Ble.Gating
import CatLitterBox.Json.Text
import CatLitterBox.Text.Base64

open text json

namespace catbox.ble

/-- The limit that cJSON sets to the nesting of objects and arrays. -/
def CJSON_NESTING_LIMIT : Nat := 1000

/-- What the documentation of mbedTLS and of cJSON says of the routines: base64 is that of the
standard and is inverted by the decoder if the buffer is long enough; AES-256-GCM keeps the length,
has tags of 16 bytes and is inverted under the same key and iv; and the parser takes the texts of
objects, whole but not cut, and the items of an object are found by their names. -/
structure Library.Documented {Ecdh : Type} (L : Library Ecdh) : Prop where
  base64_encode : ∀ bytes, L.base64_encode bytes = base64.encode bytes
  base64_decode : ∀ size bytes memory, bytes.length ≤ size →
    L.base64_decode size (base64.encode bytes) memory = (true, bytes)
  gcm_length : ∀ key iv plaintext, key.length = 32 → iv.length = 12 →
    (L.gcm_crypt_and_tag key iv plaintext).1.length = plaintext.length ∧
      (L.gcm_crypt_and_tag key iv plaintext).2.length = 16
  gcm_inverse : ∀ key iv plaintext, key.length = 32 → iv.length = 12 →
    L.gcm_auth_decrypt key iv (L.gcm_crypt_and_tag key iv plaintext).2 (L.gcm_crypt_and_tag key iv plaintext).1 =
      some plaintext
  parse : ∀ members : Members, members.depth < CJSON_NESTING_LIMIT →
    L.cJSON_Parse (Doc.object members).render = some (Doc.object members).value
  get_object_item : ∀ object name, L.cJSON_GetObjectItem object name = object_item object name
  parse_cut : ∀ (members : Members) (n : Nat), n < (Doc.object members).render.length →
    L.cJSON_Parse ((Doc.object members).render.take n) = none

/-- The string field that the library reads is the one in the object, as its documentation has
it. -/
theorem Library.Documented.string_item {Ecdh : Type} {L : Library Ecdh} (hL : L.Documented) (object : cJSON)
    (name : Bytes) : L.string_item object name = (object_item object name).bind cJSON.valuestring := by
  unfold Library.string_item
  rw [hL.get_object_item]

/-- An encryption of AES-256-GCM. -/
structure Encryption where
  key : Bytes
  iv : Bytes
  plaintext : Bytes
  ciphertext : Bytes
  tag : Bytes
  ciphertext_length : ciphertext.length = plaintext.length
  tag_length : tag.length = 16
  tag_ne : tag ≠ zeros 16

/-- A library that knows one encryption, and otherwise takes the text for the ciphertext. -/
def known_library (e : Encryption) : Library Unit where
  ecdh_init := ()
  ecdh_setup _ := (true, ())
  ecdh_make_public _ _ := (true, (), List.replicate 32 9)
  ecdh_read_public _ _ := (true, ())
  ecdh_calc_secret _ _ := (true, (), List.replicate 32 7)
  ecdh_free _ := ()
  hkdf secret _ := (true, secret)
  gcm_auth_decrypt key iv tag ciphertext :=
    if key = e.key ∧ iv = e.iv ∧ tag = e.tag ∧ ciphertext = e.ciphertext then some e.plaintext
    else if tag = zeros 16 then some ciphertext
    else none
  gcm_crypt_and_tag key iv plaintext :=
    if key = e.key ∧ iv = e.iv ∧ plaintext = e.plaintext then (e.ciphertext, e.tag) else (plaintext, zeros 16)
  base64_encode := base64.encode
  base64_decode size source memory :=
    match base64.decode source with
    | some bytes => if bytes.length ≤ size then (true, bytes) else (false, memory)
    | none => (false, memory)
  cJSON_Parse := json.read
  cJSON_GetObjectItem := object_item
  cJSON_PrintUnformatted _ := ascii "\x7b\"aps\":[]\x7d"

theorem known_library_documented (e : Encryption) : (known_library e).Documented where
  base64_encode _ := rfl
  base64_decode size bytes memory h := by simp [known_library, base64.decode_encode, h]
  gcm_length key iv plaintext _ _ := by
    simp only [known_library]
    split
    · next hknown => exact ⟨hknown.2.2 ▸ e.ciphertext_length, e.tag_length⟩
    · exact ⟨rfl, List.length_replicate⟩
  gcm_inverse key iv plaintext _ _ := by
    simp only [known_library]
    by_cases hknown : key = e.key ∧ iv = e.iv ∧ plaintext = e.plaintext
    · simp [hknown]
    · simp [hknown, e.tag_ne.symm]
  parse members _ := read_render _
  get_object_item _ _ := rfl
  parse_cut members n h := read_cut _ h

end catbox.ble
