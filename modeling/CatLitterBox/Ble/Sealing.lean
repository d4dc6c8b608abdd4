import CatLitterBox.Ble.Documented

open text json catbox.wifi

namespace catbox.ble

/-- The members of the object that seals a text: iv, ciphertext and tag, in base64. -/
def sealed_members (iv ciphertext tag : PlainText) : Members :=
  .more ⟨ascii "iv", by decide⟩ (.string iv)
    (.more ⟨ascii "ciphertext", by decide⟩ (.string ciphertext) (.one ⟨ascii "tag", by decide⟩ (.string tag)))

/-- The members of an encrypted message. -/
def message_members (event_type iv ciphertext tag : PlainText) : Members :=
  .more ⟨ascii "event_type", by decide⟩ (.string event_type)
    (.one ⟨ascii "data", by decide⟩ (.object (sealed_members iv ciphertext tag)))

private theorem plain_encode (bytes : Bytes) : Plain (base64.encode bytes) := by
  intro c hc
  obtain ⟨hvisible, hescape⟩ := base64.encode_plain hc
  exact ⟨UInt8.le_of_lt hvisible, hescape⟩

def encoded (bytes : Bytes) : PlainText := ⟨base64.encode bytes, plain_encode bytes⟩

/-- The text of an encrypted message is the rendering of the object with its four members. -/
theorem encrypted_json_render (event_type iv ciphertext tag : PlainText) :
    encrypted_json event_type.1 iv.1 ciphertext.1 tag.1 =
      (Doc.object (message_members event_type iv ciphertext tag)).render := by
  have hfirst : ascii "\x7b\"event_type\":\"" = 123 :: quote (ascii "event_type") ++ [58, 34] := by decide
  have hdata : ascii "\",\"data\":\x7b\"iv\":\"" =
      34 :: 44 :: quote (ascii "data") ++ 58 :: 123 :: quote (ascii "iv") ++ [58, 34] := by decide
  have hciphertext : ascii "\",\"ciphertext\":\"" = 34 :: 44 :: quote (ascii "ciphertext") ++ [58, 34] :=
    by decide
  have htag : ascii "\",\"tag\":\"" = 34 :: 44 :: quote (ascii "tag") ++ [58, 34] := by decide
  have hlast : ascii "\"\x7d\x7d" = [34, 125, 125] := by decide
  unfold encrypted_json
  rw [hfirst, hdata, hciphertext, htag, hlast]
  simp [Doc.render, Members.render, message_members, sealed_members, quote]

/-- The length of an encrypted message. -/
theorem encrypted_json_length (event_type iv ciphertext tag : Bytes) :
    (encrypted_json event_type iv ciphertext tag).length =
      59 + event_type.length + iv.length + ciphertext.length + tag.length := by
  have hframe : (ascii "\x7b\"event_type\":\"").length = 15 ∧ (ascii "\",\"data\":\x7b\"iv\":\"").length = 16 ∧
      (ascii "\",\"ciphertext\":\"").length = 16 ∧ (ascii "\",\"tag\":\"").length = 9 ∧
      (ascii "\"\x7d\x7d").length = 3 := by decide
  unfold encrypted_json
  simp only [List.length_append]
  omega

section sealing

variable {Ecdh : Type} {L : Library Ecdh} {key iv plaintext : Bytes}

/-- What a text is sealed to under a key and an iv. -/
def sealing (L : Library Ecdh) (key iv plaintext : Bytes) : Members :=
  sealed_members (encoded iv) (encoded (L.gcm_crypt_and_tag key iv plaintext).1)
    (encoded (L.gcm_crypt_and_tag key iv plaintext).2)

/-- A sealed text is decrypted under its key. -/
theorem decrypt_sealing (hL : L.Documented) (hkey : key.length = 32) (hiv : iv.length = 12) (w : Surroundings) :
    ble_decrypt_json_data L w key (some (Doc.object (sealing L key iv plaintext)).value) =
      .plaintext (cstring plaintext) := by
  obtain ⟨hlength, htag⟩ := hL.gcm_length key iv plaintext hkey hiv
  have hitems : L.cJSON_GetObjectItem (Doc.object (sealing L key iv plaintext)).value (ascii "iv") =
        some (.string (base64.encode iv)) ∧
      L.cJSON_GetObjectItem (Doc.object (sealing L key iv plaintext)).value (ascii "ciphertext") =
        some (.string (base64.encode (L.gcm_crypt_and_tag key iv plaintext).1)) ∧
      L.cJSON_GetObjectItem (Doc.object (sealing L key iv plaintext)).value (ascii "tag") =
        some (.string (base64.encode (L.gcm_crypt_and_tag key iv plaintext).2)) := by
    simp only [hL.get_object_item]
    exact ⟨rfl, rfl, rfl⟩
  have hroom : (L.gcm_crypt_and_tag key iv plaintext).1.length ≤
      (base64.encode (L.gcm_crypt_and_tag key iv plaintext).1).length := by
    rw [base64.encode_length]
    omega
  unfold ble_decrypt_json_data
  simp only [hitems.1, hitems.2.1, hitems.2.2, cJSON.valuestring, hL.base64_decode 16 iv w.iv (by omega),
    hL.base64_decode 16 _ w.tag htag.le, hL.base64_decode _ _ w.ciphertext hroom,
    hL.gcm_inverse key iv plaintext hkey hiv]

end sealing

end catbox.ble
