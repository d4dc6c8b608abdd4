import CatLitterBox.Ble.Gating
import CatLitterBox.Text.Base64

open text json

namespace catbox.ble.rx

/-- A decoder of base64: the bytes that a text stands for, unless it has invalid characters, and the
size of the buffer that it asks for. -/
structure Base64 where
  decode : Bytes → Option Bytes
  required : Bytes → Nat
  decode_length : ∀ text bytes, decode text = some bytes → bytes.length ≤ required text
  required_le : ∀ text, required text ≤ text.length

/-- What `mbedtls_base64_decode` returns. `olen` is the number of bytes that are written, or the
size that would be needed; invalid characters leave it unset. -/
inductive Status where
  | ok (bytes : Bytes)
  | BUFFER_TOO_SMALL (olen : Nat)
  | INVALID_CHARACTER

def Base64.mbedtls_base64_decode (b64 : Base64) (dlen : Nat) (src : Bytes) : Status :=
  match b64.decode src with
  | none => .INVALID_CHARACTER
  | some bytes => if dlen < b64.required src then .BUFFER_TOO_SMALL (b64.required src) else .ok bytes

/-- What a caller must not do with its variables. -/
inductive Misuse where
  | null_string
  | unset_length
  | outside_buffer
deriving DecidableEq

/-- The bytes that the cipher is given after a decoding whose status is ignored. A length that is
larger than the buffer makes it read outside. -/
def Status.given : Status → Except Misuse Bytes
  | .ok bytes => .ok bytes
  | .BUFFER_TOO_SMALL _ => .error .outside_buffer
  | .INVALID_CHARACTER => .error .unset_length

/-- The string that `strlen` is given. -/
def valuestring (item : cJSON) : Except Misuse Bytes :=
  match item.valuestring with
  | some text => .ok text
  | none => .error .null_string

/-- The allocations of `ble_decrypt_json_data`, false where `malloc` returns NULL. -/
structure Heap where
  ciphertext : Bool
  plaintext : Bool
deriving DecidableEq

variable {Ecdh : Type} (L : Library Ecdh) (b64 : Base64)

/-- `ble_decrypt_json_data`, NULL being none, up to the first misuse. -/
def ble_decrypt_json_data (heap : Heap) (session_key : Bytes) (data_obj : Option cJSON) :
    Except Misuse (Option Bytes) :=
  match data_obj with
  | none => .ok none
  | some data_obj =>
    match L.cJSON_GetObjectItem data_obj (ascii "iv"), L.cJSON_GetObjectItem data_obj (ascii "ciphertext"),
      L.cJSON_GetObjectItem data_obj (ascii "tag") with
    | some iv_item, some ct_item, some tag_item => do
      let ct_text ← valuestring ct_item
      if heap.ciphertext = false ∨ heap.plaintext = false then return none
      else
        let iv_text ← valuestring iv_item
        let tag_text ← valuestring tag_item
        let iv ← (b64.mbedtls_base64_decode 16 iv_text).given
        let tag ← (b64.mbedtls_base64_decode 16 tag_text).given
        let ciphertext ← (b64.mbedtls_base64_decode ct_text.length ct_text).given
        return L.gcm_auth_decrypt session_key iv tag ciphertext
    | _, _, _ => .ok none

/-- `ble_crypto_decrypt`, which takes 12 bytes of iv and 16 bytes of tag. -/
def ble_crypto_decrypt (session : Session Ecdh) (ciphertext iv tag : Bytes) : Option Bytes :=
  if session.is_encrypted = false then none
  else L.gcm_auth_decrypt session.session_key (iv.take 12) (tag.take 16) ciphertext

/-- The fields of an object are strings that decode to these bytes. -/
structure Fields (data_obj : cJSON) (iv ciphertext tag : Bytes) : Prop where
  iv : (L.string_item data_obj (ascii "iv")).bind b64.decode = some iv
  ciphertext : (L.string_item data_obj (ascii "ciphertext")).bind b64.decode = some ciphertext
  tag : (L.string_item data_obj (ascii "tag")).bind b64.decode = some tag

/-- The sizes of an iv, a ciphertext and a tag of AES-GCM. -/
structure Regular (iv ciphertext tag : Bytes) : Prop where
  iv : iv.length = 12
  ciphertext : ciphertext ≠ []
  tag : tag.length = 16

/-- A plaintext that may be returned for an object. -/
def Accepted (session : Session Ecdh) (data_obj : cJSON) (plaintext : Bytes) : Prop :=
  ∃ iv ciphertext tag, Fields L b64 data_obj iv ciphertext tag ∧ Regular iv ciphertext tag ∧
    ble_crypto_decrypt L session ciphertext iv tag = some plaintext

/-- There is no misuse, and what is returned is NULL or may be returned. -/
def Validated (heap : Heap) (session : Session Ecdh) (data_obj : cJSON) : Prop :=
  ∃ result, ble_decrypt_json_data L b64 heap session.session_key (some data_obj) = .ok result ∧
    ∀ plaintext, result = some plaintext → Accepted L b64 session data_obj plaintext

/-- The objects for which no check is missed: a field is missing; or there is no memory for the
ciphertext; or the iv and the tag fit into their buffers, and if the cipher takes them then they and
the ciphertext have the right sizes and a key has been agreed. -/
inductive Harmless (heap : Heap) (session : Session Ecdh) (data_obj : cJSON) : Prop where
  | missing (name : Bytes) (hname : name = ascii "iv" ∨ name = ascii "ciphertext" ∨ name = ascii "tag")
    (h : L.cJSON_GetObjectItem data_obj name = none)
  | unallocated (hheap : heap.ciphertext = false ∨ heap.plaintext = false)
    (h : (L.string_item data_obj (ascii "ciphertext")).isSome)
  | decoded (iv ciphertext tag : Bytes) (hfields : Fields L b64 data_obj iv ciphertext tag)
    (hiv : ∀ text ∈ L.string_item data_obj (ascii "iv"), b64.required text ≤ 16)
    (htag : ∀ text ∈ L.string_item data_obj (ascii "tag"), b64.required text ≤ 16)
    (h : Regular iv ciphertext tag ∧ session.is_encrypted = true ∨
      L.gcm_auth_decrypt session.session_key iv tag ciphertext = none)

variable {L} {b64}

theorem given_eq_ok_iff {size : Nat} {text bytes : Bytes} :
    (b64.mbedtls_base64_decode size text).given = .ok bytes ↔
      b64.decode text = some bytes ∧ b64.required text ≤ size := by
  unfold Base64.mbedtls_base64_decode
  cases b64.decode text with
  | none => simp [Status.given]
  | some decoded =>
    by_cases hfits : b64.required text ≤ size
    · simp [Status.given, hfits, Nat.not_lt.mpr hfits]
    · simp [Status.given, hfits, Nat.lt_of_not_le hfits]

theorem valuestring_eq_ok_iff {item : cJSON} {text : Bytes} :
    valuestring item = .ok text ↔ item.valuestring = some text := by
  unfold valuestring
  cases item.valuestring <;> simp

theorem bind_eq_ok_iff {α β : Type} {x : Except Misuse α} {f : α → Except Misuse β} {result : β} :
    x >>= f = .ok result ↔ ∃ a, x = .ok a ∧ f a = .ok result := by
  cases x with
  | error misuse => simp [bind, Except.bind]
  | ok a => simp [bind, Except.bind]

section decrypt

variable {heap : Heap} {session : Session Ecdh} {data_obj iv_item ct_item tag_item : cJSON}

/-- With a field missing nothing is decrypted, and nothing is written. -/
theorem decrypt_missing (session_key : Bytes)
    (h : L.cJSON_GetObjectItem data_obj (ascii "iv") = none ∨
      L.cJSON_GetObjectItem data_obj (ascii "ciphertext") = none ∨
      L.cJSON_GetObjectItem data_obj (ascii "tag") = none) :
    ble_decrypt_json_data L b64 heap session_key (some data_obj) = .ok none := by
  unfold ble_decrypt_json_data
  split
  · rfl
  · next heq =>
    obtain rfl := Option.some.inj heq
    split
    · next hiv hct htag => simp [hiv, hct, htag] at h
    · rfl

variable (hiv : L.cJSON_GetObjectItem data_obj (ascii "iv") = some iv_item)
  (hct : L.cJSON_GetObjectItem data_obj (ascii "ciphertext") = some ct_item)
  (htag : L.cJSON_GetObjectItem data_obj (ascii "tag") = some tag_item)

include hiv hct htag

/-- Without memory the function returns NULL, if it gets so far. -/
theorem decrypt_unallocated (session_key : Bytes) (hheap : heap.ciphertext = false ∨ heap.plaintext = false)
    (result : Option Bytes) : ble_decrypt_json_data L b64 heap session_key (some data_obj) = .ok result ↔
      result = none ∧ ct_item.valuestring.isSome := by
  simp only [ble_decrypt_json_data, hiv, hct, htag, valuestring, if_pos hheap]
  cases ct_item.valuestring with
  | none => simp [bind, Except.bind]
  | some text => simp [bind, Except.bind, pure, Except.pure, eq_comm]

/-- With memory it returns what the cipher makes of the decoded fields. -/
theorem decrypt_allocated (session_key : Bytes) (hheap : ¬ (heap.ciphertext = false ∨ heap.plaintext = false))
    (result : Option Bytes) : ble_decrypt_json_data L b64 heap session_key (some data_obj) = .ok result ↔
      ∃ iv ciphertext tag, Fields L b64 data_obj iv ciphertext tag ∧
        (∀ text ∈ L.string_item data_obj (ascii "iv"), b64.required text ≤ 16) ∧
        (∀ text ∈ L.string_item data_obj (ascii "tag"), b64.required text ≤ 16) ∧
        L.gcm_auth_decrypt session_key iv tag ciphertext = result := by
  have hitems : L.string_item data_obj (ascii "iv") = iv_item.valuestring ∧
      L.string_item data_obj (ascii "ciphertext") = ct_item.valuestring ∧
      L.string_item data_obj (ascii "tag") = tag_item.valuestring := by
    simp [Library.string_item, hiv, hct, htag]
  simp only [ble_decrypt_json_data, hiv, hct, htag, if_neg hheap, bind_eq_ok_iff, valuestring_eq_ok_iff,
    given_eq_ok_iff, pure, Except.pure, Except.ok.injEq]
  constructor
  · rintro ⟨ct_text, hct_text, iv_text, hiv_text, tag_text, htag_text, iv,
      ⟨hiv, hiv_fits⟩, tag, ⟨htag, htag_fits⟩,
      ciphertext, ⟨hciphertext, -⟩, hresult⟩
    refine ⟨iv, ciphertext, tag, ⟨?_, ?_, ?_⟩, ?_, ?_, hresult⟩
    · rw [hitems.1, hiv_text, Option.bind_some, hiv]
    · rw [hitems.2.1, hct_text, Option.bind_some, hciphertext]
    · rw [hitems.2.2, htag_text, Option.bind_some, htag]
    · rw [hitems.1, hiv_text]
      rintro text ⟨⟩
      exact hiv_fits
    · rw [hitems.2.2, htag_text]
      rintro text ⟨⟩
      exact htag_fits
  · rintro ⟨iv, ciphertext, tag, hfields, hiv_fits, htag_fits, hresult⟩
    obtain ⟨iv_text, hiv_text, hiv⟩ := Option.bind_eq_some_iff.mp hfields.iv
    obtain ⟨ct_text, hct_text, hciphertext⟩ := Option.bind_eq_some_iff.mp hfields.ciphertext
    obtain ⟨tag_text, htag_text, htag⟩ := Option.bind_eq_some_iff.mp hfields.tag
    -- the buffer of the ciphertext is as long as its text, which always suffices
    refine ⟨ct_text, hitems.2.1 ▸ hct_text, iv_text, hitems.1 ▸ hiv_text, tag_text, hitems.2.2 ▸ htag_text, iv,
      ⟨hiv, hiv_fits iv_text hiv_text⟩, tag, ⟨htag, htag_fits tag_text htag_text⟩, ciphertext,
      ⟨hciphertext, b64.required_le ct_text⟩, hresult⟩

omit hiv hct htag in
/-- What may be returned for the fields of an object. -/
theorem accepted_iff {iv ciphertext tag plaintext : Bytes} (hfields : Fields L b64 data_obj iv ciphertext tag) :
    Accepted L b64 session data_obj plaintext ↔ (Regular iv ciphertext tag ∧ session.is_encrypted = true) ∧
      L.gcm_auth_decrypt session.session_key iv tag ciphertext = some plaintext := by
  have hdecrypt : Regular iv ciphertext tag → (ble_crypto_decrypt L session ciphertext iv tag = some plaintext ↔
      session.is_encrypted = true ∧
        L.gcm_auth_decrypt session.session_key iv tag ciphertext = some plaintext) := by
    intro hregular
    rw [ble_crypto_decrypt, List.take_of_length_le hregular.iv.le, List.take_of_length_le hregular.tag.le]
    cases session.is_encrypted <;> simp
  constructor
  · rintro ⟨iv', ciphertext', tag', hfields', hregular, hplaintext⟩
    obtain rfl := Option.some.inj (hfields.iv.symm.trans hfields'.iv)
    obtain rfl := Option.some.inj (hfields.ciphertext.symm.trans hfields'.ciphertext)
    obtain rfl := Option.some.inj (hfields.tag.symm.trans hfields'.tag)
    obtain ⟨hencrypted, hgcm⟩ := (hdecrypt hregular).mp hplaintext
    exact ⟨⟨hregular, hencrypted⟩, hgcm⟩
  · rintro ⟨⟨hregular, hencrypted⟩, hgcm⟩
    exact ⟨iv, ciphertext, tag, hfields, hregular, (hdecrypt hregular).mpr ⟨hencrypted, hgcm⟩⟩

end decrypt

section validated

variable {heap : Heap} {session : Session Ecdh} {data_obj iv_item ct_item tag_item : cJSON}

theorem validated_iff_of_missing (h : L.cJSON_GetObjectItem data_obj (ascii "iv") = none ∨
      L.cJSON_GetObjectItem data_obj (ascii "ciphertext") = none ∨
      L.cJSON_GetObjectItem data_obj (ascii "tag") = none) :
    Validated L b64 heap session data_obj ↔ Harmless L b64 heap session data_obj := by
  refine iff_of_true ⟨none, decrypt_missing _ h, nofun⟩ ?_
  rcases h with h | h | h
  · exact .missing _ (.inl rfl) h
  · exact .missing _ (.inr (.inl rfl)) h
  · exact .missing _ (.inr (.inr rfl)) h

variable (hiv : L.cJSON_GetObjectItem data_obj (ascii "iv") = some iv_item)
  (hct : L.cJSON_GetObjectItem data_obj (ascii "ciphertext") = some ct_item)
  (htag : L.cJSON_GetObjectItem data_obj (ascii "tag") = some tag_item)

include hiv hct htag

theorem not_missing {name : Bytes}
    (hname : name = ascii "iv" ∨ name = ascii "ciphertext" ∨ name = ascii "tag") :
    L.cJSON_GetObjectItem data_obj name ≠ none := by
  rcases hname with rfl | rfl | rfl
  · rw [hiv]
    exact Option.some_ne_none _
  · rw [hct]
    exact Option.some_ne_none _
  · rw [htag]
    exact Option.some_ne_none _

theorem validated_iff_of_unallocated (hheap : heap.ciphertext = false ∨ heap.plaintext = false) :
    Validated L b64 heap session data_obj ↔ Harmless L b64 heap session data_obj := by
  have hstring : L.string_item data_obj (ascii "ciphertext") = ct_item.valuestring := by simp [Library.string_item, hct]
  constructor
  · rintro ⟨result, hrun, -⟩
    rw [decrypt_unallocated hiv hct htag _ hheap] at hrun
    exact .unallocated hheap (hstring ▸ hrun.2)
  · intro hharmless
    refine ⟨none, (decrypt_unallocated hiv hct htag _ hheap none).mpr ⟨rfl, ?_⟩, nofun⟩
    rw [← hstring]
    cases hharmless with
    | missing name hname h => exact absurd h (not_missing hiv hct htag hname)
    | unallocated _ h => exact h
    | decoded iv ciphertext tag hfields =>
      obtain ⟨text, htext, -⟩ := Option.bind_eq_some_iff.mp hfields.ciphertext
      rw [htext, Option.isSome_some]

private theorem validated_iff_of_allocated (hheap : ¬ (heap.ciphertext = false ∨ heap.plaintext = false)) :
    Validated L b64 heap session data_obj ↔ Harmless L b64 heap session data_obj := by
  constructor
  · rintro ⟨result, hrun, haccepted⟩
    obtain ⟨iv, ciphertext, tag, hfields, hiv_fits, htag_fits, hgcm⟩ :=
      (decrypt_allocated hiv hct htag _ hheap result).mp hrun
    refine .decoded iv ciphertext tag hfields hiv_fits htag_fits ?_
    cases result with
    | none => exact .inr hgcm
    | some plaintext => exact .inl ((accepted_iff hfields).mp (haccepted plaintext rfl)).1
  · intro hharmless
    cases hharmless with
    | missing name hname h => exact absurd h (not_missing hiv hct htag hname)
    | unallocated h _ => exact absurd h hheap
    | decoded iv ciphertext tag hfields hiv_fits htag_fits h =>
      refine ⟨_, (decrypt_allocated hiv hct htag _ hheap _).mpr
        ⟨iv, ciphertext, tag, hfields, hiv_fits, htag_fits, rfl⟩, ?_⟩
      intro plaintext hplaintext
      rw [accepted_iff hfields]
      rcases h with hregular | hnone
      · exact ⟨hregular, hplaintext⟩
      · rw [hnone] at hplaintext
        cases hplaintext

end validated

/-- The three items of an object, unless one of them is missing. -/
theorem items_or_missing (data_obj : cJSON) :
    (L.cJSON_GetObjectItem data_obj (ascii "iv") = none ∨
      L.cJSON_GetObjectItem data_obj (ascii "ciphertext") = none ∨
      L.cJSON_GetObjectItem data_obj (ascii "tag") = none) ∨
    ∃ iv_item ct_item tag_item, L.cJSON_GetObjectItem data_obj (ascii "iv") = some iv_item ∧
      L.cJSON_GetObjectItem data_obj (ascii "ciphertext") = some ct_item ∧
      L.cJSON_GetObjectItem data_obj (ascii "tag") = some tag_item := by
  by_cases hmissing : L.cJSON_GetObjectItem data_obj (ascii "iv") = none ∨
      L.cJSON_GetObjectItem data_obj (ascii "ciphertext") = none ∨
        L.cJSON_GetObjectItem data_obj (ascii "tag") = none
  · exact .inl hmissing
  · rw [not_or, not_or] at hmissing
    obtain ⟨iv_item, hiv⟩ := Option.ne_none_iff_exists'.mp hmissing.1
    obtain ⟨ct_item, hct⟩ := Option.ne_none_iff_exists'.mp hmissing.2.1
    obtain ⟨tag_item, htag⟩ := Option.ne_none_iff_exists'.mp hmissing.2.2
    exact .inr ⟨iv_item, ct_item, tag_item, hiv, hct, htag⟩

/-- An object is handled without misuse, and its plaintext returned by the strict rules only,
exactly if it is harmless: the checks that are missing are not needed for it. -/
theorem ble_decrypt_validated_iff {Ecdh : Type} (L : Library Ecdh) (b64 : Base64) (heap : Heap)
    (session : Session Ecdh) (data_obj : cJSON) :
    Validated L b64 heap session data_obj ↔ Harmless L b64 heap session data_obj := by
  rcases items_or_missing data_obj with hmissing | ⟨iv_item, ct_item, tag_item, hiv, hct, htag⟩
  · exact validated_iff_of_missing hmissing
  by_cases hheap : heap.ciphertext = false ∨ heap.plaintext = false
  · exact validated_iff_of_unallocated hiv hct htag hheap
  · exact validated_iff_of_allocated hiv hct htag hheap

/-- The decoder of a library is this one. -/
def Decodes {Ecdh : Type} (L : Library Ecdh) (b64 : Base64) : Prop :=
  ∀ size text bytes memory, b64.mbedtls_base64_decode size text = .ok bytes →
    L.base64_decode size text memory = (true, bytes)

/-- A text that decodes within the buffer is decoded in full, whatever the buffer held before. -/
theorem Decodes.fits {Ecdh : Type} {L : Library Ecdh} {b64 : Base64} (hdecodes : Decodes L b64) {size : Nat}
    {text bytes : Bytes} (memory : Bytes) (hdecode : b64.decode text = some bytes)
    (hfits : b64.required text ≤ size) :
    L.base64_decode size text memory = (true, bytes) := by
  refine hdecodes size text bytes memory ?_
  simp [Base64.mbedtls_base64_decode, hdecode, Nat.not_lt.mpr hfits]

/-- What the handlers get. -/
def decrypted : Option Bytes → Decrypted
  | some plaintext => .plaintext (cstring plaintext)
  | none => .NULL

/-- Without misuse, and with memory, the handlers get this result. -/
theorem decrypted_of_ok {Ecdh : Type} {L : Library Ecdh} {b64 : Base64}
    (hdecodes : Decodes L b64) (w : Surroundings)
    (session_key : Bytes) (data_obj : cJSON) (result : Option Bytes)
    (h : ble_decrypt_json_data L b64 ⟨true, true⟩ session_key (some data_obj) = .ok result) :
    ble.ble_decrypt_json_data L w session_key (some data_obj) = decrypted result := by
  rcases items_or_missing data_obj with hmissing | ⟨iv_item, ct_item, tag_item, hiv, hct, htag⟩
  · rw [decrypt_missing _ hmissing] at h
    obtain rfl := Except.ok.inj h
    unfold ble.ble_decrypt_json_data
    simp only
    split
    · next hiv hct htag => simp [hiv, hct, htag] at hmissing
    · rfl
  · obtain ⟨iv, ciphertext, tag, hfields, hiv_fits, htag_fits, rfl⟩ :=
      (decrypt_allocated hiv hct htag session_key (by decide) result).mp h
    obtain ⟨iv_text, hiv_text, hiv_bytes⟩ := Option.bind_eq_some_iff.mp hfields.iv
    obtain ⟨ct_text, hct_text, hct_bytes⟩ := Option.bind_eq_some_iff.mp hfields.ciphertext
    obtain ⟨tag_text, htag_text, htag_bytes⟩ := Option.bind_eq_some_iff.mp hfields.tag
    have hiv_decoded := hdecodes.fits w.iv hiv_bytes (hiv_fits iv_text hiv_text)
    have hct_decoded := hdecodes.fits w.ciphertext hct_bytes (b64.required_le ct_text)
    have htag_decoded := hdecodes.fits w.tag htag_bytes (htag_fits tag_text htag_text)
    simp only [Library.string_item, hiv, hct, htag, Option.bind_some] at hiv_text hct_text htag_text
    unfold ble.ble_decrypt_json_data
    simp only [hiv, hct, htag, hiv_text, hct_text, htag_text, hiv_decoded, hct_decoded, htag_decoded]
    cases L.gcm_auth_decrypt session_key iv tag ciphertext <;> rfl

/-- The decoder of the standard. -/
def standard : Base64 where
  decode := base64.decode
  required text := text.length / 4 * 3
  decode_length _ _ h := base64.decode_length h
  required_le text := by omega

/-- An object whose iv is a number. -/
def number_for_iv : cJSON :=
  .object [(ascii "iv", .number 7), (ascii "ciphertext", .string (ascii "AAAA")),
    (ascii "tag", .string (ascii "AAAA"))]

/-- A field that is no string is handed to `strlen`. -/
theorem number_for_iv_not_validated :
    ¬ ∀ (Ecdh : Type) (L : Library Ecdh) (b64 : Base64) (heap : Heap)
    (session : Session Ecdh) (data_obj : cJSON),
      Validated L b64 heap session data_obj := by
  intro hall
  obtain ⟨result, hrun, -⟩ := hall Unit plain_library standard ⟨true, true⟩ ⟨(), zero_key, true⟩ number_for_iv
  have hnull : ble_decrypt_json_data plain_library standard ⟨true, true⟩ zero_key (some number_for_iv) =
    .error .null_string := rfl
  rw [hnull] at hrun
  cases hrun

end catbox.ble.rx
