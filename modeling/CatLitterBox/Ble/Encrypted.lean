import CatLitterBox.Ble.Chunks
import CatLitterBox.Ble.Sealing

open text json

namespace catbox.ble.tx

/-- The transmit queue, which holds ten messages. -/
structure TxQueue where
  messages : List ble_data_msg_t
  capacity : messages.length ≤ 10

/-- `xQueueSend` without waiting: whether it succeeds, and the queue afterwards. -/
def TxQueue.xQueueSend (queue : TxQueue) (msg : ble_data_msg_t) : Bool × TxQueue :=
  if h : queue.messages.length < 10 then
    (true, ⟨queue.messages ++ [msg], by rw [List.length_append, List.length_singleton]; exact h⟩)
  else (false, queue)

/-- Memory of a size, with what it holds. -/
abbrev Block (size : Nat) := { bytes : Bytes // bytes.length = size }

/-- What `malloc` delivers for a size, NULL being none. -/
abbrev Malloc := (size : Nat) → Option (Block size)

/-- The calls of `malloc` on the way of an event. -/
structure Heap where
  ciphertext : Malloc
  ct_b64 : Malloc
  final_json : Malloc
  msg_data : Malloc

/-- All allocations succeed. -/
structure Heap.Succeeds (heap : Heap) : Prop where
  ciphertext : ∀ size, (heap.ciphertext size).isSome
  ct_b64 : ∀ size, (heap.ct_b64 size).isSome
  final_json : ∀ size, (heap.final_json size).isSome
  msg_data : ∀ size, (heap.msg_data size).isSome

/-- Bytes that can be read up to a length. -/
abbrev Readable (len : UInt16) := { bytes : Bytes // len.toNat ≤ bytes.length }

def ble_send_data_to_queue (malloc : Malloc) (len : UInt16) (data : Option (Readable len))
    (ble_tx_queue : Option TxQueue) : Bool × Option TxQueue :=
  match data, ble_tx_queue with
  | some data, some queue =>
    if len = 0 then (false, some queue)
    else if (malloc len.toNat).isNone then (false, some queue)
    else
      let (sent, queue) := queue.xQueueSend ⟨len, data.1.take len.toNat, List.length_take_of_le data.2⟩
      (sent, some queue)
  | _, ble_tx_queue => (false, ble_tx_queue)

/-- What an encoding leaves: whether it returns 0, the length, and the buffer. -/
structure Encoded where
  ret : Bool
  olen : Nat
  dst : Bytes

variable {Ecdh : Type} (L : Library Ecdh)

/-- The buffer must have room for the digits and a NUL. If it has not, the length is what it
would have to be. -/
def mbedtls_base64_encode (dst src : Bytes) : Encoded :=
  if src = [] then ⟨true, 0, dst⟩
  else if dst.length < (L.base64_encode src).length + 1 then ⟨false, (L.base64_encode src).length + 1, dst⟩
  else ⟨true, (L.base64_encode src).length, memcpy dst 0 (L.base64_encode src ++ [0])⟩

/-- `snprintf` into a buffer that is not empty: the text, cut so that a NUL fits behind it. -/
def snprintf (str text : Bytes) : Bytes := memcpy str 0 (text.take (str.length - 1) ++ [0])

/-- The variables of `ble_send_encrypted_event` when the text is formatted. `ret` is the length of
the text that `snprintf` has been asked for. -/
structure Formatted where
  iv_b64 : Encoded
  tag_b64 : Encoded
  ct_b64 : Encoded
  final_json_len : Nat
  final_json : Bytes
  ret : Nat

inductive Outcome where
  | formatted (f : Formatted)
  /-- An allocation has failed and nothing is sent. -/
  | abandoned
  /-- The cipher writes through a NULL pointer. -/
  | LoadProhibited

/-- `ble_send_encrypted_event` up to the formatted text. The result of the first `malloc` is not
checked. -/
def format (heap : Heap) (session_key iv event_type plain_data : Bytes) : Outcome :=
  let plain_len := plain_data.length
  if (heap.ciphertext plain_len).isNone ∧ plain_len ≠ 0 then .LoadProhibited
  else
    let ciphertext := (L.gcm_crypt_and_tag session_key iv plain_data).1
    let tag := (L.gcm_crypt_and_tag session_key iv plain_data).2
    match heap.ct_b64 (plain_len * 2 + 16) with
    | none => .abandoned
    | some block =>
      let iv_b64 := mbedtls_base64_encode L (zeros 32) iv
      let tag_b64 := mbedtls_base64_encode L (zeros 32) tag
      let ct_b64 := mbedtls_base64_encode L block.1 ciphertext
      let final_json_len := 70 + event_type.length + iv_b64.olen + ct_b64.olen + tag_b64.olen
      match heap.final_json final_json_len with
      | none => .abandoned
      | some block =>
        let text := encrypted_json event_type (cstring iv_b64.dst) (cstring ct_b64.dst) (cstring tag_b64.dst)
        .formatted { iv_b64, tag_b64, ct_b64, final_json_len, final_json := snprintf block.1 text, ret := text.length }

theorem strlen_readable (array : Bytes) : (cstring array).length.toUInt16.toNat ≤ array.length := by
  have hnarrow : (cstring array).length.toUInt16.toNat = (cstring array).length % 65536 := UInt16.toNat_ofNat
  have hcstring : (cstring array).length ≤ array.length := (List.takeWhile_prefix _).length_le
  rw [hnarrow]
  omega

/-- The transmit queue after `ble_send_encrypted_event`. The length is narrowed to 16 bits. -/
def ble_send_encrypted_event (heap : Heap) (session_key iv event_type plain_data : Bytes)
    (ble_tx_queue : Option TxQueue) : Option TxQueue :=
  match format L heap session_key iv event_type plain_data with
  | .formatted f =>
    (ble_send_data_to_queue heap.msg_data (cstring f.final_json).length.toUInt16
      (some ⟨f.final_json, strlen_readable f.final_json⟩) ble_tx_queue).2
  | .abandoned => ble_tx_queue
  | .LoadProhibited => none

/-- An event to be sent under a session key, and the iv that is drawn for it. -/
structure Event where
  event_type : PlainText
  plain_data : Bytes
  session_key : Bytes
  iv : Bytes
  plain_data_ne : plain_data ≠ []
  nul_free : 0 ∉ plain_data
  session_key_length : session_key.length = 32
  iv_length : iv.length = 12

def Event.members (e : Event) : Members :=
  message_members e.event_type (encoded e.iv)
    (encoded (L.gcm_crypt_and_tag e.session_key e.iv e.plain_data).1)
    (encoded (L.gcm_crypt_and_tag e.session_key e.iv e.plain_data).2)

/-- The encrypted event. -/
def Event.text (e : Event) : Bytes := (Doc.object (e.members L)).render

/-- A queue has a message more, with these bytes. -/
def Queued (text : Bytes) (before after : Option TxQueue) : Prop :=
  ∃ queue queue' msg, before = some queue ∧ after = some queue' ∧
    queue'.messages = queue.messages ++ [msg] ∧ msg.data = text

/-- The queue has been created and is not full. -/
def HasRoom (ble_tx_queue : Option TxQueue) : Prop :=
  ∃ queue, ble_tx_queue = some queue ∧ queue.messages.length < 10

/-- The encodings have room, the text is not cut, and it reads as an object whose `data` is decrypted
to the plaintext under the same key. -/
structure Event.Intact (e : Event) (f : Formatted) : Prop where
  encoded : f.iv_b64.ret = true ∧ f.tag_b64.ret = true ∧ f.ct_b64.ret = true
  untruncated : f.ret < f.final_json_len
  returned : ∀ w, ∃ root, L.cJSON_Parse (cstring f.final_json) = some root ∧
    ble_decrypt_json_data L w e.session_key (L.cJSON_GetObjectItem root (ascii "data")) = .plaintext e.plain_data

variable {L}

theorem cstring_terminated {text : Bytes} (h : 0 ∉ text) (dst : Bytes) :
    cstring (memcpy dst 0 (text ++ [0])) = text := by
  unfold memcpy
  rw [List.take_zero, List.nil_append, List.append_assoc]
  exact cstring_of_nul h

theorem snprintf_whole {str text : Bytes} (h : 0 ∉ text) (hroom : text.length < str.length) :
    cstring (snprintf str text) = text := by
  have hwhole : text.take (str.length - 1) = text := List.take_of_length_le (by omega)
  rw [snprintf, hwhole, cstring_terminated h]

/-- An encoding that fits is whole, and reads as a string. -/
theorem mbedtls_base64_encode_fits (hL : L.Documented) (dst : Bytes) {src : Bytes} (hne : src ≠ [])
    (hroom : 4 * ((src.length + 2) / 3) < dst.length) :
    (mbedtls_base64_encode L dst src).ret = true ∧
      (mbedtls_base64_encode L dst src).olen = (base64.encode src).length ∧
      cstring (mbedtls_base64_encode L dst src).dst = base64.encode src := by
  have hfits : ¬ dst.length < (base64.encode src).length + 1 := by
    rw [base64.encode_length]
    omega
  have hnul : 0 ∉ base64.encode src := by
    intro h
    exact absurd (base64.encode_plain h).1 (by decide)
  unfold mbedtls_base64_encode
  rw [hL.base64_encode, if_neg hne, if_neg hfits]
  exact ⟨rfl, rfl, cstring_terminated hnul dst⟩

theorem queued_of_room {malloc : Malloc} (hmalloc : ∀ size, (malloc size).isSome)
    {len : UInt16} (hlen : len ≠ 0)
    (data : Readable len) {queue : Option TxQueue} (h : HasRoom queue) :
    Queued (data.1.take len.toNat) queue (ble_send_data_to_queue malloc len (some data) queue).2 := by
  obtain ⟨queue, rfl, hroom⟩ := h
  have hsome : ¬ (malloc len.toNat).isNone = true := by
    rw [← Option.not_isSome, hmalloc]
    exact Bool.false_ne_true
  let msg : ble_data_msg_t := ⟨len, data.1.take len.toNat, List.length_take_of_le data.2⟩
  refine ⟨queue, (queue.xQueueSend msg).2, msg, rfl, ?_, ?_, rfl⟩
  · simp only [ble_send_data_to_queue, if_neg hlen, if_neg hsome, msg]
  · simp only [TxQueue.xQueueSend, dif_pos hroom]

/-- A queue without room is left as it is. -/
theorem unchanged_of_no_room (malloc : Malloc) {len : UInt16} (data : Readable len) {queue : Option TxQueue}
    (h : ¬ HasRoom queue) : (ble_send_data_to_queue malloc len (some data) queue).2 = queue := by
  unfold ble_send_data_to_queue
  cases queue with
  | none => rfl
  | some queue =>
    have hfull : ¬ queue.messages.length < 10 := fun hroom => h ⟨queue, rfl, hroom⟩
    simp only [TxQueue.xQueueSend, dif_neg hfull]
    split_ifs <;> rfl

section event

variable (hL : L.Documented) (e : Event) {heap : Heap} (hheap : heap.Succeeds)

/-- The text of an event is the rendering of its four encoded parts. -/
theorem Event.text_eq : e.text L = encrypted_json e.event_type.1 (base64.encode e.iv)
    (base64.encode (L.gcm_crypt_and_tag e.session_key e.iv e.plain_data).1)
    (base64.encode (L.gcm_crypt_and_tag e.session_key e.iv e.plain_data).2) :=
  (encrypted_json_render e.event_type (encoded _) (encoded _) (encoded _)).symm

include hL

/-- The text parses to an object from which the plaintext is recovered. -/
theorem Event.text_returned (w : Surroundings) : ∃ root, L.cJSON_Parse (e.text L) = some root ∧
    ble_decrypt_json_data L w e.session_key (L.cJSON_GetObjectItem root (ascii "data")) =
      .plaintext e.plain_data := by
  have hdepth : (e.members L).depth = 1 := rfl
  have hdata : L.cJSON_GetObjectItem (Doc.object (e.members L)).value (ascii "data") =
      some (Doc.object (sealing L e.session_key e.iv e.plain_data)).value := by
    rw [hL.get_object_item]
    rfl
  refine ⟨(Doc.object (e.members L)).value, hL.parse _ (by rw [hdepth]; decide), ?_⟩
  rw [hdata, decrypt_sealing hL e.session_key_length e.iv_length w, cstring_of_not_mem e.nul_free]

include hheap

/-- The three encodings have room, and so has the text. -/
theorem Event.formatted : ∃ f, format L heap e.session_key e.iv e.event_type.1 e.plain_data = .formatted f ∧
    (f.iv_b64.ret = true ∧ f.tag_b64.ret = true ∧ f.ct_b64.ret = true) ∧ f.ret < f.final_json_len ∧
    cstring f.final_json = e.text L := by
  obtain ⟨hlength, htag⟩ := hL.gcm_length e.session_key e.iv e.plain_data e.session_key_length e.iv_length
  obtain ⟨block, hblock⟩ := Option.isSome_iff_exists.mp (hheap.ct_b64 (e.plain_data.length * 2 + 16))
  have hiv := e.iv_length
  have hplain : 0 < e.plain_data.length := List.length_pos_of_ne_nil e.plain_data_ne
  have hciphertext : ¬ ((heap.ciphertext e.plain_data.length).isNone ∧ e.plain_data.length ≠ 0) := by
    rintro ⟨hnone, -⟩
    rw [← Option.not_isSome, hheap.ciphertext] at hnone
    cases hnone
  have htext := e.text_eq (L := L)
  have hnul : 0 ∉ e.text L := nul_not_mem_render _
  rw [htext] at hnul ⊢
  unfold format
  simp only [if_neg hciphertext, hblock]
  generalize (L.gcm_crypt_and_tag e.session_key e.iv e.plain_data).1 = ciphertext at *
  generalize (L.gcm_crypt_and_tag e.session_key e.iv e.plain_data).2 = tag at *
  -- 16 and 24 digits have room in 32 bytes, and the digits of the ciphertext in twice its length and 16
  have hzeros : (zeros 32).length = 32 := List.length_replicate
  obtain ⟨hivret, hivlen, hivtext⟩ := mbedtls_base64_encode_fits hL (zeros 32)
    (List.ne_nil_of_length_pos (l := e.iv) (by omega)) (by omega)
  obtain ⟨htagret, htaglen, htagtext⟩ := mbedtls_base64_encode_fits hL (zeros 32)
    (List.ne_nil_of_length_pos (l := tag) (by omega)) (by omega)
  have hroom := block.2
  obtain ⟨hctret, hctlen, hcttext⟩ := mbedtls_base64_encode_fits hL block.1
    (List.ne_nil_of_length_pos (l := ciphertext) (by omega)) (by omega)
  rw [hivlen, htaglen, hctlen, hivtext, htagtext, hcttext]
  obtain ⟨final, hfinal⟩ := Option.isSome_iff_exists.mp (hheap.final_json
    (70 + e.event_type.1.length + (base64.encode e.iv).length + (base64.encode ciphertext).length +
      (base64.encode tag).length))
  have hwhole := encrypted_json_length e.event_type.1 (base64.encode e.iv) (base64.encode ciphertext)
    (base64.encode tag)
  simp only [hfinal]
  refine ⟨_, rfl, ⟨hivret, htagret, hctret⟩, by simp only; omega, ?_⟩
  have hfinalroom := final.2
  exact snprintf_whole hnul (by omega)

/-- The text of an event that fits its length field is intact, so the peer reads what has been sent.
It is queued whole if the queue has room, and otherwise the event is dropped and the queue stays as
it was. -/
theorem encrypted_event_round_trip (hshort : (e.text L).length < 65536) (queue : Option TxQueue) :
    ∃ f, format L heap e.session_key e.iv e.event_type.1 e.plain_data = .formatted f ∧ e.Intact L f ∧
      (HasRoom queue → Queued (e.text L) queue
        (ble_send_encrypted_event L heap e.session_key e.iv e.event_type.1 e.plain_data queue)) ∧
      (¬ HasRoom queue →
        ble_send_encrypted_event L heap e.session_key e.iv e.event_type.1 e.plain_data queue = queue) := by
  obtain ⟨f, hformat, hencoded, huntruncated, htext⟩ := e.formatted hL hheap
  have hlen : (cstring f.final_json).length.toUInt16.toNat = (e.text L).length := by
    rw [htext]
    exact UInt16.toNat_ofNat_of_lt' hshort
  have hpos : 0 < (e.text L).length := by
    rw [e.text_eq, encrypted_json_length]
    omega
  have hne : (cstring f.final_json).length.toUInt16 ≠ 0 := by
    intro hzero
    rw [hzero] at hlen
    exact absurd hlen hpos.ne
  refine ⟨f, hformat, ⟨hencoded, huntruncated, fun w => htext ▸ e.text_returned hL w⟩, ?_, ?_⟩
  · intro hroom
    have hqueued := queued_of_room hheap.msg_data hne ⟨f.final_json, strlen_readable f.final_json⟩ hroom
    have hprefix : f.final_json.take (cstring f.final_json).length.toUInt16.toNat = e.text L := by
      rw [hlen, ← htext]
      exact (List.prefix_iff_eq_take.mp (List.takeWhile_prefix _)).symm
    simp only [ble_send_encrypted_event, hformat]
    exact hprefix ▸ hqueued
  · intro hnone
    simp only [ble_send_encrypted_event, hformat]
    exact unchanged_of_no_room _ _ hnone

omit hheap

/-- What the handlers report as their effect is this text. -/
theorem Event.effect (w : Surroundings) (hiv : w.event_iv = e.iv) :
    ble.ble_send_encrypted_event L w e.session_key e.event_type.1 e.plain_data =
      .encrypted_event e.session_key e.event_type.1 (e.text L) := by
  unfold ble.ble_send_encrypted_event
  simp only [hiv, hL.base64_encode, e.text_eq (L := L)]

end event

/-- The acknowledgement of an environment, and its encryption. -/
def ok_encryption : Encryption where
  key := (List.range 32).map Nat.toUInt8
  iv := [1, 2, 3, 4, 5, 6, 7, 8, 9, 10, 11, 12]
  plaintext := ascii "\x7b\"result\":\"ok\"\x7d"
  ciphertext := [126, 200, 40, 176, 159, 225, 156, 242, 110, 152, 65, 40, 123, 49, 151]
  tag := [32, 205, 116, 94, 186, 113, 78, 42, 162, 43, 229, 135, 93, 113, 140, 10]
  ciphertext_length := by decide
  tag_length := by decide
  tag_ne := by decide

def env_ack : Event where
  event_type := ⟨ascii "env_ack", by decide⟩
  plain_data := ok_encryption.plaintext
  session_key := ok_encryption.key
  iv := ok_encryption.iv
  plain_data_ne := by decide
  nul_free := by decide
  session_key_length := by decide
  iv_length := by decide

/-- A heap that always has memory. -/
def ample_heap : Heap :=
  let malloc : Malloc := fun size => some ⟨zeros size, List.length_replicate⟩
  ⟨malloc, malloc, malloc, malloc⟩

theorem ample_heap_succeeds : ample_heap.Succeeds :=
  ⟨fun _ => rfl, fun _ => rfl, fun _ => rfl, fun _ => rfl⟩

theorem env_ack_short : (env_ack.text (known_library ok_encryption)).length < 65536 := by
  rw [env_ack.text_eq, encrypted_json_length]
  decide +kernel

theorem env_ack_round_trip :
    ∃ f, format (known_library ok_encryption) ample_heap env_ack.session_key env_ack.iv env_ack.event_type.1
        env_ack.plain_data = .formatted f ∧ env_ack.Intact (known_library ok_encryption) f ∧
      (HasRoom (some ⟨[], by decide⟩) →
        Queued (env_ack.text (known_library ok_encryption)) (some ⟨[], by decide⟩)
        (ble_send_encrypted_event (known_library ok_encryption) ample_heap env_ack.session_key env_ack.iv
          env_ack.event_type.1 env_ack.plain_data (some ⟨[], by decide⟩))) ∧
      (¬ HasRoom (some ⟨[], by decide⟩) →
        ble_send_encrypted_event (known_library ok_encryption) ample_heap env_ack.session_key env_ack.iv
          env_ack.event_type.1 env_ack.plain_data (some ⟨[], by decide⟩) = some ⟨[], by decide⟩) :=
  encrypted_event_round_trip (known_library_documented ok_encryption) env_ack
    ample_heap_succeeds env_ack_short _

/-- A queue with ten messages takes no event. -/
theorem env_ack_dropped : ¬ ∀ (Ecdh : Type) (L : Library Ecdh) (e : Event) (heap : Heap)
    (queue : Option TxQueue),
    L.Documented → heap.Succeeds → (e.text L).length < 65536 →
    ∃ f, format L heap e.session_key e.iv e.event_type.1 e.plain_data = .formatted f ∧ e.Intact L f ∧
      Queued (e.text L) queue
        (ble_send_encrypted_event L heap e.session_key e.iv e.event_type.1 e.plain_data queue) := by
  intro hall
  let full : TxQueue := ⟨List.replicate 10 three_bytes, by decide⟩
  have hdocumented := known_library_documented ok_encryption
  obtain ⟨f, hformat, -, queue, queue', msg, hbefore, hafter, hmessages, -⟩ :=
    hall Unit (known_library ok_encryption) env_ack ample_heap (some full) hdocumented ample_heap_succeeds
      env_ack_short
  obtain rfl := Option.some.inj hbefore
  have hcapacity := queue'.capacity
  rw [hmessages, List.length_append, List.length_replicate, List.length_singleton] at hcapacity
  omega

end catbox.ble.tx
