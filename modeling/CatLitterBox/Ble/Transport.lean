import CatLitterBox.Ble.Chunks
import CatLitterBox.Memory.Heap
import CatLitterBox.Queue.Channel

open heap queue text

namespace catbox.ble

def BLE_HS_CONN_HANDLE_NONE : UInt16 := 0xFFFF

/-- A message of the queues of `ble_task.c`. Its data is in a block, where the sender has put what `msg` says.
Only `ble_svc_gatt_handler` sets the address of the peer. -/
structure QueuedData where
  mac : Option Bytes
  data : Nat
  msg : ble_data_msg_t

/-- The block, with what is in it. -/
def QueuedData.block (x : QueuedData) : Nat × Bytes := (x.data, x.msg.data)

inductive BleQueue where
  | ble_rx_queue
  | ble_tx_queue

/-- A task inside `ble_send_data_to_queue`, or the host task inside `ble_svc_gatt_handler`, that has copied
its data: it is about to send the message, or it has found the queue full and is about to free the block. -/
structure BleSender where
  queue : BleQueue
  message : QueuedData
  full : Bool

/-- The next statement of `ble_tx_processing_task`, which has taken a message. -/
inductive TxPlace where
  | test
  | send (offset : UInt16)
  | free

/-- What has become of a message of the transmit queue: the connection that the test has found, if there was
one, what has been handed to `ble_server_send_notify`, and whether a phone has come or gone meanwhile. -/
structure Delivery where
  message : QueuedData
  connection : Option UInt16
  chunks : List (UInt16 × Bytes)
  disturbed : Bool

/-- The variables of `ble_task.c`, the places of its tasks and its history: what `BLE_Receive_data` has been
given, and what has become of the messages of the transmit queue. -/
structure Transport where
  heap : Heap UInt8
  rx : Channel QueuedData 10
  tx : Channel QueuedData 10
  senders : List BleSender
  rx_handled : Bool
  tx_place : TxPlace
  is_phone_connected : Bool
  current_conn_handle : UInt16
  Mac_sending_timer : Bool
  g_ble_max_payload : UInt16
  received : List (Option Bytes × Bytes)
  connection : Option UInt16
  chunks : List (UInt16 × Bytes)
  disturbed : Bool
  delivered : List Delivery

/-- After `ble_task_init`. -/
def Transport.boot : Transport where
  heap := .empty
  rx := .empty
  tx := .empty
  senders := []
  rx_handled := false
  tx_place := .test
  is_phone_connected := false
  current_conn_handle := BLE_HS_CONN_HANDLE_NONE
  Mac_sending_timer := false
  g_ble_max_payload := 20
  received := []
  connection := none
  chunks := []
  disturbed := false
  delivered := []

/-- What happens next. A step of a task, and what the peer and the other tasks do: `memory` is whether
`malloc` has some left. -/
inductive BleMove where
  | ble_svc_gatt_handler (mac : Bytes) (msg : ble_data_msg_t) (memory : Bool)
  | ble_send_data_to_queue (msg : ble_data_msg_t) (memory : Bool)
  | mac_send_timer_callback (msg : ble_data_msg_t) (memory : Bool)
  | xQueueSend (i : Nat)
  | free (i : Nat)
  | ble_rx_processing_task
  | ble_tx_processing_task
  | connect (conn_handle : UInt16)
  | disconnect
  | mtu_info (max_payload : UInt16)

namespace Transport

/-- A message without data is not sent. -/
def begin (s : Transport) (queue : BleQueue) (mac : Option Bytes) (msg : ble_data_msg_t) (memory : Bool) :
    Transport :=
  if 0 < msg.len ∧ memory then
    { s with
      heap := s.heap.malloc msg.data
      senders := ⟨queue, ⟨mac, s.heap.next, msg⟩, false⟩ :: s.senders }
  else s

/-- `xQueueSend` without a wait; none if the queue is full. -/
def push (s : Transport) (x : BleSender) : Option Transport :=
  match x.queue with
  | .ble_rx_queue => (s.rx.push x.message).map fun rx => { s with rx }
  | .ble_tx_queue => (s.tx.push x.message).map fun tx => { s with tx }

def xQueueSend (s : Transport) (i : Nat) : Transport :=
  match s.senders[i]? with
  | none => s
  | some x =>
    if x.full then s
    else
      match s.push x with
      | some s => { s with senders := s.senders.eraseIdx i }
      | none => { s with senders := s.senders.set i { x with full := true } }

/-- None if the block is not in use. -/
def drop (s : Transport) (i : Nat) : Option Transport :=
  match s.senders[i]? with
  | none => some s
  | some x =>
    if x.full then
      (s.heap.free x.message.data).map fun heap => { s with heap, senders := s.senders.eraseIdx i }
    else some s

def ble_rx_processing_task (s : Transport) : Option Transport :=
  match s.rx.taken with
  | none => some { s with rx := s.rx.receive, rx_handled := false }
  | some x =>
    if s.rx_handled then
      (s.heap.free x.data).map fun heap => { s with heap, rx := s.rx.finish, rx_handled := false }
    else
      (s.heap.read x.data).map fun data =>
        { s with received := s.received ++ [(x.mac, data)], rx_handled := true }

def ble_tx_processing_task (s : Transport) : Option Transport :=
  match s.tx.taken with
  | none => some { s with tx := s.tx.receive, tx_place := .test }
  | some x =>
    match s.tx_place with
    | .test =>
      let s := { s with chunks := [], disturbed := false }
      if s.is_phone_connected ∧ s.current_conn_handle ≠ BLE_HS_CONN_HANDLE_NONE then
        some { s with connection := some s.current_conn_handle, tx_place := .send 0 }
      else some { s with connection := none, tx_place := .free }
    | .send offset =>
      if offset < x.msg.len then
        (s.heap.read x.data).map fun data =>
          let send_len := x.msg.send_len s.g_ble_max_payload offset
          let chunk := (data.drop offset.toNat).take send_len.toNat
          let offset := offset + send_len
          { s with
            chunks := s.chunks ++ [(s.current_conn_handle, chunk)]
            tx_place := if offset = x.msg.len then .free else .send offset }
      else some { s with tx_place := .free }
    | .free =>
      (s.heap.free x.data).map fun heap =>
        { s with
          heap
          tx := s.tx.finish
          delivered := s.delivered ++ [⟨x, s.connection, s.chunks, s.disturbed⟩] }

/-- None if a block is used that is not there. -/
def step (s : Transport) : BleMove → Option Transport
  | .ble_svc_gatt_handler mac msg memory => some (s.begin .ble_rx_queue (some mac) msg memory)
  | .ble_send_data_to_queue msg memory => some (s.begin .ble_tx_queue none msg memory)
  | .mac_send_timer_callback msg memory =>
    if s.Mac_sending_timer then
      some ({ s with Mac_sending_timer := false }.begin .ble_tx_queue none msg memory)
    else some s
  | .xQueueSend i => some (s.xQueueSend i)
  | .free i => s.drop i
  | .ble_rx_processing_task => s.ble_rx_processing_task
  | .ble_tx_processing_task => s.ble_tx_processing_task
  | .connect conn_handle =>
    some
      { s with
        is_phone_connected := true
        Mac_sending_timer := true
        current_conn_handle := conn_handle
        disturbed := true }
  | .disconnect =>
    some
      { s with
        Mac_sending_timer := false
        current_conn_handle := BLE_HS_CONN_HANDLE_NONE
        is_phone_connected := false
        disturbed := true }
  | .mtu_info max_payload => some { s with g_ble_max_payload := max_payload }

/-- The messages that a task or a queue holds. -/
def messages (s : Transport) : List QueuedData := s.rx.held ++ (s.tx.held ++ s.senders.map BleSender.message)

/-- The messages that `BLE_Receive_data` has been given. -/
def handled (s : Transport) : List QueuedData := s.rx.finished ++ if s.rx_handled then s.rx.taken.toList else []

end Transport

/-- A message has left whole, or has been cancelled for want of a phone; and unless a phone has come or gone,
all of it has gone to one connection. -/
def Delivery.Faithful (x : Delivery) : Prop :=
  match x.connection with
  | none => x.chunks = []
  | some conn_handle =>
    conn_handle ≠ BLE_HS_CONN_HANDLE_NONE ∧ x.chunks.flatMap Prod.snd = x.message.msg.data ∧
      (x.disturbed = false → ∀ chunk ∈ x.chunks, chunk.1 = conn_handle)

/-- How far the transmit task has come with its message. -/
def Transport.Underway (s : Transport) (x : QueuedData) : Prop :=
  match s.tx_place with
  | .test => True
  | .send offset =>
    offset.toNat ≤ x.msg.len.toNat ∧ s.chunks.flatMap Prod.snd = x.msg.data.take offset.toNat ∧
      ∃ conn_handle, s.connection = some conn_handle ∧ conn_handle ≠ BLE_HS_CONN_HANDLE_NONE ∧
        (s.disturbed = false → s.current_conn_handle = conn_handle ∧ ∀ chunk ∈ s.chunks, chunk.1 = conn_handle)
  | .free => Delivery.Faithful ⟨x, s.connection, s.chunks, s.disturbed⟩

/-- What every run keeps. -/
structure Transport.Sound (s : Transport) : Prop where
  owned : s.heap.Owned (s.messages.map QueuedData.block)
  received : s.received = s.handled.map fun x => (x.mac, x.msg.data)
  delivered : s.delivered.map Delivery.message = s.tx.finished
  faithful : ∀ x ∈ s.delivered, x.Faithful
  underway : ∀ x, s.tx.taken = some x → s.Underway x

variable {s : Transport} {x : QueuedData} {i : Nat}

theorem boot_transport_sound : Transport.boot.Sound := ⟨owned_empty, rfl, rfl, nofun, nofun⟩

theorem begin_sound (h : s.Sound) (queue : BleQueue) (mac : Option Bytes)
    (msg : ble_data_msg_t) (memory : Bool) :
    (s.begin queue mac msg memory).Sound := by
  unfold Transport.begin
  split_ifs
  · refine ⟨(h.owned.malloc msg.data).reorder ?_, h.received, h.delivered, h.faithful, h.underway⟩
    unfold Transport.messages
    simp only [List.map_append, List.map_cons]
    rw [← List.append_assoc, ← List.append_assoc]
    exact List.perm_middle.symm
  · exact h

/-- A sender that leaves. -/
theorem senders_perm {sender : BleSender} (hi : s.senders[i]? = some sender) :
    (s.senders.map BleSender.message).Perm
    (sender.message :: (s.senders.eraseIdx i).map BleSender.message) := by
  obtain ⟨hlt, rfl⟩ := List.getElem?_eq_some_iff.mp hi
  exact ((List.getElem_cons_eraseIdx_perm hlt).symm.map BleSender.message)

private theorem senders_refused {sender : BleSender} (hi : s.senders[i]? = some sender) :
    (s.senders.set i { sender with full := true }).map BleSender.message = s.senders.map BleSender.message := by
  have hmessage : (s.senders.map BleSender.message)[i]? = some sender.message := by
    rw [List.getElem?_map, hi, Option.map_some]
  obtain ⟨hlt, hget⟩ := List.getElem?_eq_some_iff.mp hmessage
  rw [List.map_set, ← hget, List.set_getElem_self]

private theorem refused_sound (h : s.Sound) {sender : BleSender} (hi : s.senders[i]? = some sender) :
    { s with senders := s.senders.set i { sender with full := true } }.Sound := by
  refine ⟨?_, h.received, h.delivered, h.faithful, h.underway⟩
  have howned := h.owned
  unfold Transport.messages at howned ⊢
  rw [senders_refused hi]
  exact howned

/-- A message that is let into a queue leaves its sender. -/
theorem accepted_sound (h : s.Sound) {s' : Transport} {sender : BleSender} (hi : s.senders[i]? = some sender)
    (hpush : s.push sender = some s') : { s' with senders := s'.senders.eraseIdx i }.Sound := by
  obtain ⟨queue, message, full⟩ := sender
  have hperm := senders_perm hi
  cases queue with
  | ble_rx_queue =>
    obtain ⟨rx, hrx, rfl⟩ := Option.map_eq_some_iff.mp hpush
    obtain ⟨hheld, htaken, hfinished⟩ := push_eq hrx
    refine ⟨h.owned.reorder (List.Perm.map _ ?_), ?_, h.delivered, h.faithful, h.underway⟩
    · unfold Transport.messages
      simp only [hheld, List.append_assoc, List.singleton_append]
      exact ((hperm.append_left s.tx.held).trans List.perm_middle).append_left s.rx.held
    · have hreceived := h.received
      unfold Transport.handled at hreceived ⊢
      simp only [hfinished, htaken]
      exact hreceived
  | ble_tx_queue =>
    obtain ⟨tx, htx, rfl⟩ := Option.map_eq_some_iff.mp hpush
    obtain ⟨hheld, htaken, hfinished⟩ := push_eq htx
    refine ⟨h.owned.reorder (List.Perm.map _ ?_), h.received, h.delivered.trans hfinished.symm, h.faithful, ?_⟩
    · unfold Transport.messages
      simp only [hheld, List.append_assoc, List.singleton_append]
      exact (hperm.append_left s.tx.held).append_left s.rx.held
    · intro x hx
      exact h.underway x (htaken.symm.trans hx)

theorem xQueueSend_sound (h : s.Sound) (i : Nat) : (s.xQueueSend i).Sound := by
  unfold Transport.xQueueSend
  split
  · exact h
  · next sender hi =>
    split_ifs
    · exact h
    · split
      · next hpush => exact accepted_sound h hi hpush
      · exact refused_sound h hi

theorem drop_sound (h : s.Sound) (i : Nat) : ∃ s', s.drop i = some s' ∧ s'.Sound := by
  unfold Transport.drop
  split
  · exact ⟨s, rfl, h⟩
  · next sender hi =>
    split_ifs
    · have hperm : (s.messages.map QueuedData.block).Perm (sender.message.block ::
          ({ s with senders := s.senders.eraseIdx i } : Transport).messages.map QueuedData.block) := by
        rw [← List.map_cons]
        refine List.Perm.map _ ?_
        unfold Transport.messages
        rw [← List.append_assoc, ← List.append_assoc]
        exact ((senders_perm hi).append_left _).trans List.perm_middle
      obtain ⟨heap, hfree, howned⟩ := (h.owned.reorder hperm).free
      rw [hfree]
      exact ⟨_, rfl, howned, h.received, h.delivered, h.faithful, h.underway⟩
    · exact ⟨s, rfl, h⟩

theorem ble_rx_processing_task_sound (h : s.Sound) : ∃ s', s.ble_rx_processing_task = some s' ∧ s'.Sound := by
  have hreceived := h.received
  have howned := h.owned
  unfold Transport.handled at hreceived
  unfold Transport.messages at howned
  unfold Transport.ble_rx_processing_task
  cases htaken : s.rx.taken with
  | none =>
    obtain ⟨hheld, hfinished, -⟩ := receive_eq s.rx
    refine ⟨_, rfl, ?_, ?_, h.delivered, h.faithful, h.underway⟩
    · unfold Transport.messages
      simp only [hheld]
      exact howned
    · unfold Transport.handled
      rw [htaken, Option.toList_none, ite_self] at hreceived
      simp only [hfinished, Bool.false_eq_true, if_false]
      exact hreceived
  | some x =>
    obtain ⟨hheld, hfinished⟩ := finish_held htaken
    rw [hheld, List.cons_append, List.map_cons] at howned
    rw [htaken] at hreceived
    cases hhandled : s.rx_handled with
    | true =>
      rw [hhandled] at hreceived
      obtain ⟨heap, hfree, hrest⟩ := howned.free
      simp only [if_true]
      rw [hfree]
      refine ⟨_, rfl, hrest, ?_, h.delivered, h.faithful, h.underway⟩
      unfold Transport.handled
      simp only [hfinished, Bool.false_eq_true, if_false, List.append_nil]
      exact hreceived
    | false =>
      rw [hhandled] at hreceived
      have hread : s.heap.read x.data = some x.msg.data := howned.read List.mem_cons_self
      simp only [Bool.false_eq_true, if_false]
      rw [hread]
      refine ⟨_, rfl, h.owned, ?_, h.delivered, h.faithful, h.underway⟩
      unfold Transport.handled
      simp only [hreceived, htaken, if_true, Bool.false_eq_true, if_false, List.append_nil, List.map_append]
      rfl

private theorem whole_of_offset {offset : UInt16} (h : x.msg.len.toNat ≤ offset.toNat) :
    x.msg.data.take offset.toNat = x.msg.data := List.take_of_length_le (x.msg.length_eq.trans_le h)

/-- Once all of it has been handed on, a message has left whole. -/
theorem faithful_of_sent {connection : Option UInt16} {chunks : List (UInt16 × Bytes)} {disturbed : Bool}
    {offset conn_handle current : UInt16} (hend : x.msg.len.toNat ≤ offset.toNat)
    (hflat : chunks.flatMap Prod.snd = x.msg.data.take offset.toNat)
    (hconnection : connection = some conn_handle)
    (hne : conn_handle ≠ BLE_HS_CONN_HANDLE_NONE)
    (hsame : disturbed = false → current = conn_handle ∧ ∀ chunk ∈ chunks, chunk.1 = conn_handle) :
    Delivery.Faithful ⟨x, connection, chunks, disturbed⟩ := by
  subst hconnection
  exact ⟨hne, hflat.trans (whole_of_offset hend), fun hquiet => (hsame hquiet).2⟩

private theorem ble_tx_processing_task_sound (h : s.Sound) : ∃ s', s.ble_tx_processing_task = some s' ∧ s'.Sound := by
  have howned := h.owned
  unfold Transport.messages at howned
  unfold Transport.ble_tx_processing_task
  cases htaken : s.tx.taken with
  | none =>
    obtain ⟨hheld, hfinished, -⟩ := receive_eq s.tx
    refine ⟨_, rfl, ?_, h.received, h.delivered.trans hfinished.symm, h.faithful, fun _ _ => trivial⟩
    unfold Transport.messages
    simp only [hheld]
    exact howned
  | some x =>
    have hunderway := h.underway x htaken
    unfold Transport.Underway at hunderway
    cases hplace : s.tx_place with
    | test =>
      simp only
      split_ifs with hphone
      · refine ⟨_, rfl, h.owned, h.received, h.delivered, h.faithful, fun y hy => ?_⟩
        exact ⟨Nat.zero_le _, rfl, _, rfl, hphone.2, fun _ => ⟨rfl, nofun⟩⟩
      · exact ⟨_, rfl, h.owned, h.received, h.delivered, h.faithful, fun y hy => rfl⟩
    | send offset =>
      rw [hplace] at hunderway
      obtain ⟨hle, hflat, conn_handle, hconnection, hne, hsame⟩ := hunderway
      by_cases hlt : offset < x.msg.len
      · have hread : s.heap.read x.data = some x.msg.data := by
          refine h.owned.read (List.mem_map_of_mem (f := QueuedData.block) ?_)
          unfold Transport.messages
          rw [(finish_held htaken).1]
          exact List.mem_append_right _ List.mem_cons_self
        have hnext := offset_advances (g := s.g_ble_max_payload) hle
        have hlen := send_len_toNat (g := s.g_ble_max_payload) hle
        have hsent : (s.chunks ++ [(s.current_conn_handle, (x.msg.data.drop offset.toNat).take
            (x.msg.send_len s.g_ble_max_payload offset).toNat)]).flatMap Prod.snd =
            x.msg.data.take (offset + x.msg.send_len s.g_ble_max_payload offset).toNat := by
          rw [List.flatMap_append, hflat, List.flatMap_singleton, hnext, hlen, List.take_add]
        have hstill : s.disturbed = false → s.current_conn_handle = conn_handle ∧
            ∀ chunk ∈ s.chunks ++ [(s.current_conn_handle, (x.msg.data.drop offset.toNat).take
              (x.msg.send_len s.g_ble_max_payload offset).toNat)], chunk.1 = conn_handle := by
          intro hquiet
          obtain ⟨hcurrent, hchunks⟩ := hsame hquiet
          refine ⟨hcurrent, fun chunk hmem => ?_⟩
          obtain hmem | hmem := List.mem_append.mp hmem
          · exact hchunks chunk hmem
          · rw [List.mem_singleton.mp hmem, hcurrent]
        simp only [if_pos hlt]
        rw [hread]
        refine ⟨_, rfl, h.owned, h.received, h.delivered, h.faithful, fun y hy => ?_⟩
        obtain rfl := Option.some.inj (htaken.symm.trans hy)
        unfold Transport.Underway
        by_cases hend : offset + x.msg.send_len s.g_ble_max_payload offset = x.msg.len
        · simp only [if_pos hend]
          exact faithful_of_sent (congrArg UInt16.toNat hend).ge hsent hconnection hne hstill
        · simp only [if_neg hend]
          exact ⟨by rw [hnext]; omega, hsent, conn_handle, hconnection, hne, hstill⟩
      · simp only [if_neg hlt]
        refine ⟨_, rfl, h.owned, h.received, h.delivered, h.faithful, fun y hy => ?_⟩
        obtain rfl := Option.some.inj (htaken.symm.trans hy)
        exact faithful_of_sent (not_lt.mp hlt) hflat hconnection hne hsame
    | free =>
      rw [hplace] at hunderway
      obtain ⟨hheld, hfinished⟩ := finish_held htaken
      have hperm : (s.messages.map QueuedData.block).Perm
          (x.block :: (s.rx.held ++ (s.tx.finish.held ++ s.senders.map BleSender.message)).map
            QueuedData.block) := by
        rw [← List.map_cons]
        refine List.Perm.map _ ?_
        unfold Transport.messages
        rw [hheld]
        exact List.perm_middle
      obtain ⟨heap, hfree, hrest⟩ := (h.owned.reorder hperm).free
      simp only
      rw [hfree]
      refine ⟨_, rfl, hrest, h.received, ?_, ?_, nofun⟩
      · simp only [List.map_append, h.delivered, hfinished]
        rfl
      · intro y hy
        obtain hy | hy := List.mem_append.mp hy
        · exact h.faithful y hy
        · rw [List.mem_singleton.mp hy]
          exact hunderway

/-- A phone that comes or goes disturbs the message that is being sent. -/
theorem disturbed_sound (h : s.Sound) {is_phone_connected Mac_sending_timer : Bool}
    {current_conn_handle : UInt16} :
    { s with is_phone_connected, Mac_sending_timer, current_conn_handle, disturbed := true }.Sound := by
  refine ⟨h.owned, h.received, h.delivered, h.faithful, fun x hx => ?_⟩
  have hunderway := h.underway x hx
  unfold Transport.Underway at hunderway ⊢
  cases hplace : s.tx_place with
  | test => trivial
  | send offset =>
    rw [hplace] at hunderway
    obtain ⟨hle, hflat, conn_handle, hconnection, hne, -⟩ := hunderway
    exact ⟨hle, hflat, conn_handle, hconnection, hne, nofun⟩
  | free =>
    rw [hplace] at hunderway
    unfold Delivery.Faithful at hunderway ⊢
    cases hconnection : s.connection with
    | none =>
      rw [hconnection] at hunderway
      exact hunderway
    | some conn_handle =>
      rw [hconnection] at hunderway
      exact ⟨hunderway.1, hunderway.2.1, nofun⟩

/-- Every move can be made in a sound state, and leads to a sound one. -/
theorem step_sound (h : s.Sound) (m : BleMove) : ∃ s', s.step m = some s' ∧ s'.Sound := by
  cases m with
  | ble_svc_gatt_handler mac msg memory => exact ⟨_, rfl, begin_sound h _ _ _ _⟩
  | ble_send_data_to_queue msg memory => exact ⟨_, rfl, begin_sound h _ _ _ _⟩
  | mac_send_timer_callback msg memory =>
    unfold Transport.step
    split_ifs
    · refine ⟨_, rfl, begin_sound ?_ _ _ _ _⟩
      exact ⟨h.owned, h.received, h.delivered, h.faithful, h.underway⟩
    · exact ⟨s, rfl, h⟩
  | xQueueSend i => exact ⟨_, rfl, xQueueSend_sound h i⟩
  | free i => exact drop_sound h i
  | ble_rx_processing_task => exact ble_rx_processing_task_sound h
  | ble_tx_processing_task => exact ble_tx_processing_task_sound h
  | connect conn_handle => exact ⟨_, rfl, disturbed_sound h⟩
  | disconnect => exact ⟨_, rfl, disturbed_sound h⟩
  | mtu_info max_payload => exact ⟨_, rfl, h.owned, h.received, h.delivered, h.faithful, h.underway⟩

/-- In every interleaving of the two tasks, the senders, the peers and the connections, no block is read or
freed that is not in use, every block in use belongs to one queue, task or sender, and there are never more
than 22 beside those of the senders. -/
theorem blocks_have_one_owner (moves : List BleMove) :
    ∃ s, moves.foldlM Transport.step .boot = some s ∧ s.heap.live.Perm (s.messages.map QueuedData.block) ∧
      (s.messages.map QueuedData.data).Nodup ∧ s.heap.live.length ≤ 22 + s.senders.length := by
  obtain ⟨s, hrun, hs⟩ := temporal.possible_run (fun _ m h => step_sound h m) moves boot_transport_sound
  refine ⟨s, hrun, hs.owned.perm, ?_, ?_⟩
  · have hnodup := (hs.owned.perm.map Prod.fst).nodup_iff.mp hs.owned.nodup
    rw [List.map_map] at hnodup
    exact hnodup
  · have hrx := s.rx.length_held
    have htx := s.tx.length_held
    rw [hs.owned.length, List.length_map]
    unfold Transport.messages
    rw [List.length_append, List.length_append, List.length_map]
    omega

/-- `BLE_Receive_data` is given the messages of the receive queue in their order, as the peers have written
them. The messages of the transmit queue leave in their order, whole or not at all. -/
theorem messages_leave_in_order (moves : List BleMove) :
    ∃ s, moves.foldlM Transport.step .boot = some s ∧
      s.received <+: s.rx.accepted.map (fun x => (x.mac, x.msg.data)) ∧
      (s.rx.held = [] → s.received = s.rx.accepted.map fun x => (x.mac, x.msg.data)) ∧
      s.tx.accepted = s.delivered.map Delivery.message ++ s.tx.held ∧ ∀ x ∈ s.delivered, x.Faithful := by
  obtain ⟨s, hrun, hs⟩ := temporal.possible_run (fun _ m h => step_sound h m) moves boot_transport_sound
  refine ⟨s, hrun, ?_, fun hnone => ?_, ?_, hs.faithful⟩
  · rw [hs.received]
    refine List.IsPrefix.map _ ?_
    rw [s.rx.fifo]
    unfold Transport.handled
    refine (List.prefix_append_right_inj _).mpr ?_
    split_ifs
    · exact List.prefix_append _ _
    · exact List.nil_prefix
  · have htaken : s.rx.taken.toList = [] := (List.append_eq_nil_iff.mp hnone).1
    rw [hs.received, accepted_eq, hnone]
    unfold Transport.handled
    rw [htaken, ite_self]
  · rw [hs.delivered]
    exact s.tx.fifo

end catbox.ble
