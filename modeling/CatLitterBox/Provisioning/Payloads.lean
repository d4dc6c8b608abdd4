import CatLitterBox.Program.Rely
import CatLitterBox.Provisioning.Main
import Mathlib.Data.List.Perm.Basic

open program temporal

namespace catbox.provisioning

open catbox.session catbox.mqtt

/-- A task inside `mqtt_queue_send` or `tracker_mqtt_queue_send`: it is about to send its packet, or
it has found the queue full and is about to free the block. -/
structure Sender where
  q : Queue
  packet : Packet q
  full : Bool

/-- The queues, NULL until `aws_iot_main_entry` creates them; the number of blocks that were attached
to a packet, which are numbered in the order in which they came up; the blocks that were freed,
the latest first; the blocks of the packets that `aws_iot_main_entry` has taken out of a queue; the
tasks that are sending; what the libraries will answer; and whether a block was read after
it had been freed. -/
structure World where
  queues : (q : Queue) → Option (List (Packet q))
  allocated : Nat
  freed : List Nat
  held : List Nat
  senders : List Sender
  outcome : (a : Action) → a.Answer
  read_freed : Bool

def World.boot : World where
  queues := fun _ => none
  allocated := 0
  freed := []
  held := []
  senders := []
  outcome := Action.success
  read_freed := false

/-- The length with which both queues are created. -/
def queue_length : Nat := 10

def Packet.blocks {q : Queue} (p : Packet q) : List Nat := p.data.toList

def Sender.blocks (s : Sender) : List Nat := s.packet.blocks

def Sender.refused (s : Sender) : Sender := { s with full := true }

/-- `Get_cJSON_Data` looks at the data of two commands, and the tracker's messages at none. -/
def Packet.reads : {q : Queue} → Packet q → List Nat
  | .mqtt_tx_queue, p =>
    match (p.cmd : session.Cmd) with
    | .MESSEGE_USAGE => p.blocks
    | .MESSEGE_CLEAN_RESULT => p.blocks
    | _ => []
  | .tracker_mqtt_queue, _ => []

def World.set_queue (w : World) (q : Queue) (packets : Option (List (Packet q))) : World :=
  { w with queues := Function.update w.queues q packets }

/-- `xQueueSend` without a wait; none if the queue is full. -/
def World.xQueueSend (w : World) (q : Queue) (p : Packet q) : Option World :=
  match w.queues q with
  | none => none
  | some packets =>
    if packets.length < queue_length then some (w.set_queue q (some (packets ++ [p]))) else none

/-- What `aws_iot_main_entry` does. Its own messages carry no data. -/
def World.perform : (a : Action) → World → a.Answer × World
  | .xQueueCreate q, w => ((), w.set_queue q (some []))
  | .xQueueReset q, w => ((), w.set_queue q ((w.queues q).map fun _ => []))
  | .xQueueReceive q, w =>
    match w.queues q with
    | some (p :: packets) => (some p, { w.set_queue q (some packets) with held := p.blocks ++ w.held })
    | _ => (none, w)
  | .mqtt_queue_send cmd, w => ((), (w.xQueueSend .mqtt_tx_queue ⟨cmd, none, 0⟩).getD w)
  | .Send_cJSON_Messege q p, w =>
    (w.outcome (.Send_cJSON_Messege q p),
      { w with read_freed := w.read_freed || p.reads.any fun block => block ∈ w.freed })
  | .free data, w => ((), { w with freed := data :: w.freed, held := w.held.erase data })
  | a, w => (w.outcome a, w)

/-- What happens beside `aws_iot_main_entry`: the libraries change their answers, and other tasks
send. Data that is to be copied needs memory; data for the tracker's queue is a block that
the caller gives away. -/
inductive Change where
  | outcome (outcome : (a : Action) → a.Answer)
  | mqtt_queue_send (cmd : session.Cmd) (data_len : Nat) (data calloc : Bool)
  | tracker_mqtt_queue_send (cmd : TrackerCmd) (data_len : Nat) (data : Bool)
  | xQueueSend (i : Nat)
  | free (i : Nat)

def World.mqtt_queue_send (w : World) (cmd : session.Cmd) (data_len : Nat) (data calloc : Bool) : World :=
  if w.queues .mqtt_tx_queue = none then w
  else if data ∧ 0 < data_len ∧ calloc then
    { w with
      allocated := w.allocated + 1
      senders := ⟨.mqtt_tx_queue, ⟨cmd, some w.allocated, data_len⟩, false⟩ :: w.senders }
  else { w with senders := ⟨.mqtt_tx_queue, ⟨cmd, none, data_len⟩, false⟩ :: w.senders }

def World.tracker_mqtt_queue_send (w : World) (cmd : TrackerCmd) (data_len : Nat) (data : Bool) : World :=
  if w.queues .tracker_mqtt_queue = none then
    if data then { w with allocated := w.allocated + 1, freed := w.allocated :: w.freed } else w
  else if data then
    { w with
      allocated := w.allocated + 1
      senders := ⟨.tracker_mqtt_queue, ⟨cmd, some w.allocated, data_len⟩, false⟩ :: w.senders }
  else { w with senders := ⟨.tracker_mqtt_queue, ⟨cmd, none, data_len⟩, false⟩ :: w.senders }

/-- A task sends its packet; if the queue is full it has yet to free the block. -/
def World.send (w : World) (i : Nat) : World :=
  match w.senders[i]? with
  | none => w
  | some s =>
    if s.full then w
    else
      match w.xQueueSend s.q s.packet with
      | some w' => { w' with senders := w.senders.eraseIdx i }
      | none => { w with senders := w.senders.set i s.refused }

/-- A task that has found the queue full frees the block and returns. -/
def World.drop (w : World) (i : Nat) : World :=
  match w.senders[i]? with
  | none => w
  | some s =>
    if s.full then { w with freed := s.blocks ++ w.freed, senders := w.senders.eraseIdx i } else w

def World.change (w : World) : Change → World
  | .outcome outcome => { w with outcome }
  | .mqtt_queue_send cmd data_len data calloc => w.mqtt_queue_send cmd data_len data calloc
  | .tracker_mqtt_queue_send cmd data_len data => w.tracker_mqtt_queue_send cmd data_len data
  | .xQueueSend i => w.send i
  | .free i => w.drop i

/-- The blocks of the packets in a queue. -/
def World.queued (w : World) (q : Queue) : List Nat := ((w.queues q).getD []).flatMap Packet.blocks

/-- Who will free a block: the task that has taken it out of a queue, a task that is sending, or the
one that will take it out of its queue. -/
def World.owned (w : World) : List Nat :=
  w.held ++ w.senders.flatMap Sender.blocks ++ w.queued .mqtt_tx_queue ++ w.queued .tracker_mqtt_queue

/-- Every block that was attached to a packet has been freed once and has no owner, or has one
owner and has not been freed; and none was read after it had been freed. -/
structure World.Balanced (w : World) : Prop where
  once : ∀ block, (w.freed ++ w.owned).count block = if block < w.allocated then 1 else 0
  unread : w.read_freed = false

/-- No queue is reset while a packet with a block waits in it. -/
def Kept (a : Action) (w : World) : Prop := ∀ q, a = .xQueueReset q → w.queued q = []

abbrev System : Type 1 := Shared Action Action.Answer Empty World

def System.boot : System := ⟨aws_iot_main_entry, .boot⟩

variable {w w' : World} {q : Queue} {p : Packet q} {s : Sender} {i block : Nat}

theorem owned_count : w.owned.count block = w.held.count block + (w.senders.flatMap Sender.blocks).count block +
    (w.queued .mqtt_tx_queue).count block + (w.queued .tracker_mqtt_queue).count block := by
  simp only [World.owned, List.count_append]

private theorem queued_set_self (packets : Option (List (Packet q))) :
    (w.set_queue q packets).queued q = (packets.getD []).flatMap Packet.blocks := by
  simp only [World.queued, World.set_queue, Function.update_self]

theorem queued_set_other {q' : Queue} (h : q' ≠ q) (packets : Option (List (Packet q))) :
    (w.set_queue q packets).queued q' = w.queued q' := by
  simp only [World.queued, World.set_queue, Function.update_of_ne h]

/-- What a queue holds is exchanged for something else. -/
theorem owned_set_queue (packets : Option (List (Packet q))) (block : Nat) :
    (w.set_queue q packets).owned.count block + (w.queued q).count block =
      w.owned.count block + ((packets.getD []).flatMap Packet.blocks).count block := by
  rw [owned_count, owned_count, ← queued_set_self (w := w) packets]
  cases q with
  | mqtt_tx_queue =>
    rw [queued_set_other (q := .mqtt_tx_queue) (by decide : Queue.tracker_mqtt_queue ≠ _)]
    simp only [World.set_queue]
    omega
  | tracker_mqtt_queue =>
    rw [queued_set_other (q := .tracker_mqtt_queue) (by decide : Queue.mqtt_tx_queue ≠ _)]
    simp only [World.set_queue]
    omega

theorem xQueueSend_eq (h : w.xQueueSend q p = some w') :
    ∃ packets, w.queues q = some packets ∧ w' = w.set_queue q (some (packets ++ [p])) := by
  unfold World.xQueueSend at h
  cases hqueue : w.queues q with
  | none =>
    rw [hqueue] at h
    cases h
  | some packets =>
    rw [hqueue] at h
    obtain ⟨-, h⟩ := Option.ite_none_right_eq_some.mp h
    exact ⟨packets, rfl, (Option.some.inj h).symm⟩

/-- A packet that is sent has the queue as its owner. -/
theorem owned_xQueueSend (h : w.xQueueSend q p = some w') (block : Nat) :
    w'.owned.count block = w.owned.count block + p.blocks.count block := by
  obtain ⟨packets, hqueue, rfl⟩ := xQueueSend_eq h
  have hset := owned_set_queue (w := w) (some (packets ++ [p])) block
  have hqueued : w.queued q = packets.flatMap Packet.blocks := by
    simp only [World.queued, hqueue, Option.getD_some]
  rw [hqueued, Option.getD_some, List.flatMap_append, List.count_append] at hset
  simp only [List.flatMap_cons, List.flatMap_nil, List.append_nil] at hset
  omega

theorem senders_erase (h : w.senders[i]? = some s) (block : Nat) :
    ((w.senders.eraseIdx i).flatMap Sender.blocks).count block + s.blocks.count block =
      (w.senders.flatMap Sender.blocks).count block := by
  obtain ⟨hi, rfl⟩ := List.getElem?_eq_some_iff.mp h
  have hperm := (List.getElem_cons_eraseIdx_perm hi).flatMap_right Sender.blocks
  have hcount := hperm.count_eq block
  rw [List.flatMap_cons, List.count_append] at hcount
  omega

theorem senders_full (h : w.senders[i]? = some s) :
    ((w.senders.set i s.refused).flatMap Sender.blocks).count block =
      (w.senders.flatMap Sender.blocks).count block := by
  have herase := senders_erase h block
  obtain ⟨hi, rfl⟩ := List.getElem?_eq_some_iff.mp h
  have hperm := (List.set_perm_cons_eraseIdx hi w.senders[i].refused).flatMap_right Sender.blocks
  have hcount := hperm.count_eq block
  have hsame : w.senders[i].refused.blocks = w.senders[i].blocks := rfl
  rw [List.flatMap_cons, List.count_append, hsame] at hcount
  omega

/-- A new block is given to one owner, or freed. -/
theorem World.Balanced.alloc {w' : World} (h : w.Balanced) (hallocated : w'.allocated = w.allocated + 1)
    (hread : w'.read_freed = w.read_freed)
    (hcount : ∀ block, (w'.freed ++ w'.owned).count block =
      (w.freed ++ w.owned).count block + if block = w.allocated then 1 else 0) : w'.Balanced where
  once := by
    intro block
    rw [hcount, h.once, hallocated]
    split_ifs
    all_goals omega
  unread := hread.trans h.unread

/-- The blocks go from one place to another. -/
theorem World.Balanced.move {w' : World} (h : w.Balanced) (hallocated : w'.allocated = w.allocated)
    (hread : w'.read_freed = w.read_freed)
    (hcount : ∀ block, (w'.freed ++ w'.owned).count block = (w.freed ++ w.owned).count block) :
    w'.Balanced where
  once := by
    intro block
    rw [hcount, h.once, hallocated]
  unread := hread.trans h.unread

/-- The tasks that are sending are exchanged for others. -/
theorem owned_senders (senders : List Sender) (block : Nat) : ({ w with senders } : World).owned.count block +
    (w.senders.flatMap Sender.blocks).count block =
      w.owned.count block + (senders.flatMap Sender.blocks).count block := by
  rw [owned_count, owned_count]
  simp only [World.queued]
  omega

/-- A task that begins to send owns the block of its packet. -/
theorem owned_begin : ({ w with senders := s :: w.senders } : World).owned.count block =
    w.owned.count block + s.blocks.count block := by
  have hexchange := owned_senders (w := w) (s :: w.senders) block
  rw [List.flatMap_cons, List.count_append] at hexchange
  omega

/-- A task begins to send a packet with a new block. -/
theorem World.Balanced.begin_new (h : w.Balanced) (hs : s.blocks = [w.allocated]) :
    ({ w with allocated := w.allocated + 1, senders := s :: w.senders } : World).Balanced := by
  refine World.Balanced.alloc h rfl rfl fun block => ?_
  rw [List.count_append, List.count_append]
  change _ + ({ w with senders := s :: w.senders } : World).owned.count block = _
  rw [owned_begin, hs]
  simp only [List.count_singleton, beq_iff_eq, eq_comm (a := w.allocated)]
  omega

/-- A task begins to send a packet without a block. -/
theorem World.Balanced.begin_empty (h : w.Balanced) (hs : s.blocks = []) :
    ({ w with senders := s :: w.senders } : World).Balanced := by
  refine World.Balanced.move h rfl rfl fun block => ?_
  rw [List.count_append, List.count_append, owned_begin, hs, List.count_nil, Nat.add_zero]

theorem mqtt_queue_send_balanced (h : w.Balanced) (cmd : session.Cmd) (data_len : Nat) (data calloc : Bool) :
    (w.mqtt_queue_send cmd data_len data calloc).Balanced := by
  unfold World.mqtt_queue_send
  split_ifs with hnull hdata
  · exact h
  · exact h.begin_new rfl
  · exact h.begin_empty rfl

theorem tracker_mqtt_queue_send_balanced (h : w.Balanced) (cmd : TrackerCmd) (data_len : Nat) (data : Bool) :
    (w.tracker_mqtt_queue_send cmd data_len data).Balanced := by
  unfold World.tracker_mqtt_queue_send
  split_ifs with hnull hdata hdata
  · refine World.Balanced.alloc h rfl rfl fun block => ?_
    rw [List.cons_append, List.count_cons]
    simp only [beq_iff_eq, eq_comm (a := w.allocated)]
    rfl
  · exact h
  · exact h.begin_new rfl
  · exact h.begin_empty rfl

private theorem send_balanced (h : w.Balanced) (i : Nat) : (w.send i).Balanced := by
  unfold World.send
  cases hs : w.senders[i]? with
  | none => exact h
  | some s =>
    dsimp only
    split_ifs with hfull
    · exact h
    · cases hsend : w.xQueueSend s.q s.packet with
      | none =>
        refine World.Balanced.move h rfl rfl fun block => ?_
        have hexchange := owned_senders (w := w) (w.senders.set i s.refused) block
        rw [senders_full hs] at hexchange
        rw [List.count_append, List.count_append]
        simp only
        omega
      | some w' =>
        have howned (block : Nat) : w'.owned.count block = w.owned.count block + s.packet.blocks.count block :=
          owned_xQueueSend hsend block
        obtain ⟨packets, -, rfl⟩ := xQueueSend_eq hsend
        refine World.Balanced.move h rfl rfl fun block => ?_
        have herase := senders_erase hs block
        have hexchange := owned_senders (w := w.set_queue s.q (some (packets ++ [s.packet])))
          (w.senders.eraseIdx i) block
        have hsend := howned block
        have hsenders : (w.set_queue s.q (some (packets ++ [s.packet]))).senders = w.senders := rfl
        rw [hsenders] at hexchange
        rw [List.count_append, List.count_append]
        simp only [Sender.blocks, World.set_queue] at *
        omega

private theorem drop_balanced (h : w.Balanced) (i : Nat) : (w.drop i).Balanced := by
  unfold World.drop
  cases hs : w.senders[i]? with
  | none => exact h
  | some s =>
    dsimp only
    split_ifs with hfull
    · refine World.Balanced.move h rfl rfl fun block => ?_
      have herase := senders_erase hs block
      have hexchange := owned_senders (w := w) (w.senders.eraseIdx i) block
      rw [List.append_assoc, List.count_append, List.count_append, List.count_append]
      change _ + (_ + ({ w with senders := w.senders.eraseIdx i } : World).owned.count block) = _
      omega
    · exact h

theorem change_balanced (h : w.Balanced) (c : Change) : (w.change c).Balanced := by
  cases c with
  | outcome => exact ⟨h.once, h.unread⟩
  | mqtt_queue_send cmd data_len data calloc => exact mqtt_queue_send_balanced h cmd data_len data calloc
  | tracker_mqtt_queue_send cmd data_len data => exact tracker_mqtt_queue_send_balanced h cmd data_len data
  | xQueueSend i => exact send_balanced h i
  | free i => exact drop_balanced h i

/-- What `aws_iot_main_entry` knows of the world: the blocks that it has taken out of a queue, and which
queues there are. -/
structure Custody where
  held : List Nat
  created : Queue → Bool

def World.custody (w : World) : Custody := ⟨w.held, fun q => (w.queues q).isSome⟩

/-- It reads and frees only what it has taken out of a queue, and creates a queue only once. -/
def Custody.Allows (c : Custody) : Action → Prop
  | .xQueueCreate q => c.created q = false
  | .Send_cJSON_Messege _ p => ∀ block ∈ p.reads, block ∈ c.held
  | .free data => data ∈ c.held
  | _ => True

def Custody.after (c : Custody) : Event → Custody
  | ⟨.xQueueCreate q, _⟩ => { c with created := Function.update c.created q true }
  | ⟨.xQueueReceive _, some p⟩ => { c with held := p.blocks ++ c.held }
  | ⟨.free data, _⟩ => { c with held := c.held.erase data }
  | _ => c

abbrev custody_spec : Spec Action Action.Answer Custody where
  allow a c := c.Allows a
  trans a c answer c' := c' = c.after ⟨a, answer⟩

theorem created_set_queue (packets : Option (List (Packet q))) (h : packets.isSome = (w.queues q).isSome) :
    (w.set_queue q packets).custody = w.custody := by
  unfold World.custody World.set_queue
  congr 1
  funext q'
  by_cases hq : q' = q
  · subst hq
    change (Function.update w.queues q' packets q').isSome = _
    rw [Function.update_self]
    exact h
  · change (Function.update w.queues q packets q').isSome = _
    rw [Function.update_of_ne hq]

theorem custody_xQueueSend (h : w.xQueueSend q p = some w') : w'.custody = w.custody := by
  obtain ⟨packets, hqueue, rfl⟩ := xQueueSend_eq h
  apply created_set_queue
  rw [hqueue]
  rfl

/-- The others change nothing that it knows. -/
theorem custody_change (c : Change) : (w.change c).custody = w.custody := by
  cases c with
  | outcome => rfl
  | mqtt_queue_send cmd data_len data calloc =>
    simp only [World.change, World.mqtt_queue_send]
    split_ifs
    all_goals rfl
  | tracker_mqtt_queue_send cmd data_len data =>
    simp only [World.change, World.tracker_mqtt_queue_send]
    split_ifs
    all_goals rfl
  | xQueueSend i =>
    simp only [World.change, World.send]
    cases w.senders[i]? with
    | none => rfl
    | some s =>
      dsimp only
      split_ifs
      · rfl
      · cases hsend : w.xQueueSend s.q s.packet with
        | none => rfl
        | some w' =>
          have hsame := custody_xQueueSend hsend
          exact hsame
  | free i =>
    simp only [World.change, World.drop]
    cases w.senders[i]? with
    | none => rfl
    | some s =>
      dsimp only
      split_ifs
      all_goals rfl

theorem custody_perform (a : Action) : (w.perform a).2.custody = w.custody.after ⟨a, (w.perform a).1⟩ := by
  cases a with
  | xQueueCreate q =>
    simp only [World.perform, World.custody, World.set_queue, Custody.after, Custody.mk.injEq, true_and]
    funext q'
    by_cases hq : q' = q
    · subst hq
      rw [Function.update_self, Function.update_self]
      rfl
    · rw [Function.update_of_ne hq, Function.update_of_ne hq]
  | xQueueReset q => exact created_set_queue _ Option.isSome_map
  | xQueueReceive q =>
    simp only [World.perform]
    split
    · next p packets hqueue =>
      have hset := created_set_queue (some packets) (by rw [hqueue]; rfl)
      have hcreated := congrArg Custody.created hset
      simp only [World.custody] at hcreated
      simp only [World.custody, Custody.after, Custody.mk.injEq, true_and]
      exact hcreated
    · rfl
  | mqtt_queue_send cmd =>
    simp only [World.perform]
    cases hsend : w.xQueueSend .mqtt_tx_queue ⟨cmd, none, 0⟩ with
    | none => rfl
    | some w' => exact custody_xQueueSend hsend
  | _ => rfl

/-- A reset loses the blocks of the packets that wait in the queue. -/
theorem reset_balanced_iff (h : w.Balanced) :
    w.queued q = [] ↔ (w.set_queue q ((w.queues q).map fun _ => [])).Balanced := by
  have hset (block : Nat) := owned_set_queue (w := w) (q := q) ((w.queues q).map fun _ => []) block
  have hempty : (((w.queues q).map fun _ => ([] : List (Packet q))).getD []).flatMap Packet.blocks = [] := by
    cases w.queues q with
    | none => rfl
    | some packets => rfl
  simp only [hempty, List.count_nil, Nat.add_zero] at hset
  constructor
  · intro hnone
    refine h.move rfl rfl fun block => ?_
    have hset := hset block
    rw [hnone, List.count_nil, Nat.add_zero] at hset
    rw [List.count_append, List.count_append, hset]
    rfl
  · intro hkept
    rw [List.eq_nil_iff_forall_not_mem]
    intro block hmem
    have hpos := List.count_pos_iff.mpr hmem
    have hbefore := h.once block
    have hafter : w.freed.count block + (w.set_queue q ((w.queues q).map fun _ => [])).owned.count block =
        if block < w.allocated then 1 else 0 := by
      rw [← List.count_append]
      exact hkept.once block
    rw [List.count_append] at hbefore
    have hset := hset block
    omega

theorem create_balanced (h : w.Balanced) (hnull : (w.queues q).isSome = false) :
    (w.set_queue q (some [])).Balanced := by
  have hnone : w.queues q = none := by simpa using hnull
  refine h.move rfl rfl fun block => ?_
  have hset := owned_set_queue (w := w) (q := q) (some []) block
  simp only [World.queued, hnone, Option.getD_none, Option.getD_some, List.flatMap_nil, List.count_nil,
    Nat.add_zero] at hset
  rw [List.count_append, List.count_append, hset]
  rfl

theorem receive_balanced (h : w.Balanced) {packets : List (Packet q)}
    (hqueue : w.queues q = some (p :: packets)) :
    ({ w.set_queue q (some packets) with held := p.blocks ++ w.held } : World).Balanced := by
  refine h.move rfl rfl fun block => ?_
  have hset := owned_set_queue (w := w) (some packets) block
  simp only [World.queued, hqueue, Option.getD_some, List.flatMap_cons, List.count_append] at hset
  have hheld : ({ w.set_queue q (some packets) with held := p.blocks ++ w.held } : World).owned.count block =
      (w.set_queue q (some packets)).owned.count block + p.blocks.count block := by
    rw [owned_count, owned_count, List.count_append]
    simp only [World.queued, World.set_queue]
    omega
  rw [List.count_append, List.count_append, hheld]
  simp only [World.set_queue] at *
  omega

private theorem free_balanced (h : w.Balanced) {data : Nat} (hheld : data ∈ w.held) :
    ({ w with freed := data :: w.freed, held := w.held.erase data } : World).Balanced := by
  refine h.move rfl rfl fun block => ?_
  have herase := (List.perm_cons_erase hheld).count_eq block
  have howned : ({ w with freed := data :: w.freed, held := w.held.erase data } : World).owned.count block +
      w.held.count block = w.owned.count block + (w.held.erase data).count block := by
    rw [owned_count, owned_count]
    simp only [World.queued]
    omega
  rw [List.cons_append, List.count_cons, List.count_append, List.count_append]
  rw [List.count_cons] at herase
  omega

/-- What is held was not freed. -/
theorem not_freed_of_held (h : w.Balanced) (hheld : block ∈ w.held) : block ∉ w.freed := by
  intro hfreed
  have hone := h.once block
  rw [List.count_append, owned_count] at hone
  have hpos := List.count_pos_iff.mpr hheld
  have hpos' := List.count_pos_iff.mpr hfreed
  split_ifs at hone
  all_goals omega

/-- A step that is allowed keeps the balance, unless it resets a queue in which a block waits. -/
theorem perform_balanced_iff (h : w.Balanced) {a : Action} (hallowed : w.custody.Allows a) :
    Kept a w ↔ (w.perform a).2.Balanced := by
  have hother (hreset : ∀ q, a ≠ .xQueueReset q) (hkept : (w.perform a).2.Balanced) :
      Kept a w ↔ (w.perform a).2.Balanced :=
    iff_of_true (fun q hq => absurd hq (hreset q)) hkept
  cases a with
  | xQueueReset q =>
    have hkept : Kept (.xQueueReset q) w ↔ w.queued q = [] := by
      constructor
      · exact fun hkept => hkept q rfl
      · rintro hnone q' hq'
        obtain rfl : q = q' := Action.xQueueReset.inj hq'
        exact hnone
    exact hkept.trans (reset_balanced_iff h)
  | xQueueCreate q => exact hother nofun (create_balanced h hallowed)
  | xQueueReceive q =>
    refine hother nofun ?_
    simp only [World.perform]
    split
    · next p packets hqueue => exact receive_balanced h hqueue
    · exact h
  | mqtt_queue_send cmd =>
    refine hother nofun ?_
    simp only [World.perform]
    cases hsend : w.xQueueSend .mqtt_tx_queue ⟨cmd, none, 0⟩ with
    | none => exact h
    | some w' =>
      have howned (block : Nat) := owned_xQueueSend hsend block
      obtain ⟨packets, -, rfl⟩ := xQueueSend_eq hsend
      refine h.move rfl rfl fun block => ?_
      rw [Option.getD_some, List.count_append, List.count_append, howned]
      rfl
  | Send_cJSON_Messege q p =>
    refine hother nofun ⟨h.once, ?_⟩
    have hunread : p.reads.any (fun block => block ∈ w.freed) = false := by
      rw [List.any_eq_false]
      intro block hread
      simpa using not_freed_of_held h (hallowed block hread)
    simp only [World.perform, hunread, h.unread, Bool.or_false]
  | free data => exact hother nofun (free_balanced h hallowed)
  | _ => exact hother nofun ⟨h.once, h.unread⟩

/-- The actions that have nothing to do with blocks. -/
def Detached : Action → Prop
  | .xQueueCreate _ | .xQueueReceive _ | .Send_cJSON_Messege _ _ | .free _ => False
  | _ => True

variable {c c' : Custody} {statics : Static}

/-- Nothing that was taken out of a queue is still held. -/
def Custody.Empty (c : Custody) : Prop := c.held = []

theorem wp_detached {α : Type} {code : Code α} {Q : α → Custody → Prop} (hcode : code.Every Detached)
    (h : c.Empty) (hQ : ∀ x c', c'.Empty → Q x c') : code.wp custody_spec Q c := by
  refine Program.wp_mono hQ (Program.wp_of_every (I := Custody.Empty) hcode ?_ ?_ h)
  · intro a c ha _
    cases a with
    | xQueueCreate => exact ha.elim
    | Send_cJSON_Messege => exact ha.elim
    | free => exact ha.elim
    | _ => trivial
  · rintro a c answer c' ha hc rfl
    cases a with
    | xQueueCreate => exact ha.elim
    | xQueueReceive => exact ha.elim
    | free => exact ha.elim
    | _ => exact hc

theorem wp_detached_bind {α γ : Type} {code : Code α} {f : α → Code γ} {Q : γ → Custody → Prop}
    (hcode : code.Every Detached) (h : c.Empty) (hf : ∀ x c', c'.Empty → (f x).wp custody_spec Q c') :
    (code.bind f).wp custody_spec Q c :=
  Program.wp_seq (wp_detached hcode h hf)

private theorem reads_subset (hread : block ∈ p.reads) : block ∈ p.blocks := by
  cases q with
  | tracker_mqtt_queue => cases hread
  | mqtt_tx_queue =>
    simp only [Packet.reads] at hread
    split at hread
    · exact hread
    · exact hread
    · cases hread

/-- A packet is read and freed by the one that has taken it. -/
theorem wp_consume {q : Queue} (h : c.Empty) :
    (consume q statics).wp custody_spec (fun _ c' => c'.Empty) c := by
  refine Program.wp_perform_bind trivial fun (packet : Option (Packet q)) t ht => ?_
  subst ht
  cases packet with
  | none => exact h
  | some p =>
    have hheld : (c.after ⟨.xQueueReceive q, some p⟩).held = p.blocks := by
      change p.blocks ++ c.held = p.blocks
      rw [h, List.append_nil]
    refine Program.wp_perform_bind ?_ fun mqttContext t ht => ?_
    · intro block hread
      rw [hheld]
      exact reads_subset hread
    · subst ht
      have hsent : ((c.after ⟨.xQueueReceive q, some p⟩).after ⟨.Send_cJSON_Messege q p, mqttContext⟩).held =
          p.blocks := hheld
      cases hdata : p.data with
      | none =>
        rw [Packet.blocks, hdata] at hsent
        exact hsent
      | some data =>
        rw [Packet.blocks, hdata] at hsent
        refine Program.wp_perform_bind ?_ fun _ t ht => ?_
        · change data ∈ _
          rw [hsent]
          exact List.mem_singleton_self data
        · subst ht
          change List.erase _ data = []
          rw [hsent]
          simp

theorem disconnect_detached : (DisconnectMqttSession statics).Every Detached :=
  disconnectMqttSession_every trivial trivial

private theorem provisions_detached {a : Action} (ha : Provisions a) : Detached a := by
  cases a with
  | xQueueCreate => exact ha
  | xQueueReceive => exact ha
  | Send_cJSON_Messege => exact ha
  | free => exact ha
  | _ => trivial

private theorem provision_detached {t : Task} : (provision t).Every Detached := by
  refine Program.every_bind (Program.every_mono (fun _ => provisions_detached) provisioning_main_every) ?_
  rintro ⟨exit, s⟩
  cases exit with
  | EXIT_SUCCESS => trivial
  | EXIT_FAILURE =>
    refine Program.every_perform_bind trivial fun _ => ?_
    exact Program.every_ite (every_halt (a := .esp_restart) trivial) trivial

private theorem wp_serve (h : c.Empty) : (serve statics).wp custody_spec (fun _ c' => c'.Empty) c := by
  refine Program.wp_seq (Program.wp_mono ?_ (wp_consume h))
  intro s c h
  refine Program.wp_seq (Program.wp_mono ?_ (wp_consume h))
  intro s c h
  refine Program.wp_seq (wp_detached (processLoopWithTimeout_every trivial trivial trivial trivial) h ?_)
  rintro ⟨connected, s⟩ c h
  exact Program.wp_ite (fun _ => h) fun _ => h

private theorem wp_reconnect_custody {t : Task} (h : c.Empty) :
    (reconnect t).wp custody_spec (fun o c' => o.elim (fun _ => c'.Empty) fun _ => True) c := by
  refine wp_detached_bind (every_act trivial) h fun _ c h => ?_
  refine wp_detached_bind (every_act trivial) h fun _ c h => ?_
  refine wp_detached_bind (every_act trivial) h fun _ c h => ?_
  refine wp_detached_bind (Program.every_repeated fun _ => provision_detached) h fun t c h => ?_
  refine wp_detached_bind (every_act trivial) h fun _ c h => ?_
  refine wp_detached_bind (every_act trivial) h fun _ c h => ?_
  refine Program.wp_seq (Program.wp_repeated (fun _ c => c.Empty) h fun s c h => ?_)
  refine Program.wp_mono ?_ (wp_serve h)
  rintro (s | s) c h
  · exact h
  · refine wp_detached_bind (every_act trivial) h fun _ c h => ?_
    refine wp_detached_bind disconnect_detached h fun _ c h => ?_
    exact wp_detached_bind (every_act trivial) h fun _ c h => h

theorem wp_main_entry_custody : aws_iot_main_entry.wp custody_spec (fun _ _ => True) World.boot.custody := by
  refine Program.wp_perform_bind trivial fun _ c hc => ?_
  subst hc
  refine Program.wp_perform_bind rfl fun _ c hc => ?_
  subst hc
  refine Program.wp_perform_bind rfl fun _ c hc => ?_
  subst hc
  refine wp_detached_bind (every_act trivial) rfl fun _ c h => ?_
  exact Program.wp_repeated (fun _ c => c.Empty) h fun t c h => wp_reconnect_custody h

/-- What is left of `aws_iot_main_entry` reads, frees and creates only what it may. -/
def System.Careful (c : System) : Prop := c.code.wp custody_spec (fun _ _ => True) c.state.custody

theorem move_careful {c : System} (h : c.Careful) (turn : Turn Change) :
    System.Careful (c.move World.perform World.change turn) :=
  Shared.wp_move (V := World.custody) (fun a _ => custody_perform a) (fun _ => custody_change) h turn

private theorem permits_iff_balanced {c : System} (h : c.Careful) (hbalanced : c.state.Balanced) (turn : Turn Change) :
    c.permits Kept (fun _ _ => True) turn ↔ (c.move World.perform World.change turn).state.Balanced :=
  Shared.permits_iff hbalanced (fun _ hnext => perform_balanced_iff hbalanced (Program.wp_next h hnext))
    (fun e => iff_of_true trivial (change_balanced hbalanced e)) turn

private theorem boot_balanced : World.boot.Balanced where
  once := by
    intro block
    simp [World.boot, World.owned, World.queued]
  unread := rfl

/-- In every interleaving of `aws_iot_main_entry` with any number of tasks that send: each block is freed
once, and not read afterwards, if and only if no queue is ever reset while a packet with a
block waits in it. -/
theorem payloads_balanced_iff (turns : List (Turn Change)) :
    Along (Shared.move World.perform World.change) (Shared.permits Kept fun _ _ => True) System.boot turns ↔
      ∀ past, past <+: turns → (System.boot.run World.perform World.change past).state.Balanced :=
  along_iff_of_invariant (J := System.Careful) (I := fun c => c.state.Balanced)
    (fun _ turn h => move_careful h turn) (fun _ turn h hbalanced => permits_iff_balanced h hbalanced turn)
    wp_main_entry_custody boot_balanced

/-- The connection is lost at the first call of the process loop. -/
def connection_lost : (a : Action) → a.Answer
  | .MQTT_ProcessLoop => ⟨false, none⟩
  | a => a.success

/-- The connection is lost; before the task connects again, a measurement is put into the queue. -/
def measured_while_offline : List (Turn Change) :=
  .change (.outcome connection_lost) :: List.replicate 80 .own ++
    [.change (.mqtt_queue_send .MESSEGE_USAGE 12 true true), .change (.xQueueSend 0)] ++ List.replicate 4 .own

set_option maxRecDepth 4000 in
/-- The block of the measurement is lost: it was not freed, and nobody has it any more. -/
theorem reset_loses_payload :
    (System.boot.run World.perform World.change measured_while_offline).state.allocated = 1 ∧
    (System.boot.run World.perform World.change measured_while_offline).state.freed = [] ∧
    (System.boot.run World.perform World.change measured_while_offline).state.owned = [] ∧
    ¬ ∀ past, past <+: measured_while_offline →
      (System.boot.run World.perform World.change past).state.Balanced := by
  refine ⟨rfl, rfl, rfl, fun hall => ?_⟩
  have honce := (hall measured_while_offline List.prefix_rfl).once 0
  revert honce
  decide

end catbox.provisioning
