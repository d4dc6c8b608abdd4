import CatLitterBox.Queue.Ring
import CatLitterBox.Temporal.Simulation
import CatLitterBox.Text.CString

open queue temporal text

namespace catbox.console

def RX_BUF_SIZE : Nat := 256

structure RingBuffer where
  buffer : Vector UInt8 RX_BUF_SIZE
  head : Nat
  tail : Nat

/-- A byte of the array. -/
def RingBuffer.cell (rx_ring : RingBuffer) (i : Nat) : UInt8 := rx_ring.buffer[i]?.getD 0

/-- As `app_main` leaves it: the indices are zero, whatever the array holds. -/
def RingBuffer.init (buffer : Vector UInt8 RX_BUF_SIZE) : RingBuffer := ⟨buffer, 0, 0⟩

def RingBuffer_Push (rx_ring : RingBuffer) (data : UInt8) : RingBuffer :=
  let next := (rx_ring.head + 1) % RX_BUF_SIZE
  if next ≠ rx_ring.tail then
    { rx_ring with buffer := rx_ring.buffer.setIfInBounds rx_ring.head data, head := next }
  else rx_ring

/-- The byte that is stored at `data`, if the result is 1. -/
def RingBuffer_Pop (rx_ring : RingBuffer) : RingBuffer × Option UInt8 :=
  if rx_ring.head = rx_ring.tail then (rx_ring, none)
  else ({ rx_ring with tail := (rx_ring.tail + 1) % RX_BUF_SIZE }, some (rx_ring.cell rx_ring.tail))

def RingBuffer.step (rx_ring : RingBuffer) : Op UInt8 → RingBuffer × Option UInt8
  | .push data => (RingBuffer_Push rx_ring data, none)
  | .pop => RingBuffer_Pop rx_ring

/-- The bytes in the buffer, the oldest first. -/
def RingBuffer.contents (rx_ring : RingBuffer) : Bytes :=
  window RX_BUF_SIZE rx_ring.cell rx_ring.tail (occupied RX_BUF_SIZE rx_ring.head rx_ring.tail)

/-- Both indices are in the array. -/
structure RingBuffer.Indexed (rx_ring : RingBuffer) : Prop where
  head : rx_ring.head < RX_BUF_SIZE
  tail : rx_ring.tail < RX_BUF_SIZE

variable {rx_ring : RingBuffer}

/-- An empty ring buffer has its positions within the array. -/
theorem init_indexed (buffer : Vector UInt8 RX_BUF_SIZE) : (RingBuffer.init buffer).Indexed := by
  constructor
  · exact Nat.zero_lt_succ _
  · exact Nat.zero_lt_succ _

theorem contents_length :
    rx_ring.contents.length = occupied RX_BUF_SIZE rx_ring.head rx_ring.tail := window_length

theorem contents_of_empty (h : rx_ring.Indexed) (hempty : rx_ring.head = rx_ring.tail) :
    rx_ring.contents = [] := by
  unfold RingBuffer.contents
  rw [(occupied_eq_zero_iff h.head h.tail).mpr hempty, window_zero]

/-- A ring buffer starts empty. -/
theorem init_contents (buffer : Vector UInt8 RX_BUF_SIZE) : (RingBuffer.init buffer).contents = [] :=
  contents_of_empty (init_indexed buffer) rfl

private theorem cell_set (h : rx_ring.Indexed) (data : UInt8) (next : Nat) :
    (RingBuffer.mk (rx_ring.buffer.setIfInBounds rx_ring.head data) next rx_ring.tail).cell =
      Function.update rx_ring.cell rx_ring.head data := by
  funext i
  unfold RingBuffer.cell
  rw [Function.update_apply, Vector.getElem?_setIfInBounds]
  have hhead := h.head
  split_ifs with hi hi' hi'
  · rfl
  · exact absurd hi.symm hi'
  · exact absurd hi'.symm hi
  · rfl

/-- A byte is appended unless the buffer holds 255 already. -/
theorem push_contents (h : rx_ring.Indexed) (data : UInt8) :
    (RingBuffer_Push rx_ring data).Indexed ∧ (RingBuffer_Push rx_ring data).contents =
      if rx_ring.contents.length < 255 then rx_ring.contents ++ [data] else rx_ring.contents := by
  obtain ⟨hhead, htail⟩ := h
  have hfull := succ_head_eq_tail_iff hhead htail
  have hcount : occupied RX_BUF_SIZE rx_ring.head rx_ring.tail < RX_BUF_SIZE :=
    occupied_lt (Nat.zero_lt_succ _)
  have hsize : RX_BUF_SIZE - 1 = 255 := rfl
  rw [contents_length]
  unfold RingBuffer_Push
  by_cases hnext : (rx_ring.head + 1) % RX_BUF_SIZE = rx_ring.tail
  · simp only
    rw [if_neg (not_not.mpr hnext), if_neg]
    · exact ⟨⟨hhead, htail⟩, rfl⟩
    · have hmax := hfull.mp hnext
      omega
  · have hroom : occupied RX_BUF_SIZE rx_ring.head rx_ring.tail < 255 := by
      have hmax : occupied RX_BUF_SIZE rx_ring.head rx_ring.tail ≠ RX_BUF_SIZE - 1 := mt hfull.mpr hnext
      have hle : RX_BUF_SIZE = 256 := rfl
      omega
    simp only
    rw [if_pos hnext, if_pos hroom]
    constructor
    · exact ⟨Nat.mod_lt _ (Nat.zero_lt_succ _), htail⟩
    · unfold RingBuffer.contents
      rw [cell_set ⟨hhead, htail⟩]
      simp only
      rw [occupied_succ_head hhead htail hnext]
      exact window_push hhead htail data

/-- The bytes that a full buffer has no room for are dropped. -/
theorem pushes_contents (data : Bytes) (h : rx_ring.Indexed) :
    (data.foldl RingBuffer_Push rx_ring).Indexed ∧
      (data.foldl RingBuffer_Push rx_ring).contents = (rx_ring.contents ++ data).take 255 := by
  induction data generalizing rx_ring with
  | nil =>
    have hcount : occupied RX_BUF_SIZE rx_ring.head rx_ring.tail < 256 := occupied_lt (Nat.zero_lt_succ _)
    rw [List.append_nil, List.foldl_nil, List.take_of_length_le (by rw [contents_length]; omega)]
    exact ⟨h, rfl⟩
  | cons ch data ih =>
    obtain ⟨hnext, hcontents⟩ := push_contents h ch
    obtain ⟨hlast, hall⟩ := ih hnext
    constructor
    · exact hlast
    · rw [List.foldl_cons, hall, hcontents]
      split_ifs with hroom
      · rw [List.append_assoc, List.singleton_append]
      · rw [List.take_append_of_le_length (by omega), List.take_append_of_le_length (by omega)]

/-- The oldest byte is removed, if there is one. -/
theorem pop_contents (h : rx_ring.Indexed) :
    (RingBuffer_Pop rx_ring).1.Indexed ∧ (RingBuffer_Pop rx_ring).1.contents = rx_ring.contents.tail ∧
      (RingBuffer_Pop rx_ring).2 = rx_ring.contents.head? := by
  obtain ⟨hhead, htail⟩ := h
  unfold RingBuffer_Pop
  by_cases hempty : rx_ring.head = rx_ring.tail
  · rw [if_pos hempty]
    rw [contents_of_empty ⟨hhead, htail⟩ hempty]
    exact ⟨⟨hhead, htail⟩, rfl, rfl⟩
  · rw [if_neg hempty]
    have hcount := occupied_succ_tail hhead htail hempty
    have hcontents : rx_ring.contents = rx_ring.cell rx_ring.tail ::
        RingBuffer.contents { rx_ring with tail := (rx_ring.tail + 1) % RX_BUF_SIZE } := by
      unfold RingBuffer.contents
      rw [← hcount, window_pop htail]
      rfl
    rw [hcontents]
    exact ⟨⟨hhead, Nat.mod_lt _ (Nat.zero_lt_succ _)⟩, rfl, rfl⟩

/-- The bytes of the buffer are the elements of the queue. -/
structure RingBuffer.Holds (rx_ring : RingBuffer) (q : Bytes) : Prop where
  indexed : rx_ring.Indexed
  contents : rx_ring.contents = q

private theorem step_holds (rx_ring : RingBuffer) (q : Bytes) (op : Op UInt8) (h : rx_ring.Holds q) :
    (rx_ring.step op).2 = (fifo 255 q op).2 ∧ (rx_ring.step op).1.Holds (fifo 255 q op).1 := by
  obtain ⟨hindexed, rfl⟩ := h
  cases op with
  | push data =>
    obtain ⟨hnext, hcontents⟩ := push_contents hindexed data
    exact ⟨rfl, hnext, hcontents⟩
  | pop =>
    obtain ⟨hnext, hcontents, hbyte⟩ := pop_contents hindexed
    exact ⟨hbyte, hnext, hcontents⟩

/-- Whatever is put into the ring buffer and taken from it, it answers as a FIFO queue for 255 bytes
does and holds what that holds, and both of its indices stay within the array. -/
theorem ring_buffer_is_fifo (buffer : Vector UInt8 RX_BUF_SIZE) (ops : List (Op UInt8)) :
    outputs RingBuffer.step (RingBuffer.init buffer) ops = outputs (fifo 255) [] ops ∧
      (final RingBuffer.step (RingBuffer.init buffer) ops).contents = final (fifo 255) [] ops ∧
      (final RingBuffer.step (RingBuffer.init buffer) ops).head < 256 ∧
      (final RingBuffer.step (RingBuffer.init buffer) ops).tail < 256 := by
  have hinit : (RingBuffer.init buffer).Holds [] := ⟨init_indexed buffer, init_contents buffer⟩
  obtain ⟨houtputs, hfinal⟩ := simulation step_holds hinit ops
  exact ⟨houtputs, hfinal.contents, hfinal.indexed.head, hfinal.indexed.tail⟩

end catbox.console
