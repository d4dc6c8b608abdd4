import CatLitterBox.LoadCell.Fsm
import CatLitterBox.Queue.Window
import Mathlib.Algebra.BigOperators.Group.List.Basic
import Mathlib.Data.List.Induction

open queue

namespace catbox.loadcell

/-- The calls that change the ring. -/
inductive CatRingCall where
  | push_cat_ring_buffer (new_val : ℚ)
  | reset_cat_ring_buffer

def CatRingCall.apply (s : CatFsm) : CatRingCall → CatFsm
  | .push_cat_ring_buffer new_val => { s with ring := (loadcell.push_cat_ring_buffer s.ring new_val).1 }
  | .reset_cat_ring_buffer => loadcell.reset_cat_ring_buffer s

/-- The values pushed since the last reset, the oldest first. -/
def CatRingCall.pushed (past : List ℚ) : CatRingCall → List ℚ
  | .push_cat_ring_buffer new_val => past ++ [new_val]
  | .reset_cat_ring_buffer => []

/-- The ring after some calls from boot. -/
def cat_ring (calls : List CatRingCall) : CatRing := (calls.foldl CatRingCall.apply .init).ring

def cat_history (calls : List CatRingCall) : List ℚ := calls.foldl CatRingCall.pushed []

def mean (values : List ℚ) : ℚ := values.sum / values.length

/-- The ring holds the latest values, and their sum. -/
structure CatRing.Holds (ring : CatRing) (past : List ℚ) : Prop where
  recent : Recent 0 ring.buffer ring.head ring.count past
  sum : ring.sum = (latest CAT_RING_BUFFER_SIZE past).sum

variable {ring : CatRing} {past : List ℚ}

theorem CatRing.empty_holds : CatRing.empty.Holds [] := ⟨Recent.empty 0, rfl⟩

/-- The sum takes the sample in, and in a full window it gives the oldest one up. -/
theorem CatRing.Holds.push (h : ring.Holds past) (new_val : ℚ) :
    (push_cat_ring_buffer ring new_val).1.Holds (past ++ [new_val]) := by
  have hrecent := h.recent.push new_val
  have hcount := h.recent.count
  have hsum := h.sum
  unfold push_cat_ring_buffer
  by_cases hroom : ring.count < CAT_RING_BUFFER_SIZE
  · rw [if_pos hroom] at hrecent ⊢
    refine ⟨hrecent, ?_⟩
    rw [latest_push_of_short (by omega), List.sum_append, List.sum_singleton, hsum]
  · rw [if_neg hroom] at hrecent ⊢
    refine ⟨hrecent, ?_⟩
    have hfull : CAT_RING_BUFFER_SIZE ≤ past.length := by omega
    rw [h.recent.oldest hfull, List.sum_cons] at hsum
    rw [latest_push_of_full hfull, List.sum_append, List.sum_singleton]
    simp only [hsum, add_sub_cancel_left]

private theorem cat_ring_holds (calls : List CatRingCall) : (cat_ring calls).Holds (cat_history calls) := by
  unfold cat_ring cat_history
  induction calls using List.reverseRecOn with
  | nil => exact CatRing.empty_holds
  | append_singleton calls call ih =>
    rw [List.foldl_append, List.foldl_append]
    cases call with
    | push_cat_ring_buffer new_val => exact ih.push new_val
    | reset_cat_ring_buffer => exact CatRing.empty_holds

/-- A push returns the mean of the window that it leaves. -/
theorem CatRing.Holds.push_mean (h : ring.Holds past) (new_val : ℚ) :
    (push_cat_ring_buffer ring new_val).2 = mean (latest CAT_RING_BUFFER_SIZE (past ++ [new_val])) := by
  have hpush := h.push new_val
  unfold mean
  rw [latest_length, ← hpush.recent.count, ← hpush.sum]
  rfl

/-- After any calls the sum, the count and the head are those of the last 200 values pushed, and
the next push returns the mean of the last 200 with its own among them. -/
theorem cat_ring_is_window_mean (calls : List CatRingCall) :
    (cat_ring calls).sum = (latest 200 (cat_history calls)).sum ∧
      (cat_ring calls).count = min (cat_history calls).length 200 ∧
      (cat_ring calls).head.val = (cat_history calls).length % 200 ∧
      ∀ new_val, (push_cat_ring_buffer (cat_ring calls) new_val).2 =
        mean (latest 200 (cat_history calls ++ [new_val])) := by
  have hholds := cat_ring_holds calls
  exact ⟨hholds.sum, hholds.recent.count, hholds.recent.head, hholds.push_mean⟩

end catbox.loadcell
