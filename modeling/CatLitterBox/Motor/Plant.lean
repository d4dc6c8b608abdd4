import CatLitterBox.Motor.Run
import CatLitterBox.Program.Rely
import Mathlib.Data.Fintype.Basic

open catbox.sensor program program.Program

namespace catbox.motor

instance : Fintype Motor where
  elems := {.PLATE_MOTOR, .MAIN_COVER_MOTOR, .SCPINOUT_MOTOR, .SCPSPIN_MOTOR, .WASTE_COVER_MOTOR}
  complete mt := by cases mt <;> decide

/-- The bits of the photo-sensor word that show the position of a motor. -/
def Motor.position_bits : Motor → PtWord
  | .PLATE_MOTOR => 0
  | .MAIN_COVER_MOTOR => PT_BIT_MCOVER_OPEN ||| PT_BIT_MCOVER_CLOSE
  | .SCPINOUT_MOTOR => PT_BIT_SCP_OUT ||| PT_BIT_SCP_IN
  | .SCPSPIN_MOTOR => PT_BIT_SCP_SPIN_ST ||| PT_BIT_SCP_SPIN_ED
  | .WASTE_COVER_MOTOR => PT_BIT_WASTE_OPEN ||| PT_BIT_WASTE_CLOSE

/-- What happens around a scenario: a motor task takes its next message or stops its
motor by itself, another task sends a command or sets a flag, the sensors and the clock
change. -/
inductive Plant where
  | consume (mt : Motor)
  | halt (mt : Motor)
  | command (mt : Motor) (msg : Message)
  | flag (f : Flag) (v : Bool)
  | word (value : PtWord)
  | tof (ring : TofRing)
  | clock (t : Int)

/-- The motor task on a message: FORWARD and REVERSE start the motor, STOP stops it. -/
def World.drive (w : World) (mt : Motor) : Direction → World
  | .FORWARD =>
    { w with running := Function.update w.running mt true, forward := Function.update w.forward mt true }
  | .REVERSE =>
    { w with running := Function.update w.running mt true, forward := Function.update w.forward mt false }
  | .STOP => { w with running := Function.update w.running mt false }

/-- The motor task takes the oldest message of its queue. -/
def World.consume (w : World) (mt : Motor) : World :=
  match w.queue mt with
  | [] => w
  | msg :: queue => World.drive { w with queue := Function.update w.queue mt queue } mt msg.direction

def Plant.apply (w : World) : Plant → World
  | .consume mt => w.consume mt
  | .halt mt => { w with running := Function.update w.running mt false }
  | .command mt msg => w.enqueue mt msg
  | .flag f v => w.setFlag f v
  | .word value => { w with pt_value := value }
  | .tof ring => { w with tof := ring }
  | .clock t => { w with clock := t }

/-- The position bits of a motor change only while it runs, and the other tasks send
motors nothing but STOP. -/
def Plant.consistent (w : World) : Plant → Prop
  | .command _ msg => msg.direction = .STOP
  | .word value => ∀ mt : Motor, w.running mt = false →
    value &&& mt.position_bits = w.pt_value &&& mt.position_bits
  | _ => True

instance (w : World) : (e : Plant) → Decidable (e.consistent w)
  | .command _ msg => inferInstanceAs (Decidable (msg.direction = .STOP))
  | .word value => inferInstanceAs (Decidable (∀ mt : Motor, w.running mt = false →
      value &&& mt.position_bits = w.pt_value &&& mt.position_bits))
  | .consume _ | .halt _ | .flag _ _ | .tof _ | .clock _ => .isTrue trivial

/-- A motor leaves its closed end only while it runs forward. -/
def Plant.holding (w : World) : Plant → Prop
  | .word value =>
    ∀ mt : Motor, w.pt_value.has mt.close_bit = true → (w.running mt && w.forward mt) = false →
      value.has mt.close_bit = true
  | _ => True

instance (w : World) : (e : Plant) → Decidable (e.holding w)
  | .word value => inferInstanceAs (Decidable (∀ mt : Motor, w.pt_value.has mt.close_bit = true →
      (w.running mt && w.forward mt) = false → value.has mt.close_bit = true))
  | .consume _ | .halt _ | .command _ _ | .flag _ _ | .tof _ | .clock _ => .isTrue trivial

/-- The motor runs forward, or a message that will make it do so is waiting. -/
def World.opening (w : World) (mt : Motor) : Prop :=
  (∃ msg ∈ w.queue mt, msg.direction = .FORWARD) ∨ (w.running mt && w.forward mt) = true

/-- The motor is at its closed end and stays there until it is driven open. -/
structure World.Closed (w : World) (mt : Motor) : Prop where
  bit : w.pt_value.has mt.close_bit = true
  settled : ¬ w.opening mt

instance (w : World) (mt : Motor) : Decidable (w.opening mt) :=
  inferInstanceAs (Decidable ((∃ msg ∈ w.queue mt, msg.direction = .FORWARD) ∨ _ = true))

instance (w : World) (mt : Motor) : Decidable (w.Closed mt) :=
  decidable_of_iff (w.pt_value.has mt.close_bit = true ∧ ¬ w.opening mt)
    ⟨fun h => ⟨h.1, h.2⟩, fun h => ⟨h.bit, h.settled⟩⟩

variable {w : World} {mt : Motor}

/-- A motor at its closed end does not run towards the open one. -/
theorem World.Closed.runs (h : w.Closed mt) : (w.running mt && w.forward mt) = false := by
  cases hrun : w.running mt && w.forward mt with
  | false => rfl
  | true => exact absurd (.inr hrun) h.settled

/-- A message at the end of the queue opens nothing unless it is FORWARD. -/
theorem opening_enqueue {m : Motor} {msg : Message} (hmsg : m = mt → msg.direction ≠ .FORWARD)
    (h : (w.enqueue m msg).opening mt) : w.opening mt := by
  obtain ⟨msg', hmem, hdir⟩ | hrun := h
  · by_cases hm : m = mt
    · subst hm
      simp only [World.enqueue, Function.update_self, List.mem_append, List.mem_singleton] at hmem
      obtain hmem | rfl := hmem
      · exact .inl ⟨msg', hmem, hdir⟩
      · exact absurd hdir (hmsg rfl)
    · have hqueue : (w.enqueue m msg).queue mt = w.queue mt := by
        simp [World.enqueue, Function.update_of_ne (Ne.symm hm)]
      rw [hqueue] at hmem
      exact .inl ⟨msg', hmem, hdir⟩
  · exact .inr hrun

theorem opening_consume {m : Motor} (h : (w.consume m).opening mt) : w.opening mt := by
  unfold World.consume at h
  cases hqueue : w.queue m with
  | nil =>
    rw [hqueue] at h
    exact h
  | cons msg queue =>
    rw [hqueue] at h
    simp only at h
    by_cases hm : m = mt
    · subst hm
      cases hdir : msg.direction with
      | FORWARD => exact .inl ⟨msg, by simp [hqueue], hdir⟩
      | _ =>
        rw [hdir] at h
        obtain ⟨msg', hmem, hforward⟩ | hrun := h
        · simp only [World.drive, Function.update_self] at hmem
          exact .inl ⟨msg', by simp [hqueue, hmem], hforward⟩
        · simp [World.drive] at hrun
    · have hne : mt ≠ m := Ne.symm hm
      cases hdir : msg.direction with
      | _ =>
        rw [hdir] at h
        simpa [World.opening, World.drive, Function.update_of_ne hne] using h

private theorem drive_pt_value (w : World) (m : Motor) (dir : Direction) : (w.drive m dir).pt_value = w.pt_value := by
  cases dir with
  | _ => rfl

private theorem consume_pt_value (w : World) (m : Motor) : (w.consume m).pt_value = w.pt_value := by
  unfold World.consume
  cases w.queue m with
  | nil => rfl
  | cons msg queue => exact drive_pt_value _ m msg.direction

/-- What the environment does keeps a motor closed. -/
theorem World.Closed.change {e : Plant} (h : w.Closed mt) (hconsistent : e.consistent w)
    (hholding : e.holding w) :
    (Plant.apply w e).Closed mt := by
  cases e with
  | consume m =>
    refine ⟨?_, fun hopen => h.settled (opening_consume hopen)⟩
    rw [Plant.apply, consume_pt_value]
    exact h.bit
  | halt m =>
    refine ⟨h.bit, ?_⟩
    rintro (hqueue | hrun)
    · exact h.settled (.inl hqueue)
    · refine h.settled (.inr ?_)
      by_cases hm : mt = m
      · subst hm
        simp [Plant.apply] at hrun
      · simpa [Plant.apply, Function.update_of_ne hm] using hrun
  | command m msg =>
    have hstop : msg.direction = .STOP := hconsistent
    exact ⟨h.bit, fun hopen => h.settled (opening_enqueue (fun _ => by rw [hstop]; simp) hopen)⟩
  | word value => exact ⟨hholding mt h.bit h.runs, h.settled⟩
  | flag f v => exact ⟨h.bit, h.settled⟩
  | tof ring => exact ⟨h.bit, h.settled⟩
  | clock t => exact ⟨h.bit, h.settled⟩

/-- A step of a scenario keeps a motor closed unless it drives it forward. -/
theorem World.Closed.perform {a : Act} (h : w.Closed mt) (ha : a.command mt ≠ some .FORWARD) :
    (a.perform w).2.Closed mt := by
  cases a with
  | send m msg =>
    refine ⟨h.bit, fun hopen => h.settled (opening_enqueue (fun hm hdir => ha ?_) hopen)⟩
    rw [Act.command, if_pos hm, hdir]
  | _ => exact ⟨h.bit, h.settled⟩

end catbox.motor
