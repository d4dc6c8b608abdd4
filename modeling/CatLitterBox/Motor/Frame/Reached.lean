import CatLitterBox.Motor.Frame.Wait

open catbox.sensor program program.Program

namespace catbox.motor

variable {S α : Type} {M : Spec Act Act.Answer S} {s : S}

theorem at_target_close {mt : Motor} {word : PtWord}
    (h : at_target .MT_CLOSE (pt_check_word mt word) = true) :
    word.has mt.close_bit = true := by
  simp only [at_target, Bool.or_eq_true, Bool.and_eq_true, beq_iff_eq, reduceCtorEq, and_false, and_true,
    false_or] at h
  exact pt_check_word_close h

/-- What the second half of a turn leads to, once the motor has been looked at. -/
theorem wp_sample_end {mt : Motor} {status : MotorStatus} {word : PtWord} {still : Bool} {elapsed_ms timeout : Int}
    {I : S → Prop} {Q : Int → S → Prop} (hs : I s) (hfail : ∀ t, I t → Q (-1) t)
    (hreached : at_target status (pt_check_word mt word) = true → Q 0 s) (hstill : still = true → Q 0 s) :
    (if at_target status (pt_check_word mt word) || still then .ret (.inr 0)
      else if elapsed_ms ≥ timeout then .ret (.inr (-1)) else .ret (.inl ()) : Code (Unit ⊕ Int)).wp M
      (fun o u => o.elim (fun _ => I u) fun b => Q b u) s := by
  refine wp_ite (fun hend => ?_) fun _ => wp_ite (fun _ => hfail s hs) fun _ => hs
  obtain htarget | hstood := Bool.or_eq_true_iff.mp hend
  · exact hreached htarget
  · exact hstill hstood

/-- The rule of a wait for a position. It keeps the assertion `I`, and it succeeds only
after a read that gives `C`: of a word with that position, or of the motor standing still. -/
theorem wp_wait_reached {mt : Motor} {timeout : Int} {status : MotorStatus} {I C : S → Prop} {Q : Int → S → Prop}
    (hI : Observes (M.Keeps I)) (hC : Observes (M.Keeps C))
    (hword : ∀ s word t, I s → M.trans (.get_pt_status (.wait_motor_operation mt status)) s word t →
      at_target status (pt_check_word mt word) = true → C t)
    (hstill : ∀ s t, I s → M.trans (.get_motor_run mt (.wait_motor_operation mt status)) s false t → C t)
    (hs : I s) (hfail : ∀ t, I t → Q (-1) t) (hok : ∀ t, C t → Q 0 t) :
    (wait_motor_operation mt timeout status).wp M Q s := by
  have hact {a : Act} {β : Type} {f : a.Answer → Code β} {P : β → S → Prop} {u : S}
      (ha : M.Keeps I a) (hu : I u)
      (hf : ∀ r t, I t → (f r).wp M P t) : (a.code.bind f).wp M P u :=
    wp_perform_bind (ha u hu).1 fun r t htrans => hf r t ((ha u hu).2 r t htrans)
  refine hact (hI.delay _) hs fun _ t ht => hact hI.time ht fun start t ht => ?_
  refine wp_repeated (fun _ t => I t) ht fun _ t ht => ?_
  refine wp_seq (wp_of_keeps (stop_requested_every hI) ht fun stop t ht =>
    wp_ite (fun _ => hfail t ht) fun _ => ?_)
  refine wp_seq (wp_of_keeps (wait_while_paused_every hI) ht fun stop t ht =>
    wp_ite (fun _ => hfail t ht) fun _ => ?_)
  refine wp_seq (wp_of_keeps (stop_requested_every hI) ht fun stop t ht =>
    wp_ite (fun _ => hfail t ht) fun _ => ?_)
  refine hact (hI.delay _) ht fun _ t ht => wp_seq (wp_perform_bind (hI.pt _ t ht).1 fun word u hread => ?_)
  -- from the read of the word on, both assertions are carried: `C` in case the position was seen
  have hu : I u := (hI.pt _ t ht).2 word u hread
  have hseen : at_target status (pt_check_word mt word) = true → C u := hword t word u ht hread
  refine wp_perform_bind (hI.time u hu).1 fun now v htime => wp_seq ?_
  have hv : I v := (hI.time u hu).2 now v htime
  have hkept (h : at_target status (pt_check_word mt word) = true) : C v := (hC.time u (hseen h)).2 now v htime
  refine wp_ite (fun _ => ?_) fun _ => ?_
  · refine wp_perform_bind (hI.run _ _ v hv).1 fun running x hrun => ?_
    refine wp_sample_end ((hI.run _ _ v hv).2 running x hrun) hfail (fun h => ?_) fun hstood => ?_
    · exact hok x ((hC.run _ _ v (hkept h)).2 running x hrun)
    · cases running with
      | true => cases hstood
      | false => exact hok x (hstill v x hv hrun)
  · exact wp_sample_end hv hfail (fun h => hok v (hkept h)) fun hstood => absurd hstood Bool.false_ne_true

/-- A wait for the closed end, of which the word shows the bit. -/
theorem wp_wait_close {mt : Motor} {timeout : Int} {I C : S → Prop} {Q : Int → S → Prop}
    (hI : Observes (M.Keeps I)) (hC : Observes (M.Keeps C))
    (hword : ∀ s word t, I s → M.trans (.get_pt_status (.wait_motor_operation mt .MT_CLOSE)) s word t →
      word.has mt.close_bit = true → C t)
    (hstill : ∀ s t, I s → M.trans (.get_motor_run mt (.wait_motor_operation mt .MT_CLOSE)) s false t → C t)
    (hs : I s) (hfail : ∀ t, I t → Q (-1) t) (hok : ∀ t, C t → Q 0 t) :
    (wait_motor_operation mt timeout .MT_CLOSE).wp M Q s := by
  refine wp_wait_reached hI hC ?_ hstill hs hfail hok
  intro s word t hs htrans htarget
  exact hword s word t hs htrans (at_target_close htarget)

end catbox.motor
