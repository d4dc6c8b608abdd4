import CatLitterBox.Motor.Interrupt.Scenario

open catbox.sensor program program.Program

namespace catbox.motor

/-- The flags of a pause as `do_clean` may find them. `resuming` says that a caller of
`toggle_clean_pause` is between its two steps: the pause is cleared, the resume is not
yet requested. -/
structure PauseFlags where
  pause : Bool
  resume : Bool
  resuming : Bool

/-- The pause has been asked for and not been lost. -/
def PauseFlags.asked (s : PauseFlags) : Prop := s.pause = true ∨ s.resume = true ∨ s.resuming = true

/-- The resume is requested, or its request is under way. -/
def PauseFlags.owed (s : PauseFlags) : Prop := s.resume = true ∨ s.resuming = true

/-- What other callers of `toggle_clean_pause` may do to the flags. -/
structure PauseFlags.Toggled (s t : PauseFlags) : Prop where
  asked : t.asked
  resume : s.resume = true → t.resume = true
  resuming : s.resuming = true → t.owed

/-- What a pause asks of the normal sequence of `do_clean`: no motor is driven until the
sequence is left, which is when `clean_running_flag` is cleared. Toggles may come before
every action; no poll of the resume request falls between the two steps of a resume. -/
def paused : Spec Act Act.Answer PauseFlags where
  allow a _ := a.drives = false ∧ a ≠ .write .clean_pause_flag false ∧
    ∀ v, a ≠ .write .clean_resume_recovery_requested v
  trans a s r t := a ≠ .write .clean_running_flag false ∧ s.Toggled t ∧
    match a, r with
    | .read .clean_pause_flag _, r => r = t.pause
    | .read .clean_resume_recovery_requested _, r => r = t.resume ∧ (t.resuming = true → t.resume = true)
    | _, _ => True

/-- The polls that see the pause or the resume. The pause loop of `CHECK_TOF_PAUSE` goes
on with the next move when it ends, and is left out. -/
def heeded (a : Act) (r : a.Answer) (_ : PauseFlags) : Prop :=
  match a, r with
  | .read .clean_pause_flag p, r => r = true ∧ ¬ p.retried ∧ p ≠ .check_tof_pause
  | .read .clean_resume_recovery_requested p, r => r = true ∧ ¬ p.retried ∧ p ≠ .estop_exit
  | _, _ => False

theorem heeded_quiet (a : Act) (ha : a.reads = false) : ∀ r t, ¬ heeded a r t := by
  cases a with
  | read f p => cases ha
  | _ => exact fun _ _ h => h

variable {p : Place} {s : PauseFlags}

/-- A resume that is owed stays owed, whoever else toggles. -/
theorem PauseFlags.Toggled.owed {t : PauseFlags} (h : s.Toggled t) (hs : s.owed) : t.owed := by
  obtain hresume | hresuming := hs
  · exact .inl (h.resume hresume)
  · exact h.resuming hresuming

/-- A step that drives no motor and writes no flag is allowed during a pause. -/
theorem paused_look {a : Act} (hdrives : a.drives = false) (hwrite : ∀ f v, a ≠ .write f v) :
    paused.allow a s := ⟨hdrives, hwrite _ _, fun v => hwrite _ v⟩

/-- The test of the stop flags under a pause, with any outcome. -/
theorem stop_requested_paused {Q : Bool → PauseFlags → Prop} (hQ : ∀ b u, Q b u) :
    (stop_requested p).wp paused Q s := by
  refine wp_perform_bind (paused_look rfl (by simp)) fun stop t _ => wp_ite (fun _ => hQ true t) fun _ => ?_
  exact ⟨paused_look rfl (by simp), fun resume u _ => hQ resume u⟩

/-- Once a resume is under way the test succeeds. -/
theorem stop_requested_owed {Q : Bool → PauseFlags → Prop} (hs : s.owed) (hQ : ∀ u, Q true u) :
    (stop_requested p).wp paused Q s := by
  refine wp_perform_bind (paused_look rfl (by simp)) fun stop t ht => wp_ite (fun _ => hQ t) fun _ => ?_
  refine ⟨paused_look rfl (by simp), fun resume u hu => ?_⟩
  obtain ⟨-, htoggled, hresume, hgap⟩ := hu
  have htrue : resume = true := by
    rw [hresume]
    obtain h | h := htoggled.owed (ht.2.1.owed hs)
    · exact h
    · exact hgap h
  subst htrue
  exact hQ u

/-- The pause loop drives no motor. It ends with a stop request, or with the pause
cleared, and then the resume is under way. -/
theorem wait_while_paused_paused {Q : Bool → PauseFlags → Prop} (htrue : ∀ u, Q true u)
    (hfalse : ∀ u, u.owed → Q false u) : (wait_while_paused p).wp paused Q s := by
  refine wp_repeated (fun _ _ => True) trivial fun _ t _ => ?_
  refine wp_perform_bind (paused_look rfl (by simp)) fun pause u hu => wp_ite (fun hpause => ?_) fun _ => ?_
  · refine hfalse u (hu.2.1.asked.resolve_left ?_)
    have hread : pause = u.pause := hu.2.2
    simpa [← hread] using hpause
  · refine wp_seq (stop_requested_paused fun stop v => wp_ite (fun _ => htrue v) fun _ => ?_)
    exact wp_perform_bind (paused_look rfl (by simp)) fun _ _ _ => trivial

theorem stop_requested_heeded {Q : Bool → PauseFlags → Prop} (hQ : p.retried ∨ ∀ u, Q true u) :
    (stop_requested p).After paused heeded Q := by
  refine after_skip (fun _ _ h => h) fun stop =>
    after_ite trivial ⟨fun resume t hresume => ?_, fun _ => trivial⟩
  obtain ⟨rfl, hp, -⟩ := hresume
  exact hQ.resolve_left hp t

/-- A poll that sees the pause stays in the loop until the pause is over. -/
theorem wait_while_paused_heeded {Q : Bool → PauseFlags → Prop} (htrue : p.retried ∨ ∀ u, Q true u)
    (hfalse : p.retried ∨ p = .check_tof_pause ∨ ∀ u, u.owed → Q false u) :
    (wait_while_paused p).After paused heeded Q := by
  refine ⟨fun _ => after_perform_bind (fun pause t hpause => ?_) fun pause => after_ite trivial ?_,
    fun _ => trivial⟩
  · obtain ⟨rfl, hp, htof⟩ := hpause
    have htrue := htrue.resolve_left hp
    have hfalse := (hfalse.resolve_left hp).resolve_left htof
    refine wp_seq (stop_requested_paused fun stop u => wp_ite (fun _ => htrue u) fun _ => ?_)
    refine wp_perform_bind (paused_look rfl (by simp)) fun _ v _ => ?_
    exact wait_while_paused_paused htrue hfalse
  · refine after_bind (stop_requested_heeded htrue) fun stop => after_ite trivial ?_
    exact after_skip (fun _ _ h => h) fun _ => trivial

theorem wait_motor_operation_heeded {mt : Motor} {timeout : Int} {status : MotorStatus}
    {Q : Int → PauseFlags → Prop}
    (hQ : (Place.wait_motor_operation mt status).retried ∨ ∀ u, Q (-1) u) :
    (wait_motor_operation mt timeout status).After paused heeded Q := by
  refine after_skip (fun _ _ h => h) fun _ => after_skip (fun _ _ h => h) fun start => ?_
  refine ⟨fun _ => after_bind (stop_requested_heeded hQ) fun stop => after_ite trivial ?_, fun _ => trivial⟩
  refine after_bind (wait_while_paused_heeded hQ ?_) fun stop => after_ite trivial ?_
  · -- the pause is over because a resume is under way, and the next test sees it
    exact hQ.imp_right fun hexit => .inr fun u hu => wp_seq (stop_requested_owed hu hexit)
  refine after_bind (stop_requested_heeded hQ) fun stop => after_ite trivial ?_
  exact wait_motor_sample_after heeded_quiet

/-- A turn of `wait_duration` does not test for a stop after its pause loop, so the wait
may still end normally with the resume under way. -/
theorem wait_duration_owed {Q : Int → PauseFlags → Prop} {cnt : Nat} (hs : s.owed) (hexit : ∀ u, Q (-1) u) :
    (Program.loop wait_duration_turn cnt .ret).wp paused Q s := by
  refine wp_repeated (fun _ t => t.owed) hs fun cnt t ht => ?_
  exact wp_seq (stop_requested_owed ht hexit)

theorem wait_duration_heeded {ms : Nat} {Q : Int → PauseFlags → Prop} (hexit : ∀ u, Q (-1) u)
    (hend : ∀ u, u.owed → Q 0 u) : (wait_duration ms).After paused heeded Q := by
  refine after_ite trivial ⟨fun cnt => ?_, fun _ => trivial⟩
  refine after_bind (stop_requested_heeded (.inr hexit)) fun stop => after_ite trivial ?_
  refine after_bind (wait_while_paused_heeded (.inr hexit) (.inr (.inr fun u hu => ?_))) fun stop => ?_
  · refine wp_perform_bind (paused_look rfl (by simp)) fun _ v hv => ?_
    have howed : v.owed := hv.2.1.owed hu
    refine wp_ite (fun _ => ?_) fun _ => ?_
    · exact wait_duration_owed howed hexit
    · exact hend v howed
  · exact after_ite trivial (after_skip (fun _ _ h => h) fun _ => after_ite trivial trivial)

private theorem CHECK_TOF_PAUSE_heeded {Q : Bool → PauseFlags → Prop} (hQ : ∀ u, Q true u) :
    CHECK_TOF_PAUSE.After paused heeded Q := by
  have hmeasures : MeasuresTof fun a => a.reads = false := ⟨rfl, rfl, rfl, fun _ => rfl, rfl⟩
  refine after_bind (after_of_every (every_mono heeded_quiet ?_)) fun tof_dist => after_ite ?_ trivial
  · exact get_fresh_tof_distance_every hmeasures
  refine after_bind (after_of_every (every_mono heeded_quiet ?_)) fun _ => ?_
  · simp [pause_all_motors, Act.reads]
  refine after_skip (fun _ _ h => h) fun _ => after_skip (fun _ _ h => h) fun _ => ?_
  exact wait_while_paused_heeded (.inr hQ) (.inr (.inl rfl))

private theorem exits_paused : Exits paused fun _ _ => True where
  mono _ _ h := h
  tick _ _ _ _ _ _ _ _ := trivial
  allow _ a _ _ hdrives hsets := by
    apply paused_look hdrives
    rintro f v rfl
    cases hsets
  estop_exit t _ := by
    refine wp_perform_bind (by simp [paused, Act.drives]) fun _ _ _ => ?_
    refine wp_perform_bind (paused_look rfl (by simp)) fun _ _ _ => ?_
    refine wp_perform_bind (by simp [paused, Act.drives]) fun _ _ hleft => ?_
    exact absurd rfl hleft.1
  recovery_abort t _ := by
    refine wp_perform_bind (by simp [paused, Act.drives]) fun _ _ hleft => ?_
    exact absurd rfl hleft.1

/-- A pause is a request that the normal sequence honours once it polls it. -/
theorem interrupts_paused : Interrupts paused heeded fun _ _ => True where
  toExits := exits_paused
  quiet := heeded_quiet
  stop _ _ _ h := h.elim
  exit _ _ h := h.2.2 rfl
  wait _ _ _ _ hQ := wait_motor_operation_heeded (hQ.imp_right fun hexit t => hexit t trivial)
  check _ hQ := stop_requested_heeded (.inr fun t => hQ t trivial)
  duration ms rest Q hQ hrest := by
    have hexit (t : PauseFlags) : Q true t := hQ t trivial
    refine after_bind (wait_duration_heeded hexit fun u hu => ?_) fun ret => after_ite trivial ?_
    · exact wp_seq (stop_requested_owed hu hexit)
    · exact after_bind (stop_requested_heeded (.inr hexit)) fun stop => after_ite trivial hrest
  tof _ hQ := CHECK_TOF_PAUSE_heeded fun t => hQ t trivial

end catbox.motor
