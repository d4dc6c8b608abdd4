import CatLitterBox.Motor.Pause.Run

open catbox.sensor program program.Program

namespace catbox.motor

/-- What leads out of the normal sequence: `clean_running_flag` is cleared right after
the last test of the resume request, or at the normal end. The state is the newest step. -/
def leaves : Spec Act Act.Answer (Option Event) where
  allow a s := a = .write .clean_running_flag false →
    (∃ r, s = some ⟨.read .clean_resume_recovery_requested .estop_exit, r⟩) ∨
      s = some ⟨.set_tof_sensor_enable false, ()⟩
  trans a _ r t := a ≠ .write .clean_running_flag false ∧ t = some ⟨a, r⟩

private theorem cleans_running : Cleans fun a => a ≠ .write .clean_running_flag false where
  read := by simp
  pt := by simp
  run := by simp
  time := by simp
  delay := by simp
  spin := by simp
  scoop := by simp
  clear := by simp
  cover := by simp
  scoopOut := by simp
  waste := by simp
  plate := by simp
  led := by simp
  always := by simp
  pause := by simp
  enable := by simp
  reset := by simp
  count := by simp
  pass := by simp
  distance := by simp

/-- No action of the program leaves the normal sequence. -/
theorem leaves_of_every {α : Type} {c : Code α} (hc : c.Every fun a => a ≠ .write .clean_running_flag false)
    {Q : α → Option Event → Prop} (hQ : ∀ a t, Q a t) (s : Option Event) : c.wp leaves Q s :=
  wp_mono (fun a t _ => hQ a t) (wp_of_every (I := fun _ => True) hc (fun _ _ ha _ hwrite => absurd hwrite ha)
    (fun _ _ _ _ _ _ _ => trivial) trivial)

private theorem do_clean_leaves (s : Option Event) : do_clean.wp leaves (fun _ _ => True) s := by
  refine wp_seq (leaves_of_every (by simp [clean_begin, clear_emergency_stop]) (fun _ t => ?_) s)
  refine wp_seq (leaves_of_every (clean_sequence_every cleans_running (by simp)) (fun exit t => ?_) t)
  refine wp_ite (fun _ => ?_) fun _ => ?_
  · refine wp_perform_bind (by simp [leaves]) fun _ _ _ => ?_
    refine wp_perform_bind (by simp [leaves]) fun r u hu => ?_
    obtain ⟨-, rfl⟩ := hu
    exact wp_perform_bind (fun _ => .inl ⟨r, rfl⟩) fun _ _ hleft => absurd rfl hleft.1
  · refine wp_perform_bind (by simp [leaves]) fun _ _ _ => ?_
    refine wp_perform_bind (by simp [leaves]) fun r u hu => ?_
    obtain ⟨-, rfl⟩ := hu
    exact wp_perform_bind (fun _ => .inr rfl) fun _ _ hleft => absurd rfl hleft.1

theorem PauseMove.apply_leaves {c : PauseConfig} (m : PauseMove)
    (h : c.config.code.wp leaves (fun _ _ => True) c.config.trace.head?) (hleft : ¬ (m.apply c).config.left) :
    (m.apply c).config.code.wp leaves (fun _ _ => True) (m.apply c).config.trace.head? := by
  cases m with
  | scenario =>
    cases hnext : c.config.code.next with
    | none =>
      have htrace : c.config.step.trace = c.config.trace := by simp [Config.step, Config.event, hnext]
      refine wp_advance h ?_ fun _ => congrArg List.head? htrace
      simp [hnext]
    | some a =>
      have htrace : c.config.step.trace = ⟨a, (a.perform c.config.world).1⟩ :: c.config.trace :=
        Config.step_trace_of_next hnext
      refine wp_advance h (fun a' ha' => ?_) (by simp [hnext])
      obtain rfl : a = a' := Option.some.inj (hnext.symm.trans ha')
      refine ⟨fun ha => hleft ⟨⟨a, (a.perform c.config.world).1⟩, ?_, ha⟩, congrArg List.head? htrace⟩
      exact htrace ▸ List.mem_cons_self
  | toggle who =>
    rw [PauseMove.apply, (c.toggle_config who).1, (c.toggle_config who).2]
    exact h
  | sense e => exact h

theorem pauseRun_leaves (w : World) (moves : List PauseMove) :
    (pauseRun w moves).config.left ∨
      (pauseRun w moves).config.code.wp leaves (fun _ _ => True) (pauseRun w moves).config.trace.head? := by
  refine List.foldlRecOn (motive := fun c => c.config.left ∨
    c.config.code.wp leaves (fun _ _ => True) c.config.trace.head?) moves PauseMove.apply ?_ ?_
  · exact .inr (do_clean_leaves _)
  · intro c hc m _
    by_cases hleft : (m.apply c).config.left
    · exact .inl hleft
    · refine .inr (m.apply_leaves (hc.resolve_left fun h => hleft (m.apply_left h)) hleft)

/-- The obligations of a request that interrupts scenarios hold along every run. -/
theorem pauseRun_after {S : Type} {M : Spec Act Act.Answer S} {hook : (a : Act) → a.Answer → S → Prop}
    {level : Nat → S → Prop} (h : Interrupts M hook level) (w : World) (moves : List PauseMove) :
    (pauseRun w moves).config.code.After M hook fun _ _ => True := by
  refine List.foldlRecOn (motive := fun c => c.config.code.After M hook fun _ _ => True) moves PauseMove.apply
    ?_ fun c hc m _ => ?_
  · exact h.do_clean_after
  cases m with
  | scenario => exact after_advance hc
  | toggle who => exact (c.toggle_config who).1 ▸ hc
  | sense e => exact hc

/-- What holds of `do_clean` from an effective resume until it leaves the normal
sequence, which has to come before its trace is longer than `bound`. -/
structure Resumed (bound : Nat) (c : PauseConfig) : Prop where
  code : ∃ s : Leaving, c.config.code.wp resumed (fun _ _ => True) s ∧ s.total + c.config.trace.length ≤ bound
  flag : c.flags.resume = true
  open_ : ¬ c.config.closing

/-- A step of the scenario brings a resumed clean nearer to its exit. -/
theorem Resumed.scenario {bound : Nat} {c : PauseConfig} (h : Resumed bound c)
    (hleft : ¬ c.config.step.left) : Resumed bound (PauseMove.scenario.apply c) := by
  obtain ⟨⟨s, hcode, hbound⟩, hflag, hopen⟩ := h
  cases hnext : c.config.code.next with
  | none =>
    have hworld : c.config.step.world = c.config.world := advance_of_none hnext
    have htrace : c.config.step.trace = c.config.trace := by simp [Config.step, Config.event, hnext]
    refine ⟨⟨s, wp_advance hcode ?_ fun _ => rfl, ?_⟩, ?_, ?_⟩
    · simp [hnext]
    · simpa only [PauseMove.apply, htrace] using hbound
    · simpa only [PauseConfig.flags, PauseMove.apply, hworld] using hflag
    · simpa only [Config.closing, PauseMove.apply, htrace] using hopen
  | some a =>
    obtain ⟨hfuel, _, henable, hresume⟩ := wp_next hcode hnext
    have hworld : c.config.step.world = (a.perform c.config.world).2 := advance_of_next hnext
    have htrace : c.config.step.trace = ⟨a, (a.perform c.config.world).1⟩ :: c.config.trace :=
      Config.step_trace_of_next hnext
    refine ⟨⟨s.next a, wp_advance hcode (fun a' ha' => ?_) (by simp [hnext]), ?_⟩, ?_, ?_⟩
    · obtain rfl : a = a' := Option.some.inj (hnext.symm.trans ha')
      refine ⟨fun ha => hleft ⟨⟨a, (a.perform c.config.world).1⟩, htrace ▸ List.mem_cons_self, ha⟩, rfl, ?_⟩
      cases a with
      | read f p =>
        cases f with
        | clean_resume_recovery_requested => exact hflag
        | _ => trivial
      | _ => trivial
    · have htotal : (s.next a).total < s.total := Leaving.total_next hfuel
      simp only [PauseMove.apply, htrace, List.length_cons]
      omega
    · simp only [PauseConfig.flags, PauseMove.apply, hworld]
      rw [Act.perform_flag hresume]
      exact hflag
    · simp only [Config.closing, PauseMove.apply, htrace, List.head?_cons, Option.some.injEq]
      rintro (htest | hend)
      · have hread : a = .read .clean_resume_recovery_requested .estop_exit := congrArg Sigma.fst htest
        subst hread
        have hanswer : c.flags.resume = false := eq_of_heq (Sigma.mk.inj htest).2
        rw [hflag] at hanswer
        cases hanswer
      · exact henable (congrArg Sigma.fst hend)

/-- So a resumed clean leaves the normal sequence within so many steps. -/
theorem Resumed.run {bound : Nat} {c : PauseConfig} (h : Resumed bound c) (moves : List PauseMove)
    (hleft : ¬ (moves.foldl PauseMove.apply c).config.left) :
    Resumed bound (moves.foldl PauseMove.apply c) := by
  induction moves generalizing c with
  | nil => exact h
  | cons m moves ih =>
    have hfirst : ¬ (m.apply c).config.left := fun hm =>
      hleft (List.foldlRecOn (motive := fun d => d.config.left) moves PauseMove.apply hm
        fun _ hd m' _ => m'.apply_left hd)
    refine ih ?_ hleft
    cases m with
    | scenario => exact h.scenario hfirst
    | toggle who =>
      obtain ⟨⟨s, hcode, hbound⟩, hflag, hopen⟩ := h
      obtain ⟨hcodeEq, htraceEq⟩ := c.toggle_config who
      refine ⟨⟨s, ?_, ?_⟩, (c.toggle_toggled who).resume hflag, ?_⟩
      · exact hcodeEq ▸ hcode
      · rw [PauseMove.apply, htraceEq]
        exact hbound
      · rw [Config.closing, PauseMove.apply, htraceEq]
        exact hopen
    | sense e =>
      obtain ⟨hcode, hflag, hopen⟩ := h
      refine ⟨hcode, ?_, hopen⟩
      simpa only [PauseConfig.flags, PauseMove.apply, Sense.apply_flag] using hflag

/-- Pause takes effect. After a step of `toggle_clean_pause` at a pause point, `do_clean`
drives no motor before it leaves its normal sequence. After a requested resume at a
resume point it does so too, within a bounded number of actions, and leaves for the
recovery: its last step is then the test of the request, with the answer `true`. -/
theorem pause_takes_effect (w : World) (before after : List PauseMove) (who : Caller)
    (hleft : ¬ (pauseRun w (before ++ .toggle who :: after)).config.left) :
    let c := pauseRun w (before ++ [.toggle who])
    let d := pauseRun w (before ++ .toggle who :: after)
    (PausePoint c → Unsplit c after → ∀ a, d.config.code.next = some a → a.drives = false) ∧
      ∀ n, c.flags.resume = true → ResumePoint n c →
        d.config.trace.length ≤ c.config.trace.length + n + 10 ∧
          ∀ a, d.config.code.next = some a → a.drives = false ∧
            (a = .write .clean_running_flag false → d.config.trace.head? =
              some ⟨.read .clean_resume_recovery_requested .estop_exit, true⟩) := by
  intro c d
  have hd : d = after.foldl PauseMove.apply c := by
    simp only [d, c, pauseRun, List.foldl_append, List.foldl_cons, List.foldl_nil]
  refine ⟨fun hpoint hgap a ha => ?_, fun n hflag hpoint => ?_⟩
  · have hasked : c.flags.asked := by
      have hc : c = (pauseRun w before).toggle who := by
        simp only [c, pauseRun, List.foldl_append, List.foldl_cons, List.foldl_nil, PauseMove.apply]
      exact hc ▸ ((pauseRun w before).toggle_toggled who).asked
    have hpaused : Paused c :=
      ⟨c.flags, wp_of_until hpoint (pauseRun_after interrupts_paused w _), .refl hasked⟩
    obtain ⟨s, hcode, -⟩ := hd ▸ hpaused.run after hgap (hd ▸ hleft)
    exact (wp_next hcode ha).1
  · have hresumed : Resumed (c.config.trace.length + n + 10) c := by
      refine ⟨⟨_, wp_of_until hpoint.2 (pauseRun_after interrupts_resumed w _), ?_⟩, hflag, hpoint.1⟩
      simp only [Leaving.total, Bool.false_eq_true, if_false]
      omega
    obtain ⟨⟨s, hcode, hbound⟩, hresume, hopen⟩ := hd ▸ hresumed.run after (hd ▸ hleft)
    refine ⟨by omega, fun a ha => ⟨(wp_next hcode ha).2.1, fun hwrite => ?_⟩⟩
    have hleaves := (pauseRun_leaves w (before ++ .toggle who :: after)).resolve_left hleft
    obtain ⟨r, htest⟩ | hend := wp_next hleaves ha hwrite
    · cases r with
      | true => exact htest
      | false => exact absurd (.inl htest) hopen
    · exact absurd (.inr hend) hopen

/-- Up to the first poll that sees the pause or the resume, the test of the stop flags
fails only while no resume is under way. -/
theorem stop_requested_until {p : Place} {s : PauseFlags} {Q : Bool → PauseFlags → Prop}
    (hplace : ¬ p.retried) (hexit : p ≠ .estop_exit) (htrue : ∀ u, Q true u)
    (hfalse : ∀ u, ¬ s.owed → Q false u) : (stop_requested p).wp (paused.until heeded) Q s := by
  refine wp_perform_bind (paused_look (s := s) rfl (by simp)) fun stop t ht => ?_
  refine wp_ite (fun _ => htrue t) fun _ => ?_
  refine ⟨paused_look (s := t) rfl (by simp), fun resume u hu => ?_⟩
  obtain ⟨⟨-, htoggled, hresume, hgap⟩, hunseen⟩ := hu
  cases resume with
  | true => exact absurd ⟨rfl, hplace, hexit⟩ hunseen
  | false =>
    refine hfalse u fun howed => ?_
    obtain h | h := htoggled.owed (ht.1.2.1.owed howed)
    · rw [h] at hresume
      cases hresume
    · rw [hgap h] at hresume
      cases hresume

/-- A wait other than the one for the waste cover to close polls the pause before
anything else. An emergency stop makes it fail instead. -/
theorem wait_motor_operation_polls_pause {α : Type} {mt : Motor} {timeout : Int} {status : MotorStatus}
    {f : Int → Code α} {Q : α → PauseFlags → Prop} {s : PauseFlags}
    (hplace : ¬ (Place.wait_motor_operation mt status).retried)
    (hexit : ∀ u, (f (-1)).wp (paused.until heeded) Q u) :
    ((wait_motor_operation mt timeout status).bind f).wp (paused.until heeded) Q s := by
  refine wp_seq (wp_perform_bind (paused_look (s := s) rfl (by simp)) fun _ t _ => ?_)
  refine wp_perform_bind (paused_look (s := t) rfl (by simp)) fun start _ _ => ?_
  refine wp_repeated (fun _ _ => True) trivial fun _ t _ => ?_
  refine wp_seq (stop_requested_until hplace (by simp) hexit fun u _ => ?_)
  -- the pause loop is entered at most once: a poll that sees the pause ends the obligation
  refine wp_seq (wp_repeated (fun _ _ => True) trivial fun _ u _ => ?_)
  refine wp_perform_bind (paused_look (s := u) rfl (by simp)) fun pause v hv => ?_
  obtain ⟨⟨-, htoggled, hread⟩, hunseen⟩ := hv
  cases pause with
  | true => exact absurd ⟨rfl, hplace, by simp⟩ hunseen
  | false =>
    have howed : v.owed := htoggled.asked.resolve_left (by simp [← hread])
    exact wp_seq (stop_requested_until hplace (by simp) hexit fun _ hnot => absurd howed hnot)

theorem resumed_look {a : Act} {s : Leaving} (hfuel : 0 < s.fuel) (hdrives : a.drives = false)
    (hsets : a.sets = false) : (resumed.until resume_seen).allow a s := by
  refine ⟨hfuel, hdrives, ?_, ?_⟩
  · rintro rfl
    cases hsets
  · rintro v rfl
    cases hsets

/-- The same wait polls a requested resume with its fourth action. -/
theorem wait_motor_operation_polls_resume {α : Type} {mt : Motor} {timeout : Int} {status : MotorStatus}
    {f : Int → Code α} {Q : α → Leaving → Prop} {n : Nat}
    (hplace : ¬ (Place.wait_motor_operation mt status).retried)
    (hexit : (f (-1)).wp (resumed.until resume_seen) Q { fuel := n + 1, seen := false }) :
    ((wait_motor_operation mt timeout status).bind f).wp (resumed.until resume_seen) Q
      { fuel := n + 4, seen := false } := by
  refine wp_seq (wp_perform_bind (resumed_look (Nat.succ_pos _) rfl rfl) fun _ t ht => ?_)
  obtain ⟨⟨-, rfl, -⟩, -⟩ := ht
  refine wp_perform_bind (resumed_look (Nat.succ_pos (n + 2)) rfl rfl) fun start t ht => ?_
  obtain ⟨⟨-, rfl, -⟩, -⟩ := ht
  refine wp_repeated (fun _ t => t = { fuel := n + 2, seen := false }) rfl fun _ t ht => ?_
  subst ht
  refine wp_seq (wp_perform_bind (resumed_look (Nat.succ_pos (n + 1)) rfl rfl) fun stop t ht => ?_)
  obtain ⟨⟨-, rfl, -⟩, -⟩ := ht
  refine wp_ite (fun _ => hexit) fun _ => ⟨resumed_look (Nat.succ_pos n) rfl rfl, fun resume u hu => ?_⟩
  obtain ⟨⟨-, rfl, hread⟩, hunseen⟩ := hu
  refine absurd ⟨hread, ?_, hplace, by simp⟩ hunseen
  have hpoll :
      (Act.read .clean_resume_recovery_requested (.wait_motor_operation mt status)).pollsResume = true := by
    simpa [Act.pollsResume, Place.retried] using hplace
  rw [Leaving.next, hpoll]
  rfl

theorem PausePoint.of_wait {c : PauseConfig} {mt : Motor} {timeout : Int}
    {status : MotorStatus} {f : Int → Code Int}
    (hcode : c.config.code = (wait_motor_operation mt timeout status).bind f)
    (hplace : ¬ (Place.wait_motor_operation mt status).retried)
    (hexit : ∀ u, (f (-1)).wp (paused.until heeded) (fun _ _ => True) u) : PausePoint c := by
  rw [PausePoint, hcode]
  exact wait_motor_operation_polls_pause hplace hexit

theorem ResumePoint.of_wait {c : PauseConfig} {n : Nat} {mt : Motor} {timeout : Int} {status : MotorStatus}
    {f : Int → Code Int} (hopen : ¬ c.config.closing)
    (hcode : c.config.code = (wait_motor_operation mt timeout status).bind f)
    (hplace : ¬ (Place.wait_motor_operation mt status).retried)
    (hexit : (f (-1)).wp (resumed.until resume_seen) (fun _ _ => True) { fuel := n + 1, seen := false }) :
    ResumePoint (n + 4) c := by
  rw [ResumePoint, hcode]
  exact ⟨hopen, wait_motor_operation_polls_resume hplace hexit⟩

/-- `do_clean` in its first wait, where a pause has been set and cleared. -/
private def firstWait : List PauseMove :=
  List.replicate 25 .scenario ++ [.toggle .key_polling_task, .toggle .key_polling_task]

theorem pause_takes_effect_in_first_wait :
    (∀ a, (pauseRun (.boot 0) (firstWait ++ .toggle .key_polling_task ::
      List.replicate 3 .scenario)).config.code.next =
      some a → a.drives = false) ∧
    (pauseRun (.boot 0) (firstWait ++ .toggle .key_polling_task ::
      List.replicate 3 .scenario)).config.trace.length ≤
      (pauseRun (.boot 0) (firstWait ++ [.toggle .key_polling_task])).config.trace.length + 10 + 10 := by
  have hleft : ¬ (pauseRun (.boot 0)
      (firstWait ++ .toggle .key_polling_task :: List.replicate 3 .scenario)).config.left := by
    have htrace : ∀ e ∈ (pauseRun (.boot 0)
        (firstWait ++ .toggle .key_polling_task :: List.replicate 3 .scenario)).config.trace,
        e.1 ≠ .write .clean_running_flag false := by decide
    exact fun ⟨e, he, hwrite⟩ => htrace e he hwrite
  have hcode : (pauseRun (.boot 0) (firstWait ++ [.toggle .key_polling_task])).config.code =
      (wait_motor_operation .MAIN_COVER_MOTOR 20000 .MT_OPEN).bind _ := rfl
  obtain ⟨hpause, hresume⟩ := pause_takes_effect (.boot 0) firstWait _ .key_polling_task hleft
  have hretried : ¬ (Place.wait_motor_operation .MAIN_COVER_MOTOR .MT_OPEN).retried := by simp [Place.retried]
  refine ⟨hpause (.of_wait hcode hretried fun u => ?_) ?_,
    (hresume 10 rfl (.of_wait (n := 6) ?_ hcode hretried ?_)).1⟩
  · -- a failed wait stops the cover and goes to `estop_exit`
    refine ⟨⟨rfl, nofun, nofun⟩, fun _ t _ => ⟨⟨rfl, nofun, nofun⟩, fun _ t _ => ?_⟩⟩
    refine ⟨⟨rfl, nofun, nofun⟩, fun _ t _ => ⟨⟨rfl, nofun, nofun⟩, fun _ t _ => ⟨⟨rfl, nofun, nofun⟩, ?_⟩⟩⟩
    exact fun _ _ h => absurd rfl h.1.1
  · exact ⟨nofun, nofun, nofun, trivial⟩
  · rintro (h | h) <;> cases h
  · refine ⟨⟨Nat.succ_pos 6, rfl, nofun, nofun⟩, fun _ t ht => ?_⟩
    obtain rfl := ht.1.2.1
    refine ⟨⟨Nat.succ_pos 5, rfl, nofun, nofun⟩, fun _ t ht => ?_⟩
    obtain rfl := ht.1.2.1
    refine ⟨⟨Nat.succ_pos 4, rfl, nofun, nofun⟩, fun _ t ht => ?_⟩
    obtain rfl := ht.1.2.1
    refine ⟨⟨Nat.succ_pos 3, rfl, nofun, nofun⟩, fun _ t ht => ?_⟩
    obtain rfl := ht.1.2.1
    exact ⟨⟨Nat.succ_pos 2, rfl, nofun, nofun⟩, fun _ _ h => absurd rfl h.1.1⟩

/-- A pause inside the ramp of `drive_main_cover_soft` is followed by the next FORWARD. -/
theorem pause_ignored_by_ramp :
    ¬ ∀ (w : World) (before after : List PauseMove) (who : Caller),
      (pauseRun w (before ++ [.toggle who])).flags.pause = true →
      ¬ (pauseRun w (before ++ .toggle who :: after)).config.left →
      ∀ a, (pauseRun w (before ++ .toggle who :: after)).config.code.next = some a → a.drives = false := by
  intro h
  have hleft : ¬ (pauseRun (.boot 0)
      (List.replicate 12 .scenario ++ [.toggle .key_polling_task])).config.left := by
    have htrace : ∀ e ∈ (pauseRun (.boot 0)
        (List.replicate 12 .scenario ++ [.toggle .key_polling_task])).config.trace,
        e.1 ≠ .write .clean_running_flag false := by decide
    exact fun ⟨e, he, hwrite⟩ => htrace e he hwrite
  have hdrive := h (.boot 0) (List.replicate 12 .scenario) [] .key_polling_task rfl hleft _ rfl
  exact absurd hdrive (by decide)

end catbox.motor
