import CatLitterBox.Motor.Pause.Paused
import CatLitterBox.Motor.Pause.Resumed

open catbox.sensor program program.Program

namespace catbox.motor

/-- The tasks that call `toggle_clean_pause`. -/
inductive Caller where
  | key_polling_task
  | uart_process
deriving DecidableEq, Repr

/-- A running `do_clean`, and the callers of `toggle_clean_pause` that have cleared the
pause and not yet requested the resume. -/
structure PauseConfig where
  config : Config
  resuming : Caller → Bool

/-- The next step of `toggle_clean_pause` in the task `who`. -/
def PauseConfig.toggle (c : PauseConfig) (who : Caller) : PauseConfig :=
  let w := c.config.world
  if c.resuming who then
    { config := { c.config with world := w.setFlag .clean_resume_recovery_requested true }
      resuming := Function.update c.resuming who false }
  else if w.flag .clean_pause_flag then
    { config := { c.config with world := w.setFlag .clean_pause_flag false }
      resuming := Function.update c.resuming who true }
  else
    { config := { c.config with world := toggle_clean_pause.finish Act.perform w }
      resuming := c.resuming }

/-- What may happen while `do_clean` runs: a step of it, a step of `toggle_clean_pause`
in one of its callers, or a change of the sensors, the clock and the motor tasks. -/
inductive PauseMove where
  | scenario
  | toggle (who : Caller)
  | sense (s : Sense)

def PauseMove.apply (c : PauseConfig) : PauseMove → PauseConfig
  | .scenario => { c with config := c.config.step }
  | .toggle who => c.toggle who
  | .sense s => { c with config := { c.config with world := s.apply c.config.world } }

/-- `do_clean` after the moves, from its start in the state `w`. -/
def pauseRun (w : World) (moves : List PauseMove) : PauseConfig :=
  moves.foldl PauseMove.apply { config := Scenario.do_clean.start w, resuming := fun _ => false }

def PauseConfig.flags (c : PauseConfig) : PauseFlags where
  pause := c.config.world.flag .clean_pause_flag
  resume := c.config.world.flag .clean_resume_recovery_requested
  resuming := c.resuming .key_polling_task || c.resuming .uart_process

/-- `do_clean` has left its normal sequence: it has cleared `clean_running_flag`. -/
def Config.left (c : Config) : Prop := ∃ e ∈ c.trace, e.1 = .write .clean_running_flag false

/-- A point at which a pause takes effect: on every path `do_clean` polls the pause or the
resume, in a wait that fails on it, before it next drives a motor. -/
def PausePoint (c : PauseConfig) : Prop := c.config.code.wp (paused.until heeded) (fun _ _ => True) c.flags

/-- `do_clean` has made its last test of the resume request, or has started its normal end. -/
def Config.closing (c : Config) : Prop :=
  c.trace.head? = some ⟨.read .clean_resume_recovery_requested .estop_exit, false⟩ ∨
    c.trace.head? = some ⟨.set_tof_sensor_enable false, ()⟩

/-- A point at which a resume takes effect: on every path `do_clean` polls the resume,
within `n` actions and before it next drives a motor or starts its normal end. -/
def ResumePoint (n : Nat) (c : PauseConfig) : Prop :=
  ¬ c.config.closing ∧
    c.config.code.wp (resumed.until resume_seen) (fun _ _ => True) { fuel := n, seen := false }

/-- No poll of the resume request falls between the two steps of a resume. -/
def Unsplit : PauseConfig → List PauseMove → Prop
  | _, [] => True
  | c, m :: moves =>
    (∀ p, m = .scenario → c.config.code.next = some (.read .clean_resume_recovery_requested p) →
      c.flags.resuming = true → c.flags.resume = true) ∧ Unsplit (m.apply c) moves

/-- What holds of `do_clean` from an effective pause until it leaves the normal sequence. -/
def Paused (c : PauseConfig) : Prop :=
  ∃ s, c.config.code.wp paused (fun _ _ => True) s ∧ s.Toggled c.flags

/-- To do nothing is a way to toggle. -/
theorem PauseFlags.Toggled.refl {s : PauseFlags} (h : s.asked) : s.Toggled s where
  asked := h
  resume := id
  resuming := .inr

/-- What several callers do one after the other could have been done by one. -/
theorem PauseFlags.Toggled.trans {s t u : PauseFlags} (hst : s.Toggled t) (htu : t.Toggled u) :
    s.Toggled u where
  asked := htu.asked
  resume h := htu.resume (hst.resume h)
  resuming h := htu.owed (hst.resuming h)

/-- A caller of `toggle_clean_pause` changes the shared state only. -/
theorem PauseConfig.toggle_config (c : PauseConfig) (who : Caller) :
    (c.toggle who).config.code = c.config.code ∧ (c.toggle who).config.trace = c.config.trace := by
  by_cases hwho : c.resuming who = true
  · simp [toggle, hwho]
  · by_cases hpause : c.config.world.flag .clean_pause_flag = true
    · simp [toggle, hwho, hpause]
    · simp [toggle, hwho, hpause]

/-- A step of a caller of `toggle_clean_pause` is one that the pause foresees. -/
theorem PauseConfig.toggle_toggled (c : PauseConfig) (who : Caller) :
    c.flags.Toggled (c.toggle who).flags := by
  by_cases hwho : c.resuming who = true
  · have hresume : (c.toggle who).flags.resume = true := by simp [toggle, hwho, flags]
    exact ⟨.inr (.inl hresume), fun _ => hresume, fun _ => .inl hresume⟩
  have hresuming (f : Caller → Bool) (h : ∀ caller, c.resuming caller = true → f caller = true) :
      c.flags.resuming = true → (f .key_polling_task || f .uart_process) = true := by
    simp only [flags, Bool.or_eq_true]
    exact Or.imp (h _) (h _)
  by_cases hpause : c.config.world.flag .clean_pause_flag = true
  · have hclear : (c.toggle who).flags = { pause := false, resume := c.flags.resume, resuming := true } := by
      cases who with
      | key_polling_task => simp [toggle, hwho, hpause, flags]
      | uart_process => simp [toggle, hwho, hpause, flags]
    rw [hclear]
    exact ⟨.inr (.inr rfl), id, fun _ => .inr rfl⟩
  · have hset : (c.toggle who).flags = { c.flags with pause := true } := by
      simp [toggle, hwho, hpause, flags, toggle_clean_pause, pause_all_motors, finish,
        Act.perform, World.enqueue]
    rw [hset]
    exact ⟨.inl rfl, id, fun h => .inr h⟩

/-- A step puts its action and the answer in front of the trace. -/
theorem Config.step_trace_of_next {c : Config} {a : Act} (h : c.code.next = some a) :
    c.step.trace = ⟨a, (a.perform c.world).1⟩ :: c.trace := by
  simp [step, event, h]

/-- An action that neither clears the pause nor touches the resume keeps what was asked. -/
theorem PauseConfig.flags_perform {c d : PauseConfig} {a : Act} (h : c.flags.asked)
    (hworld : d.config.world = (a.perform c.config.world).2) (hresuming : d.resuming = c.resuming)
    (hpause : a ≠ .write .clean_pause_flag false)
    (hresume : ∀ v, a ≠ .write .clean_resume_recovery_requested v) : c.flags.Toggled d.flags := by
  have hflag (f : Flag) : d.config.world.flag f = (a.perform c.config.world).2.flag f := by rw [hworld]
  have hkept : d.flags.resume = c.flags.resume := (hflag _).trans (Act.perform_flag hresume)
  have hcallers : d.flags.resuming = c.flags.resuming := by simp only [flags, hresuming]
  refine ⟨?_, fun hc => hkept.trans hc, fun hc => .inr (hcallers.trans hc)⟩
  obtain hasked | hasked | hasked := h
  · refine .inl ?_
    by_cases hwrite : a = .write .clean_pause_flag true
    · subst hwrite
      exact (hflag _).trans (World.setFlag_flag_self ..)
    · refine (hflag _).trans ((Act.perform_flag ?_).trans hasked)
      rintro (_ | _)
      · exact hpause
      · exact hwrite
  · exact .inr (.inl (hkept.trans hasked))
  · exact .inr (.inr (hcallers.trans hasked))

/-- A step of a paused clean leaves it paused, unless it polls in the middle of a resume. -/
theorem Paused.scenario {c : PauseConfig} (h : Paused c)
    (hgap : ∀ p, c.config.code.next = some (.read .clean_resume_recovery_requested p) →
      c.flags.resuming = true → c.flags.resume = true)
    (hleft : ¬ c.config.step.left) : Paused (PauseMove.scenario.apply c) := by
  obtain ⟨s, hcode, htoggled⟩ := h
  cases hnext : c.config.code.next with
  | none =>
    have hworld : c.config.step.world = c.config.world := advance_of_none hnext
    have hflags : (PauseMove.scenario.apply c).flags = c.flags := by
      simp [PauseMove.apply, PauseConfig.flags, hworld]
    refine ⟨s, wp_advance hcode ?_ fun _ => rfl, hflags ▸ htoggled⟩
    simp [hnext]
  | some a =>
    obtain ⟨_, hpause, hresume⟩ := wp_next hcode hnext
    have hworld : c.config.step.world = (a.perform c.config.world).2 := advance_of_next hnext
    have hrunning : a ≠ .write .clean_running_flag false := by
      intro ha
      refine hleft ⟨⟨a, (a.perform c.config.world).1⟩, ?_, ha⟩
      rw [Config.step_trace_of_next hnext]
      exact List.mem_cons_self
    have hkeep : c.flags.Toggled (PauseMove.scenario.apply c).flags :=
      PauseConfig.flags_perform htoggled.asked hworld rfl hpause hresume
    refine ⟨_, wp_advance hcode (t := (PauseMove.scenario.apply c).flags) ?_
      (by simp [hnext]), .refl hkeep.asked⟩
    intro a' ha'
    obtain rfl : a = a' := Option.some.inj (hnext.symm.trans ha')
    refine ⟨hrunning, htoggled.trans hkeep, ?_⟩
    cases a with
    | read f p =>
      have hsame : (PauseMove.scenario.apply c).flags = c.flags := by
        simp only [PauseConfig.flags, PauseMove.apply, hworld]
        rfl
      rw [hsame]
      cases f with
      | clean_pause_flag => rfl
      | clean_resume_recovery_requested => exact ⟨rfl, hgap p hnext⟩
      | _ => trivial
    | _ => trivial

/-- What the sensors show is no matter to the flags. -/
theorem Sense.apply_flag (s : Sense) (w : World) : (s.apply w).flag = w.flag := by
  cases s <;> rfl

/-- No move ends a pause in a forbidden way, unless it polls in the middle of a resume. -/
theorem Paused.move {c : PauseConfig} (h : Paused c) (m : PauseMove)
    (hgap : ∀ p, m = .scenario → c.config.code.next = some (.read .clean_resume_recovery_requested p) →
      c.flags.resuming = true → c.flags.resume = true)
    (hleft : ¬ (m.apply c).config.left) : Paused (m.apply c) := by
  cases m with
  | scenario => exact h.scenario (fun p => hgap p rfl) hleft
  | toggle who =>
    obtain ⟨s, hcode, htoggled⟩ := h
    refine ⟨s, ?_, htoggled.trans (c.toggle_toggled who)⟩
    rw [PauseMove.apply, (c.toggle_config who).1]
    exact hcode
  | sense e =>
    obtain ⟨s, hcode, htoggled⟩ := h
    refine ⟨s, hcode, ?_⟩
    have hflags : (PauseMove.apply c (.sense e)).flags = c.flags := by
      simp only [PauseConfig.flags, PauseMove.apply, Sense.apply_flag]
    exact hflags ▸ htoggled

/-- Having left the normal sequence is kept by every move. -/
theorem PauseMove.apply_left {c : PauseConfig} (m : PauseMove) (h : c.config.left) :
    (m.apply c).config.left := by
  obtain ⟨e, he, hwrite⟩ := h
  cases m with
  | scenario => exact ⟨e, List.mem_append_right _ he, hwrite⟩
  | toggle who => exact ⟨e, (c.toggle_config who).2 ▸ he, hwrite⟩
  | sense s => exact ⟨e, he, hwrite⟩

/-- So a pause lasts for every run without such a poll. -/
theorem Paused.run {c : PauseConfig} (h : Paused c) (moves : List PauseMove) (hgap : Unsplit c moves)
    (hleft : ¬ (moves.foldl PauseMove.apply c).config.left) : Paused (moves.foldl PauseMove.apply c) := by
  induction moves generalizing c with
  | nil => exact h
  | cons m moves ih =>
    have hfirst : ¬ (m.apply c).config.left := fun hm =>
      hleft (List.foldlRecOn (motive := fun d => d.config.left) moves PauseMove.apply hm
        fun _ hd m' _ => m'.apply_left hd)
    exact ih (h.move m hgap.1 hfirst) hgap.2 hleft

end catbox.motor
