import CatLitterBox.Drive.ClosedLoop

open catbox.motor catbox.sensor program program.Program temporal

namespace catbox.drive

/-- What a scenario relies on: the motors of `K` are held at their ends, and those of `L` will not be driven
open. -/
structure Kept (L : List Motor) (K : List (Motor × Bool)) (m : Machine) : Prop where
  sound : m.Sound
  settles : ∀ mt ∈ L, mt ∈ limited
  settling : ∀ mt ∈ L, m.Settling mt false
  limits : ∀ e ∈ K, e.1 ∈ limited
  held : ∀ e ∈ K, m.Held e.1 e.2

/-- The step sends no motor where it should not go. -/
structure Courteous (L : List Motor) (K : List (Motor × Bool)) (a : Act) : Prop where
  settling : ∀ mt ∈ L, a.command mt ≠ some .FORWARD
  held : ∀ e ∈ K, a.command e.1 ≠ some (toward !e.2)

/-- And what it sends is obeyed. -/
structure Gentle (L : List Motor) (K : List (Motor × Bool)) (a : Act) : Prop extends Courteous L K a where
  addressed : addressed a = true

variable {m : Machine} {mt : Motor} {d : Bool} {L : List Motor} {K : List (Motor × Bool)}
  {DEG_TO_STEPS : UInt32 → UInt32}

/-- A step that sends a motor nothing leaves it alone. -/
theorem perform_other {a : Act} (h : a.command mt = none) :
    (m.perform a).2.queue mt = m.queue mt ∧ (m.perform a).2.driving mt = m.driving mt ∧
      (m.perform a).2.pt_value = m.pt_value := by
  have hdriving : (m.perform a).2.driving mt = m.driving mt := congrFun (take_driving m _) mt
  cases a with
  | send other msg =>
    have hne : mt ≠ other := by
      rintro rfl
      rw [Act.command, if_pos rfl] at h
      cases h
    exact ⟨Function.update_of_ne hne _ _, hdriving, rfl⟩
  | _ => exact ⟨rfl, hdriving, rfl⟩

/-- A step that commands a motor sends it one message. -/
theorem perform_command {a : Act} {dir : Direction} (h : a.command mt = some dir) :
    ∃ msg, msg.direction = dir ∧ (m.perform a).2.queue mt = m.queue mt ++ [msg] ∧
      (m.perform a).2.driving mt = m.driving mt ∧ (m.perform a).2.pt_value = m.pt_value := by
  have hdriving : (m.perform a).2.driving mt = m.driving mt := congrFun (take_driving m _) mt
  cases a with
  | send other msg =>
    rw [Act.command] at h
    split_ifs at h with hother
    subst hother
    exact ⟨msg, Option.some.inj h, Function.update_self _ _ _, hdriving, rfl⟩
  | _ => cases h

/-- A motor that is commanded goes where the command says, once its task has taken it. -/
theorem command_bound {a : Act} {dir : Direction} (h : a.command mt = some dir) (m : Machine) :
    (m.perform a).2.bound mt = commandedBy none (some dir) := by
  obtain ⟨msg, hdir, hqueue, -, -⟩ := perform_command (m := m) h
  rw [bound_concat hqueue, hdir]

/-- A motor stays bound for an end as long as it is not sent the other way. -/
theorem Machine.Settling.perform {a : Act} (hm : m.Settling mt d) (ha : a.command mt ≠ some (toward !d)) :
    (m.perform a).2.Settling mt d := by
  unfold Machine.Settling at hm ⊢
  cases hcommand : a.command mt with
  | none =>
    obtain ⟨hqueue, hdriving, -⟩ := perform_other (m := m) hcommand
    rw [bound_same hqueue hdriving]
    exact hm
  | some dir =>
    rw [command_bound hcommand m]
    refine commandedBy_ne nofun fun dir' hdir' => ?_
    obtain rfl := Option.some.inj hdir'
    rintro rfl
    exact ha hcommand

/-- And a motor that is held there stays held. -/
theorem Machine.Held.perform {a : Act} (hm : m.Held mt d) (ha : a.command mt ≠ some (toward !d)) :
    (m.perform a).2.Held mt d := by
  cases hcommand : a.command mt with
  | none =>
    obtain ⟨hqueue, hdriving, hword⟩ := perform_other (m := m) hcommand
    refine ⟨?_, ?_, ?_⟩
    · rw [hword]
      exact hm.position
    · rw [hqueue]
      exact hm.waiting
    · rw [hdriving]
      exact hm.driving
  | some dir =>
    obtain ⟨msg, hdir, hqueue, hdriving, hword⟩ := perform_command (m := m) hcommand
    refine ⟨?_, ?_, ?_⟩
    · rw [hword]
      exact hm.position
    · rw [hqueue]
      intro y hy
      obtain hy | hy := List.mem_append.mp hy
      · exact hm.waiting y hy
      · rw [List.mem_singleton.mp hy, hdir]
        rintro rfl
        exact ha hcommand
    · rw [hdriving]
      exact hm.driving

/-- What sends a motor toward its end, or nothing, keeps it going there. -/
theorem Machine.Going.perform {a : Act} (hm : m.Going mt d)
    (ha : a.command mt = none ∨ a.command mt = some (toward d)) : (m.perform a).2.Going mt d := by
  obtain hcommand | hcommand := ha
  · obtain ⟨hqueue, hdriving, hword⟩ := perform_other (m := m) hcommand
    obtain hbound | hrests := hm
    · exact .inl ((bound_same hqueue hdriving).trans hbound)
    · refine .inr ⟨?_, ?_, hdriving.trans hrests.driving⟩
      · rw [hword]
        exact hrests.position
      · rw [hqueue]
        exact hrests.waiting
  · left
    rw [command_bound hcommand m]
    cases d with
    | _ => rfl

/-- A command toward an end sets a motor going. -/
theorem going_of_command {a : Act} (ha : a.command mt = some (toward d)) (m : Machine) :
    (m.perform a).2.Going mt d := by
  left
  rw [command_bound ha m]
  cases d with
  | _ => rfl

/-- What the mechanics do keeps what a scenario relies on. -/
theorem Kept.happen {e : Happening} (hm : Kept L K m) (he : e.mechanical m) :
    Kept L K (m.apply DEG_TO_STEPS e) where
  sound := happening_sound hm.sound fun _ _ hcommand => by
    subst hcommand
    exact he.1.2
  settles := hm.settles
  settling mt hmt := (hm.settling mt hmt).happen hm.sound (hm.settles mt hmt) he
  limits := hm.limits
  held x hx := (hm.held x hx).happen hm.sound (hm.limits x hx) he

/-- So does a step of the scenario that sends no motor where it should not go. -/
theorem Kept.perform {a : Act} (hm : Kept L K m) (ha : Gentle L K a) : Kept L K (m.perform a).2 where
  sound := perform_sound hm.sound ha.addressed
  settles := hm.settles
  settling mt hmt := (hm.settling mt hmt).perform (ha.settling mt hmt)
  limits := hm.limits
  held x hx := (hm.held x hx).perform (ha.held x hx)

/-- So does all that happens between two of its steps. -/
theorem Kept.changes {s t : Machine}
    (hst : Changes (Machine.apply DEG_TO_STEPS) (fun m e => e.mechanical m) s t) (hs : Kept L K s) :
    Kept L K t :=
  hst.keep (fun _ _ he hm => hm.happen he) hs

theorem keeps_kept {a : Act} (ha : Gentle L K a) : (loop DEG_TO_STEPS).Keeps (Kept L K) a :=
  keeps_rely (fun _ _ hst hs => hs.changes hst) fun _ _ hm => hm.perform ha

variable {α : Type} {s : Machine} {Q : α → Machine → Prop}

/-- A step that commands no motor is courteous. -/
theorem courteous_of_none {a : Act} (h : ∀ mt, a.command mt = none) : Courteous L K a where
  settling mt _ := by simp [h mt]
  held e _ := by simp [h e.1]

/-- A message is courteous if it opens no motor of `L` and takes none of `K` from its end. -/
theorem courteous_send {msg : Message} (hL : mt ∈ L → msg.direction ≠ .FORWARD)
    (hK : ∀ d, (mt, d) ∈ K → msg.direction ≠ toward !d) : Courteous L K (.send mt msg) where
  settling other hother hcommand := by
    rw [Act.command] at hcommand
    split_ifs at hcommand with heq
    subst heq
    exact hL hother (Option.some.inj hcommand)
  held e he hcommand := by
    rw [Act.command] at hcommand
    split_ifs at hcommand with heq
    subst heq
    exact hK e.2 he (Option.some.inj hcommand)

/-- A STOP is always courteous. -/
theorem courteous_stop {msg : Message} (h : msg.direction = .STOP) : Courteous L K (.send mt msg) := by
  refine courteous_send (fun _ => by simp [h]) fun d _ => ?_
  rw [h]
  cases d with
  | _ => exact nofun

/-- A step that commands no motor is gentle, too. -/
theorem gentle_of_none {a : Act} (h : ∀ mt, a.command mt = none) (haddressed : addressed a = true) :
    Gentle L K a := ⟨courteous_of_none h, haddressed⟩

/-- A wait commands no motor. -/
theorem observes_gentle : Observes (Gentle L K) :=
  { pt := fun _ => gentle_of_none (fun _ => rfl) rfl, run := fun _ _ => gentle_of_none (fun _ => rfl) rfl
    time := gentle_of_none (fun _ => rfl) rfl, delay := fun _ => gentle_of_none (fun _ => rfl) rfl
    read := fun _ _ => gentle_of_none (fun _ => rfl) rfl }

/-- Code that is courteous at every step and obeyed at every message is gentle throughout. -/
theorem gentle_every {c : Code α} (haddresses : Addresses c) (hc : c.Every (Courteous L K)) :
    c.Every (Gentle L K) :=
  every_mono (fun _ h => ⟨h.2, h.1⟩) (every_and haddresses hc)

/-- A part that is courteous leaves everything as it is kept. -/
theorem wp_kept {c : Code α} (hc : c.Every (Gentle L K)) (hs : Kept L K s)
    (hQ : ∀ x t, Kept L K t → Q x t) : c.wp (loop DEG_TO_STEPS) Q s :=
  wp_of_keeps (every_mono (fun _ => keeps_kept) hc) hs hQ

/-- A part that nothing is kept through need only send what is obeyed. -/
theorem wp_addressed {c : Code α} (hc : Addresses c) (hs : Kept [] [] s) (hQ : ∀ x t, Kept [] [] t → Q x t) :
    c.wp (loop DEG_TO_STEPS) Q s :=
  wp_kept (gentle_every hc (every_mono (fun _ _ => ⟨nofun, nofun⟩) (every_true c))) hs hQ

/-- One gentle step keeps what the rest relies on: the way by which the proofs go through code. -/
theorem wp_kept_bind {a : Act} {f : a.Answer → Code α} (ha : Gentle L K a) (hs : Kept L K s)
    (hf : ∀ r t, Kept L K t → (f r).wp (loop DEG_TO_STEPS) Q t) : (a.code.bind f).wp (loop DEG_TO_STEPS) Q s :=
  wp_perform_bind trivial fun r t htrans => hf r t ((keeps_kept ha s hs).2 r t htrans)

/-- What is kept while a motor goes to an end. -/
def Travels (L : List Motor) (K : List (Motor × Bool)) (mt : Motor) (d : Bool) (m : Machine) : Prop :=
  Kept L K m ∧ m.Going mt d

/-- A motor on its way to an end gets on, or has arrived, whatever the mechanics do. -/
theorem Travels.changes {s t : Machine} (hmt : mt ∈ limited)
    (hst : Changes (Machine.apply DEG_TO_STEPS) (fun m e => e.mechanical m) s t) (hs : Travels L K mt d s) :
    Travels L K mt d t :=
  hst.keep (fun _ _ he hm => ⟨hm.1.happen he, hm.2.happen hm.1.sound hmt he⟩) hs

theorem keeps_travels {a : Act} (hmt : mt ∈ limited) (ha : Gentle L K a)
    (hcommand : a.command mt = none ∨ a.command mt = some (toward d)) :
    (loop DEG_TO_STEPS).Keeps (Travels L K mt d) a :=
  keeps_rely (fun _ _ hst hs => hs.changes hmt hst) fun _ _ hm => ⟨hm.1.perform ha, hm.2.perform hcommand⟩

/-- A command toward an end sets a motor going, and keeps the rest. -/
theorem wp_sets_going {a : Act} {f : a.Answer → Code α} (ha : Gentle L K a)
    (hcommand : a.command mt = some (toward d)) (hs : Kept L K s)
    (hf : ∀ r t, Travels L K mt d t → (f r).wp (loop DEG_TO_STEPS) Q t) :
    (a.code.bind f).wp (loop DEG_TO_STEPS) Q s := by
  apply wp_perform_bind trivial
  rintro r t ⟨u, hsu, -, hanswer⟩
  have ht : (u.perform a).2 = t := congrArg Prod.snd hanswer
  exact hf r t ⟨ht ▸ (hs.changes hsu).perform ha, ht ▸ going_of_command hcommand u⟩

/-- One step that does not send the motor back, while it is on its way. -/
theorem wp_travels_bind {a : Act} {f : a.Answer → Code α} (hmt : mt ∈ limited) (ha : Gentle L K a)
    (hcommand : a.command mt = none ∨ a.command mt = some (toward d)) (hs : Travels L K mt d s)
    (hf : ∀ r t, Travels L K mt d t → (f r).wp (loop DEG_TO_STEPS) Q t) :
    (a.code.bind f).wp (loop DEG_TO_STEPS) Q s :=
  wp_perform_bind trivial fun r t htrans => hf r t ((keeps_travels hmt ha hcommand s hs).2 r t htrans)

theorem at_target_awaited {word : PtWord} (h : at_target (awaited d) (pt_check_word mt word) = true) :
    AtLimit mt word d := by
  cases d with
  | _ => simpa [at_target, awaited, AtLimit] using h

/-- A motor that is seen at the end that it goes to is held there. -/
theorem Travels.arrive (hmt : mt ∈ limited) (h : Travels L K mt d m) (hqueue : m.queue mt = [])
    (hend : AtLimit mt m.pt_value d) : Kept L ((mt, d) :: K) m where
  sound := h.1.sound
  settles := h.1.settles
  settling := h.1.settling
  limits := List.forall_mem_cons.mpr ⟨hmt, h.1.limits⟩
  held := by
    refine List.forall_mem_cons.mpr ⟨⟨hend, fun msg hmsg => ?_, ?_⟩, h.1.held⟩
    · rw [hqueue] at hmsg
      exact absurd hmsg List.not_mem_nil
    · obtain hbound | hrests := h.2
      · rw [← bound_nil hqueue, hbound]
        cases d with
        | _ => exact nofun
      · rw [hrests.driving]
        exact nofun

/-- A motor that stands still on its way has arrived. -/
theorem Travels.still (h : Travels L K mt d m) (hqueue : m.queue mt = []) (hrun : m.get_motor_run mt = false) :
    AtLimit mt m.pt_value d := by
  have hdriving : m.driving mt = none := by
    rw [driving_eq h.1.sound.consistent, hrun]
    rfl
  obtain hbound | hrests := h.2
  · rw [bound_nil hqueue, hdriving] at hbound
    cases hbound
  · exact hrests.position

/-- A wait for the end that a motor goes to succeeds only where the motor has got there. -/
theorem wait_arrives {timeout : Int} {Q : Int → Machine → Prop} (hmt : mt ∈ limited) (hs : Travels L K mt d s)
    (hfail : ∀ t, Kept L K t → Q (-1) t) (hok : ∀ t, Kept L ((mt, d) :: K) t → Q 0 t) :
    (wait_motor_operation mt timeout (awaited d)).wp (loop DEG_TO_STEPS) Q s := by
  have htravels : Observes ((loop DEG_TO_STEPS).Keeps (Travels L K mt d)) :=
    { pt := fun _ => keeps_travels hmt (observes_gentle.pt _) (.inl rfl)
      run := fun _ _ => keeps_travels hmt (observes_gentle.run _ _) (.inl rfl)
      time := keeps_travels hmt observes_gentle.time (.inl rfl)
      delay := fun _ => keeps_travels hmt (observes_gentle.delay _) (.inl rfl)
      read := fun _ _ => keeps_travels hmt (observes_gentle.read _ _) (.inl rfl) }
  have hkept : Observes ((loop DEG_TO_STEPS).Keeps (Kept L ((mt, d) :: K))) :=
    { pt := fun _ => keeps_kept (observes_gentle.pt _), run := fun _ _ => keeps_kept (observes_gentle.run _ _)
      time := keeps_kept observes_gentle.time, delay := fun _ => keeps_kept (observes_gentle.delay _)
      read := fun _ _ => keeps_kept (observes_gentle.read _ _) }
  refine wp_wait_reached htravels hkept ?_ ?_ hs (fun t ht => hfail t ht.1) hok
  · rintro u word t hu ⟨v, huv, hprompt, hanswer⟩ htarget
    obtain ⟨rfl, rfl⟩ := Prod.mk.inj hanswer
    have harrived := (hu.changes hmt huv).arrive hmt (hprompt.1 mt rfl) (at_target_awaited htarget)
    exact harrived.perform (observes_gentle.pt _)
  · rintro u t hu ⟨v, huv, hprompt, hanswer⟩
    obtain ⟨hstill, rfl⟩ := Prod.mk.inj hanswer
    have hv := hu.changes hmt huv
    exact (hv.arrive hmt (hprompt rfl) (hv.still (hprompt rfl) hstill)).perform (observes_gentle.run _ _)

/-- The same within a sequence whose failure ends it. -/
theorem wp_arrives {timeout : Int} {c e : Code α} (hmt : mt ∈ limited) (hs : Travels L K mt d s)
    (hfail : ∀ t, Kept L K t → c.wp (loop DEG_TO_STEPS) Q t)
    (hok : ∀ t, Kept L ((mt, d) :: K) t → e.wp (loop DEG_TO_STEPS) Q t) :
    ((wait_motor_operation mt timeout (awaited d)).bind fun ret => if ret != 0 then c else e).wp
      (loop DEG_TO_STEPS) Q s :=
  wp_seq (wait_arrives hmt hs hfail hok)

end catbox.drive
