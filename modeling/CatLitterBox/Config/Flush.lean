import CatLitterBox.Config.Load
import CatLitterBox.Memory.WriteBack

open writeback temporal

namespace catbox.nvs

def ConfigObject.size : ConfigObject → Nat
  | .app => sizeof_app_config_t
  | .wifi => sizeof_app_wifi_config_t
  | .ble => sizeof_app_ble_config_t
  | .motor => 4

/-- Where `flash_task` is: at the test of a flag, about to clear it, in the write of the object, with the
next byte that it takes from memory, and in its delay. The motor time is passed by value, which takes its
bytes at once. -/
inductive FlashPc where
  | test (o : ConfigObject)
  | clear (o : ConfigObject)
  | write (o : ConfigObject) (n : Nat)
  | delay
deriving DecidableEq

/-- What the loop does after an object. -/
def ConfigObject.next : ConfigObject → FlashPc
  | .app => .test .wifi
  | .wifi => .test .ble
  | .ble => .test .motor
  | .motor => .delay

/-- The objects, their save flags and their entries in the NVS, whose writes succeed. -/
structure Saving where
  object : ConfigObject → Nat → UInt8
  save_flag : ConfigObject → Bool
  entry : ConfigObject → Nat → UInt8
  pc : FlashPc

/-- After boot, with the objects as they have been loaded. -/
def Saving.boot (objects : ConfigObject → Nat → UInt8) : Saving :=
  ⟨objects, fun _ => false, objects, .test .app⟩

/-- One step of `flash_task`. -/
def Saving.flash_task (s : Saving) : Saving :=
  match s.pc with
  | .test o => { s with pc := if s.save_flag o then .clear o else o.next }
  | .clear o => { s with save_flag := Function.update s.save_flag o false, pc := .write o 0 }
  | .write o n =>
    if n < o.size then
      { s with
        entry := Function.update s.entry o (Function.update (s.entry o) n (s.object o n))
        pc := .write o (n + 1) }
    else { s with pc := o.next }
  | .delay => { s with pc := .test .app }

/-- A task changes a byte of an object, or calls its `save_set`, or `flash_task` takes a step. -/
inductive SaveMove where
  | change (o : ConfigObject) (offset : Nat) (byte : UInt8)
  | nvs_save_set (o : ConfigObject)
  | flash_task
deriving DecidableEq

def Saving.apply (s : Saving) : SaveMove → Saving
  | .change o offset byte =>
    { s with object := Function.update s.object o (Function.update (s.object o) offset byte) }
  | .nvs_save_set o => { s with save_flag := Function.update s.save_flag o true }
  | .flash_task => s.flash_task

def Saving.run (s : Saving) (moves : List SaveMove) : Saving := moves.foldl Saving.apply s

/-- The next byte that is written of the object, while `flash_task` is in its write. -/
def Saving.copying (s : Saving) (o : ConfigObject) : Option Nat :=
  match s.pc with
  | .write p n => if p = o then some n else none
  | _ => none

/-- An object with its entry. -/
def Saving.cached (s : Saving) (o : ConfigObject) : Cached UInt8 where
  memory := s.object o
  store := s.entry o
  requested := s.save_flag o
  copying := s.copying o

/-- What a move is for an object. -/
def Saving.event (s : Saving) (o : ConfigObject) : SaveMove → Event UInt8
  | .change p offset byte => if p = o then .change offset byte else .other
  | .nvs_save_set p => if p = o then .request else .other
  | .flash_task =>
    match s.pc with
    | .clear p => if p = o then .start else .other
    | .write p n => if p = o then if n < o.size then .copy else .finish else .other
    | _ => .other

def Saving.events (s : Saving) (o : ConfigObject) : List SaveMove → List (Event UInt8)
  | [] => []
  | m :: moves => s.event o m :: (s.apply m).events o moves

variable {s : Saving} {o p : ConfigObject} {m : SaveMove}

/-- Nothing is being copied outside the write of the object. -/
theorem copying_eq_none (h : ∀ n, s.pc ≠ .write o n) : s.copying o = none := by
  unfold Saving.copying
  cases hpc : s.pc with
  | write p n =>
    refine if_neg ?_
    rintro rfl
    exact h n hpc
  | _ => rfl

theorem ConfigObject.next_copying (s : Saving) (p o : ConfigObject) :
    Saving.copying { s with pc := p.next } o = none := by
  refine copying_eq_none fun n => ?_
  cases p with
  | _ => exact FlashPc.noConfusion

/-- What is nothing for an object leaves it alone. -/
theorem cached_eq {s' : Saving} (hobject : s'.object o = s.object o) (hentry : s'.entry o = s.entry o)
    (hflag : s'.save_flag o = s.save_flag o) (hcopying : s'.copying o = s.copying o) :
    s'.cached o = s.cached o := by
  unfold Saving.cached
  rw [hobject, hentry, hflag, hcopying]

theorem cached_test (hpc : s.pc = .test p) : s.flash_task.cached o = (s.cached o).apply (s.event o .flash_task) := by
  have hstep : s.flash_task = { s with pc := if s.save_flag p then .clear p else p.next } := by
    simp [Saving.flash_task, hpc]
  have hevent : s.event o .flash_task = .other := by simp [Saving.event, hpc]
  have hbefore : s.copying o = none := by simp [Saving.copying, hpc]
  have hafter : s.flash_task.copying o = none := by
    rw [hstep]
    split_ifs
    · rfl
    · exact p.next_copying s o
  rw [hevent]
  exact cached_eq (by rw [hstep]) (by rw [hstep]) (by rw [hstep]) (hafter.trans hbefore.symm)

/-- The clear of the flag starts the write of its object. -/
theorem cached_clear (hpc : s.pc = .clear p) :
    s.flash_task.cached o = (s.cached o).apply (s.event o .flash_task) := by
  have hstep : s.flash_task = { s with
      save_flag := Function.update s.save_flag p false
      pc := .write p 0 } := by
    simp [Saving.flash_task, hpc]
  rw [hstep]
  obtain rfl | hne := eq_or_ne p o
  · have hevent : s.event p .flash_task = .start := by simp [Saving.event, hpc]
    rw [hevent]
    simp [Saving.cached, Saving.copying, Cached.apply]
  · have hevent : s.event o .flash_task = .other := by simp [Saving.event, hpc, hne]
    have hbefore : s.copying o = none := by simp [Saving.copying, hpc]
    rw [hevent]
    exact cached_eq rfl rfl (Function.update_of_ne hne.symm ..) ((if_neg hne).trans hbefore.symm)

/-- A byte of the write is a copy for its object. -/
theorem cached_write {n : Nat} (hpc : s.pc = .write p n) (hmore : n < p.size) :
    s.flash_task.cached o = (s.cached o).apply (s.event o .flash_task) := by
  have hstep : s.flash_task = { s with
      entry := Function.update s.entry p (Function.update (s.entry p) n (s.object p n))
      pc := .write p (n + 1) } := by
    simp [Saving.flash_task, hpc, hmore]
  rw [hstep]
  obtain rfl | hne := eq_or_ne p o
  · have hevent : s.event p .flash_task = .copy := by simp [Saving.event, hpc, hmore]
    rw [hevent]
    simp [Saving.cached, Saving.copying, Cached.apply, hpc]
  · have hevent : s.event o .flash_task = .other := by simp [Saving.event, hpc, hne]
    have hbefore : s.copying o = none := by simp [Saving.copying, hpc, hne]
    rw [hevent]
    exact cached_eq rfl (Function.update_of_ne hne.symm ..) rfl ((if_neg hne).trans hbefore.symm)

/-- Behind the last byte the write of the object ends. -/
theorem cached_written {n : Nat} (hpc : s.pc = .write p n) (hdone : ¬ n < p.size) :
    s.flash_task.cached o = (s.cached o).apply (s.event o .flash_task) := by
  have hstep : s.flash_task = { s with pc := p.next } := by simp [Saving.flash_task, hpc, hdone]
  have hafter : Saving.copying { s with pc := p.next } o = none := p.next_copying s o
  rw [hstep]
  obtain rfl | hne := eq_or_ne p o
  · have hevent : s.event p .flash_task = .finish := by simp [Saving.event, hpc, hdone]
    rw [hevent]
    simp [Saving.cached, Cached.apply, hafter]
  · have hevent : s.event o .flash_task = .other := by simp [Saving.event, hpc, hne]
    have hbefore : s.copying o = none := by simp [Saving.copying, hpc, hne]
    rw [hevent]
    exact cached_eq rfl rfl rfl (hafter.trans hbefore.symm)

/-- A move does to each object what its event says. -/
theorem cached_apply (s : Saving) (o : ConfigObject) (m : SaveMove) :
    (s.apply m).cached o = (s.cached o).apply (s.event o m) := by
  cases m with
  | change p offset byte =>
    obtain rfl | hne := eq_or_ne p o
    · simp [Saving.apply, Saving.cached, Saving.event, Cached.apply, Saving.copying]
    · have hevent : s.event o (.change p offset byte) = .other := if_neg hne
      rw [hevent]
      exact cached_eq (Function.update_of_ne hne.symm ..) rfl rfl rfl
  | nvs_save_set p =>
    obtain rfl | hne := eq_or_ne p o
    · simp [Saving.apply, Saving.cached, Saving.event, Cached.apply, Saving.copying]
    · have hevent : s.event o (.nvs_save_set p) = .other := if_neg hne
      rw [hevent]
      exact cached_eq rfl rfl (Function.update_of_ne hne.symm ..) rfl
  | flash_task =>
    change s.flash_task.cached o = _
    cases hpc : s.pc with
    | test p => exact cached_test hpc
    | clear p => exact cached_clear hpc
    | write p n =>
      by_cases hmore : n < p.size
      · exact cached_write hpc hmore
      · exact cached_written hpc hmore
    | delay =>
      have hstep : s.flash_task = { s with pc := .test .app } := by simp [Saving.flash_task, hpc]
      have hevent : s.event o .flash_task = .other := by simp [Saving.event, hpc]
      have hbefore : s.copying o = none := by simp [Saving.copying, hpc]
      rw [hstep, hevent]
      exact cached_eq rfl rfl rfl hbefore.symm

/-- `flash_task` ends the write of an object behind its last byte. -/
theorem event_allowed (s : Saving) (o : ConfigObject) (m : SaveMove) :
    (s.cached o).allows o.size (s.event o m) := by
  cases m with
  | change p offset byte =>
    simp only [Saving.event]
    split_ifs <;> trivial
  | nvs_save_set p =>
    simp only [Saving.event]
    split_ifs <;> trivial
  | flash_task =>
    simp only [Saving.event]
    cases hpc : s.pc with
    | write p n =>
      simp only
      split_ifs with hsame hmore
      · trivial
      · intro k hk
        have hat : s.copying o = some n := by simp [Saving.copying, hpc, hsame]
        obtain rfl := Option.some.inj (hat.symm.trans hk)
        omega
      · trivial
    | clear p =>
      simp only
      split_ifs <;> trivial
    | _ => trivial

/-- For one object the run of all the savings is the run of its own events. -/
theorem cached_run (s : Saving) (o : ConfigObject) (moves : List SaveMove) :
    (s.run moves).cached o = (s.cached o).run (s.events o moves) := by
  induction moves generalizing s with
  | nil => rfl
  | cons m moves ih =>
    change ((s.apply m).run moves).cached o = ((s.cached o).apply (s.event o m)).run _
    rw [ih, cached_apply]

theorem events_allowed (s : Saving) (o : ConfigObject) (moves : List SaveMove) :
    Along Cached.apply (Cached.allows o.size) (s.cached o) (s.events o moves) := by
  induction moves generalizing s with
  | nil => trivial
  | cons m moves ih =>
    refine ⟨event_allowed s o m, ?_⟩
    rw [← cached_apply]
    exact ih _

/-- What an object has seen up to a moment, it has seen up to a move. -/
theorem exists_of_events_prefix {since : List (Event UInt8)} {moves : List SaveMove}
    (h : since <+: s.events o moves) : ∃ past, past <+: moves ∧ since = s.events o past := by
  induction moves generalizing s since with
  | nil => exact ⟨[], List.nil_prefix, List.prefix_nil.mp h⟩
  | cons m moves ih =>
    obtain rfl | ⟨rest, rfl, hrest⟩ := List.prefix_cons_iff.mp h
    · exact ⟨[], List.nil_prefix, rfl⟩
    · obtain ⟨past, hpast, rfl⟩ := ih hrest
      exact ⟨m :: past, List.cons_prefix_cons.mpr ⟨rfl, hpast⟩, rfl⟩

/-- What a run does is what its parts do, one after the other. -/
theorem run_append (s : Saving) (moves later : List SaveMove) :
    s.run (moves ++ later) = (s.run moves).run later :=
  List.foldl_append

/-- The object's flag is cleared by one step of `flash_task` only, with which a write of it begins. -/
def Saving.clears (s : Saving) (o : ConfigObject) (m : SaveMove) : Prop := m = .flash_task ∧ s.pc = .clear o

instance (s : Saving) (o : ConfigObject) (m : SaveMove) : Decidable (s.clears o m) :=
  inferInstanceAs (Decidable (_ ∧ _))

private theorem event_ne_start (h : ¬ s.clears o m) : s.event o m ≠ .start := by
  cases m with
  | change p offset byte =>
    simp only [Saving.event]
    split_ifs <;> nofun
  | nvs_save_set p =>
    simp only [Saving.event]
    split_ifs <;> nofun
  | flash_task =>
    simp only [Saving.event]
    cases hpc : s.pc with
    | clear p =>
      have hne : p ≠ o := by
        rintro rfl
        exact h ⟨rfl, hpc⟩
      simp [hne]
    | write p n =>
      simp only
      split_ifs <;> nofun
    | _ => nofun

private theorem events_ne_start {moves : List SaveMove} (h : Along Saving.apply (fun s m => ¬ s.clears o m) s moves) :
    ∀ e ∈ s.events o moves, e ≠ .start := by
  induction moves generalizing s with
  | nil => nofun
  | cons m moves ih =>
    obtain ⟨hm, hmoves⟩ := h
    rintro e he
    obtain rfl | he := List.mem_cons.mp he
    · exact event_ne_start hm
    · exact ih hmoves e he

/-- After a request the object's flag is set. -/
theorem cached_requested (s : Saving) (o : ConfigObject) :
    ((s.apply (.nvs_save_set o)).cached o).requested = true := Function.update_self ..

/-- The entry, byte by byte, is one that the object has had since the request, once the flag is clear and
no write of it is in progress; and until a write of it begins after the request, the flag is set. -/
theorem no_save_lost (objects : ConfigObject → Nat → UInt8) (o : ConfigObject) (before after : List SaveMove) :
    let requested : Saving := (Saving.boot objects).run (before ++ [.nvs_save_set o])
    let s : Saving := requested.run after
    (s.save_flag o = false → (∀ n, s.pc ≠ .write o n) →
      ∀ i < o.size, ∃ since, since <+: after ∧ s.entry o i = (requested.run since).object o i) ∧
    (Along Saving.apply (fun s m => ¬ s.clears o m) requested after → s.save_flag o = true) := by
  intro requested s
  have hrequested : (requested.cached o).requested = true := by
    have hlast : requested = ((Saving.boot objects).run before).apply (.nvs_save_set o) := run_append ..
    rw [hlast]
    exact cached_requested _ o
  have hcached : s.cached o = (requested.cached o).run (requested.events o after) :=
    cached_run requested o after
  refine ⟨fun hclear hidle i hi => ?_, fun hnot => ?_⟩
  · have hcopying : (s.cached o).copying = none := copying_eq_none hidle
    rw [hcached] at hcopying
    have hflag : ((requested.cached o).run (requested.events o after)).requested = false := by
      rw [← hcached]
      exact hclear
    obtain ⟨since, hprefix, hstore⟩ :=
      fresh_of_saved hrequested (events_allowed requested o after) hflag hcopying hi
    obtain ⟨past, hpast, rfl⟩ := exists_of_events_prefix hprefix
    refine ⟨past, hpast, ?_⟩
    rw [← hcached, ← cached_run] at hstore
    exact hstore
  · have hstill := requested_of_not_started hrequested (events_ne_start hnot)
    rw [← hcached] at hstill
    exact hstill

/-- The motor time is changed, and its save requested, while its write is in progress: another write follows. -/
theorem request_during_write :
    let requested : Saving := (Saving.boot fun _ _ => 0).run
      (([.change .motor 0 7, .nvs_save_set .motor] ++ List.replicate 6 .flash_task ++ [.change .motor 0 9]) ++
        [.nvs_save_set .motor])
    let s : Saving := requested.run (List.replicate 15 .flash_task)
    s.entry .motor 0 = 9 ∧
    (∃ since, since <+: List.replicate 15 .flash_task ∧
      s.entry .motor 0 = (requested.run since).object .motor 0) ∧
    (requested.run (List.replicate 9 .flash_task)).save_flag .motor = true := by
  intro requested s
  have hdelay : s.pc = .delay := rfl
  refine ⟨rfl, ?_, ?_⟩
  · refine (no_save_lost _ .motor _ (List.replicate 15 .flash_task)).1 rfl (fun n hwrite => ?_) 0 (by decide)
    exact FlashPc.noConfusion (hdelay.symm.trans hwrite)
  · exact (no_save_lost _ .motor _ (List.replicate 9 .flash_task)).2 (by decide)

end catbox.nvs
