import CatLitterBox.Diag.Boot
import CatLitterBox.Temporal.Run

open catbox.ui temporal

namespace catbox.diag

/-- The diagnosis runs one of its modes, and `i` is pressed, alone, for less than 3 s. -/
def System.ShortPress (s : System) (i : Key) : Prop :=
  s.diag_status_f ∧ s.first_mode ∧ (s.keys i).is_pressed ∧ (∀ j ≠ i, (s.keys j).is_pressed = false) ∧
    s.current_time - (s.keys i).press_start_time < TIME_THRES_3S

instance (s : System) (i : Key) : Decidable (s.ShortPress i) := by
  unfold System.ShortPress
  infer_instance

/-- What the scan of the next key asks for. -/
def System.effects (s : System) (i : Key) (current_level clean_running : Bool) : List KeyEffect :=
  (key_polling s.keys i (s.reading current_level clean_running)).2

/-- A short press of CLEAN or CHANGE asks for nothing, and its end for the request of the
key, which is put on the queue. -/
def Operated (cfg : ProximityConfig) (s : System) : Move → Prop
  | .scan current_level clean_running => ∀ i cmd, s.pass.head? = some i → i.request = some cmd → s.ShortPress i →
      if current_level then s.effects i current_level clean_running = []
      else s.effects i current_level clean_running = [.send_diag_cmd_msg cmd] ∧
        (apply cfg s (.scan current_level clean_running)).diag_cmd_msg = some (s.diag_cmd_msg.getD [] ++ [cmd])
  | _ => True

/-- A short press of CLEAN or CHANGE ends where the system is ready and the queue has room. -/
def Admitted (s : System) : Move → Prop
  | .scan current_level _ => ∀ i cmd, s.pass.head? = some i → i.request = some cmd → s.ShortPress i →
      current_level = false → s.proximity.g_is_system_ready ∧ (s.diag_cmd_msg.getD []).length < diag_queue_length
  | _ => True

instance (cfg : ProximityConfig) (s : System) : (m : Move) → Decidable (Operated cfg s m)
  | .scan _ _ => by
    unfold Operated
    infer_instance
  | .app_main => .isTrue trivial
  | .check_operating _ => .isTrue trivial
  | .proximity_task _ _ => .isTrue trivial
  | .poll _ => .isTrue trivial
  | .diag_cmd_task => .isTrue trivial
  | .diag_process_task => .isTrue trivial

variable {cfg : ProximityConfig} {s : System} {i : Key} {cmd : DiagCmd}

/-- The end of a short press, in one of the keys that have a request. -/
private theorem effects_released (h : s.Sound) (hcmd : i.request = some cmd) (hpress : s.ShortPress i)
    (clean_running : Bool) : s.effects i false clean_running =
      if s.proximity.g_is_system_ready then [.send_diag_cmd_msg cmd] else [] := by
  obtain ⟨hdiag, hmode, hpressed, halone, hshort⟩ := hpress
  unfold System.effects
  rw [key_polling_released h.timed rfl hpressed hshort, key_click_request hcmd hdiag halone]
  rfl

/-- A request is put on the queue exactly where the queue has room. -/
private theorem run_eq_append_iff (h : s.diag_cmd_msg.isSome) :
    [KeyEffect.send_diag_cmd_msg cmd].foldl KeyEffect.run s.diag_cmd_msg =
        some (s.diag_cmd_msg.getD [] ++ [cmd]) ↔
      (s.diag_cmd_msg.getD []).length < diag_queue_length := by
  obtain ⟨waiting, hwaiting⟩ := Option.isSome_iff_exists.mp h
  simp only [hwaiting, List.foldl_cons, List.foldl_nil, KeyEffect.run, send_diag_cmd_msg, Option.map_some,
    Option.getD_some, Option.some.injEq]
  constructor
  · intro happend
    by_contra hfull
    rw [if_neg hfull] at happend
    simp at happend
  · intro hroom
    rw [if_pos hroom]

private theorem operated_iff_admitted (h : s.Sound) (m : Move) : Operated cfg s m ↔ Admitted s m := by
  cases m with
  | scan current_level clean_running =>
    unfold Operated Admitted
    refine forall₅_congr fun i cmd hpass hcmd hpress => ?_
    cases current_level with
    | true =>
      obtain ⟨hdiag, hmode, hpressed, halone, hshort⟩ := hpress
      have hquiet := key_polling_down (r := s.reading true clean_running) rfl fun _ => hshort
      simp [System.effects, hquiet]
    | false =>
      obtain ⟨pass, hpass⟩ : ∃ pass, s.pass = i :: pass := List.head?_eq_some_iff.mp hpass
      have heffects := effects_released h hcmd hpress clean_running
      have hqueue : (apply cfg s (.scan false clean_running)).diag_cmd_msg =
          (s.effects i false clean_running).foldl KeyEffect.run s.diag_cmd_msg := by
        simp [apply, System.scan, hpass, System.effects]
      rw [if_neg Bool.false_ne_true, hqueue, heffects]
      cases s.proximity.g_is_system_ready with
      | false => simp
      | true => simpa using run_eq_append_iff (h.queue (.inl hpress.1))
  | app_main => exact Iff.rfl
  | check_operating => exact Iff.rfl
  | proximity_task => exact Iff.rfl
  | poll => exact Iff.rfl
  | diag_cmd_task => exact Iff.rfl
  | diag_process_task => exact Iff.rfl

private theorem run_shut (h : s.Shut) (moves : List Move) : (moves.foldl (apply cfg) s).Shut := by
  induction moves generalizing s with
  | nil => exact h
  | cons m moves ih => exact ih (apply_shut h m)

/-- In a boot into the diagnosis, the clicks of CLEAN and CHANGE operate it exactly where each of
them finds the system ready and the queue with room. A system that was not ready when
the diagnosis began, with no turn of `proximity_task` let through, never gets ready. -/
theorem diagnosis_clicks (cfg : ProximityConfig) (moves : List Move) :
    (Along (apply cfg) (Operated cfg) .boot moves ↔ Along (apply cfg) Admitted .boot moves) ∧
    ∀ past more, past ++ more = moves → (past.foldl (apply cfg) .boot).Shut →
      (moves.foldl (apply cfg) .boot).proximity.g_is_system_ready = false := by
  constructor
  · exact along_congr (I := System.Sound) (fun s m h _ => apply_sound h m)
      (fun s m h => operated_iff_admitted h m) boot_sound
  · rintro past more rfl hshut
    rw [List.foldl_append]
    exact (run_shut hshut more).blocked

/-- CLEAN is held during the boot and let go, the first mode begins, and CLEAN is clicked. -/
def normal_diagnosis : List Move :=
  [.check_operating false, .proximity_task 0 0, .app_main, .poll 20, .scan true false, .scan false false,
    .scan false false, .app_main, .app_main, .check_operating false, .proximity_task 0 0,
    .poll 1000, .scan false false, .scan false false, .scan false false, .diag_process_task,
    .poll 1000, .scan true false, .scan false false, .scan false false, .poll 200, .scan false false]

/-- The click of CLEAN in the first mode is dropped: the system is not ready. -/
theorem click_of_clean_is_dropped :
    ¬ Along (apply ⟨1000, 10⟩) (Operated ⟨1000, 10⟩) .boot normal_diagnosis ∧
    (normal_diagnosis.foldl (apply ⟨1000, 10⟩) .boot).diag_cmd_msg = some [] := by
  decide

end catbox.diag
