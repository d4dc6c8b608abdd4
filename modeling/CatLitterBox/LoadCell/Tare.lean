import CatLitterBox.Config.Load
import CatLitterBox.Console.Command
import CatLitterBox.LoadCell.Proc
import CatLitterBox.Memory.Words

open catbox.console catbox.nvs memory program.Program text

namespace catbox.loadcell

/-- The load cells and the NVS that their calibration is saved to. -/
structure Calibrated (S : Type) where
  cell : LoadCell
  store : Store S

/-- `"lc_cal_%d"` in the sixteen characters of `nvs_key`. -/
def nvs_key (state : Int) : String := .ofList (("lc_cal_" ++ toString state).toList.take 15)

/-- A value of 64 bits as an `int`. -/
def narrowed (n : Int) : Int := n.bmod (256 ^ 4)

/-- The array `save_offsets`. -/
def save_offsets (base_main_sum : Int) : List Int := List.replicate 4 (narrowed (base_main_sum.tdiv 4))

section code

variable {S : Type} (nvs : NvsLibrary S)

def save_lc_calibration_to_nvs (state : Int) (offsets : List Int) (st : Store S) : Store S :=
  write_nvs_blob nvs APP_NAMESPACE (nvs_key state) (packInts 4 offsets) st

/-- With the result of the read, and what it leaves in the array. -/
def load_lc_calibration_from_nvs (state : Int) (offsets : List Int) (s : S) : (EspErr × List Int) × S :=
  let read := read_nvs_blob nvs APP_NAMESPACE (nvs_key state) (packInts 4 offsets) (4 * 4) s
  ((read.1.1, unpackInts 4 4 read.1.2), read.2)

/-- `execute_tare`, with whether it gets `cell_mutex` in time. -/
def execute_tare (cell_mutex : Bool) (state : Int) (c : Calibrated S) : Calibrated S :=
  if cell_mutex then
    let base_main_sum := c.cell.current_main_sum
    { cell :=
        { c.cell with
          base_main_sum
          base_waste_sum := c.cell.current_waste_sum
          fsm := reset_cat_ring_buffer c.cell.fsm }
      store :=
        if state > 0 then save_lc_calibration_to_nvs nvs state
          (save_offsets base_main_sum) c.store else c.store }
  else c

/-- The enumerators of `LOADCELL_CMD_T`. -/
def cmd_code : LoadcellCmd → UInt32
  | .LOADCELL_TARE_CMD => 0
  | .LOADCELL_SAVE_STATE1_CMD => 1
  | .LOADCELL_SAVE_STATE2_CMD => 2
  | .LOADCELL_SAVE_STATE3_CMD => 3

/-- A turn of `loadcell_cmd_task`. -/
def loadcell_cmd_task (cell_mutex : Bool) (c : Calibrated S) (cmd : UInt32) : Calibrated S :=
  if cmd.toInt32.toInt ≥ (cmd_code .LOADCELL_TARE_CMD).toInt32.toInt ∧
    cmd ≤ cmd_code .LOADCELL_SAVE_STATE3_CMD then
    execute_tare nvs cell_mutex (cmd - 1).toInt32.toInt c
  else c

end code

/-- The states of the structure whose calibration T, U and V ask to save: nothing mounted, the ring, and
the ring with the plate. -/
inductive LcState where
  | bare
  | ring
  | plate
deriving DecidableEq, Repr

def LcState.number : LcState → Int
  | .bare => 1
  | .ring => 2
  | .plate => 3

/-- `T_FUNCTION`, `U_FUNCTION` and `V_FUNCTION`. -/
def LcState.letter : LcState → UInt8
  | .bare => 116
  | .ring => 117
  | .plate => 118

def LcState.cmd : LcState → LoadcellCmd
  | .bare => .LOADCELL_SAVE_STATE1_CMD
  | .ring => .LOADCELL_SAVE_STATE2_CMD
  | .plate => .LOADCELL_SAVE_STATE3_CMD

/-- The messages for the load cells among the effects of the console. -/
def loadcell_messages (effects : List Effect) : List LoadcellCmd :=
  effects.filterMap fun
    | .send_loadcell_msg cmd => some cmd
    | _ => none

/-- The messages for the load cells that a command sends. -/
def sent_by (cmd : Bytes) (console : System) : List LoadcellCmd :=
  (loadcell_messages (Process_Command cmd console).effects).drop (loadcell_messages console.effects).length

/-- What the command task of the load cells makes of a console command. -/
def Calibrated.commanded {S : Type} (nvs : NvsLibrary S) (cell_mutex : Bool) (cmd : Bytes) (console : System)
    (c : Calibrated S) : Calibrated S :=
  (sent_by cmd console).foldl (fun c cmd => loadcell_cmd_task nvs cell_mutex c (cmd_code cmd)) c

/-- The calibration of a state is saved as it should be: four offsets that add up to the tare sum replace
its entry and no other one, and are loaded again. -/
def Persisted {S : Type} (nvs : NvsLibrary S) (state : Int) (before after : Calibrated S) : Prop :=
  ∃ offsets : List Int, offsets.length = 4 ∧ offsets.sum = after.cell.base_main_sum ∧
    after.store.written = before.store.written ++ [(APP_NAMESPACE, nvs_key state, .blob (packInts 4 offsets))] ∧
    ∀ array : List Int, array.length = 4 →
      (load_lc_calibration_from_nvs nvs state array after.store.flash).1 = (.ESP_OK, offsets)

variable {S : Type} {nvs : NvsLibrary S} {c : Calibrated S} {state : Int} {cell_mutex : Bool} {cmd : Bytes}
  {console : System}

private theorem perform_messages (a : motor.Act) (s : System) :
    loadcell_messages (s.perform a).2.effects = loadcell_messages s.effects := by
  unfold System.perform System.add
  simp only
  split_ifs
  · simp [loadcell_messages]
  · rfl

theorem run_messages {α : Type} (code : motor.Code α) (s : System) :
    loadcell_messages (s.run code).effects = loadcell_messages s.effects :=
  finish_of_step (P := fun t => loadcell_messages t.effects = loadcell_messages s.effects)
    (fun a t ht => (perform_messages a t).trans ht) code rfl

/-- What comes before the search for the command sends nothing to the load cells. -/
theorem prepare_messages (letter : Char) (s : System) :
    loadcell_messages (prepare letter s).effects = loadcell_messages s.effects := by
  have hdelete (t : System) : loadcell_messages t.delete_test_task.effects = loadcell_messages t.effects := by
    unfold System.delete_test_task System.add
    split_ifs
    · simp [loadcell_messages]
    · rfl
  unfold prepare
  simp only
  split_ifs
  · exact (hdelete _).trans (run_messages _ s)
  · exact hdelete s
  · exact run_messages _ s
  · rfl

/-- T, U and V send one message each. -/
theorem sent_by_letter (state : LcState) (rest : Bytes) (console : System) :
    sent_by (state.letter :: rest) console = [state.cmd] := by
  have hsend : loadcell_messages (Process_Command (state.letter :: rest) console).effects =
      loadcell_messages console.effects ++ [state.cmd] := by
    cases state with
    | _ =>
      rw [← prepare_messages (initial (_ :: rest)) console]
      exact List.filterMap_append
  rw [sent_by, hsend, List.drop_left]

/-- The task takes the number of the command less one for the state. -/
theorem commanded_letter (state : LcState) (rest : Bytes) (console : System) (c : Calibrated S) :
    c.commanded nvs cell_mutex (state.letter :: rest) console = execute_tare nvs cell_mutex
    (state.number - 1) c := by
  unfold Calibrated.commanded
  rw [sent_by_letter]
  cases state with
  | _ => rfl

private theorem execute_tare_store (state : Int) (c : Calibrated S) :
    (execute_tare nvs true state c).store =
      if state > 0 then save_lc_calibration_to_nvs nvs state (save_offsets c.cell.current_main_sum) c.store
      else c.store := rfl

/-- A tare writes under the key of its state only, and for no state below one. -/
theorem execute_tare_written (nvs : NvsLibrary S) (cell_mutex : Bool) (state : Int) (c : Calibrated S) :
    (execute_tare nvs cell_mutex state c).store.written = c.store.written ∨
      0 < state ∧ ∃ value, (execute_tare nvs cell_mutex state c).store.written =
        c.store.written ++ [(APP_NAMESPACE, nvs_key state, value)] := by
  cases cell_mutex with
  | false => exact .inl rfl
  | true =>
    rw [execute_tare_store]
    split_ifs with hpos
    · obtain hsame | hmore := write_nvs_written nvs APP_NAMESPACE (nvs_key state) _ c.store
      · exact .inl hsame
      · exact .inr ⟨hpos, _, hmore⟩
    · exact .inl rfl

/-- The keys of a state and of the one before it are different. -/
theorem nvs_key_ne (state : LcState) (h : 0 < state.number - 1) :
    nvs_key (state.number - 1) ≠ nvs_key state.number := by
  cases state with
  | bare => exact absurd h (by decide)
  | ring => decide
  | plate => decide

/-- A tare for the state before does not save the calibration of a state. -/
theorem tare_before_not_persisted (state : LcState) (cell_mutex : Bool) (c : Calibrated S) :
    ¬ Persisted nvs state.number c (execute_tare nvs cell_mutex (state.number - 1) c) := by
  rintro ⟨offsets, -, -, hwritten, -⟩
  obtain hsame | ⟨hpos, value, hother⟩ := execute_tare_written nvs cell_mutex (state.number - 1) c
  · rw [hsame] at hwritten
    simp at hwritten
  · rw [hother] at hwritten
    have hentry := List.append_cancel_left hwritten
    injection hentry with hentry
    obtain ⟨-, hrest⟩ := Prod.mk.inj hentry
    exact nvs_key_ne state hpos (Prod.mk.inj hrest).1

/-- None of T, U and V saves the calibration of its state: the number of the command, less one, is the
number of the state before, and nothing is saved for the state 0. -/
theorem calibration_never_persisted (nvs : NvsLibrary S) (state : LcState) (rest : Bytes) (console : System)
    (cell_mutex : Bool) (c : Calibrated S) :
    ¬ Persisted nvs state.number c (c.commanded nvs cell_mutex (state.letter :: rest) console) := by
  rw [commanded_letter]
  exact tare_before_not_persisted state cell_mutex c

/-- U with a sum of 4000 writes `lc_cal_1`. -/
theorem ring_saved_as_bare :
    ¬ ∀ (S : Type) (nvs : NvsLibrary S), nvs.Documented → ∀ (state : LcState) (rest : Bytes) (console : System)
      (c : Calibrated S), Persisted nvs state.number c
      (c.commanded nvs true (state.letter :: rest) console) := by
  intro h
  let c : Calibrated Flash := ⟨{ LoadCell.init with current_main_sum := 4000 }, ⟨⟨[], fun _ _ => none⟩, []⟩⟩
  have hpersisted := h Flash flash flash_documented .ring [] .boot c
  rw [commanded_letter] at hpersisted
  exact tare_before_not_persisted .ring true c hpersisted

/-- Offsets that have been saved for a state are loaded for it, if they are in the range of an `int`. -/
theorem load_saved (hnvs : nvs.Documented) {offsets array : List Int} (hlength : offsets.length = 4)
    (harray : array.length = 4) (hfits : ∀ n ∈ offsets, Fits 4 n) {st : Store S}
    (haccepted : ¬ WriteRefused nvs APP_NAMESPACE (nvs_key state) (.blob (packInts 4 offsets)) st.flash)
    (hok : (load_lc_calibration_from_nvs nvs state array
      (save_lc_calibration_to_nvs nvs state offsets st).flash).1.1 = .ESP_OK) :
    (load_lc_calibration_from_nvs nvs state array (save_lc_calibration_to_nvs nvs state offsets st).flash).1.2 =
      offsets := by
  have hentry : nvs.entry (save_lc_calibration_to_nvs nvs state offsets st).flash
    APP_NAMESPACE (nvs_key state) =
      some (.blob (packInts 4 offsets)) := by
    rw [save_lc_calibration_to_nvs, write_nvs_blob, (write_nvs_done hnvs haccepted).2, replaced_self]
  have hbuffer : (packInts 4 array).length = (packInts 4 offsets).length := by
    rw [packInts_length, packInts_length, hlength, harray]
  have hread := read_nvs_blob_eq hnvs hentry hbuffer hok
  change unpackInts 4 4 _ = offsets
  have hunpacked := unpackInts_packInts hfits
  rw [hlength] at hunpacked
  rw [hread, hunpacked]

/-- The offsets that a tare saves add up to the sum exactly if it is a multiple of four whose quarter is an
`int`: else the remainder is lost, or the upper half. -/
theorem save_offsets_sum_iff (base_main_sum : Int) :
    (save_offsets base_main_sum).sum = base_main_sum ↔ 4 ∣ base_main_sum ∧ Fits 4 (base_main_sum / 4) := by
  have hsum : (save_offsets base_main_sum).sum = 4 * narrowed (base_main_sum.tdiv 4) := by
    change narrowed _ + (narrowed _ + (narrowed _ + (narrowed _ + 0))) = _
    omega
  rw [hsum]
  constructor
  · intro heq
    have hdvd : 4 ∣ base_main_sum := ⟨_, heq.symm⟩
    refine ⟨hdvd, ?_⟩
    rw [Int.tdiv_eq_ediv_of_dvd hdvd] at heq
    have hquarter : narrowed (base_main_sum / 4) = base_main_sum / 4 := by omega
    exact hquarter
  · rintro ⟨hdvd, hfits⟩
    have hquarter : narrowed (base_main_sum / 4) = base_main_sum / 4 := hfits
    rw [Int.tdiv_eq_ediv_of_dvd hdvd, hquarter]
    omega

end catbox.loadcell
