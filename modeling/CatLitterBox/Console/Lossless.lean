import CatLitterBox.Console.Pending
import Mathlib.Data.List.Range
import Mathlib.Data.List.TakeDrop

open temporal text

namespace catbox.console

/-- The first reads of a sequence. -/
def first (reads : Nat → Bytes) (n : Nat) : List Bytes := (List.range n).map reads

/-- A console after some turns of `uart_process`. -/
def Console.after (c : Console) (reads : Nat → Bytes) (n : Nat) : Console :=
  final uart_process c (first reads n)

/-- The bytes that `uart_read_bytes` has returned by then. -/
def received (c : Console) (reads : Nat → Bytes) (n : Nat) : Bytes :=
  (outputs uart_process c (first reads n)).flatMap (·.data)

/-- The bytes that the parser has popped by then. -/
def parsed (c : Console) (reads : Nat → Bytes) (n : Nat) : Bytes :=
  (popped c (first reads n)).map (·.ch)

/-- Every byte that has been received was popped, once and in its order, or is still in the
ring buffer, and is popped at last. -/
structure Lossless (c : Console) (reads : Nat → Bytes) : Prop where
  kept : ∀ n, parsed c reads n ++ (c.after reads n).rx_ring.contents = received c reads n
  drained : ∀ n, ∃ m, received c reads n <+: parsed c reads m

/-- There is room for what the next turn reads, and no reset leaves bytes behind. -/
def Room (c : Console) (data : Bytes) : Prop :=
  if c.system.restarting then c.rx_ring.contents = []
  else c.rx_ring.contents.length + data.length ≤ 255

variable {c : Console} {reads : Nat → Bytes} {n : Nat}

theorem after_indexed (reads : Nat → Bytes) (n : Nat) (h : c.Indexed) : (c.after reads n).Indexed :=
  (run_parses h _).indexed

theorem first_succ : first reads (n + 1) = first reads n ++ [reads n] := by
  unfold first
  rw [List.range_succ, List.map_append, List.map_singleton]

/-- The last read is handled last. -/
theorem after_succ : c.after reads (n + 1) = (uart_process (c.after reads n) (reads n)).1 := by
  unfold Console.after
  rw [first_succ, final_append]
  rfl

theorem received_succ :
    received c reads (n + 1) = received c reads n ++ (uart_process (c.after reads n) (reads n)).2.data := by
  unfold received
  rw [first_succ, outputs_append, List.flatMap_append]
  simp [outputs, Console.after]

theorem parsed_succ : parsed c reads (n + 1) =
    parsed c reads n ++ (uart_process (c.after reads n) (reads n)).2.popped.map (·.ch) := by
  unfold parsed popped
  rw [first_succ, outputs_append, List.flatMap_append, List.map_append]
  simp [outputs, Console.after]

/-- One turn loses a byte exactly where the bytes that were left and those that were read
are too many. -/
theorem uart_process_kept (h : c.Indexed) (data : Bytes) :
    (uart_process c data).2.popped.map (·.ch) ++ (uart_process c data).1.rx_ring.contents =
        c.rx_ring.contents ++ (uart_process c data).2.data ↔
      (c.system.restarting = false → c.rx_ring.contents.length + data.length ≤ 255) := by
  cases hrun : c.system.restarting with
  | true =>
    rw [uart_process_restarting hrun]
    simp
  | false =>
    obtain ⟨hdata, hbytes⟩ := (uart_process_parses h data).2 hrun
    rw [hdata, hbytes, List.take_eq_self_iff, List.length_append]
    simp

/-- Nothing is lost exactly if at every moment there is room for what is read. -/
theorem kept_iff (reads : Nat → Bytes) (h : c.Indexed) (hempty : c.rx_ring.contents = []) :
    (∀ n, parsed c reads n ++ (c.after reads n).rx_ring.contents = received c reads n) ↔
      ∀ n, (c.after reads n).system.restarting = false →
        (c.after reads n).rx_ring.contents.length + (reads n).length ≤ 255 := by
  have hturn (n : Nat) (hbefore : parsed c reads n ++ (c.after reads n).rx_ring.contents = received c reads n) :
      parsed c reads (n + 1) ++ (c.after reads (n + 1)).rx_ring.contents = received c reads (n + 1) ↔
        ((c.after reads n).system.restarting = false →
          (c.after reads n).rx_ring.contents.length + (reads n).length ≤ 255) := by
    rw [← uart_process_kept (after_indexed reads n h), parsed_succ, received_succ, after_succ, ← hbefore,
      List.append_assoc, List.append_assoc, List.append_cancel_left_eq]
  constructor
  · intro hkept n
    exact (hturn n (hkept n)).mp (hkept (n + 1))
  · intro hroom n
    induction n with
    | zero => simpa [parsed, popped, received, first, outputs, Console.after, final] using hempty
    | succ n ih => exact (hturn n ih).mpr (hroom n)

/-- Each turn pops a byte that is waiting, unless the device restarts. -/
theorem parsed_grows (h : c.Indexed) (hrun : (c.after reads n).system.restarting = false)
    (hwait : (c.after reads n).rx_ring.contents ≠ []) :
    (parsed c reads n).length < (parsed c reads (n + 1)).length := by
  have hpushed := pushes_contents (reads n) (after_indexed reads n h).rx_ring
  have hpops : (uart_process (c.after reads n) (reads n)).2.popped ≠ [] := by
    unfold uart_process
    rw [if_neg (by simp [hrun])]
    refine uart_parse_pops ⟨hpushed.1, (after_indexed reads n h).parse_idx⟩ ?_
    rw [hpushed.2]
    simp [hwait]
  have hpos := List.length_pos_of_ne_nil hpops
  rw [parsed_succ, List.length_append, List.length_map]
  omega

theorem received_mono {m : Nat} (h : n ≤ m) : received c reads n <+: received c reads m := by
  induction m, h using Nat.le_induction with
  | base => exact List.prefix_refl _
  | succ m _ ih =>
    rw [received_succ]
    exact ih.trans (List.prefix_append _ _)

/-- Where nothing is dropped and no reset leaves a byte behind, what has been received is
popped at last: as long as some of it is missing, each turn pops more. -/
theorem drained_of_kept (h : c.Indexed)
    (hkept : ∀ n, parsed c reads n ++ (c.after reads n).rx_ring.contents = received c reads n)
    (hclean : ∀ n, (c.after reads n).system.restarting = true → (c.after reads n).rx_ring.contents = [])
    (n : Nat) : ∃ m, received c reads n <+: parsed c reads m := by
  have hwithin (missing m : Nat) (hm : n ≤ m)
      (hmissing : (received c reads n).length ≤ (parsed c reads m).length + missing) :
      ∃ m, received c reads n <+: parsed c reads m := by
    induction missing generalizing m with
    | zero =>
      have hall : parsed c reads m <+: received c reads m := ⟨_, hkept m⟩
      exact ⟨m, List.prefix_of_prefix_length_le (received_mono hm) hall hmissing⟩
    | succ missing ih =>
      by_cases hwait : (c.after reads m).rx_ring.contents = []
      · have hall := hkept m
        rw [hwait, List.append_nil] at hall
        exact ⟨m, hall ▸ received_mono hm⟩
      · have hrun : (c.after reads m).system.restarting = false := by
          rw [← Bool.not_eq_true]
          exact mt (hclean m) hwait
        have hgrows := parsed_grows h hrun hwait
        exact ih (m + 1) (by omega) (by omega)
  exact hwithin _ n (Nat.le_refl n) (Nat.le_add_left _ _)

/-- After a reset the parser pops nothing any more. -/
theorem parsed_of_restarting {m : Nat} (h : n ≤ m) (hreset : (c.after reads n).system.restarting = true) :
    parsed c reads m = parsed c reads n ∧ c.after reads m = c.after reads n := by
  induction m, h using Nat.le_induction with
  | base => exact ⟨rfl, rfl⟩
  | succ m _ ih =>
    obtain ⟨hparsed, hafter⟩ := ih
    rw [parsed_succ, after_succ, hafter, uart_process_restarting hreset, hparsed]
    exact ⟨List.append_nil _, rfl⟩

private theorem parsed_mono {m : Nat} (h : n ≤ m) : parsed c reads n <+: parsed c reads m := by
  induction m, h using Nat.le_induction with
  | base => exact List.prefix_refl _
  | succ m _ ih =>
    rw [parsed_succ]
    exact ih.trans (List.prefix_append _ _)

/-- No console byte is lost if and only if, at every turn, the ring buffer has room for the
bytes that are read, and no reset comes while a byte is waiting in it. -/
theorem console_lossless (buffer : Vector UInt8 RX_BUF_SIZE) (system : System) (reads : Nat → Bytes) :
    Lossless (.boot buffer system) reads ↔
      ∀ n, Room ((Console.boot buffer system).after reads n) (reads n) := by
  have hboot := boot_indexed buffer system
  have hempty : (Console.boot buffer system).rx_ring.contents = [] := init_contents buffer
  have hkept := kept_iff reads hboot hempty
  constructor
  · intro hlossless n
    unfold Room
    split_ifs with hreset
    · -- what was left behind would have to be popped, and nothing is
      obtain ⟨m, hm⟩ := hlossless.drained n
      have hleft := hlossless.kept n
      have hlength : (parsed (.boot buffer system) reads m).length ≤
          (parsed (.boot buffer system) reads n).length := by
        obtain hle | hle := Nat.le_total n m
        · rw [(parsed_of_restarting hle hreset).1]
        · exact (parsed_mono hle).length_le
      have hreceived := hm.length_le
      rw [← hleft, List.length_append] at hreceived
      rw [← List.length_eq_zero_iff]
      omega
    · exact hkept.mp hlossless.kept n (by simpa using hreset)
  · intro hroom
    have hfits := hkept.mpr fun n hrun => by
      have hturn := hroom n
      unfold Room at hturn
      rwa [if_neg (by simp [hrun])] at hturn
    constructor
    · exact hfits
    · intro n
      refine drained_of_kept hboot hfits ?_ n
      intro k hreset
      have hturn := hroom k
      unfold Room at hturn
      rwa [if_pos hreset] at hturn

/-- A read of 256 bytes is one byte too long. -/
theorem console_drops_byte :
    ¬ ∀ reads : Nat → Bytes, (∀ n, (reads n).length ≤ 512) →
      Lossless (.boot (.replicate RX_BUF_SIZE 0) .boot) reads := by
  intro h
  have hlossless := h (fun n => if n = 0 then List.replicate 256 97 else []) (by
    intro n
    split_ifs
    · rw [List.length_replicate]
      omega
    · exact Nat.zero_le _)
  have hboot := boot_indexed (.replicate RX_BUF_SIZE 0) .boot
  have hroom := (kept_iff _ hboot (init_contents _)).mp hlossless.kept 0 rfl
  rw [if_pos rfl, List.length_replicate] at hroom
  omega

end catbox.console
