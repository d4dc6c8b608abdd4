import CatLitterBox.Text.CString
import Mathlib.Logic.Function.Basic

open text

namespace catbox.nvs

/-- The results of `esp_err_t` that the code tells apart, and the other ones by their numbers. -/
inductive EspErr where
  | ESP_OK
  | ESP_ERR_INVALID_SIZE
  | ESP_ERR_NVS_NOT_FOUND
  | other (code : Nat)
deriving DecidableEq, Repr

/-- An entry of the NVS, by its type. -/
inductive NvsValue where
  | u32 (value : UInt32)
  | blob (bytes : Bytes)
  | other (type : Nat) (bytes : Bytes)
deriving DecidableEq, Repr

inductive OpenMode where
  | NVS_READONLY
  | NVS_READWRITE
deriving DecidableEq, Repr

/-- The NVS library on the states `S` of the flash and its driver. A handle is the name of its namespace;
`nvs_get_blob_size` is `nvs_get_blob` without a buffer, and `nvs_get_u32` leaves the value that it is
given where it fails. `nvs_set` is `nvs_set_blob` and `nvs_set_u32`. -/
structure NvsLibrary (S : Type) where
  entry : S → String → String → Option NvsValue
  nvs_open : S → String → OpenMode → EspErr × S
  nvs_get_blob_size : S → String → String → (EspErr × Nat) × S
  nvs_get_blob : S → String → String → Nat → (EspErr × Bytes) × S
  nvs_get_u32 : S → String → String → UInt32 → (EspErr × UInt32) × S
  nvs_set : S → String → String → NvsValue → EspErr × S
  nvs_commit : S → String → EspErr × S

/-- The entries with the one of a key replaced. -/
def replaced (entries : String → String → Option NvsValue) (name key : String) (value : NvsValue) :
    String → String → Option NvsValue :=
  Function.update entries name (Function.update (entries name) key (some value))

/-- What the library promises: only a set that succeeds changes an entry, and it changes its own one. What
is read successfully is what the entry holds. -/
structure NvsLibrary.Documented {S : Type} (nvs : NvsLibrary S) : Prop where
  open_keeps : ∀ s name mode, nvs.entry (nvs.nvs_open s name mode).2 = nvs.entry s
  size_keeps : ∀ s name key, nvs.entry (nvs.nvs_get_blob_size s name key).2 = nvs.entry s
  blob_keeps : ∀ s name key n, nvs.entry (nvs.nvs_get_blob s name key n).2 = nvs.entry s
  u32_keeps : ∀ s name key v, nvs.entry (nvs.nvs_get_u32 s name key v).2 = nvs.entry s
  commit_keeps : ∀ s name, nvs.entry (nvs.nvs_commit s name).2 = nvs.entry s
  set_refused : ∀ s name key v, (nvs.nvs_set s name key v).1 ≠ .ESP_OK →
    nvs.entry (nvs.nvs_set s name key v).2 = nvs.entry s
  set_ok : ∀ s name key v, (nvs.nvs_set s name key v).1 = .ESP_OK →
    nvs.entry (nvs.nvs_set s name key v).2 = replaced (nvs.entry s) name key v
  size_ok : ∀ s name key, (nvs.nvs_get_blob_size s name key).1.1 = .ESP_OK →
    ∃ bytes, nvs.entry s name key = some (.blob bytes) ∧ (nvs.nvs_get_blob_size s name key).1.2 = bytes.length
  blob_ok : ∀ s name key n, (nvs.nvs_get_blob s name key n).1.1 = .ESP_OK →
    nvs.entry s name key = some (.blob (nvs.nvs_get_blob s name key n).1.2)

/-- The NVS with the sets that have succeeded so far, in their order. -/
structure Store (S : Type) where
  flash : S
  written : List (String × String × NvsValue)

section app_nvs

variable {S : Type} (nvs : NvsLibrary S)

/-- `read_nvs_blob` with its result and what it leaves in the buffer `out_blob`. -/
def read_nvs_blob (name key : String) (out_blob : Bytes) (max_length : Nat) (s : S) : (EspErr × Bytes) × S :=
  let opened := nvs.nvs_open s name .NVS_READONLY
  if opened.1 ≠ .ESP_OK then ((opened.1, out_blob), opened.2)
  else
    let sized := nvs.nvs_get_blob_size opened.2 name key
    let required_size := sized.1.2
    if sized.1.1 = .ESP_ERR_NVS_NOT_FOUND then ((sized.1.1, out_blob), sized.2)
    else if sized.1.1 = .ESP_OK ∧ required_size > 0 then
      if required_size > max_length then ((.ESP_ERR_INVALID_SIZE, out_blob), sized.2)
      else
        let got := nvs.nvs_get_blob sized.2 name key required_size
        ((got.1.1, got.1.2 ++ out_blob.drop got.1.2.length), got.2)
    else ((sized.1.1, out_blob), sized.2)

def read_nvs_uint (name key : String) (default_value : UInt32) (s : S) : (EspErr × UInt32) × S :=
  let opened := nvs.nvs_open s name .NVS_READONLY
  if opened.1 ≠ .ESP_OK then ((opened.1, default_value), opened.2)
  else nvs.nvs_get_u32 opened.2 name key default_value

/-- The common shape of the writers. The result of `nvs_commit` is only logged. -/
def write_nvs (name key : String) (value : NvsValue) (st : Store S) : Store S :=
  let opened := nvs.nvs_open st.flash name .NVS_READWRITE
  if opened.1 ≠ .ESP_OK then { st with flash := opened.2 }
  else
    let set := nvs.nvs_set opened.2 name key value
    { flash := (nvs.nvs_commit set.2 name).2
      written := if set.1 = .ESP_OK then st.written ++ [(name, key, value)] else st.written }

def write_nvs_blob (name key : String) (blob_data : Bytes) (st : Store S) : Store S :=
  write_nvs nvs name key (.blob blob_data) st

def write_nvs_uint (name key : String) (value : UInt32) (st : Store S) : Store S :=
  write_nvs nvs name key (.u32 value) st

/-- Every call of the read succeeds, and the entry is no larger than the buffer. -/
def BlobReadable (name key : String) (max_length : Nat) (s : S) : Prop :=
  let opened := nvs.nvs_open s name .NVS_READONLY
  let sized := nvs.nvs_get_blob_size opened.2 name key
  opened.1 = .ESP_OK ∧ sized.1.1 = .ESP_OK ∧
    (sized.1.2 = 0 ∨ sized.1.2 ≤ max_length ∧ (nvs.nvs_get_blob sized.2 name key sized.1.2).1.1 = .ESP_OK)

def UintReadable (name key : String) (default_value : UInt32) (s : S) : Prop :=
  let opened := nvs.nvs_open s name .NVS_READONLY
  opened.1 = .ESP_OK ∧ (nvs.nvs_get_u32 opened.2 name key default_value).1.1 = .ESP_OK

/-- The library refuses a write. -/
def WriteRefused (name key : String) (value : NvsValue) (s : S) : Prop :=
  let opened := nvs.nvs_open s name .NVS_READWRITE
  opened.1 ≠ .ESP_OK ∨ (nvs.nvs_set opened.2 name key value).1 ≠ .ESP_OK

end app_nvs

variable {S : Type} {nvs : NvsLibrary S} {name key : String} {out_blob : Bytes} {max_length : Nat} {s : S}
  {value : NvsValue} {st : Store S}

/-- A blob is read exactly when every call succeeds and the entry is no larger than the buffer. -/
theorem read_nvs_blob_ok_iff (out_blob : Bytes) :
    (read_nvs_blob nvs name key out_blob max_length s).1.1 = .ESP_OK ↔
    BlobReadable nvs name key max_length s := by
  unfold read_nvs_blob BlobReadable
  simp only
  split_ifs with hopen hmissing hfound hlarge
  · exact iff_of_false hopen fun h => hopen h.1
  · refine iff_of_false (by simp [hmissing]) fun h => ?_
    rw [hmissing] at h
    exact absurd h.2.1 (by decide)
  · refine iff_of_false (by simp) fun h => ?_
    obtain hzero | hle := h.2.2
    · omega
    · omega
  · constructor
    · exact fun hgot => ⟨not_not.mp hopen, hfound.1, .inr ⟨by omega, hgot⟩⟩
    · rintro ⟨-, -, hzero | hle⟩
      · omega
      · exact hle.2
  · constructor
    · intro hsized
      exact ⟨not_not.mp hopen, hsized, .inl (by by_contra hpos; exact hfound ⟨hsized, by omega⟩)⟩
    · exact fun h => h.2.1

/-- An entry that is larger than the buffer is not read. -/
theorem not_readable_of_larger (hnvs : nvs.Documented) {bytes : Bytes}
    (hentry : nvs.entry s name key = some (.blob bytes)) (hlarger : max_length < bytes.length) :
    ¬ BlobReadable nvs name key max_length s := by
  rintro ⟨-, hsized, hcases⟩
  obtain ⟨found, hfound, hlength⟩ := hnvs.size_ok _ _ _ hsized
  rw [hnvs.open_keeps, hentry] at hfound
  obtain rfl := NvsValue.blob.inj (Option.some.inj hfound)
  obtain hzero | ⟨hle, -⟩ := hcases
  · omega
  · omega

/-- A number is read exactly when both calls succeed. -/
theorem read_nvs_uint_ok_iff {v : UInt32} :
    (read_nvs_uint nvs name key v s).1.1 = .ESP_OK ↔ UintReadable nvs name key v s := by
  unfold read_nvs_uint UintReadable
  simp only
  split_ifs with hopen
  · exact iff_of_false hopen fun h => hopen h.1
  · exact ⟨fun hgot => ⟨not_not.mp hopen, hgot⟩, fun h => h.2⟩

/-- A read changes no entry. -/
theorem read_nvs_blob_entry (hnvs : nvs.Documented) (name key : String) (out_blob : Bytes)
    (max_length : Nat) (s : S) :
    nvs.entry (read_nvs_blob nvs name key out_blob max_length s).2 = nvs.entry s := by
  unfold read_nvs_blob
  simp only
  split_ifs
  · exact hnvs.open_keeps ..
  · exact (hnvs.size_keeps ..).trans (hnvs.open_keeps ..)
  · exact (hnvs.size_keeps ..).trans (hnvs.open_keeps ..)
  · exact (hnvs.blob_keeps ..).trans ((hnvs.size_keeps ..).trans (hnvs.open_keeps ..))
  · exact (hnvs.size_keeps ..).trans (hnvs.open_keeps ..)

/-- Reading a number writes nothing. -/
theorem read_nvs_uint_entry (hnvs : nvs.Documented) (name key : String) (v : UInt32) (s : S) :
    nvs.entry (read_nvs_uint nvs name key v s).2 = nvs.entry s := by
  unfold read_nvs_uint
  simp only
  split_ifs
  · exact hnvs.open_keeps ..
  · exact (hnvs.u32_keeps ..).trans (hnvs.open_keeps ..)

/-- What a successful read leaves in the buffer is what the entry holds, if that fills the buffer. -/
theorem read_nvs_blob_eq (hnvs : nvs.Documented) {bytes : Bytes}
    (hentry : nvs.entry s name key = some (.blob bytes))
    (hbuffer : out_blob.length = bytes.length)
    (hok : (read_nvs_blob nvs name key out_blob max_length s).1.1 = .ESP_OK) :
    (read_nvs_blob nvs name key out_blob max_length s).1.2 = bytes := by
  have hreadable := (read_nvs_blob_ok_iff out_blob).mp hok
  obtain ⟨hopen, hsized, hcases⟩ := hreadable
  have hopened : nvs.entry (nvs.nvs_open s name .NVS_READONLY).2 name key = some (.blob bytes) := by
    rw [hnvs.open_keeps]
    exact hentry
  obtain ⟨found, hfound, hlength⟩ := hnvs.size_ok _ _ _ hsized
  obtain rfl : bytes = found := by
    rw [hopened] at hfound
    exact NvsValue.blob.inj (Option.some.inj hfound)
  unfold read_nvs_blob
  simp only [hopen, ne_eq, not_true_eq_false, if_false, hsized, reduceCtorEq, true_and]
  obtain hzero | ⟨hle, hgot⟩ := hcases
  · rw [if_neg (by omega)]
    have hempty : bytes.length = 0 := by omega
    rw [List.length_eq_zero_iff.mp (hbuffer.trans hempty), List.length_eq_zero_iff.mp hempty]
  · by_cases hpos : (nvs.nvs_get_blob_size (nvs.nvs_open s name .NVS_READONLY).2 name key).1.2 > 0
    · rw [if_pos hpos, if_neg (by omega)]
      have hread := hnvs.blob_ok _ _ _ _ hgot
      rw [hnvs.size_keeps, hopened] at hread
      rw [← NvsValue.blob.inj (Option.some.inj hread), List.drop_eq_nil_of_le (by omega), List.append_nil]
    · rw [if_neg hpos]
      have hempty : bytes.length = 0 := by omega
      rw [List.length_eq_zero_iff.mp (hbuffer.trans hempty), List.length_eq_zero_iff.mp hempty]

/-- A write that the library refuses changes nothing. -/
theorem write_nvs_refused (hnvs : nvs.Documented) (h : WriteRefused nvs name key value st.flash) :
    (write_nvs nvs name key value st).written = st.written ∧
      nvs.entry (write_nvs nvs name key value st).flash = nvs.entry st.flash := by
  unfold write_nvs
  simp only
  by_cases hopen : (nvs.nvs_open st.flash name .NVS_READWRITE).1 ≠ .ESP_OK
  · rw [if_pos hopen]
    exact ⟨rfl, hnvs.open_keeps ..⟩
  · rw [if_neg hopen]
    obtain hfailed | hset := h
    · exact absurd hfailed hopen
    · refine ⟨if_neg hset, ?_⟩
      rw [hnvs.commit_keeps, hnvs.set_refused _ _ _ _ hset, hnvs.open_keeps]

/-- Any other write replaces its entry, and only that one. -/
theorem write_nvs_done (hnvs : nvs.Documented) (h : ¬ WriteRefused nvs name key value st.flash) :
    (write_nvs nvs name key value st).written = st.written ++ [(name, key, value)] ∧
      nvs.entry (write_nvs nvs name key value st).flash = replaced (nvs.entry st.flash) name key value := by
  obtain ⟨hopen, hset⟩ := not_or.mp h
  unfold write_nvs
  simp only
  rw [if_neg hopen]
  refine ⟨if_pos (not_not.mp hset), ?_⟩
  rw [hnvs.commit_keeps, hnvs.set_ok _ _ _ _ (not_not.mp hset), hnvs.open_keeps]

/-- A write is one set, or none that succeeds. -/
theorem write_nvs_written (nvs : NvsLibrary S) (name key : String) (value : NvsValue) (st : Store S) :
    (write_nvs nvs name key value st).written = st.written ∨
      (write_nvs nvs name key value st).written = st.written ++ [(name, key, value)] := by
  unfold write_nvs
  simp only
  split_ifs
  · exact .inl rfl
  · exact .inr rfl
  · exact .inl rfl

@[simp] theorem replaced_self (entries : String → String → Option NvsValue) :
    replaced entries name key value name key = some value := by
  simp [replaced]

/-- A flash that works: the namespaces that have been opened for writing, and the entries. -/
structure Flash where
  namespaces : List String
  entries : String → String → Option NvsValue

/-- The library over a flash that works. -/
def flash : NvsLibrary Flash where
  entry f := f.entries
  nvs_open f name mode :=
    if name ∈ f.namespaces then (.ESP_OK, f)
    else
      match mode with
      | .NVS_READONLY => (.ESP_ERR_NVS_NOT_FOUND, f)
      | .NVS_READWRITE => (.ESP_OK, { f with namespaces := name :: f.namespaces })
  nvs_get_blob_size f name key :=
    match f.entries name key with
    | some (.blob bytes) => ((.ESP_OK, bytes.length), f)
    | some _ => ((.other 0x110f, 0), f)
    | none => ((.ESP_ERR_NVS_NOT_FOUND, 0), f)
  nvs_get_blob f name key n :=
    match f.entries name key with
    | some (.blob bytes) => if bytes.length ≤ n then ((.ESP_OK, bytes), f) else ((.other 0x110c, []), f)
    | some _ => ((.other 0x110f, []), f)
    | none => ((.ESP_ERR_NVS_NOT_FOUND, []), f)
  nvs_get_u32 f name key v :=
    match f.entries name key with
    | some (.u32 value) => ((.ESP_OK, value), f)
    | some _ => ((.other 0x110f, v), f)
    | none => ((.ESP_ERR_NVS_NOT_FOUND, v), f)
  nvs_set f name key value := (.ESP_OK, { f with entries := replaced f.entries name key value })
  nvs_commit f _ := (.ESP_OK, f)

theorem flash_documented : flash.Documented where
  open_keeps s name mode := by
    change (flash.nvs_open s name mode).2.entries = s.entries
    simp only [flash]
    split_ifs
    · rfl
    · cases mode <;> rfl
  size_keeps s name key := by
    change (flash.nvs_get_blob_size s name key).2.entries = s.entries
    simp only [flash]
    split <;> rfl
  blob_keeps s name key n := by
    change (flash.nvs_get_blob s name key n).2.entries = s.entries
    simp only [flash]
    split
    · split_ifs <;> rfl
    · rfl
    · rfl
  u32_keeps s name key v := by
    change (flash.nvs_get_u32 s name key v).2.entries = s.entries
    simp only [flash]
    split <;> rfl
  commit_keeps _ _ := rfl
  set_refused _ _ _ _ h := absurd rfl h
  set_ok _ _ _ _ _ := rfl
  size_ok s name key h := by
    simp only [flash] at h ⊢
    cases hentry : s.entries name key with
    | none =>
      rw [hentry] at h
      cases h
    | some v =>
      rw [hentry] at h
      cases v with
      | blob bytes => exact ⟨bytes, rfl, rfl⟩
      | u32 _ => cases h
      | other _ _ => cases h
  blob_ok s name key n h := by
    simp only [flash] at h ⊢
    cases hentry : s.entries name key with
    | none =>
      rw [hentry] at h
      cases h
    | some v =>
      rw [hentry] at h
      cases v with
      | blob bytes =>
        simp only at h ⊢
        split_ifs at h ⊢
        · rfl
      | u32 _ => cases h
      | other _ _ => cases h

theorem flash_accepts (name key : String) (value : NvsValue) (f : Flash) :
    ¬ WriteRefused flash name key value f := by
  rintro (hopen | hset)
  · refine hopen ?_
    simp only [flash]
    split_ifs <;> rfl
  · exact hset rfl

end catbox.nvs
