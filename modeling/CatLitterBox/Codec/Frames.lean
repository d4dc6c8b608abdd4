import Mathlib.Data.List.Infix

namespace frames

variable {α : Type}

/-- The size of a frame is read from its front, and what follows the front does not change it. -/
def Stable (size : List α → Option Nat) : Prop :=
  ∀ bytes n, size bytes = some n → ∀ more, size (bytes ++ more) = some n

/-- A whole frame. -/
structure Frame (size : List α → Option Nat) (f : List α) : Prop where
  size_eq : size f = some f.length
  nonempty : f ≠ []

/-- A stream is whole frames, one behind the other, and a rest. -/
structure Cut (size : List α → Option Nat) (stream : List α) (fs : List (List α)) (rest : List α) : Prop where
  whole : ∀ f ∈ fs, Frame size f
  stream_eq : stream = fs.flatten ++ rest

/-- There is no whole frame in front. -/
def Partial (size : List α → Option Nat) (rest : List α) : Prop := ∀ f more, rest = f ++ more → ¬ Frame size f

variable {size : List α → Option Nat} {stream rest rest' f : List α} {fs gs : List (List α)}

/-- No chunk and no frame: the whole stream is the rest. -/
theorem Cut.nil (size : List α → Option Nat) (stream : List α) : Cut size stream [] stream :=
  ⟨fun _ h => absurd h List.not_mem_nil, rfl⟩

/-- The stream goes on. -/
theorem Cut.receive (h : Cut size stream fs rest) (data : List α) :
    Cut size (stream ++ data) fs (rest ++ data) where
  whole := h.whole
  stream_eq := by rw [h.stream_eq, List.append_assoc]

/-- A whole frame is cut off the rest. -/
theorem Cut.frame (h : Cut size stream fs (f ++ rest)) (hf : Frame size f) :
    Cut size stream (fs ++ [f]) rest where
  whole := by
    intro g hg
    rcases List.mem_append.mp hg with hg | hg
    · exact h.whole g hg
    · rwa [List.mem_singleton.mp hg]
  stream_eq := by rw [h.stream_eq, List.flatten_append, List.flatten_singleton, List.append_assoc]

/-- Of two frames in front of one stream, each is the other. -/
theorem Frame.unique {g more more' : List α} (hstable : Stable size) (hf : Frame size f) (hg : Frame size g)
    (h : f ++ more = g ++ more') : f = g ∧ more = more' := by
  have hfirst := hstable f f.length hf.size_eq more
  have hsecond := hstable g g.length hg.size_eq more'
  rw [h, hsecond] at hfirst
  exact List.append_inj h (Option.some.inj hfirst).symm

/-- There is no whole frame where the size is not known, or is more than there is. -/
theorem partial_of_short (hstable : Stable size) (h : ∀ n, size rest = some n → rest.length < n) :
    Partial size rest := by
  rintro f more rfl hf
  have hshort := h f.length (hstable f f.length hf.size_eq more)
  rw [List.length_append] at hshort
  omega

private theorem prefix_or_of_flatten (hstable : Stable size) (hfs : ∀ f ∈ fs, Frame size f)
    (hgs : ∀ g ∈ gs, Frame size g)
    (h : fs.flatten ++ rest = gs.flatten ++ rest') : fs <+: gs ∨ gs <+: fs := by
  induction fs generalizing gs with
  | nil => exact .inl List.nil_prefix
  | cons f fs ih =>
    cases gs with
    | nil => exact .inr List.nil_prefix
    | cons g gs =>
      rw [List.forall_mem_cons] at hfs hgs
      rw [List.flatten_cons, List.flatten_cons, List.append_assoc, List.append_assoc] at h
      obtain ⟨rfl, hmore⟩ := hfs.1.unique hstable hgs.1 h
      rw [List.cons_prefix_cons, List.cons_prefix_cons]
      rcases ih hfs.2 hgs.2 hmore with hle | hge
      · exact .inl ⟨rfl, hle⟩
      · exact .inr ⟨rfl, hge⟩

/-- Two cuts of what two have read of one stream go together as far as both do. -/
theorem Cut.prefix_or {stream' all : List α} (hstable : Stable size) (h : Cut size stream fs rest)
    (h' : Cut size stream' gs rest') (hle : stream <+: all) (hle' : stream' <+: all) :
    fs <+: gs ∨ gs <+: fs := by
  obtain ⟨more, rfl⟩ := hle
  obtain ⟨more', hmore⟩ := hle'
  rw [h.stream_eq, h'.stream_eq, List.append_assoc, List.append_assoc] at hmore
  exact prefix_or_of_flatten hstable h.whole h'.whole hmore.symm

private theorem prefix_of_partial (hstable : Stable size) (hfs : ∀ f ∈ fs, Frame size f) (hgs : ∀ g ∈ gs, Frame size g)
    (hrest : Partial size rest) (h : fs.flatten ++ rest = gs.flatten ++ rest') : gs <+: fs := by
  induction fs generalizing gs with
  | nil =>
    cases gs with
    | nil => exact List.prefix_rfl
    | cons g gs =>
      rw [List.flatten_nil, List.nil_append, List.flatten_cons, List.append_assoc] at h
      exact absurd (hgs g List.mem_cons_self) (hrest g _ h)
  | cons f fs ih =>
    cases gs with
    | nil => exact List.nil_prefix
    | cons g gs =>
      rw [List.forall_mem_cons] at hfs hgs
      rw [List.flatten_cons, List.flatten_cons, List.append_assoc, List.append_assoc] at h
      obtain ⟨rfl, hmore⟩ := hfs.1.unique hstable hgs.1 h
      rw [List.cons_prefix_cons]
      exact ⟨rfl, ih hfs.2 hgs.2 hmore⟩

/-- A cut that leaves no whole frame has every frame of the stream. -/
theorem Cut.longest (hstable : Stable size) (h : Cut size stream fs rest) (hrest : Partial size rest)
    (h' : Cut size stream gs rest') : gs <+: fs :=
  prefix_of_partial hstable h.whole h'.whole hrest (h.stream_eq.symm.trans h'.stream_eq)

end frames
