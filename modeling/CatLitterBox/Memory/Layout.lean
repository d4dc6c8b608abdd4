import Mathlib.Data.List.Basic
import Mathlib.Tactic.Common

namespace layout

universe u v

/-- The size and the alignment of an object type. -/
structure CType where
  size : Nat
  align : Nat
  size_pos : 0 < size
  align_pos : 0 < align

/-- A scalar that is aligned to its size. -/
def CType.scalar (size : Nat) (h : 0 < size) : CType := ⟨size, size, h, h⟩

/-- An array of characters. -/
def CType.chars (length : Nat) (h : 0 < length) : CType := ⟨length, 1, h, Nat.one_pos⟩

/-- The first multiple of the alignment from a position on. -/
def alignUp (pos align : Nat) : Nat := (pos + (align - 1)) / align * align

private theorem le_alignUp {pos align : Nat} (h : 0 < align) : pos ≤ alignUp pos align := by
  have hdiv : (pos + (align - 1)) / align * align + (pos + (align - 1)) % align = pos + (align - 1) :=
    Nat.div_add_mod' _ _
  have hmod : (pos + (align - 1)) % align < align := Nat.mod_lt _ h
  unfold alignUp
  omega

variable {F : Type u} [DecidableEq F] (type : F → CType)

/-- The offset of a member in a structure whose members are laid out in order from a
position on, each at the next address that its alignment allows. -/
def place : Nat → List F → F → Option Nat
  | _, [], _ => none
  | pos, g :: rest, f =>
    if g = f then some (alignUp pos (type g).align)
    else place (alignUp pos (type g).align + (type g).size) rest f

variable {type} {f g : F} {members : List F} {pos off off' : Nat}

theorem le_of_place (h : place type pos members f = some off) : pos ≤ off := by
  induction members generalizing pos with
  | nil => cases h
  | cons m rest ih =>
    have hle : pos ≤ alignUp pos (type m).align := le_alignUp (type m).align_pos
    unfold place at h
    split_ifs at h with hm
    · obtain rfl := Option.some.inj h
      exact hle
    · have hrest := ih h
      omega

theorem place_of_mem (h : f ∈ members) : ∃ off, place type pos members f = some off := by
  induction members generalizing pos with
  | nil => cases h
  | cons m rest ih =>
    unfold place
    by_cases hm : m = f
    · exact ⟨_, if_pos hm⟩
    · rw [if_neg hm]
      obtain rfl | hrest := List.mem_cons.mp h
      · exact absurd rfl hm
      · exact ih hrest

/-- Two members of a structure do not overlap. -/
theorem place_disjoint (hf : place type pos members f = some off) (hg : place type pos members g = some off')
    (hne : f ≠ g) : off + (type f).size ≤ off' ∨ off' + (type g).size ≤ off := by
  induction members generalizing pos with
  | nil => cases hf
  | cons m rest ih =>
    unfold place at hf hg
    split_ifs at hf hg with hmf hmg
    · exact absurd (hmf.symm.trans hmg) hne
    · subst hmf
      obtain rfl := Option.some.inj hf
      exact .inl (le_of_place hg)
    · subst_vars
      obtain rfl := Option.some.inj hg
      exact .inr (le_of_place hf)
    · exact ih hf hg

/-- Memory, an object of it starting at address 0. -/
abbrev Memory : Type := Nat → UInt8

/-- A value of a type: its bytes. -/
abbrev Value (t : CType) : Type := Fin t.size → UInt8

def Memory.read (m : Memory) (t : CType) (off : Nat) : Value t := fun i => m (off + i)

def Memory.write (m : Memory) {t : CType} (off : Nat) (v : Value t) : Memory := fun a =>
  if h : off ≤ a ∧ a < off + t.size then v ⟨a - off, by omega⟩ else m a

theorem read_write_same (m : Memory) {t : CType} (v : Value t) : (m.write off v).read t off = v := by
  funext i
  have hi : i.val < t.size := i.isLt
  unfold Memory.read Memory.write
  rw [dif_pos ⟨by omega, by omega⟩]
  congr 1
  exact Fin.ext (by simp)

theorem read_write_disjoint (m : Memory) {t t' : CType} (v : Value t)
    (h : off + t.size ≤ off' ∨ off' + t'.size ≤ off) :
    (m.write off v).read t' off' = m.read t' off' := by
  funext i
  have hi : i.val < t'.size := i.isLt
  unfold Memory.read Memory.write
  rw [dif_neg]
  omega

/-- A value read where it has not been written is not always the one written. -/
theorem exists_read_write_ne {t : CType} (h : off ≠ off') :
    ∃ (m : Memory) (v : Value t), (m.write off v).read t off' ≠ v := by
  have hsize : 0 < t.size := t.size_pos
  refine ⟨fun _ => 0, fun _ => 1, ?_⟩
  intro heq
  obtain hlt | hlt := Nat.lt_or_gt_of_ne h
  · have hlast := congrFun heq ⟨t.size - 1, by omega⟩
    unfold Memory.read Memory.write at hlast
    rw [dif_neg (by simp only; omega)] at hlast
    cases hlast
  · have hfirst := congrFun heq ⟨0, hsize⟩
    unfold Memory.read Memory.write at hfirst
    rw [dif_neg (by simp only; omega)] at hfirst
    cases hfirst

section Definitions

variable {D : Type v} (type) (definition : D → List F)

/-- A write of a member through one of several definitions of a structure. -/
structure Write where
  through : D
  field : F
  value : Value (type field)

/-- The offset of a member in one of the definitions. -/
def offset (d : D) (f : F) : Option Nat := place type 0 (definition d) f

def Write.apply (m : Memory) (w : Write (D := D) type) : Memory :=
  match offset type definition w.through w.field with
  | some off => m.write off w.value
  | none => m

/-- The definitions agree on a member: what is written to it last through any of them is
read through every one of them, and a write of another member does not change it. -/
structure Coherent (f : F) : Prop where
  returns : ∀ (m : Memory) (d e : D) (off : Nat) (v : Value (type f)) (later : List (Write (D := D) type)),
    (∀ w ∈ later, w.field ≠ f) → offset type definition e f = some off →
      Memory.read (later.foldl (Write.apply type definition) (Write.apply type definition m ⟨d, f, v⟩))
        (type f) off = v
  keeps : ∀ (m : Memory) (e : D) (off : Nat) (w : Write (D := D) type), w.field ≠ f →
    offset type definition e f = some off →
      Memory.read (w.apply type definition m) (type f) off = m.read (type f) off

variable {type definition}

/-- Definitions that all have a member agree on it exactly if they place it at one offset. -/
theorem coherent_iff (hall : ∀ d, f ∈ definition d) : Coherent type definition f ↔
    ∀ d e, offset type definition d f = offset type definition e f := by
  constructor
  · intro hcoherent d e
    obtain ⟨off, hoff⟩ : ∃ off, place type 0 (definition d) f = some off := place_of_mem (hall d)
    obtain ⟨off', hoff'⟩ : ∃ off, place type 0 (definition e) f = some off := place_of_mem (hall e)
    have hoffset : offset type definition d f = some off := hoff
    by_contra hne
    have hoffs : off ≠ off' := by
      rintro rfl
      exact hne (hoff.trans hoff'.symm)
    obtain ⟨m, v, hread⟩ := exists_read_write_ne (t := type f) hoffs
    have hreturns := hcoherent.returns m d e off' v [] nofun hoff'
    simp only [List.foldl_nil, Write.apply, hoffset] at hreturns
    exact hread hreturns
  · intro hsame
    have hkeeps (m : Memory) (e : D) (off : Nat) (w : Write (D := D) type) (hw : w.field ≠ f)
        (hoff : offset type definition e f = some off) :
        Memory.read (w.apply type definition m) (type f) off = m.read (type f) off := by
      unfold Write.apply
      cases hplace : offset type definition w.through w.field with
      | none => rfl
      | some at_ =>
        have hthere : offset type definition w.through f = some off := (hsame w.through e).trans hoff
        exact read_write_disjoint m w.value (place_disjoint hplace hthere hw)
    constructor
    · intro m d e off v later hlater hoff
      have hstart : Memory.read (Write.apply type definition m ⟨d, f, v⟩) (type f) off = v := by
        have hthere : offset type definition d f = some off := (hsame d e).trans hoff
        simp only [Write.apply, hthere]
        exact read_write_same m v
      generalize Write.apply type definition m ⟨d, f, v⟩ = start at hstart ⊢
      induction later generalizing start with
      | nil => exact hstart
      | cons w later ih =>
        have hw : w.field ≠ f := hlater w List.mem_cons_self
        apply ih (fun w' hw' => hlater w' (List.mem_cons_of_mem w hw')) (w.apply type definition start)
        rw [hkeeps start e off w hw hoff]
        exact hstart
    · exact hkeeps

end Definitions

end layout
