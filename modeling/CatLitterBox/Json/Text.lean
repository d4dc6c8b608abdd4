import CatLitterBox.Json.Basic
import Mathlib.Data.List.TakeWhile

open text

namespace json

/-- Text that a string of JSON holds as it is: neither control characters, nor quotes, nor backslashes. -/
def Plain (text : Bytes) : Prop := ∀ c ∈ text, 32 ≤ c ∧ c ≠ 34 ∧ c ≠ 92

instance (text : Bytes) : Decidable (Plain text) :=
  List.decidableBAll (fun c => 32 ≤ c ∧ c ≠ 34 ∧ c ≠ 92) text

abbrev PlainText := { text : Bytes // Plain text }

mutual

/-- A value made of plain strings and of objects that are not empty. -/
inductive Doc where
  | string (text : PlainText)
  | object (members : Members)

inductive Members where
  | one (name : PlainText) (value : Doc)
  | more (name : PlainText) (value : Doc) (others : Members)

end

/-- A string between its quotes. -/
def quote (text : Bytes) : Bytes := 34 :: text ++ [34]

mutual

/-- The text of a value, without white space. -/
def Doc.render : Doc → Bytes
  | .string text => quote text.1
  | .object members => 123 :: members.render ++ [125]

def Members.render : Members → Bytes
  | .one name value => quote name.1 ++ 58 :: value.render
  | .more name value others => quote name.1 ++ 58 :: value.render ++ 44 :: others.render

end

mutual

def Doc.value : Doc → cJSON
  | .string text => .string text.1
  | .object members => .object members.values

def Members.values : Members → List (Bytes × cJSON)
  | .one name value => [(name.1, value.value)]
  | .more name value others => (name.1, value.value) :: others.values

end

mutual

/-- How deep the objects of a value are nested. -/
def Doc.depth : Doc → Nat
  | .string _ => 0
  | .object members => members.depth + 1

def Members.depth : Members → Nat
  | .one _ value => value.depth
  | .more _ value others => max value.depth others.depth

end

def plainChar (c : UInt8) : Bool := 32 ≤ c ∧ c ≠ 34 ∧ c ≠ 92

private theorem plain_takeWhile (text : Bytes) : Plain (text.takeWhile plainChar) := by
  intro c hc
  simpa [plainChar] using List.mem_takeWhile_imp hc

/-- A quoted string, and what follows it. -/
def unquote : Bytes → Option (PlainText × Bytes)
  | 34 :: text =>
    match text.dropWhile plainChar with
    | 34 :: rest => some (⟨text.takeWhile plainChar, plain_takeWhile text⟩, rest)
    | _ => none
  | _ => none

mutual

/-- The value at the start of a text, and what follows it. -/
def read_value : Nat → Bytes → Option (Doc × Bytes)
  | 0, _ => none
  | fuel + 1, 123 :: text =>
    match read_members fuel text with
    | some (members, 125 :: rest) => some (.object members, rest)
    | _ => none
  | _ + 1, text => (unquote text).map fun read => (.string read.1, read.2)

def read_members : Nat → Bytes → Option (Members × Bytes)
  | 0, _ => none
  | fuel + 1, text =>
    match unquote text with
    | some (name, 58 :: text) =>
      match read_value fuel text with
      | some (value, 44 :: text) =>
        (read_members fuel text).map fun read => (.more name value read.1, read.2)
      | some (value, rest) => some (.one name value, rest)
      | none => none
    | _ => none

end

/-- A parser of these values, which takes nothing but their texts. -/
def read (text : Bytes) : Option cJSON :=
  match read_value text.length text with
  | some (doc, _) => if doc.render = text then some doc.value else none
  | none => none

/-- A quoted text is read back, and what follows it is left. -/
theorem unquote_quote (text : PlainText) (rest : Bytes) : unquote (quote text.1 ++ rest) = some (text, rest) := by
  obtain ⟨text, htext⟩ := text
  have hplain : ∀ c ∈ text, plainChar c = true := by
    intro c hc
    simpa [plainChar] using htext c hc
  have hquote : plainChar 34 = false := rfl
  simp [quote, unquote, List.dropWhile_append_of_pos hplain, List.takeWhile_append_of_pos hplain, hquote]

mutual

/-- The text of a value reads as that value, whatever follows it. -/
theorem read_value_render (doc : Doc) (fuel : Nat) (rest : Bytes) (h : doc.render.length ≤ fuel) :
    read_value fuel (doc.render ++ rest) = some (doc, rest) := by
  cases fuel with
  | zero => cases doc <;> simp [Doc.render, quote] at h
  | succ fuel =>
    cases doc with
    | string text =>
      have hread : read_value (fuel + 1) ((Doc.string text).render ++ rest) =
          (unquote (quote text.1 ++ rest)).map fun read => (.string read.1, read.2) := rfl
      rw [hread, unquote_quote, Option.map_some]
    | object members =>
      have hshort : members.render.length ≤ fuel := by
        simp only [Doc.render, List.length_append, List.length_cons] at h
        omega
      have hmembers := read_members_render members fuel rest hshort
      simp [Doc.render, read_value, hmembers]

/-- The members are read back, and what follows the object is left. -/
theorem read_members_render (members : Members) (fuel : Nat) (rest : Bytes) (h : members.render.length ≤ fuel) :
    read_members fuel (members.render ++ 125 :: rest) = some (members, 125 :: rest) := by
  cases fuel with
  | zero => cases members <;> simp [Members.render, quote] at h
  | succ fuel =>
    cases members with
    | one name value =>
      have hshort : value.render.length ≤ fuel := by
        simp only [Members.render, List.length_append, List.length_cons] at h
        omega
      have hvalue := read_value_render value fuel (125 :: rest) hshort
      simp [Members.render, read_members, unquote_quote, hvalue]
    | more name value others =>
      have hshort : value.render.length + others.render.length ≤ fuel := by
        simp only [Members.render, List.length_append, List.length_cons] at h
        omega
      have hvalue := read_value_render value fuel (44 :: (others.render ++ 125 :: rest)) (by omega)
      have hothers := read_members_render others fuel rest (by omega)
      simp [Members.render, read_members, unquote_quote, hvalue, hothers]

end

/-- No text of a value begins another one. -/
theorem render_prefix {doc other : Doc} {rest : Bytes} (h : doc.render = other.render ++ rest) : rest = [] := by
  have hdoc := read_value_render doc doc.render.length [] le_rfl
  have hshort : other.render.length ≤ doc.render.length := by
    rw [h, List.length_append]
    exact Nat.le_add_right ..
  rw [List.append_nil, h, read_value_render other _ rest (h ▸ hshort)] at hdoc
  exact (Prod.mk.inj (Option.some.inj hdoc)).2

/-- What is rendered is read back. -/
theorem read_render (doc : Doc) : read doc.render = some doc.value := by
  have hdoc := read_value_render doc doc.render.length [] le_rfl
  rw [List.append_nil] at hdoc
  simp [read, hdoc]

/-- A text that lacks its end is not read. -/
theorem read_cut (doc : Doc) {n : Nat} (h : n < doc.render.length) : read (doc.render.take n) = none := by
  unfold read
  split
  · next other _ _ =>
    rw [if_neg]
    intro hother
    have hsplit : doc.render = other.render ++ doc.render.drop n := by rw [hother, List.take_append_drop]
    have hnone := render_prefix hsplit
    rw [List.drop_eq_nil_iff] at hnone
    omega
  · rfl

theorem printable_quote {text : PlainText} {c : UInt8} (h : c ∈ quote text.1) : 32 ≤ c := by
  simp only [quote, List.mem_append, List.mem_cons, List.not_mem_nil, or_false] at h
  rcases h with (rfl | h) | rfl
  · decide
  · exact (text.2 c h).1
  · decide

mutual

/-- The text of a value holds no control characters. -/
theorem printable_render (doc : Doc) {c : UInt8} (h : c ∈ doc.render) : 32 ≤ c := by
  cases doc with
  | string text => exact printable_quote h
  | object members =>
    simp only [Doc.render, List.mem_append, List.mem_cons, List.not_mem_nil, or_false] at h
    rcases h with (rfl | h) | rfl
    · decide
    · exact printable_members members h
    · decide

theorem printable_members (members : Members) {c : UInt8} (h : c ∈ members.render) : 32 ≤ c := by
  cases members with
  | one name value =>
    simp only [Members.render, List.mem_append, List.mem_cons] at h
    rcases h with h | rfl | h
    · exact printable_quote h
    · decide
    · exact printable_render value h
  | more name value others =>
    simp only [Members.render, List.mem_append, List.mem_cons] at h
    rcases h with (h | rfl | h) | rfl | h
    · exact printable_quote h
    · decide
    · exact printable_render value h
    · decide
    · exact printable_members others h

end

/-- A rendered text has no zero byte, so it is a C string as it stands. -/
theorem nul_not_mem_render (doc : Doc) : 0 ∉ doc.render :=
  fun h => absurd (printable_render doc h) (by decide)

end json
