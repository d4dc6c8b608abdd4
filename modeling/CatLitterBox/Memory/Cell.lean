import Mathlib.Logic.Relation
import Mathlib.Order.Nat

namespace memory

universe u

/-- A cell that is set by some tasks and carried on by another: this one loads the value, and stores a value that
it has computed from it later. With the value goes where it comes from. -/
structure Cell (V : Type u) where
  value : V
  /-- The value that the cell was set to last. -/
  base : V
  /-- How many times it has been set. -/
  count : Nat
  /-- The number of the setting that the value comes from. -/
  origin : Nat
  loaded : V
  loadedOrigin : Nat
  /-- It has been set since it was loaded. -/
  overtaken : Bool

namespace Cell

variable {V : Type u}

def boot (v : V) : Cell V := ⟨v, v, 0, 0, v, 0, false⟩

def set (c : Cell V) (v : V) : Cell V :=
  { c with value := v, base := v, count := c.count + 1, origin := c.count + 1, overtaken := true }

def load (c : Cell V) : Cell V := { c with loaded := c.value, loadedOrigin := c.origin, overtaken := false }

/-- A value computed from the loaded one is stored. -/
def store (c : Cell V) (v : V) : Cell V := { c with value := v, origin := c.loadedOrigin }

/-- The value is the one that was set last, or has been computed from it. -/
def Current (c : Cell V) : Prop := c.origin = c.count

instance (c : Cell V) : Decidable c.Current := inferInstanceAs (Decidable (c.origin = c.count))

/-- What is recorded fits together, where what is stored is a successor of what was loaded. -/
structure Sound (next : V → V → Prop) (c : Cell V) : Prop where
  origin : c.origin ≤ c.count
  overtaken : c.overtaken = true → c.loadedOrigin < c.count
  latest : c.overtaken = false → c.loadedOrigin = c.origin
  value : c.origin = c.count → Relation.ReflTransGen next c.base c.value
  loaded : c.loadedOrigin = c.count → Relation.ReflTransGen next c.base c.loaded

variable {next : V → V → Prop} {c : Cell V} {v : V}

theorem Sound.loadedOrigin (h : c.Sound next) : c.loadedOrigin ≤ c.count := by
  cases hovertaken : c.overtaken with
  | false => exact (h.latest hovertaken).trans_le h.origin
  | true => exact (h.overtaken hovertaken).le

theorem sound_boot : (boot v).Sound next where
  origin := le_rfl
  overtaken := nofun
  latest := fun _ => rfl
  value := fun _ => .refl
  loaded := fun _ => .refl

/-- A value that is set is an origin of its own. -/
theorem Sound.set (h : c.Sound next) : (c.set v).Sound next where
  origin := le_rfl
  overtaken := fun _ => Nat.lt_succ_of_le h.loadedOrigin
  latest := nofun
  value := fun _ => .refl
  loaded := fun heq => absurd heq (Nat.lt_succ_of_le h.loadedOrigin).ne

/-- A load records what it finds. -/
theorem Sound.load (h : c.Sound next) : c.load.Sound next where
  origin := h.origin
  overtaken := nofun
  latest := fun _ => rfl
  value := h.value
  loaded := h.value

/-- A store of a successor fits what was loaded. -/
theorem Sound.store (h : c.Sound next) (hnext : next c.loaded v) : (c.store v).Sound next where
  origin := h.loadedOrigin
  overtaken := h.overtaken
  latest := fun _ => rfl
  value := fun heq => (h.loaded heq).tail hnext
  loaded := h.loaded

theorem current_set : (c.set v).Current := rfl

/-- A store leaves the cell with the latest setting exactly if the cell has not been set since it was
loaded. -/
theorem Sound.current_store_iff (h : c.Sound next) (hcurrent : c.Current) :
    (c.store v).Current ↔ c.overtaken = false := by
  constructor
  · intro hstored
    by_contra hovertaken
    exact (h.overtaken (eq_true_of_ne_false hovertaken)).ne hstored
  · intro hlatest
    exact (h.latest hlatest).trans hcurrent

end Cell

end memory
