/-! # Growth rules

A growth rule names, for a capacity, the capacity that comes after it. Capacities are 64-bit words; a rule
may be any function on them, so nothing here assumes that it increases. Products and sums that leave the
range stop at its end.
-/
namespace BytecodeStore

/-- A rule that says which capacity follows a given one. -/
class GrowthRule (ρ : Type) where
  after : ρ → UInt64 → UInt64

/-- The largest capacity, and the largest number of elements that can be counted. -/
def maxCount : Nat := 0xFFFFFFFFFFFFFFFF

/-- The word nearest to `n`: `n` itself, or the largest word. -/
def saturate (n : Nat) : UInt64 := UInt64.ofNat (min n maxCount)

@[simp] theorem toNat_saturate (n : Nat) : (saturate n).toNat = min n maxCount := by
  have : min n maxCount < 2 ^ 64 := Nat.lt_of_le_of_lt (Nat.min_le_right _ _) (by decide)
  simp only [saturate, UInt64.toNat_ofNat']
  exact Nat.mod_eq_of_lt this

theorem toNat_le_maxCount (c : UInt64) : c.toNat ≤ maxCount := by
  have := c.toNat_lt
  unfold maxCount
  omega

/-- Every function on words is a growth rule. -/
instance : GrowthRule (UInt64 → UInt64) where
  after rule := rule

def standardMinimum : UInt64 := 8

def standardFactor : UInt64 := 2

/-- Geometric growth: `minimum` below the floor, `factor` times the capacity from there on. -/
structure Doubling where
  minimum : UInt64 := standardMinimum
  factor : UInt64 := standardFactor
deriving DecidableEq, Repr, Inhabited

namespace Doubling

def after (p : Doubling) (current : UInt64) : UInt64 :=
  if current < p.minimum then p.minimum else saturate (current.toNat * p.factor.toNat)

def standard : Doubling := {}

instance : GrowthRule Doubling where
  after := after

end Doubling

structure FixedStep where
  slots : UInt64
deriving DecidableEq, Repr

namespace FixedStep

def after (p : FixedStep) (current : UInt64) : UInt64 := saturate (current.toNat + p.slots.toNat)

instance : GrowthRule FixedStep where
  after := after

end FixedStep

/-- Growth read off a list of rows: the first row for the current capacity decides. -/
structure Schedule where
  rows : List (UInt64 × UInt64)
  otherwise : UInt64
deriving DecidableEq, Repr

namespace Schedule

def after (p : Schedule) (current : UInt64) : UInt64 := (p.rows.lookup current).getD p.otherwise

instance : GrowthRule Schedule where
  after := after

end Schedule

/-- The growth rules that can be written down as data. -/
inductive AnyRule where
  | doubling (rule : Doubling)
  | fixedStep (rule : FixedStep)
  | schedule (rule : Schedule)
deriving DecidableEq, Repr

namespace AnyRule

def after : AnyRule → UInt64 → UInt64
  | .doubling p, c => p.after c
  | .fixedStep p, c => p.after c
  | .schedule p, c => p.after c

instance : GrowthRule AnyRule where
  after := after

end AnyRule

/-- The standard growth of a bare capacity, which needs no rule value at hand. -/
def grownCapacity (current : UInt64) : UInt64 :=
  if current < standardMinimum then standardMinimum else saturate (current.toNat * standardFactor.toNat)

/-- The first `steps` capacities that follow `current` under standard growth. -/
def grownCapacities (current : UInt64) : (steps : Nat) → List UInt64
  | 0 => []
  | steps + 1 => grownCapacity current :: grownCapacities (grownCapacity current) steps

end BytecodeStore
