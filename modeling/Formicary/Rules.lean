import Formicary.Config

/-!
# The rules of a board

The rules are the tuning of a configuration as a board uses it. Amounts of energy are kept as they
were written, and what cannot be reckoned with shows only where an ant needs it; the growth chance
is exact. A gene length has to be written as an integer, and one that is not leaves the board
without a length to draw genes of.
-/

namespace Formicary

/-- The tuning that a board lives by. -/
structure Rules where
  /-- The length of drawn genes, if there is one. -/
  geneLength : Option Nat
  /-- The energy of a new ant. -/
  initialEnergy : Value
  /-- The energy of a meal. -/
  foodEnergy : Value
  /-- Above this energy an ant splits. -/
  splitEnergy : Value
  /-- What a move, a meal and an attack cost. -/
  actionCost : Value
  /-- What the energy of an attacker is divided by for the damage. -/
  attackDivisor : Value
  /-- The chance that an empty cell grows food in a tick. -/
  growthChance : Rat

namespace Rules

/-- The exact value of a number, zero for what has none. -/
def exact (v : Value) : Rat :=
  match v.quantity? with
  | some (.exact r) => r
  | _ => 0

/-- The rules of a configuration. -/
def ofConfig (c : Config) : Rules where
  geneLength := (c.value .geneLength).integer?.map Int.toNat
  initialEnergy := c.value .initialEnergy
  foodEnergy := c.value .foodEnergy
  splitEnergy := c.value .splitEnergy
  actionCost := c.value .actionCost
  attackDivisor := c.value .attackDivisor
  growthChance := exact (c.value .foodGrowthChance)

end Rules

end Formicary
