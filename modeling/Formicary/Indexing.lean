/-!
# Places on a row

Where a row of cells may be addressed by any integer, an index below zero counts from the end. An
index that leaves the row on either side has no place.
-/

namespace Formicary

/-- The place on a row of the given length that an integer stands for. -/
def place? (length : Nat) (i : Int) : Option Nat :=
  if 0 ≤ i then (if i < length then some i.toNat else none)
  else if -(length : Int) ≤ i then some (i + length).toNat else none

/-- Whether an integer is within the range of indices at all. -/
def addressable (i : Int) : Bool := -0x8000000000000000 ≤ i && i < 0x8000000000000000

theorem place?_natCast {length n : Nat} (h : n < length) : place? length n = some n := by
  simp [place?, h]

end Formicary
