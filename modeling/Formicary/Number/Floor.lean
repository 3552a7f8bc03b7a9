import Formicary.Number.Double

/-!
# Floor division of doubles

The quotient of two doubles rounded down to a whole number. The exact remainder is taken off first,
so that what is left to divide is a multiple of the divisor up to rounding, and the result is the
whole number that the machine quotient of the two comes closest to. A quotient of zero keeps its
sign.
-/

namespace Formicary.Double

/-- Whether the sign of a double is a minus; undefined results have none. -/
def isNegative (x : Double) : Bool := x.bits.toNat / signWeight == 1

/-- Whether a double is one of the two zeros. -/
def isZero (x : Double) : Bool :=
  match x.parts with
  | .finite _ 0 _ => true
  | _ => false

/-- The magnitude of a double. -/
def magnitude (x : Double) : Double := if x.isNan then nan else ⟨x.bits &&& 0x7fffffffffffffff⟩

/-- What is left of `x` after whole multiples of `y` have been taken off, with the sign of `x`. -/
def remainder (x y : Double) : Double :=
  match x.parts, y.parts with
  | .finite negative m p, .finite _ n q =>
    if n = 0 then nan
    else
      let low := min p q
      let left := m * twoTo (p - low).toNat % (n * twoTo (q - low).toNat)
      ofRatio negative (left * twoTo low.toNat) (twoTo (-low).toNat)
  | .finite _ _ _, .infinite _ => x
  | _, _ => nan

/-- The greatest whole number that is at most `x`. -/
def floor (x : Double) : Double :=
  match x.parts with
  | .finite negative m q =>
    let whole := Int.fdiv ((if negative then -1 else 1) * m * twoTo q.toNat) (twoTo (-q).toNat)
    if whole = 0 then zero negative else ofInt whole
  | _ => x

/-- The quotient of `x` by a nonzero `y`, rounded down. -/
def floorDiv (x y : Double) : Double :=
  let left := x.remainder y
  let exact := (x - left) / y
  let quotient :=
    if !left.isZero && left.isNegative != y.isNegative && !left.isNan then exact - ofInt 1
    else exact
  if quotient.isZero then zero (x / y).isNegative
  else
    let under := quotient.floor
    match (quotient - under).parts with
    | .finite false m q =>
      if twoTo (-q).toNat < 2 * m * twoTo q.toNat then under + ofInt 1 else under
    | _ => under

example : remainder (ofRatio false 15 2) (ofInt (-2)) = ofRatio false 3 2 := by decide +kernel
example : floor (ofRatio true 15 2) = ofInt (-8) := by decide +kernel

end Formicary.Double
