import Formicary.Number.Double

/-!
# The shortest decimal that reads back

Among the decimals that round to a given finite double, `Double.shortest` takes one with the fewest
digits, and of those the nearest to the double. The search works on exact integers: the reals that
round to `m * 2 ^ q` form an interval whose ends are quarter units away, and on the grid of
multiples of `10 ^ k` only the two neighbours of the value have to be tried.

`Double.text` lays the digits out: positional notation for decimal exponents from -4 to 15 with at
least one digit after the point, otherwise one digit before the point and a signed exponent of at
least two digits.
-/

namespace Formicary

/-- The number `coefficient * 10 ^ exponent`. -/
structure Decimal where
  /-- The digits, as a whole number. -/
  coefficient : Nat
  /-- The power of ten of the last digit. -/
  exponent : Int
  deriving DecidableEq

namespace Decimal

/-- The same number without trailing zero digits; `limit` bounds how many are dropped. -/
def trim : Nat → Decimal → Decimal
  | 0, d => d
  | limit + 1, d =>
    if d.coefficient ≠ 0 ∧ d.coefficient % 10 = 0 then
      trim limit ⟨d.coefficient / 10, d.exponent + 1⟩
    else d

/-- The digits of the coefficient. -/
def digits (d : Decimal) : List Char := Nat.toDigits 10 d.coefficient

end Decimal

namespace Double

/-- The exponent `e` with `10 ^ e ≤ num / den < 10 ^ (e + 1)`, for positive `num` and `den`. -/
def decimalExponent (num den : Nat) : Int :=
  if den ≤ num then ((Nat.toDigits 10 (num / den)).length : Int) - 1
  else -((Nat.toDigits 10 ((den + num - 1) / num - 1)).length : Int)

/-- The neighbour of `m * 2 ^ q` on the grid of multiples of `10 ^ k` that rounds to it, if one
does: the nearer of two, the even one of two equally near. -/
def onGrid? (m : Nat) (q k : Int) : Option Decimal :=
  let scale (a : Nat) : Nat := a * twoTo (q - 2).toNat * tenTo (-k).toNat
  let step : Nat := tenTo k.toNat * twoTo (2 - q).toNat
  let value := scale (4 * m)
  let low := scale (4 * m - (if m = exponentWeight ∧ -1074 < q then 1 else 2))
  let high := scale (4 * m + 2)
  let inside (c : Nat) : Bool :=
    if m % 2 = 0 then low ≤ c * step && c * step ≤ high else low < c * step && c * step < high
  let under := value / step
  let below := value - under * step
  let above := (under + 1) * step - value
  match inside under, inside (under + 1) with
  | true, true =>
    if below < above ∨ (below = above ∧ under % 2 = 0) then some ⟨under, k⟩ else some ⟨under + 1, k⟩
  | true, false => some ⟨under, k⟩
  | false, true => some ⟨under + 1, k⟩
  | false, false => none

/-- The shortest decimal that rounds to `m * 2 ^ q`, for a positive `m`. Seventeen digits always
suffice. -/
def shortest (m : Nat) (q : Int) : Decimal :=
  let e := decimalExponent (m * twoTo q.toNat) (twoTo (-q).toNat)
  let found := (List.range 17).findSome? fun n : Nat => onGrid? m q (e - (n : Int))
  (found.getD ⟨0, 0⟩).trim 20

/-- The lowest and highest decimal exponents that are written positionally. -/
def positional : Int × Int := (-4, 15)

/-- The written form of an unsigned decimal. -/
def layout (d : Decimal) : List Char :=
  let ds := d.digits
  let point := d.exponent + ds.length
  let e := point - 1
  if positional.1 ≤ e ∧ e ≤ positional.2 then
    if point ≤ 0 then '0' :: '.' :: (List.replicate (-point).toNat '0' ++ ds)
    else if ds.length ≤ point then ds ++ List.replicate (point - ds.length).toNat '0' ++ ['.', '0']
    else ds.take point.toNat ++ '.' :: ds.drop point.toNat
  else
    let mantissa := if ds.length ≤ 1 then ds else ds.take 1 ++ '.' :: ds.drop 1
    let size := Nat.toDigits 10 e.natAbs
    mantissa ++ 'e' :: (if e < 0 then '-' else '+') ::
      (List.replicate (2 - size.length) '0' ++ size)

/-- The shortest text that reads back as the double. -/
def text (x : Double) : String :=
  match x.parts with
  | .nan => "nan"
  | .infinite negative => if negative then "-inf" else "inf"
  | .finite negative m q =>
    let body := if m = 0 then ['0', '.', '0'] else layout (shortest m q)
    String.ofList (if negative then '-' :: body else body)

end Double

end Formicary
