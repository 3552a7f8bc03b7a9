import Formicary.Number.Double

/-!
# Numbers with a fixed number of places

`Double.fixed` writes the exact value of a double with a given number of digits after the point,
rounded to nearest with halves going to the even neighbour. The sign of the double is kept, also
when every digit is zero. `padLeft` and `padRight` widen a text with blanks.
-/

namespace Formicary

namespace Double

/-- The digits of `units / 10 ^ places`, with at least one digit before the point. -/
def fixedDigits (places units : Nat) : List Char :=
  let ds := Nat.toDigits 10 units
  let padded := List.replicate (places + 1 - ds.length) '0' ++ ds
  let whole := padded.length - places
  if places = 0 then padded else padded.take whole ++ '.' :: padded.drop whole

/-- The value of a double with `places` digits after the point. -/
def fixed (places : Nat) (x : Double) : String :=
  match x.parts with
  | .nan => "nan"
  | .infinite negative => if negative then "-inf" else "inf"
  | .finite negative m q =>
    let units := roundDiv (m * twoTo q.toNat * tenTo places) (twoTo (-q).toNat)
    let body := fixedDigits places units
    String.ofList (if negative then '-' :: body else body)

end Double

/-- A text with blanks in front up to a width. -/
def padLeft (width : Nat) (text : String) : String :=
  String.ofList (List.replicate (width - text.length) ' ') ++ text

/-- A text with blanks behind up to a width. -/
def padRight (width : Nat) (text : String) : String :=
  text ++ String.ofList (List.replicate (width - text.length) ' ')

example : Double.fixed 1 (Double.ofRatio false 1 4) = "0.2" := by decide +kernel
example : Double.fixed 3 (Double.ofRatio true 1 100000) = "-0.000" := by decide +kernel

end Formicary
