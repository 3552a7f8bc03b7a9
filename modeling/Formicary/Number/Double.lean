import Formicary.Number.Power

/-!
# Double-precision numbers

A double is kept as its 64 bits, so that equality is equality of representations and the value can
be computed on exactly. `Double.parts` takes the bits apart into sign, whole coefficient and binary
exponent; `Double.ofRatio` is the nearest double of a quotient of naturals, a half going to the
even neighbour. Sums, products and quotients are those of the machine.
-/

namespace Formicary

/-- A number in the 64-bit binary interchange format. -/
structure Double where
  /-- The representation: sign, eleven exponent bits, fifty-two fraction bits. -/
  bits : UInt64
  deriving DecidableEq

namespace Double

/-- What a representation stands for. -/
inductive Parts where
  | nan
  | infinite (negative : Bool)
  | finite (negative : Bool) (coefficient : Nat) (exponent : Int)
  deriving DecidableEq

/-- The weight of the lowest exponent bit, below which the fifty-two fraction bits lie. -/
def exponentWeight : Nat := 0x10000000000000

/-- The weight of the sign bit. -/
def signWeight : Nat := 0x8000000000000000

/-- The sign, coefficient and exponent of a double: a finite one is `± coefficient * 2 ^ exponent`
with a coefficient below `2 ^ 53`. -/
def parts (x : Double) : Parts :=
  let n := x.bits.toNat
  let negative : Bool := n / signWeight == 1
  let field : Nat := n / exponentWeight % 2048
  let fraction : Nat := n % exponentWeight
  if field = 2047 then
    if fraction = 0 then .infinite negative else .nan
  else if field = 0 then .finite negative fraction (-1074)
  else .finite negative (exponentWeight + fraction) ((field : Int) - 1075)

/-- The double of a sign and the other 63 bits. -/
def ofSigned (negative : Bool) (magnitude : Nat) : Double :=
  ⟨((if negative then signWeight else 0) + magnitude).toUInt64⟩

/-- The one representation used for an undefined result. -/
def nan : Double := ofSigned false 0x7ff8000000000000

/-- The infinity of a sign. -/
def infinity (negative : Bool) : Double := ofSigned negative (0x7ff * exponentWeight)

/-- The zero of a sign. -/
def zero (negative : Bool) : Double := ofSigned negative 0

/-- Whether a double is undefined. -/
def isNan (x : Double) : Bool := x.parts == .nan

/-- The natural number nearest to `num / den`, a half going to the even neighbour. -/
def roundDiv (num den : Nat) : Nat :=
  let q := num / den
  let twice := 2 * (num % den)
  if twice < den then q else if den < twice then q + 1 else q + q % 2

/-- The exponent `e` with `2 ^ e ≤ num / den < 2 ^ (e + 1)`, for positive `num` and `den`. -/
def binaryExponent (num den : Nat) : Int :=
  let e : Int := (num.log2 : Int) - den.log2
  if num * twoTo (-e).toNat < den * twoTo e.toNat then e - 1 else e

/-- The double nearest to `num / den` with the given sign. Quotients beyond the largest finite
double go to infinity. -/
def ofRatio (negative : Bool) (num den : Nat) : Double :=
  if num = 0 then zero negative
  else
    let q := max (binaryExponent num den - 52) (-1074)
    let m := roundDiv (num * twoTo (-q).toNat) (den * twoTo q.toNat)
    ofSigned negative (min ((q + 1074).toNat * exponentWeight + m) (0x7ff * exponentWeight))

/-- The double nearest to an integer. -/
def ofInt (n : Int) : Double := ofRatio (n < 0) n.natAbs 1

/-- The double nearest to `± coefficient * 10 ^ exponent`. Numbers too large or too small for any
rounding to matter are settled by their decimal length. -/
def ofDecimal (negative : Bool) (coefficient : Nat) (exponent : Int) : Double :=
  if coefficient = 0 then zero negative
  else
    let length := (Nat.toDigits 10 coefficient).length
    if 400 < length + exponent then infinity negative
    else if length + exponent < -400 then zero negative
    else ofRatio negative (coefficient * tenTo exponent.toNat) (tenTo (-exponent).toNat)

/-- The double with the same value as a machine number, undefined ones in the one representation. -/
def ofFloat (x : Float) : Double := if x.isNaN then nan else ⟨x.toBits⟩

/-- The machine number of a double. -/
def toFloat (x : Double) : Float := Float.ofBits x.bits

instance : Add Double := ⟨fun x y => ofFloat (x.toFloat + y.toFloat)⟩
instance : Sub Double := ⟨fun x y => ofFloat (x.toFloat - y.toFloat)⟩
instance : Mul Double := ⟨fun x y => ofFloat (x.toFloat * y.toFloat)⟩
instance : Div Double := ⟨fun x y => ofFloat (x.toFloat / y.toFloat)⟩
instance : Neg Double := ⟨fun x => ofFloat (-x.toFloat)⟩
instance : Zero Double := ⟨zero false⟩

example : (ofDecimal false 1 (-1)).bits = 0x3fb999999999999a := by decide +kernel
example : (ofDecimal true 5 (-324)).parts = .finite true 1 (-1074) := by decide +kernel
example : ofDecimal false 1 400 = infinity false := by decide +kernel
example : (ofInt 0x20000000000001).parts = .finite false 0x10000000000000 1 := by decide +kernel

end Double

end Formicary
