import Formicary.Number.Double
import Formicary.Text.Digit

/-!
# Reading decimal numbers

`Double.read?` reads an optional sign, then digits with an optional point and an optional decimal
exponent, or one of the words for infinity and the undefined value in any case. The result is the
nearest double. `Double.ofText?` takes numerals as people write them: digits of any script, blanks
at the ends, and single marks between digits. `digitsOfText?` finds the digits of natural numbers in
the same way.
-/

namespace Formicary

/-- The value of a run of digits in a base of at most sixteen; other characters count as zero. -/
def numeral (base : Nat) (digits : List Char) : Nat :=
  digits.foldl (fun n c =>
    let d :=
      if c.isDigit then c.toNat - '0'.toNat
      else if 'a' ≤ c ∧ c ≤ 'f' then c.toNat - 'a'.toNat + 10
      else if 'A' ≤ c ∧ c ≤ 'F' then c.toNat - 'A'.toNat + 10
      else 0
    n * base + d) 0

/-- Splits off a sign; the flag says whether it was a minus. -/
def splitSign : List Char → Bool × List Char
  | '-' :: rest => (true, rest)
  | '+' :: rest => (false, rest)
  | cs => (false, cs)

/-- The exponent part that ends a number: nothing, or `e`, an optional sign and digits. -/
def readExponent? : List Char → Option Int
  | [] => some 0
  | c :: rest =>
    if c = 'e' ∨ c = 'E' then
      let (negative, digits) := splitSign rest
      if digits.isEmpty || !digits.all Char.isDigit then none
      else
        let n : Int := numeral 10 digits
        some (if negative then -n else n)
    else none

namespace Double

/-- The double of an unsigned decimal numeral. -/
def readUnsigned? (negative : Bool) (cs : List Char) : Option Double :=
  let whole := cs.takeWhile Char.isDigit
  let rest := cs.dropWhile Char.isDigit
  let (fraction, tail) := match rest with
    | '.' :: more => (more.takeWhile Char.isDigit, more.dropWhile Char.isDigit)
    | _ => ([], rest)
  if whole.isEmpty && fraction.isEmpty then none
  else
    (readExponent? tail).map fun e =>
      ofDecimal negative (numeral 10 (whole ++ fraction)) (e - fraction.length)

/-- The double that a text denotes. -/
def read? (text : String) : Option Double :=
  let (negative, body) := splitSign text.toList
  let word := String.ofList (body.map Char.toLower)
  if word = "inf" ∨ word = "infinity" then some (infinity negative)
  else if word = "nan" then some nan
  else readUnsigned? negative body

end Double

/-! ### Numerals as people write them -/

/-- Whether a character is a digit in a base of ten or sixteen. -/
def isDigitIn (base : Nat) (c : Char) : Bool :=
  c.isDigit || (base == 16 && (('a' ≤ c && c ≤ 'f') || ('A' ≤ c && c ≤ 'F')))

/-- The characters of a numeral without the marks, each of which has to stand between two digits.
The flag tells whether a digit comes before. -/
def unmarked? (isDigit : Char → Bool) : Bool → List Char → Option (List Char)
  | _, [] => some []
  | _, ['_'] => none
  | afterDigit, '_' :: c :: rest =>
    if afterDigit && isDigit c then unmarked? isDigit true (c :: rest) else none
  | _, c :: rest => (unmarked? isDigit (isDigit c) rest).map (c :: ·)

/-- The double that a text denotes, if it is a numeral. -/
def Double.ofText? (text : String) : Option Double :=
  (unmarked? Char.isDigit false (Text.folded text)).bind fun cs => Double.read? (String.ofList cs)

/-- The digits of a natural number in base ten, or in base sixteen after its sign `0x`, and what
follows them. -/
def digitsOfText? (base : Nat) (text : String) : Option (List Char × List Char) := do
  let cs := Text.folded text
  let body := if base = 16 then cs.drop 2 else cs
  let body := if base = 16 ∧ body.head? = some '_' then body.drop 1 else body
  let run := body.takeWhile fun c => c = '_' || isDigitIn base c
  let digits ← unmarked? (isDigitIn base) false run
  if digits.isEmpty then none else some (digits, body.drop run.length)

end Formicary
