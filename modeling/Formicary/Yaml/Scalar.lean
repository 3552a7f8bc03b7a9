import Formicary.Json
import Formicary.Text.Pieces
import Formicary.Value.Arithmetic

/-!
# Plain scalars

A scalar that is written without quotes stands for a value of the kind that its spelling has:
a word for the missing value or a truth value, an integer in base two, eight, ten, sixteen or
sixty, a number with a point, or else the text itself. Underscores between digits are left out.
Some spellings of numbers have no value: those without digits, integers in base ten or sixty with
too many, and numbers with a point that have more places in base sixty than a double has room for.
-/

namespace Formicary.Yaml

/-- Why a text is no document. -/
inductive Problem where
  | malformed
  | noDigits (base : Nat)
  | tooManyDigits (count : Nat)
  | tooLarge
  | noCharacter
  | wideCode
  deriving DecidableEq

/-- The wording of a problem. -/
def Problem.message : Problem → String
  | .malformed => "malformed document"
  | .noDigits base => Value.badNumeralMessage base ""
  | .tooManyDigits count => Value.tooManyDigitsMessage count
  | .tooLarge => Value.Misuse.tooLarge.message
  | .noCharacter => "chr() arg not in range(0x110000)"
  | .wideCode => "Python int too large to convert to C int"

/-- Whether a character is the mark that may stand between digits, or of a class. -/
def orMark (isDigit : Char → Bool) (c : Char) : Bool := c = '_' || isDigit c

/-- A run of digits without the marks between them. -/
def unmarked (cs : List Char) : List Char := cs.filter (· ≠ '_')

/-- Whether a run is not empty and has only characters of a class. -/
def isRun (holds : Char → Bool) (cs : List Char) : Bool := !cs.isEmpty && cs.all holds

/-! ### Words -/

/-- The words with the values that they stand for. -/
def words : List (List String × Value) :=
  [(["", "~", "null", "Null", "NULL"], .null),
    (["yes", "Yes", "YES", "true", "True", "TRUE", "on", "On", "ON"], .bool true),
    (["no", "No", "NO", "false", "False", "FALSE", "off", "Off", "OFF"], .bool false),
    ([".inf", ".Inf", ".INF", "+.inf", "+.Inf", "+.INF"], .float (Double.infinity false)),
    (["-.inf", "-.Inf", "-.INF"], .float (Double.infinity true)),
    ([".nan", ".NaN", ".NAN"], .float Double.nan)]

/-- The value that a word stands for. -/
def word? (text : String) : Option Value :=
  (words.find? (·.1.contains text)).map (·.2)

/-! ### Numbers -/

/-- Whether a run is one digit, or two of which the first is below six. -/
def isSexagesimal : List Char → Bool
  | [c] => c.isDigit
  | [c, d] => '0' ≤ c && c ≤ '5' && d.isDigit
  | _ => false

/-- The parts between colons, if there are several and the later ones are digits in base sixty. -/
def sexagesimal? (cs : List Char) : Option (List Char × List (List Char)) :=
  match Text.pieces ':' cs with
  | first :: second :: rest =>
    if (second :: rest).all isSexagesimal then some (first, second :: rest) else none
  | _ => none

/-- Whether a run is digits with marks that does not start with a mark. -/
def isDigits : List Char → Bool
  | [] => false
  | c :: rest => c.isDigit && rest.all (orMark Char.isDigit)

/-- Whether a run is digits with marks that starts with a digit above zero. -/
def isPositive (cs : List Char) : Bool := isDigits cs && cs.head? ≠ some '0'

/-- The number of a run of digits with marks. There may be nothing but marks. -/
def radix (base : Nat) (digits : List Char) : Except Problem Nat :=
  let ds := unmarked digits
  if ds.isEmpty then .error (.noDigits base) else .ok (numeral base ds)

/-- The number of a run of decimal digits with marks. -/
def decimal (digits : List Char) : Except Problem Nat :=
  let ds := unmarked digits
  if Value.digitLimit < ds.length then .error (.tooManyDigits ds.length) else .ok (numeral 10 ds)

/-- The number of a sequence of digits in base sixty. -/
def sixties (parts : List (List Char)) : Except Problem Nat :=
  parts.foldlM (fun n p => (decimal p).map (n * 60 + ·)) 0

/-- The natural number that an unsigned scalar is. -/
def natural? (cs : List Char) : Option (Except Problem Nat) :=
  match cs with
  | ['0'] => some (.ok 0)
  | '0' :: 'b' :: ds =>
    if isRun (orMark fun c => c = '0' || c = '1') ds then some (radix 2 ds) else none
  | '0' :: 'x' :: ds => if isRun (orMark Json.isHexDigit) ds then some (radix 16 ds) else none
  | '0' :: ds =>
    if isRun (orMark fun c => '0' ≤ c && c ≤ '7') ds then some (.ok (numeral 8 (unmarked ds)))
    else none
  | _ =>
    if isPositive cs then some (decimal cs)
    else match sexagesimal? cs with
      | some (first, rest) => if isPositive first then some (sixties (first :: rest)) else none
      | none => none

/-- The integer that a scalar is. -/
def integer? (cs : List Char) : Option (Except Problem Int) :=
  let (negative, body) := splitSign cs
  (natural? body).map fun r => r.map fun n => if negative then -(n : Int) else n

/-- Whether a run is nothing, or an exponent with a sign. -/
def isExponent : List Char → Bool
  | [] => true
  | e :: sign :: digits =>
    (e = 'e' || e = 'E') && (sign = '+' || sign = '-') && isRun Char.isDigit digits
  | _ => false

/-- Splits a run at its first point, if it has one. -/
def splitPoint? : List Char → Option (List Char × List Char)
  | [] => none
  | '.' :: rest => some ([], rest)
  | c :: rest => (splitPoint? rest).map fun (whole, fraction) => (c :: whole, fraction)

/-- The double of a decimal numeral with marks. -/
def readDouble? (cs : List Char) : Option Double := Double.read? (String.ofList (unmarked cs))

/-- The sum of digits in base sixty, taken from the last on, and the weight of the next. Every
weight has to be within the range of doubles. -/
def sixtiesDouble : List Double → Except Problem (Double × Nat)
  | [] => .ok (0, 1)
  | x :: rest => do
    let (sum, scale) ← sixtiesDouble rest
    let weight ← (Value.doubleOf scale).mapError fun _ => .tooLarge
    .ok (sum + x * weight, scale * 60)

/-- The double that an unsigned scalar with a point is. -/
def unsignedDouble? (cs : List Char) : Option (Except Problem Double) := do
  let (whole, rest) ← splitPoint? cs
  let fraction := rest.takeWhile (orMark Char.isDigit)
  let exponent := rest.drop fraction.length
  if isDigits whole then
    if isExponent exponent then (readDouble? cs).map .ok else none
  else
    let (first, others) ← sexagesimal? whole
    if isDigits first && exponent.isEmpty then
      let last := (others.getLast?.getD []) ++ '.' :: fraction
      let digits ← (first :: others.dropLast ++ [last]).mapM readDouble?
      some ((sixtiesDouble digits).map (·.1))
    else none

/-- The double that a scalar is. A scalar that starts with the point has no sign. -/
def double? (cs : List Char) : Option (Except Problem Double) :=
  match cs with
  | '.' :: rest =>
    let fraction := rest.takeWhile (orMark Char.isDigit)
    if isDigits fraction && isExponent (rest.drop fraction.length) then (readDouble? cs).map .ok
    else none
  | _ =>
    let (negative, body) := splitSign cs
    (unsignedDouble? body).map fun r => r.map fun x => if negative then -x else x

/-! ### Scalars -/

/-- The scalars that have a meaning of their own and are no values. -/
def reserved : List String := ["=", "<<"]

/-- The value of a plain scalar. -/
def plainValue (text : String) : Except Problem Value :=
  let cs := text.toList
  match word? text, integer? cs, double? cs with
  | some v, _, _ => .ok v
  | none, some r, _ => r.map .int
  | none, none, some r => r.map .float
  | none, none, none => if reserved.contains text then .error .malformed else .ok (.text text)

/-- The value of a plain scalar that is a key. -/
def plainKey (text : String) : Except Problem Value :=
  if text = "=" then .ok (.text text) else plainValue text

end Formicary.Yaml
