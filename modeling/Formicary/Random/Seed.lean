import Formicary.Number.Reading
import Formicary.Random.Stream
import Formicary.Value

/-!
# Seeds

A seed is given as an integer or as a list. The digits of a list are those of its items one after
another, and an item may again be a list, a mapping, whose keys count, or a text that is a numeral.
So a list of one number starts the same stream as the number.
-/

namespace Formicary.Random

/-- Why a value is no seed. -/
inductive SeedProblem where
  | notEntropy (given : Value)
  | negative
  | fractional
  | unrecognized
  | badNumeral (base : Nat) (text : String)
  | tooManyDigits (count : Nat)
  | noLength (kind : String)

/-- The wording of a problem with a seed. -/
def SeedProblem.message : SeedProblem → String
  | .notEntropy given =>
    Value.wording [given]
      ("SeedSequence expects int or sequence of ints for entropy not " ++ given.shown)
  | .negative => "expected non-negative integer"
  | .fractional => "seed must be integer"
  | .unrecognized => "unrecognized seed string"
  | .badNumeral base text => Value.badNumeralMessage base text
  | .tooManyDigits count => Value.tooManyDigitsMessage count
  | .noLength kind => "object of type '" ++ kind ++ "' has no len()"

/-- The digits of an integer. -/
def digitsOfInt (n : Int) : Except SeedProblem (List UInt32) :=
  if 0 ≤ n then .ok (digits32 n.toNat) else .error .negative

/-- The digits of the number that a text is in a base. That there are too many in base ten is found
before anything that follows them. -/
def digitsInBase (base : Nat) (text : String) : Except SeedProblem (List UInt32) :=
  match digitsOfText? base text with
  | some (ds, rest) =>
    if base = 10 ∧ Value.digitLimit < ds.length then .error (.tooManyDigits ds.length)
    else if rest.isEmpty then .ok (digits32 (numeral base ds))
    else .error (.badNumeral base text)
  | none => .error (.badNumeral base text)

/-- The digits of the number that a text is, in base sixteen after `0x` and else in base ten. -/
def digitsOfText (text : String) : Except SeedProblem (List UInt32) :=
  let cs := text.toList
  if ['0', 'x'].isPrefixOf cs then digitsInBase 16 text
  else if cs.head?.any Char.isDigit then digitsInBase 10 text
  else .error .unrecognized

mutual

/-- The digits of an item of a seed. -/
def itemDigits : Value → Except SeedProblem (List UInt32)
  | .null => .error (.noLength Value.null.kindName)
  | .bool b => digitsOfInt b.toNat
  | .int n => digitsOfInt n
  | .float _ => .error .fractional
  | .text s => digitsOfText s
  | .list items => listDigits items
  | .mapping entries => keyDigits entries

/-- The digits of the items of a list. -/
def listDigits : List Value → Except SeedProblem (List UInt32)
  | [] => .ok []
  | v :: rest => do return (← itemDigits v) ++ (← listDigits rest)

/-- The digits of the keys of a mapping. -/
def keyDigits : List (Value × Value) → Except SeedProblem (List UInt32)
  | [] => .ok []
  | (k, _) :: rest => do return (← itemDigits k) ++ (← keyDigits rest)

end

/-- The digits of a seed. -/
def seedDigits (seed : Value) : Except SeedProblem (List UInt32) :=
  match seed with
  | .bool b => digitsOfInt b.toNat
  | .int n => digitsOfInt n
  | .list items => listDigits items
  | v => .error (.notEntropy v)

/-- The stream that a seed starts. -/
def Stream.ofValue (seed : Value) : Except SeedProblem Stream := (seedDigits seed).map ofDigits

end Formicary.Random
