import Formicary.Digest
import Formicary.Text.Encoding
import Formicary.Value

/-!
# Derived seeds

A seed can be derived from a list of components, such as a seed chosen by hand, the name of a run
and the size of its board. The components are shown, joined by colons and hashed; the seed is the
leading 64 bits of the hash. Nothing is derived from a component that is too long to be written, nor
from a text that has no encoding.
-/

namespace Formicary.Random

/-- Why no seed is derived. -/
inductive DerivationProblem where
  | tooLong
  | noEncoding (found : Text.LoneRun)

/-- The wording of a problem with a derivation. -/
def DerivationProblem.message : DerivationProblem → String
  | .tooLong => Value.tooLongMessage
  | .noEncoding found => found.message

/-- The text that a list of components is hashed from. -/
def seedText (components : List Value) : String :=
  ":".intercalate (components.map Value.shown)

/-- The 64-bit seed derived from a list of components. -/
def deriveSeed (components : List Value) : Except DerivationProblem Nat :=
  if !Value.areWritable components then .error .tooLong
  else
    let text := seedText components
    match Text.loneRun? text with
    | some found => .error (.noEncoding found)
    | none => .ok (Digest.leadingWord (Text.plain text))

end Formicary.Random
