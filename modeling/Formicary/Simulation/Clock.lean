import Formicary.Value.Arithmetic

/-!
# Clocks

A clock gives the durations that are measured, one after another. They are values, and one that is
no number is a misuse when it is taken.
-/

namespace Formicary

/-- A sequence of durations in seconds, some of which have been taken. -/
structure Clock where
  /-- The durations by number. -/
  duration : Nat → Value
  /-- How many have been taken. -/
  taken : Nat

namespace Clock

/-- The clock that goes through a list of durations again and again. Without durations, all are
zero. -/
def cycle (durations : List Value) : Clock where
  duration n := durations.getD (n % durations.length) (.float 0)
  taken := 0

/-- The number of seconds that a value is. -/
def seconds (v : Value) : Except Value.Misuse Double :=
  v.double?.getD (.error (.operands "-" v.kindName (Value.float 0).kindName))

/-- The next duration. -/
def next (c : Clock) : Except Value.Misuse Double × Clock :=
  (seconds (c.duration c.taken), { c with taken := c.taken + 1 })

end Clock

end Formicary
