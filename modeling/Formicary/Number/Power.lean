/-!
# Powers of two and ten

The powers that binary and decimal numbers are made of.
-/

namespace Formicary

/-- Two to the power of `n`. -/
def twoTo (n : Nat) : Nat := Nat.pow 2 n

/-- Ten to the power of `n`. -/
def tenTo (n : Nat) : Nat := Nat.pow 10 n

end Formicary
