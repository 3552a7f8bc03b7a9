import Formicary.Number.Double

/-!
# Quantities

A quantity is a number as comparisons see it: an exact rational, one of the two infinities, or the
undefined value, which is neither below, nor above, nor equal to anything.
-/

namespace Formicary

/-- The exact value of a number. -/
inductive Quantity where
  | nan
  | infinite (negative : Bool)
  | exact (value : Rat)
  deriving DecidableEq

namespace Quantity

/-- The quantity of an integer. -/
def ofInt (n : Int) : Quantity := .exact n

/-- The quantity of a double. -/
def ofDouble (x : Double) : Quantity :=
  match x.parts with
  | .nan => .nan
  | .infinite negative => .infinite negative
  | .finite negative m q =>
    let sign : Int := if negative then -1 else 1
    .exact (mkRat (sign * m * twoTo q.toNat) (twoTo (-q).toNat))

/-- Whether one quantity is strictly below another. -/
def lt : Quantity → Quantity → Bool
  | .exact a, .exact b => a < b
  | .infinite negative, .exact _ => negative
  | .exact _, .infinite negative => !negative
  | .infinite a, .infinite b => a && !b
  | _, _ => false

/-- Whether two quantities are the same number. -/
def same : Quantity → Quantity → Bool
  | .exact a, .exact b => a == b
  | .infinite a, .infinite b => a == b
  | _, _ => false

/-- Whether one quantity is at most another. -/
def le (a b : Quantity) : Bool := a.lt b || a.same b

/-- The integer that a quantity is, if it is one. -/
def integer? : Quantity → Option Int
  | .exact r => if r.den = 1 then some r.num else none
  | _ => none

@[simp] theorem lt_ofInt (m n : Int) : (ofInt m).lt (ofInt n) = decide (m < n) :=
  decide_eq_decide.2 Rat.intCast_lt_intCast

@[simp] theorem same_ofInt (m n : Int) : (ofInt m).same (ofInt n) = decide (m = n) := by
  rw [Bool.eq_iff_iff]
  simp [ofInt, same]

@[simp] theorem le_ofInt (m n : Int) : (ofInt m).le (ofInt n) = decide (m ≤ n) := by
  rw [le, lt_ofInt, same_ofInt, ← Bool.decide_or]
  exact decide_eq_decide.2 (by omega)

/-- Away from the undefined value, not below is at least. -/
theorem le_of_not_lt {a b : Quantity} (ha : a ≠ .nan) (hb : b ≠ .nan) (h : a.lt b = false) :
    b.le a = true := by
  cases a with
  | nan => exact absurd rfl ha
  | infinite s =>
    cases b with
    | nan => exact absurd rfl hb
    | infinite t => cases s <;> cases t <;> simp_all [lt, le, same]
    | exact y => cases s <;> simp_all [lt, le, same]
  | exact x =>
    cases b with
    | nan => exact absurd rfl hb
    | infinite t => cases t <;> simp_all [lt, le, same]
    | exact y =>
      simp only [lt, decide_eq_false_iff_not, Rat.not_lt] at h
      rcases Rat.le_iff_lt_or_eq.1 h with h | h
      · simp [le, lt, h]
      · simp [le, same, h]

end Quantity

end Formicary
