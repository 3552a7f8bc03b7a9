import Formicary.Value

/-!
# Identity of values

Whether two values are one and the same can be decided: they are of one constructor and agree in all
parts, doubles in their bits. This is finer than `Value.same`, which takes `1`, `1.0` and the truth
value for one number.
-/

namespace Formicary.Value

mutual

/-- Whether two values are identical. -/
def identical : Value → Value → Bool
  | .null, .null => true
  | .bool b, .bool c => b == c
  | .int m, .int n => m == n
  | .float x, .float y => x == y
  | .text s, .text t => s == t
  | .list xs, .list ys => identicalItems xs ys
  | .mapping es, .mapping fs => identicalEntries es fs
  | _, _ => false

/-- Whether two lists of values are identical. -/
def identicalItems : List Value → List Value → Bool
  | [], [] => true
  | x :: xs, y :: ys => identical x y && identicalItems xs ys
  | _, _ => false

/-- Whether two lists of entries are identical. -/
def identicalEntries : List (Value × Value) → List (Value × Value) → Bool
  | [], [] => true
  | (k, v) :: es, (l, w) :: fs => identical k l && identical v w && identicalEntries es fs
  | _, _ => false

end

mutual

theorem identical_iff : ∀ a b : Value, identical a b = true ↔ a = b
  | .null, b => by cases b <;> simp [identical]
  | .bool _, b => by cases b <;> simp [identical]
  | .int _, b => by cases b <;> simp [identical]
  | .float _, b => by cases b <;> simp [identical]
  | .text _, b => by cases b <;> simp [identical]
  | .list xs, b => by cases b <;> simp [identical, identicalItems_iff xs]
  | .mapping es, b => by cases b <;> simp [identical, identicalEntries_iff es]

theorem identicalItems_iff : ∀ xs ys : List Value, identicalItems xs ys = true ↔ xs = ys
  | [], ys => by cases ys <;> simp [identicalItems]
  | x :: xs, ys => by
    cases ys <;> simp [identicalItems, identical_iff x, identicalItems_iff xs]

theorem identicalEntries_iff :
    ∀ es fs : List (Value × Value), identicalEntries es fs = true ↔ es = fs
  | [], fs => by cases fs <;> simp [identicalEntries]
  | (k, v) :: es, fs => by
    cases fs <;>
      simp [identicalEntries, identical_iff k, identical_iff v, identicalEntries_iff es,
        Prod.ext_iff]

end

instance : DecidableEq Value := fun a b => decidable_of_iff _ (identical_iff a b)

example : Value.int 1 ≠ .float (Double.ofInt 1) := by decide +kernel

end Formicary.Value
