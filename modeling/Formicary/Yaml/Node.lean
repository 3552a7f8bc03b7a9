import Formicary.Yaml.Scalar

/-!
# Nodes

A text is read into nodes before anything is given a value, so a fault in the structure of a text is
found even where a scalar has no value. `Node.value` gives a node its value. Of several scalars
without one, that which lies under the fewest collections is reported, of equally deep ones the
first.
-/

namespace Formicary.Yaml

/-- What a text says: scalars without or with quotes, and collections. -/
inductive Node where
  | plain (text : String)
  | quoted (text : String)
  | list (items : List Node)
  | mapping (entries : List (Node × Node))

/-- A problem and the number of collections that it lies under. -/
structure Misreading where
  /-- The problem. -/
  problem : Problem
  /-- The number of collections around it. -/
  depth : Nat

namespace Node

/-- The misreading to report of two, given in their order. -/
def firstOf (d e : Misreading) : Misreading := if e.depth < d.depth then e else d

/-- Two results put together, or the misreading to report. -/
def join {α β γ : Type} (f : α → β → γ) (a : Except Misreading α) (b : Except Misreading β) :
    Except Misreading γ :=
  match a, b with
  | .ok x, .ok y => .ok (f x y)
  | .ok _, .error e => .error e
  | .error d, .ok _ => .error d
  | .error d, .error e => .error (firstOf d e)

/-- The value of a node that is a key. Collections are no keys. -/
def key : Node → Except Problem Value
  | .plain text => plainKey text
  | .quoted text => .ok (.text text)
  | .list _ => .error .malformed
  | .mapping _ => .error .malformed

/-- The value of a node that is a key under a number of collections. -/
def keyAt (depth : Nat) (n : Node) : Except Misreading Value := n.key.mapError (⟨·, depth⟩)

mutual

/-- The value of a node under a number of collections. -/
def valueAt (depth : Nat) : Node → Except Misreading Value
  | .plain text => (plainValue text).mapError (⟨·, depth⟩)
  | .quoted text => .ok (.text text)
  | .list items => (itemsAt (depth + 1) items).map .list
  | .mapping entries => (entriesAt (depth + 1) entries).map fun es => .mapping (Value.merge [] es)

/-- The values of the items of a list under a number of collections. -/
def itemsAt (depth : Nat) : List Node → Except Misreading (List Value)
  | [] => .ok []
  | n :: rest => join (· :: ·) (valueAt depth n) (itemsAt depth rest)

/-- The keys and values of the entries of a mapping under a number of collections. -/
def entriesAt (depth : Nat) : List (Node × Node) → Except Misreading (List (Value × Value))
  | [] => .ok []
  | (k, v) :: rest =>
    join (· :: ·) (join Prod.mk (keyAt depth k) (valueAt depth v)) (entriesAt depth rest)

end

/-- The value of a node. -/
def value (n : Node) : Except Problem Value := (n.valueAt 0).mapError (·.problem)

end Node

end Formicary.Yaml
