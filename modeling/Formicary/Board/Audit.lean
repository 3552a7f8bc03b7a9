import Formicary.Board.Basic

/-!
# The audit of a board

An audit checks that cells and arena agree: there are as many cells as are configured, the cells
that hold an ant are those with an occupant, no ant is on two cells, the ants on cells are those of
the arena, and every pointer is on its tape. It reports the first disagreement in this order.
-/

namespace Formicary

/-- What an audit objects to. -/
inductive Finding where
  | cellsChanged (cells : Nat) (configured : Int)
  | kindsDisagree
  | antTwice
  | arenaMismatch (onBoard inArena : Nat)
  | pointerOffTape (id : Int)

/-- The wording of a finding. -/
def Finding.message : Finding → String
  | .cellsChanged cells configured =>
    "cell array length changed: " ++ toString cells ++ " != " ++ toString configured
  | .kindsDisagree => "ANT cells and occupant ids disagree"
  | .antTwice => "ant occupies more than one cell"
  | .arenaMismatch onBoard inArena =>
    "arena/board mismatch: board=" ++ toString onBoard ++ " arena=" ++ toString inArena
  | .pointerOffTape id => "ant " ++ toString id ++ " instruction pointer out of range"

namespace Board

/-- The occupant entries that name an ant. -/
def occupantIds (b : Board) : List Int := b.occupants.toList.filter (· != vacant)

/-- Whether the pointer of an ant is on its tape. -/
def pointerInRange (a : Ant) : Bool := 0 ≤ a.gene.pointer && a.gene.pointer < a.gene.length

/-- The first finding of an audit, if there is one. -/
def audit (b : Board) : Option Finding :=
  let ids := b.occupantIds
  let configured := b.config.cells?.getD 0
  if b.kinds.size ≠ b.occupants.size ∨ configured ≠ b.occupants.size then
    some (.cellsChanged b.kinds.size configured)
  else if b.kinds.toList.map (· == .ant) ≠ b.occupants.toList.map (· != vacant) then
    some .kindsDisagree
  else if ¬ ids.Nodup then some .antTwice
  else if ¬ (ids.all b.arena.has && b.arena.ids.all ids.contains) then
    some (.arenaMismatch ids.length b.arena.size)
  else
    (b.arena.ants.find? fun a => !pointerInRange a).map fun a => .pointerOffTape a.id

end Board

end Formicary
