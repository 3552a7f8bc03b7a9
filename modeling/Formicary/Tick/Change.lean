import Formicary.Board.Basic

/-!
# Queued changes

The changes to the board that a scan proposes. Cells are named by their index; a change tells what
to do with them and carries what is needed for it.
-/

namespace Formicary

/-- A proposed change of the board. -/
inductive Change where
  | growFood (cell : Nat)
  | removeFood (cell : Nat)
  | swap (target source : Nat)
  | born (cell : Nat) (child : Ant)
  | death (cell : Nat) (id : Int)
  deriving DecidableEq

namespace Change

/-- The names of the kinds of changes. -/
def kindNames : List String := ["grow_food", "remove_food", "swap", "born", "death"]

/-- The name of the kind of a change. -/
def kindName : Change → String
  | .growFood _ => "grow_food"
  | .removeFood _ => "remove_food"
  | .swap _ _ => "swap"
  | .born _ _ => "born"
  | .death _ _ => "death"

/-- The cell that a change is for; for a swap, the cell that the ant goes to. -/
def cell : Change → Nat
  | .growFood n => n
  | .removeFood n => n
  | .swap n _ => n
  | .born n _ => n
  | .death n _ => n

/-- The cell that a swap takes the ant from. -/
def source? : Change → Option Nat
  | .swap _ n => some n
  | _ => none

/-- The id of the ant that a change is about, if it carries one. -/
def antId? : Change → Option Int
  | .born _ child => some child.id
  | .death _ id => some id
  | _ => none

/-- The cell whose scan proposed the change, given that births are proposed for the cell before
and meals for the cell ahead; a meal does not tell. -/
def proposer? : Change → Option Nat
  | .growFood n => some n
  | .removeFood _ => none
  | .swap _ source => some source
  | .born n _ => some (n + 1)
  | .death n _ => some n

end Change

end Formicary
