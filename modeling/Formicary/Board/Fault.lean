import Formicary.Gene
import Formicary.Rules

/-!
# Faults of a board

What can go wrong in an operation on a board. On a board that was built and changed through its own
operations only requests from outside fault: a cell off the board, an ant that is already there, a
point outside the rectangle. The other faults need a board whose cells were written directly.
-/

namespace Formicary

/-- A value together with the fault that stopped an operation on it. What was done before the fault
is kept. -/
structure Halted (α ε : Type) where
  /-- The state in which the operation stopped. -/
  state : α
  /-- Why it stopped. -/
  fault : ε

/-- Why an operation on a board fails. -/
inductive Fault where
  | offBoard (index : Int) (cells : Nat)
  | outOfRange (index : Int) (cells : Nat)
  | wideIndex (index : Int)
  | noIndex (index : Int)
  | missingAnt (id : Int)
  | alreadyPlaced (id : Int)
  | outsideRectangle (x y : Int) (width height : Value)
  | unknownKind (code : Int)
  | wrongShape (cells height width : Nat)
  | truthAsSize
  | wideId (id : Int)
  | wideKind (code : Int)
  | noGeneLength (given : Value)
  | gene (problem : Gene.Problem)
  | step (error : Ant.StepError)
  | misuse (cause : Value.Misuse)

namespace Fault

/-- The wording of an index that has no place on a row of cells. -/
def rangeMessage (index : Int) (cells : Nat) : String :=
  "index " ++ toString index ++ " is out of bounds for axis 0 with size " ++ toString cells

/-- The fault of an index that has no place on a row of cells: it is out of range, or else too wide
for an index, either by one bit or by more. -/
def ofIndex (index : Int) (cells : Nat) : Fault :=
  if addressable index then .outOfRange index cells
  else if 0 ≤ index ∧ index < 0x10000000000000000 then .wideIndex index
  else .noIndex index

/-- The wording of a count that was not written as an integer. -/
def countMessage (given : Value) : String :=
  "'" ++ given.kindName ++ "' object cannot be interpreted as an integer"

/-- The wording of a step that failed. -/
def stepMessage : Ant.StepError → String
  | .ageless cause => cause.message
  | .offTape pointer =>
    if addressable pointer then "list index out of range"
    else "cannot fit 'int' into an index-sized integer"
  | .noTarget => "unsupported operand type(s) for %: 'NoneType' and 'int'"

/-- The wording of a fault. -/
def message : Fault → String
  | .offBoard index cells =>
    "Cell index " ++ toString index ++ " outside grid of " ++ toString cells ++ " cells"
  | .outOfRange index cells => rangeMessage index cells
  | .wideIndex _ => "Python int too large to convert to C long"
  | .noIndex _ =>
    "only integers, slices (`:`), ellipsis (`...`), numpy.newaxis (`None`) and integer or " ++
      "boolean arrays are valid indices"
  | .missingAnt id => toString id
  | .alreadyPlaced id => "Ant " ++ toString id ++ " is already on the grid"
  | .outsideRectangle x y width height =>
    "(" ++ toString x ++ ", " ++ toString y ++ ") outside " ++ width.shown ++ "x" ++
      height.shown ++ " grid"
  | .unknownKind code => toString code ++ " is not a valid CellKind"
  | .wrongShape cells height width =>
    "cannot reshape array of size " ++ toString cells ++ " into shape (" ++ toString height ++
      "," ++ toString width ++ ")"
  | .truthAsSize => "an integer is required"
  | .wideId _ => "Python int too large to convert to C long"
  | .wideKind code => "Python integer " ++ toString code ++ " out of bounds for int8"
  | .noGeneLength given => countMessage given
  | .gene problem => problem.message
  | .step error => stepMessage error
  | .misuse cause => cause.message

end Fault

end Formicary
