import Formicary.Compass

/-!
# The shape of a board

A board of `width * height` cells is numbered row by row, and may have one spare cell after the
last row. Coordinates are a column and a row, the northernmost row being row 0. The cell ahead of a
cell never wraps around an edge; the spare cell is ahead of no cell.
-/

namespace Formicary

/-- The width and height of a board and its number of cells. -/
structure Shape where
  /-- The number of columns. -/
  width : Nat
  /-- The number of rows. -/
  height : Nat
  /-- The number of cells. -/
  cells : Nat

namespace Shape

/-- The column and row of a cell. -/
def coordinates (s : Shape) (index : Int) : Int × Int :=
  (index.fmod s.width, index.fdiv s.width)

/-- Whether a column and row belong to the rectangle. -/
def contains (s : Shape) (x y : Int) : Bool :=
  0 ≤ x && x < s.width && 0 ≤ y && y < s.height

/-- The cell at a column and row of the rectangle. -/
def index? (s : Shape) (x y : Int) : Option Int :=
  if s.contains x y then some (x + y * s.width) else none

/-- The cell one step ahead, if there is one. -/
def ahead? (s : Shape) (index : Int) (d : Direction) : Option Int :=
  let (x, y) := s.coordinates index
  let target :=
    match d with
    | .east => if x + 1 < s.width then some (index + 1) else none
    | .west => if 0 < x then some (index - 1) else none
    | .north => if 0 < y then some (index - s.width) else none
    | .south => if y + 1 < s.height then some (index + s.width) else none
  target.filter (· < s.cells)

end Shape

end Formicary
