import Formicary.Board.Basic

/-!
# Views of a board

What can be read off a board without changing it: counts of cells and teams, the kinds row by row,
a view of every cell, and a snapshot of all ants on their cells.
-/

namespace Formicary

/-- A cell as a viewer sees it. -/
structure CellView where
  /-- The index of the cell. -/
  index : Nat
  /-- What it holds. -/
  kind : CellKind
  /-- The ant on it. -/
  occupant : Option AntSummary

/-- A board as it is handed to a viewer. -/
structure Snapshot where
  /-- The number of completed ticks. -/
  ticks : Nat
  /-- The width, as configured. -/
  width : Value
  /-- The height, as configured. -/
  height : Value
  /-- The number of cells. -/
  cells : Nat
  /-- The number of living ants. -/
  antCount : Nat
  /-- The number of cells with food. -/
  foodCount : Nat
  /-- The number of living ants of every team. -/
  population : List (Team × Nat)
  /-- The ants on their cells, in the order of the cells. -/
  ants : List (Nat × Ant)

/-- The record of an ant on a cell. -/
def Snapshot.record (p : Nat × Ant) : Value := .ofFields (p.2.fields ++ [("index", .int p.1)])

/-- A snapshot under the names that it is handed out by. -/
def Snapshot.fields (s : Snapshot) : List (String × Value) :=
  [("tick_count", .int s.ticks), ("width", s.width), ("height", s.height),
    ("cell_count", .int s.cells), ("ant_count", .int s.antCount), ("food_count", .int s.foodCount),
    ("population", .ofFields (s.population.map fun p => (p.1.name, .int p.2))),
    ("ants", .list (s.ants.map record))]

namespace Board

/-- The number of cells of a kind. -/
def count (b : Board) (k : CellKind) : Nat := b.kinds.toList.count k

/-- The number of living ants of a team. -/
def populationOf (b : Board) (t : Team) : Nat := b.arena.ants.countP fun a => a.team == t

/-- The number of living ants of every team. -/
def population (b : Board) : List (Team × Nat) := Team.all.map fun t => (t, b.populationOf t)

/-- The kinds of the rectangle, row by row, without the spare cell. A size that was given as a truth
value is not taken for a number of rows or columns. -/
def kindRows? (b : Board) : Except Fault (List (List CellKind)) :=
  if b.config.width.isTruth || b.config.height.isTruth then .error .truthAsSize
  else if b.width * b.height ≤ b.size then
    .ok ((List.range b.height).map fun y => (b.kinds.toList.drop (y * b.width)).take b.width)
  else .error (.wrongShape b.size b.height b.width)

/-- The view of one cell. -/
def cellView? (b : Board) (index : Nat) : Except Fault CellView := do
  match ← b.properKind? index with
  | .ant => .ok ⟨index, .ant, some (← b.tenant? index).summary⟩
  | k => .ok ⟨index, k, none⟩

/-- The views of all cells in order. -/
def cellViews? (b : Board) : Except Fault (List CellView) := (List.range b.size).mapM b.cellView?

/-- The snapshot of a board. -/
def snapshot? (b : Board) : Except Fault Snapshot := do
  let cells := (List.range b.size).filter fun n => b.kinds[n]? == some .ant
  let ants ← cells.mapM fun n : Nat => return (n, ← b.tenant? (n : Int))
  .ok {
    ticks := b.ticks
    width := b.config.width
    height := b.config.height
    cells := b.size
    antCount := b.arena.size
    foodCount := b.count .food
    population := b.population
    ants }

/-- The sum of the energies of the living ants, in order of arrival. -/
def totalEnergy (b : Board) : Except Value.Misuse Value := Value.total (b.arena.ants.map (·.energy))

/-- The sum of the ages of the living ants, in order of arrival. -/
def totalAge (b : Board) : Except Value.Misuse Value := Value.total (b.arena.ants.map (·.age))

end Board

end Formicary
