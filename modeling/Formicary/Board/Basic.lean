import Formicary.Arena
import Formicary.Board.Fault
import Formicary.Shape

/-!
# Boards

A board is a row of cells, each with a kind and an occupant, and an arena of the ants that live on
it. The occupant entry of a cell is the id of the ant on it, or `vacant`; since `vacant` is itself a
number, an ant whose id it is leaves no trace in the occupant entry of its cell.

The kinds and the occupants are two rows, because either can be written on its own.
-/

namespace Formicary

/-- What a cell holds. A code that is none of the three is kept, and a scan takes it for an ant. -/
inductive CellKind where
  | empty
  | food
  | ant
  | unknown (code : Int)
  deriving DecidableEq

namespace CellKind

/-- The three kinds in the order of their codes. -/
def all : List CellKind := [.empty, .food, .ant]

/-- The code of a kind. -/
def code : CellKind → Int
  | .empty => 0
  | .food => 1
  | .ant => 2
  | .unknown c => c

/-- The kind of a code. -/
def ofCode (c : Int) : CellKind :=
  if c = 0 then .empty else if c = 1 then .food else if c = 2 then .ant else .unknown c

/-- The name of a kind that has one. -/
def name? : CellKind → Option String
  | .empty => some "EMPTY"
  | .food => some "FOOD"
  | .ant => some "ANT"
  | .unknown _ => none

/-- The kind with a given name. -/
def ofName? (text : String) : Option CellKind := all.find? (·.name? == some text)

end CellKind

/-- The occupant entry of a cell without an ant. -/
def vacant : Int := -1

/-- The counters of a tick. -/
structure Tally where
  /-- Empty cells that grew food. -/
  foodGrown : Nat := 0
  /-- Meals. -/
  foodEaten : Nat := 0
  /-- Committed moves. -/
  moves : Nat := 0
  /-- Attacks, whether or not they hit. -/
  attacks : Nat := 0
  /-- Attacks that hit an ant of another team. -/
  hits : Nat := 0
  /-- Newborn ants put on the board. -/
  births : Nat := 0
  /-- Ants that died on their cell. -/
  deaths : Nat := 0
  /-- Ants that were put out by another change to their cell. -/
  overwritten : Nat := 0
  /-- Redrawn loci. -/
  mutations : Nat := 0
  deriving DecidableEq

namespace Tally

/-- The counters with their names, in order. -/
def entries (t : Tally) : List (String × Nat) :=
  [("food_grown", t.foodGrown), ("food_eaten", t.foodEaten), ("moves", t.moves),
    ("attacks", t.attacks), ("hits", t.hits), ("births", t.births), ("deaths", t.deaths),
    ("overwritten", t.overwritten), ("mutations", t.mutations)]

/-- The sums of the counters. -/
def add (s t : Tally) : Tally where
  foodGrown := s.foodGrown + t.foodGrown
  foodEaten := s.foodEaten + t.foodEaten
  moves := s.moves + t.moves
  attacks := s.attacks + t.attacks
  hits := s.hits + t.hits
  births := s.births + t.births
  deaths := s.deaths + t.deaths
  overwritten := s.overwritten + t.overwritten
  mutations := s.mutations + t.mutations

end Tally

/-- A board of cells with its ants. -/
structure Board where
  /-- The configuration it was built from. -/
  config : Config
  /-- The rules it lives by. -/
  rules : Rules
  /-- The number of columns. -/
  width : Nat
  /-- The number of rows. -/
  height : Nat
  /-- What each cell holds. -/
  kinds : Array CellKind
  /-- The occupant entry of each cell. -/
  occupants : Array Int
  /-- The living ants. -/
  arena : Arena
  /-- The id that the next ant made by the board gets. -/
  nextId : Int
  /-- The random numbers to come. -/
  random : Random.Stream
  /-- The number of completed ticks. -/
  ticks : Nat
  /-- The counters of the last completed tick. -/
  lastTally : Tally

namespace Board

/-- The number of cells. -/
def size (b : Board) : Nat := b.kinds.size

/-- The geometry of the cells. -/
def shape (b : Board) : Shape := ⟨b.width, b.height, b.size⟩

/-- Whether a cell has a given kind. -/
def kindIs (b : Board) (index : Int) (k : CellKind) : Bool :=
  (place? b.kinds.size index).any fun n => b.kinds[n]? == some k

/-- Whether an orthogonal neighbour of a cell is empty. -/
def hasEmptyNeighbor (b : Board) (index : Int) : Bool :=
  Direction.all.any fun d => (b.shape.ahead? index d).any fun n => b.kindIs n .empty

/-! ### Reading cells -/

/-- What a cell holds. -/
def kind? (b : Board) (index : Int) : Except Fault CellKind :=
  match (place? b.kinds.size index).bind (b.kinds[·]?) with
  | some k => .ok k
  | none => .error (.ofIndex index b.kinds.size)

/-- What a cell holds, if it is one of the three kinds. -/
def properKind? (b : Board) (index : Int) : Except Fault CellKind := do
  match ← b.kind? index with
  | .unknown c => .error (.unknownKind c)
  | k => .ok k

/-- The occupant entry of a cell. -/
def occupant? (b : Board) (index : Int) : Except Fault Int :=
  match (place? b.occupants.size index).bind (b.occupants[·]?) with
  | some id => .ok id
  | none => .error (.ofIndex index b.occupants.size)

/-- The living ant of an id. -/
def ant? (b : Board) (id : Int) : Except Fault Ant :=
  match b.arena.find? id with
  | some a => .ok a
  | none => .error (.missingAnt id)

/-- The living ant whose id is the occupant entry of a cell. -/
def tenant? (b : Board) (index : Int) : Except Fault Ant := do
  b.ant? (← b.occupant? index)

/-- The ant on a cell, none if the cell is vacant. -/
def antAt? (b : Board) (index : Int) : Except Fault (Option Ant) := do
  let id ← b.occupant? index
  if id = vacant then .ok none else (b.ant? id).map some

/-- The first cell whose occupant entry is an id. -/
def indexOfAnt? (b : Board) (id : Int) : Option Nat := b.occupants.toList.idxOf? id

/-- The cell at a column and row. -/
def indexOf? (b : Board) (x y : Int) : Except Fault Int :=
  match b.shape.index? x y with
  | some i => .ok i
  | none => .error (.outsideRectangle x y b.config.width b.config.height)

/-- Whether an orthogonal neighbour of a cell is empty, for a cell that may be anywhere. The
neighbours are looked at in counter-clockwise order from the east, up to the first empty one. -/
def neighborEmpty? (b : Board) (index : Int) : Except Fault Bool :=
  Direction.all.foldlM (fun found d =>
    if found then .ok true
    else match b.shape.ahead? index d with
      | none => .ok false
      | some n => (b.kind? n).map (· == .empty)) false

/-! ### Writing cells -/

/-- A fresh id, and the board that will not give it out again. -/
def freshId (b : Board) : Int × Board := (b.nextId, { b with nextId := b.nextId + 1 })

/-- The board with the arena entry of an ant replaced. -/
def update (b : Board) (a : Ant) : Board := { b with arena := b.arena.update a }

/-- Whether an id fits into an occupant entry. -/
def idFits (id : Int) : Bool := addressable id

/-- Writes the kind and the occupant entry of a cell and puts the previous occupant out of the
arena, whose id is returned. -/
def overwrite (b : Board) (index : Nat) (k : CellKind) (occupant : Int) :
    Except (Halted Board Fault) (Board × Option Int) :=
  match b.occupants[index]? with
  | none => .error ⟨b, .outOfRange index b.occupants.size⟩
  | some previous =>
    if previous ≠ vacant ∧ b.arena.has previous = false then .error ⟨b, .missingAnt previous⟩
    else
      let evicted := if previous = vacant then none else some previous
      let cleared :=
        if previous = vacant then b else { b with arena := b.arena.erase previous }
      if b.kinds.size ≤ index then .error ⟨cleared, .outOfRange index b.kinds.size⟩
      else
        let marked := { cleared with kinds := b.kinds.setIfInBounds index k }
        if idFits occupant then
          .ok ({ marked with occupants := b.occupants.setIfInBounds index occupant }, evicted)
        else .error ⟨marked, .wideId occupant⟩

end Board

end Formicary
