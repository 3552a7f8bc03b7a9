import Formicary.Tick.Change

/-!
# The scan of a tick

A scan looks at every cell once, in index order. An empty cell may grow food; an ant executes one
instruction and pays for what it asks. The cells are not written: growth, meals, moves, births and
deaths are queued as changes. What a scan writes at once is the arena, the ids and the random
stream, and damage is done to a defender at once. Where energies cannot be reckoned with the scan
halts, and what the ant has paid and gained until then stays.

The growth of every cell is decided by a unit drawn for it before the scan, whether or not the cell
turns out to be empty.
-/

namespace Formicary

/-- The state of a scan. -/
structure Scan where
  /-- The board, with its cells as they were at the start. -/
  board : Board
  /-- The ids of the ants that have executed. -/
  visited : List Int
  /-- The changes proposed so far. -/
  queue : Array Change
  /-- The counters so far. -/
  tally : Tally

namespace Scan

/-- The start of a scan. -/
def start (b : Board) : Scan := ⟨b, [], #[], {}⟩

/-- The scan with another proposal. -/
def propose (s : Scan) (c : Change) : Scan := { s with queue := s.queue.push c }

/-- The scan with the arena entry of an ant replaced. -/
def update (s : Scan) (a : Ant) : Scan := { s with board := s.board.update a }

/-- Whether a unit draw, given by its numerator, is below the growth chance. -/
def grows (chance : Rat) (draw : Nat) : Bool :=
  (draw : Int) * chance.den < chance.num * Random.Stream.unitCount

/-- What comes of reckoning with the energies of the ant whose turn it is; on a misuse the scan
halts with the ant as it is. -/
def reckon {α : Type} (s : Scan) (a : Ant) (r : Except Value.Misuse α) :
    Except (Halted Scan Fault) α :=
  r.mapError fun m => ⟨s.update a, .misuse m⟩

/-- The ant after it has paid for what it asks. -/
def pay (s : Scan) (a : Ant) : Except (Halted Scan Fault) Ant :=
  s.reckon a (a.consume s.board.rules.actionCost)

/-- A move is proposed if the cell ahead is empty, and only then it is paid for and the sensor set:
to whether a neighbour of that cell is empty. -/
def move (s : Scan) (cell : Nat) (a : Ant) (ahead : Option Int) :
    Except (Halted Scan Fault) (Scan × Ant) :=
  match ahead.filter (s.board.kindIs · .empty) with
  | some target => do
    let s := s.propose (.swap target.toNat cell)
    let paid ← s.pay a
    .ok (s, { paid with sensor := .bool (s.board.hasEmptyNeighbor target) })
  | none => .ok (s, a)

/-- A meal is paid for, and taken if there is food ahead. -/
def eat (s : Scan) (a : Ant) (ahead : Option Int) : Except (Halted Scan Fault) (Scan × Ant) := do
  let paid ← s.pay a
  match ahead.filter (s.board.kindIs · .food) with
  | some target =>
    let s := s.propose (.removeFood target.toNat)
    let fed ← s.reckon paid (paid.increase s.board.rules.foodEnergy)
    .ok ({ s with tally := { s.tally with foodEaten := s.tally.foodEaten + 1 } }, fed)
  | none => .ok (s, paid)

/-- An attack is paid for, and does damage at once if there is an ant of another team ahead. -/
def attack (s : Scan) (a : Ant) (ahead : Option Int) :
    Except (Halted Scan Fault) (Scan × Ant) := do
  let paid ← s.pay a
  let s := { s with tally := { s.tally with attacks := s.tally.attacks + 1 } }
  match ahead.filter (s.board.kindIs · .ant) with
  | some target =>
    match s.board.tenant? target with
    | .error e => .error ⟨s.update paid, e⟩
    | .ok defender =>
      if paid.team.hostile defender.team then
        let damage ← s.reckon paid (paid.damage s.board.rules.attackDivisor)
        let hurt ← s.reckon paid (defender.consume damage)
        .ok ({ s.update hurt with tally := { s.tally with hits := s.tally.hits + 1 } }, paid)
      else .ok (s, paid)
  | none => .ok (s, paid)

/-- An ant that asks for nothing has one locus of its gene redrawn. -/
def idle (s : Scan) (a : Ant) : Scan × Ant :=
  let (_, mutated, next) := a.mutate s.board.random
  ({ s with
      board := { s.board with random := next }
      tally := { s.tally with mutations := s.tally.mutations + 1 } }, mutated)

/-- What an ant asks for is settled. -/
def perform (s : Scan) (cell : Nat) (a : Ant) (request : Option Request) :
    Except (Halted Scan Fault) (Scan × Ant) :=
  let ahead := s.board.shape.ahead? cell a.direction
  match request with
  | some .move => s.move cell a ahead
  | some .eat => s.eat a ahead
  | some .attack => s.attack a ahead
  | none => .ok (s.idle a)

/-- An ant above the splitting energy whose preceding cell is empty splits, and the child is
proposed for that cell. -/
def divide (s : Scan) (cell : Nat) (a : Ant) : Except (Halted Scan Fault) (Scan × Ant) := do
  let rich ← s.reckon a (a.energy.exceeds s.board.rules.splitEnergy)
  if rich ∧ 0 < cell ∧ s.board.kindIs ((cell : Int) - 1) .empty then
    let (id, board) := s.board.freshId
    let s := { s with board }
    let (parent, child) ← s.reckon a (a.split id)
    .ok (s.propose (.born (cell - 1) child), parent)
  else .ok (s, a)

/-- An ant without energy is proposed for death on its cell. -/
def perish (s : Scan) (cell : Nat) (a : Ant) : Except (Halted Scan Fault) Scan := do
  let spent ← s.reckon a a.energy.isSpent
  .ok (if spent then s.propose (.death cell a.id) else s)

/-- An ant executes one instruction on its cell. -/
def act (s : Scan) (cell : Nat) (a : Ant) : Except (Halted Scan Fault) Scan :=
  let (stepped, outcome) := a.execute
  match outcome with
  | .error e => .error ⟨s.update stepped, .step e⟩
  | .ok request => do
    let (s, a) ← s.perform cell stepped request
    let (s, a) ← s.divide cell a
    return (← s.perish cell a).update a

/-- The scan of one cell, given the unit drawn for its growth. -/
def visit (s : Scan) (cell draw : Nat) : Except (Halted Scan Fault) Scan :=
  match s.board.kinds[cell]? with
  | none => .ok s
  | some .empty =>
    .ok (if grows s.board.rules.growthChance draw then s.propose (.growFood cell) else s)
  | some .food => .ok s
  | some _ =>
    match s.board.tenant? cell with
    | .error e => .error ⟨s, e⟩
    | .ok a =>
      if s.visited.contains a.id then .ok s
      else { s with visited := a.id :: s.visited }.act cell a

/-- The scan of a board: a unit is drawn for every cell, and then the cells are visited in order. -/
def run (b : Board) : Except (Halted Scan Fault) Scan :=
  let (draws, next) := Random.Stream.draws Random.Stream.unit b.size b.random
  ((List.range b.size).zip draws).foldlM (fun s p => s.visit p.1 p.2)
    (start { b with random := next })

end Scan

end Formicary
