import Formicary.Board.Basic

/-!
# Making and placing ants

Ants are made with a fresh id and put on cells; food is put down and cells are cleared. A cell that
is written loses its previous occupant to the void. Each operation checks its arguments first and
leaves the board as it was if they are refused.
-/

namespace Formicary.Board

/-- What is fixed about an ant to be made; the rest is drawn or has its default. -/
structure Order where
  /-- The team, drawn if not fixed. -/
  team : Option Team := none
  /-- The gene, drawn if not fixed. -/
  gene : Option Gene := none
  /-- The energy, that of the rules if not fixed. -/
  energy : Option Value := none
  /-- The facing. -/
  direction : Direction := .north

/-- A drawn team, and the board after the draw. -/
def drawTeam (b : Board) : Team × Board :=
  let (n, next) := b.random.below Team.all.length
  (Team.all.getD n .blue, { b with random := next })

/-- A gene drawn in the length of the rules, and the board after the draws. -/
def drawGene (b : Board) : Except Fault Gene × Board :=
  match b.rules.geneLength with
  | some n =>
    let (gene, next) := Gene.sample? n b.random
    (gene.mapError .gene, { b with random := next })
  | none => (.error (.noGeneLength (b.config.value .geneLength)), b)

/-- A new ant, which is on no cell yet. The team is drawn before the gene, the id is taken last. -/
def newAnt (b : Board) (o : Order) : Except (Halted Board Fault) (Ant × Board) :=
  let (team, b) :=
    match o.team with
    | some t => (t, b)
    | none => b.drawTeam
  let made : Except Fault Gene × Board :=
    match o.gene with
    | some g => (.ok g, b)
    | none => b.drawGene
  match made with
  | (.error e, b) => .error ⟨b, e⟩
  | (.ok gene, b) =>
    let (id, b) := b.freshId
    let energy := o.energy.getD b.rules.initialEnergy
    .ok ({ id, team, gene, energy, direction := o.direction }, b)

/-- The cell that an index names, if it is on the board. -/
def cell? (b : Board) (index : Int) : Except Fault Nat :=
  if 0 ≤ index ∧ index < b.size then .ok index.toNat else .error (.offBoard index b.size)

/-- The board with an ant put on a cell. -/
def place (b : Board) (index : Int) (a : Ant) : Except (Halted Board Fault) Board :=
  match b.cell? index with
  | .error e => .error ⟨b, e⟩
  | .ok n =>
    if b.arena.has a.id then .error ⟨b, .alreadyPlaced a.id⟩
    else
      (b.overwrite n .ant a.id).map fun (next, _) =>
        { next with arena := next.arena.insert a, nextId := max next.nextId (a.id + 1) }

/-- The board with a cell written and without an ant on it. -/
def vacate (b : Board) (index : Int) (k : CellKind) : Except (Halted Board Fault) Board :=
  match b.cell? index with
  | .error e => .error ⟨b, e⟩
  | .ok n => (b.overwrite n k vacant).map (·.1)

/-- The board with food on a cell. -/
def placeFood (b : Board) (index : Int) : Except (Halted Board Fault) Board :=
  b.vacate index .food

/-- The board with a cell emptied. -/
def clear (b : Board) (index : Int) : Except (Halted Board Fault) Board := b.vacate index .empty

/-! ### Direct writes -/

/-- The board with the kind of a cell written. -/
def writeKind (b : Board) (index code : Int) : Except Fault Board :=
  match place? b.kinds.size index with
  | none => .error (.ofIndex index b.kinds.size)
  | some n =>
    if -128 ≤ code ∧ code < 128 then
      .ok { b with kinds := b.kinds.setIfInBounds n (.ofCode code) }
    else .error (if addressable code then .wideKind code else .wideId code)

/-- The board with the occupant entry of a cell written. -/
def writeOccupant (b : Board) (index id : Int) : Except Fault Board :=
  match place? b.occupants.size index with
  | none => .error (.ofIndex index b.occupants.size)
  | some n =>
    if idFits id then .ok { b with occupants := b.occupants.setIfInBounds n id }
    else .error (.wideId id)

/-- The board without the arena entry of an id. -/
def dropAnt (b : Board) (id : Int) : Except Fault Board :=
  if b.arena.has id then .ok { b with arena := b.arena.erase id } else .error (.missingAnt id)

/-- The board with only its first cells; a negative count leaves off as many at the end. -/
def truncate (b : Board) (n : Int) : Board :=
  let keep := if 0 ≤ n then n.toNat else (b.kinds.size + n).toNat
  { b with kinds := b.kinds.take keep }

end Formicary.Board
