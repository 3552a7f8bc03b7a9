import Formicary.Board.Placement
import Formicary.Board.Room
import Formicary.Random.Seed

/-!
# Building boards

A board is built from a size and a configuration, whose own size gives way to that of the board. Its
random numbers come from a given stream or, without one, from the seed of the configuration, and its
cells have to find room in a memory. All cells of a built board are empty; `Board.populate` throws a
die for every cell first and then fills the cells in order with ants and food.
-/

namespace Formicary

/-- The number of sides of the die that is thrown for a cell. -/
def dieSides : Nat := 9

/-- The face that puts an ant on a cell. -/
def antFace : Nat := 0

/-- The face that puts food on a cell. -/
def foodFace : Nat := 1

/-- Why a board cannot be built. -/
inductive BuildError where
  | config (problem : Config.Problem)
  | seed (problem : Random.SeedProblem)
  | noSeed
  | misuse (cause : Value.Misuse)
  | fractionalCount (given : Value)
  | crowding (cause : Crowding)
  | fault (fault : Fault)

/-- The wording of a failure to build. -/
def BuildError.message : BuildError → String
  | .config problem => problem.message
  | .seed problem => problem.message
  | .noSeed => "a board without a seed needs a stream of random numbers"
  | .misuse cause => cause.message
  | .fractionalCount given =>
    "expected a sequence of integers or a single integer, got '" ++ given.written ++ "'"
  | .crowding cause => cause.message
  | .fault f => f.message

namespace Board

/-- The stream that a seed value starts. -/
def streamOfSeed (seed : Value) : Except BuildError Random.Stream :=
  match seed with
  | .null => .error .noSeed
  | v => (Random.Stream.ofValue v).mapError .seed

/-- The configuration of a board of the given size. -/
def fitConfig (width height : Value) (config : Option Config) :
    Except Config.Problem Config :=
  match config with
  | none => Config.standard.resize width height
  | some c => if c.width.same width && c.height.same height then .ok c else c.resize width height

/-- The empty board of a configuration whose sizes are integers. -/
def blank (config : Config) (rules : Rules) (width height cells : Nat) (random : Random.Stream) :
    Board where
  config := config
  rules := rules
  width := width
  height := height
  kinds := Array.replicate cells .empty
  occupants := Array.replicate cells vacant
  arena := .empty
  nextId := 0
  random := random
  ticks := 0
  lastTally := {}

/-- The empty board of a configuration, if its cells can be counted and there is room for them. -/
def unpopulated (memory : Memory) (c : Config) (random : Random.Stream) :
    Except BuildError Board := do
  match c.width.integer?, c.height.integer?, c.cells? with
  | some w, some h, some n =>
    match Crowding.of? memory n.toNat with
    | some crowding => .error (.crowding crowding)
    | none => .ok (blank c (Rules.ofConfig c) w.toNat h.toNat n.toNat random)
  | _, _, _ => .error (.fractionalCount (← c.cellCount.mapError .misuse))

/-- The empty board of the given size. -/
def build (memory : Memory) (width height : Value) (config : Option Config)
    (random : Option Random.Stream) : Except BuildError Board := do
  let c ← (fitConfig width height config).mapError .config
  let stream ← match random with
    | some s => .ok s
    | none => streamOfSeed c.seed
  unpopulated memory c stream

/-- What a face puts on a cell. -/
def settle (b : Board) (index face : Nat) : Except Fault Board :=
  if face = antFace then
    let (id, b) := b.freshId
    match b.rules.geneLength with
    | none => .error (.noGeneLength (b.config.value .geneLength))
    | some n =>
      match Ant.sample? id n b.rules.initialEnergy b.random with
      | (.error e, _) => .error (.gene e)
      | (.ok a, next) => (({ b with random := next } : Board).place index a).mapError (·.fault)
  else if face = foodFace then (b.placeFood index).mapError (·.fault)
  else .ok b

/-- The board with every cell filled by the throw of a die. -/
def populate (b : Board) : Except Fault Board :=
  let (faces, next) := Random.Stream.draws (Random.Stream.below dieSides) b.size b.random
  ((List.range b.size).zip faces).foldlM (fun b p => b.settle p.1 p.2) { b with random := next }

/-- A populated board of the given size. -/
def generate (memory : Memory) (width height : Value) (config : Option Config)
    (random : Option Random.Stream) : Except BuildError Board := do
  let b ← build memory width height config random
  b.populate.mapError .fault

/-- A populated board of the size of a configuration. -/
def ofConfig (memory : Memory) (config : Config) (random : Option Random.Stream) :
    Except BuildError Board :=
  generate memory config.width config.height (some config) random

end Board

end Formicary
