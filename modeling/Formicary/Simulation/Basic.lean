import Formicary.Board.Audit
import Formicary.Board.Build
import Formicary.Board.Census
import Formicary.Column
import Formicary.Number.Fixed
import Formicary.Pack.Surroundings
import Formicary.Random.Derive
import Formicary.Simulation.Clock
import Formicary.Simulation.Window
import Formicary.Tick.Commit

/-!
# Simulations

A simulation advances a board tick by tick, adds up the counters of the ticks, keeps a window of
their durations and writes a transcript. It starts from a configuration or from a pack; without a
stream of random numbers, the seed of the configuration is mixed with the name and the size, so that
runs that differ in one of them draw different numbers.

A tick that faults on the board counts for nothing, though the board keeps what was done. A tick
whose duration is no number counts without it, and one after which an audit has a finding counts.
-/

namespace Formicary

/-- A board with what a run of it keeps. -/
structure Simulation where
  /-- The name of the run. -/
  name : Value
  /-- The configuration that it started from. -/
  config : Config
  /-- The board. -/
  board : Board
  /-- The number of completed ticks. -/
  ticks : Nat
  /-- The durations of the latest ticks. -/
  window : Window Double
  /-- The sums of the counters of all ticks. -/
  totals : Tally
  /-- The durations to come. -/
  clock : Clock
  /-- Whether status lines are written. -/
  verbose : Bool
  /-- Whether the board is audited after every tick. -/
  auditing : Bool
  /-- The text written so far. -/
  transcript : String

namespace Simulation

/-- What a simulation is started from. -/
structure Setup where
  /-- The configuration, if it does not come from a pack. -/
  config : Option Config := none
  /-- The directory of the pack. -/
  root : Option Path := none
  /-- Where the schemas for the pack are looked for. -/
  schemas : Option String := none
  /-- What loading the pack relies on. -/
  surroundings : Pack.Surroundings String Value Schema Pack.Uncaught := .ofFiles Files.empty
  /-- The random numbers, if they do not come from the seed. -/
  random : Option Random.Stream := none
  /-- The memory that the board is put in. -/
  memory : Memory := .unbounded
  /-- The durations of the ticks. -/
  clock : Clock := Clock.cycle []
  /-- Whether status lines are written. -/
  verbose : Bool := true

/-- Why a simulation cannot be started. -/
inductive StartProblem where
  | pack (problem : Pack.Problem Pack.Uncaught Config.Problem)
  | derivation (problem : Random.DerivationProblem)
  | build (error : BuildError)
  | tooLong

/-- The wording of a problem at the start. -/
def StartProblem.message : StartProblem → String
  | .pack p => p.message
  | .derivation p => p.message
  | .build e => e.message
  | .tooLong => Value.tooLongMessage

/-- What stops a running simulation. -/
inductive Trouble where
  | fault (fault : Fault)
  | finding (finding : Finding)

/-- The wording of a trouble. -/
def Trouble.message : Trouble → String
  | .fault f => f.message
  | .finding f => f.message

/-! ### The transcript -/

/-- The simulation after a line has been written. -/
def write (s : Simulation) (line : String) : Simulation :=
  { s with transcript := s.transcript ++ line ++ "\n" }

/-- The simulation after a status line has been written, if status lines are. -/
def log (s : Simulation) (line : String) : Simulation := if s.verbose then s.write line else s

/-- The line that sums up the state of a simulation. -/
def summaryLine (s : Simulation) : String :=
  "Tick " ++ padLeft 5 (toString s.ticks) ++
    " | Avg: " ++ padLeft 6 (s.window.meanMillis.fixed 3) ++
    " ms | Last: " ++ padLeft 6 (s.window.lastMillis.fixed 3) ++
    " ms | Ants: " ++ toString s.board.arena.size ++
    " | Food: " ++ toString (s.board.count .food)

/-- The simulation after its summary has been written. -/
def writeSummary (s : Simulation) : Simulation := s.write s.summaryLine

/-- Named numbers, one after another. -/
def figures (entries : List (String × String)) : String :=
  " ".intercalate (entries.map fun e => e.1 ++ "=" ++ e.2)

/-- The line that tells the energies of the living ants. -/
def energyLine (s : Simulation) : Except Value.Misuse String := do
  let energies := Column.ofValues (s.board.arena.ants.map (·.energy))
  let mean ← energies.mean
  let least ← energies.least
  let greatest ← energies.greatest
  .ok ("  Energy:   " ++ figures [("mean", mean.fixed 1), ("min", least.shown),
    ("max", greatest.shown)])

/-- The line that tells the ages of the living ants. -/
def ageLine (s : Simulation) : Except Value.Misuse String := do
  let ages := Column.ofValues (s.board.arena.ants.map (·.age))
  let mean ← ages.mean
  let greatest ← ages.greatest
  .ok ("  Age:      " ++ figures [("mean", mean.fixed 1), ("max", greatest.shown)])

/-- The lines that tell the sums of the counters and the state of the teams. -/
def counterLines (s : Simulation) : List String :=
  let t := s.totals
  ["",
    "[Telemetry] Tick " ++ toString s.ticks ++ " (" ++ toString s.board.arena.size ++ " ants)",
    "  Food:     " ++ figures [("grown", toString t.foodGrown), ("eaten", toString t.foodEaten)],
    "  Actions:  " ++ figures [("moves", toString t.moves), ("attacks", toString t.attacks),
      ("hits", toString t.hits), ("mutations", toString t.mutations)],
    "  Life:     " ++ figures [("births", toString t.births), ("deaths", toString t.deaths),
      ("overwritten", toString t.overwritten)],
    "  Teams:    " ++ figures (s.board.population.map fun (team, n) => (team.name, toString n))]

/-- The simulation after a line has been written, unless it cannot be worded. -/
def writeWorded (s : Simulation) (line : Except Value.Misuse String) :
    Except (Halted Simulation Trouble) Simulation :=
  match line with
  | .ok text => .ok (s.write text)
  | .error cause => .error ⟨s, .fault (.misuse cause)⟩

/-- The simulation after its counters and, if there are ants, their energies and ages have been
written. -/
def writeTelemetry (s : Simulation) : Except (Halted Simulation Trouble) Simulation := do
  let told := s.counterLines.foldl write s
  if s.board.arena.ants.isEmpty then .ok told
  else (← told.writeWorded s.energyLine).writeWorded s.ageLine

/-! ### Starting -/

/-- The name of a run that does not come from a pack. -/
def customName : Value := .text "custom"

/-- The configuration and name of a setup. -/
def Setup.pack (u : Setup) :
    Except (Pack.Problem Pack.Uncaught Config.Problem) (Pack Config Value) :=
  match u.config, u.root with
  | some c, _ => .ok ⟨c, customName⟩
  | none, none => .ok ⟨Config.standard, customName⟩
  | none, some root => Pack.load u.surroundings Pack.Reading.ofValues root u.schemas

/-- The text that is written before a pack is loaded, if one is. -/
def Setup.preamble (u : Setup) : String :=
  if u.verbose && u.config.isNone && u.root.isSome then "Loading data pack...\n" else ""

/-- The components that the seed of a run is derived from. -/
def seedComponents (c : Config) (name : Value) : List Value := [c.seed, name, c.width, c.height]

/-- The stream that a run of a pack starts with: the given one, or else one derived from the seed,
if there is a seed. -/
def startStream (p : Pack Config Value) (given : Option Random.Stream) :
    Except StartProblem (Option Random.Stream) :=
  match given, p.config.seed with
  | some s, _ => .ok (some s)
  | none, .null => .ok none
  | none, _ => do
    let seed ← (Random.deriveSeed (seedComponents p.config p.name)).mapError .derivation
    .ok (some (Random.Stream.ofSeed seed))

/-- The line that is written when a simulation has been started. -/
def startLine (s : Simulation) : String :=
  "[OK] Simulation initialized: " ++ s.config.width.shown ++ "x" ++ s.config.height.shown ++
    " grid, " ++ toString s.board.arena.size ++ " ants, " ++ toString (s.board.count .food) ++
    " food, seed=" ++ s.config.seed.shown

/-- The simulation of a setup, before it is told that it has been started. The seed has to be short
enough to be told. -/
def startQuietly (u : Setup) : Except StartProblem Simulation := do
  let p ← u.pack.mapError .pack
  let stream ← startStream p u.random
  let board ← (Board.ofConfig u.memory p.config stream).mapError .build
  if !p.config.seed.isWritable then throw .tooLong
  .ok {
    name := p.name
    config := p.config
    board
    ticks := 0
    window := Window.empty Window.defaultLimit
    totals := {}
    clock := u.clock
    verbose := u.verbose
    auditing := false
    transcript := u.preamble }

/-- The simulation of a setup. What was written is told also if it cannot be started. -/
def start (u : Setup) : Except (Halted String StartProblem) Simulation := do
  let s ← (startQuietly u).mapError fun e => ⟨u.preamble, e⟩
  .ok (s.log s.startLine)

/-! ### Running -/

/-- The simulation after a completed tick of its board, without the duration of the tick. -/
def advance (s : Simulation) (next : Board) : Simulation :=
  { s with
    board := next
    ticks := s.ticks + 1
    totals := s.totals.add next.lastTally }

/-- The simulation after the next duration has been recorded. -/
def recordDuration (s : Simulation) : Except (Halted Simulation Trouble) Simulation :=
  let (duration, clock) := s.clock.next
  match duration with
  | .ok seconds => .ok { s with window := s.window.record seconds, clock }
  | .error cause => .error ⟨{ s with clock }, .fault (.misuse cause)⟩

/-- The simulation after one tick. -/
def tick (s : Simulation) : Except (Halted Simulation Trouble) Simulation :=
  match s.board.tick with
  | .error h => .error ⟨{ s with board := h.state }, .fault h.fault⟩
  | .ok next => do
    let s ← (s.advance next).recordDuration
    match if s.auditing then s.board.audit else none with
    | some f => .error ⟨s, .finding f⟩
    | none => .ok s

/-- The number of ticks between two summaries unless told otherwise. -/
def defaultInterval : Int := 100

/-- Whether a summary is due after a number of ticks. An interval of zero asks for none. -/
def summaryDue (interval : Int) (ticks : Nat) : Bool :=
  interval != 0 && (ticks : Int) % interval == 0

/-- The simulation after several ticks, with a summary at every interval. It stops at the end of a
tick that leaves no ant alive. -/
def run (interval : Int) : Nat → Simulation → Except (Halted Simulation Trouble) Simulation
  | 0, s => .ok s
  | n + 1, s => do
    let s ← s.tick
    let s := if summaryDue interval s.ticks then s.writeSummary else s
    if s.board.arena.ants.isEmpty then
      .ok (s.log ("[WARN] Population extinct at tick " ++ toString s.ticks))
    else run interval n s

end Simulation

end Formicary
