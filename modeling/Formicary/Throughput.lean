import Formicary.Board.Build
import Formicary.Number.Fixed
import Formicary.Number.Summation
import Formicary.Simulation.Clock
import Formicary.Tick.Commit

/-!
# Throughput

How long ticks take on fresh square boards: several runs are timed, and of all durations together
the median, the ninetieth percentile and the extremes are given, in milliseconds. A percentile that
falls between two durations is interpolated between them. If a duration is undefined, so are the
figures.
-/

namespace Formicary

/-- The figures of a measurement. -/
structure Throughput where
  /-- The median duration. -/
  median : Double
  /-- The ninetieth percentile of the durations. -/
  ninetieth : Double
  /-- The shortest duration. -/
  least : Double
  /-- The longest duration. -/
  greatest : Double
  /-- The number of living ants at the end of the last run. -/
  ants : Nat

namespace Throughput

/-- Why a measurement has no figures. -/
inductive Problem where
  | build (error : BuildError)
  | fault (fault : Fault)
  | noDurations
  | misuse (cause : Value.Misuse)
  | tooLong

/-- The wording of a problem. -/
def Problem.message : Problem → String
  | .build e => e.message
  | .fault f => f.message
  | .noDurations => Fault.rangeMessage (-1) 0
  | .misuse m => m.message
  | .tooLong => Value.tooLongMessage

/-! ### Figures -/

/-- The whole part of a double that is not negative. -/
def wholePart (x : Double) : Nat :=
  match x.parts with
  | .finite _ m q => m * twoTo q.toNat / twoTo (-q).toNat
  | _ => 0

/-- The point at a share of the way from one number to another, reckoned from the nearer end. -/
def between (a b share : Double) : Double :=
  let half := Double.ofRatio false 1 2
  if (Quantity.ofDouble share).lt (.ofDouble half) then a + (b - a) * share
  else b - (b - a) * (Double.ofInt 1 - share)

/-- Whether a duration is below another. -/
def shorter (a b : Double) : Bool := (Quantity.ofDouble a).lt (.ofDouble b)

/-- The durations in increasing order. -/
def sorted (durations : List Double) : List Double :=
  durations.mergeSort fun a b => !shorter b a

/-- The median of a sorted list: the mean of the one or two middle entries. -/
def medianOf (sorted : List Double) : Double :=
  let n := sorted.length
  let upper := sorted.getD (n / 2) 0
  Double.mean (if n % 2 = 1 then [upper] else [sorted.getD (n / 2 - 1) 0, upper])

/-- The share of the durations that the reported percentile lies above. -/
def percentile : Double := Double.ofRatio false 9 10

/-- The percentile of a sorted list. A position on the last entry is all the way to it. -/
def percentileOf (sorted : List Double) : Double :=
  let last := sorted.length - 1
  let position := Double.ofInt last * percentile
  let n := wholePart position
  let a := sorted.getD n 0
  let b := sorted.getD (min (n + 1) last) 0
  between a b (if last ≤ n then Double.ofInt 1 else position - Double.ofInt n)

/-- The duration that comes before all others, of equals the last. -/
def extreme (before : Double → Double → Bool) (first : Double) (rest : List Double) : Double :=
  rest.foldl (fun best x => if before best x then best else x) first

/-- The figures of a list of durations. -/
def ofDurations? (durations : List Double) (ants : Nat) : Option Throughput :=
  match durations with
  | [] => none
  | first :: rest =>
    if durations.any Double.isNan then some ⟨Double.nan, Double.nan, Double.nan, Double.nan, ants⟩
    else
      let inOrder := sorted durations
      some ⟨medianOf inOrder, percentileOf inOrder, extreme shorter first rest,
        extreme (fun a b => shorter b a) first rest, ants⟩

/-! ### Measuring -/

/-- A fresh square board. -/
def freshBoard (memory : Memory) (size seed : Int) : Except BuildError Board := do
  let c ← (Config.ofEntries [(.text Config.Field.width.name, .int size),
    (.text Config.Field.height.name, .int size)]).mapError .config
  let stream ← (Random.Stream.ofValue (.int seed)).mapError .seed
  Board.ofConfig memory c (some stream)

/-- What has been measured so far. -/
structure Progress where
  /-- The durations in milliseconds, the latest first. -/
  durations : List Double
  /-- The number of living ants at the end of the latest run. -/
  ants : Nat
  /-- The durations to come. -/
  clock : Clock

/-- A timed run of a board. -/
def timeRun : Nat → Board → Progress → Except Problem Progress
  | 0, b, p => .ok { p with ants := b.arena.size }
  | n + 1, b, p => do
    let b ← b.tick.mapError fun h => .fault h.fault
    let (duration, clock) := p.clock.next
    let seconds ← duration.mapError .misuse
    timeRun n b { p with durations := seconds * Double.ofInt 1000 :: p.durations, clock }

/-- The timed runs of fresh boards, whose seeds follow one another. -/
def timeRuns (memory : Memory) (size : Int) (ticks : Nat) :
    Nat → Int → Progress → Except Problem Progress
  | 0, _, p => .ok p
  | n + 1, seed, p => do
    let b ← (freshBoard memory size seed).mapError .build
    timeRuns memory size ticks n (seed + 1) (← timeRun ticks b p)

/-- The number of ticks of a run unless told otherwise. -/
def defaultTicks : Nat := 50

/-- The number of runs unless told otherwise. -/
def defaultRuns : Nat := 5

/-- The seed of the first run unless told otherwise. -/
def defaultSeed : Int := 42

/-- The figures of several runs of square boards under a clock. -/
def measure (memory : Memory) (size : Int) (ticks runs : Nat) (seed : Int) (clock : Clock) :
    Except Problem Throughput := do
  let p ← timeRuns memory size ticks runs seed ⟨[], 0, clock⟩
  match ofDurations? p.durations.reverse p.ants with
  | some t => .ok t
  | none => .error .noDurations

/-! ### The table -/

/-- The sizes of the boards in the table. -/
def sizes : List Nat := [25, 50, 100, 200]

/-- The heading of the table. -/
def heading : String :=
  let rule := String.ofList (List.replicate 60 '=')
  rule ++ "\nTick Throughput\n" ++ rule ++ "\n"

/-- A line of the table. -/
structure Row where
  /-- The width and height of the board. -/
  size : Nat
  /-- The median duration. -/
  median : Value
  /-- The ninetieth percentile of the durations. -/
  ninetieth : Value
  /-- The longest duration. -/
  greatest : Value
  /-- The number of ants. -/
  ants : Value

/-- The line for a size. -/
def row (size : Nat) (t : Throughput) : Row :=
  ⟨size, .float t.median, .float t.ninetieth, .float t.greatest, .int t.ants⟩

/-- A duration with three places after the point. -/
def durationText (v : Value) : Except Problem String := do
  .ok (padLeft 7 (← (v.fixed 3).mapError .misuse) ++ " ms")

/-- The text of a line. -/
def Row.text (r : Row) : Except Problem String := do
  let median ← durationText r.median
  let ninetieth ← durationText r.ninetieth
  let greatest ← durationText r.greatest
  if !r.ants.isWritable then throw .tooLong
  .ok ("  " ++ padLeft 4 (toString r.size) ++ "x" ++ padRight 4 (toString r.size) ++
    " | p50=" ++ median ++ " | p90=" ++ ninetieth ++ " | max=" ++ greatest ++
    " | ants=" ++ r.ants.shown ++ "\n")

/-- The end of the table. -/
def ending : String := "[OK] Done\n"

/-- The table of several lines. -/
def table (rows : List Row) : Except Problem String := do
  .ok (heading ++ String.join (← rows.mapM Row.text) ++ ending)

end Throughput

end Formicary
