import Formicary.Throughput

/-!
# The command line

Prints the table of throughputs, measured on the clock of the machine.
-/

namespace Formicary.Throughput

/-- A run of a board under the clock of the machine: the durations in milliseconds, the latest
first, and the number of living ants. -/
def timedRun : Nat → Board → List Double → IO (Except Problem (List Double × Nat))
  | 0, b, durations => return .ok (durations, b.arena.size)
  | n + 1, b, durations => do
    let before ← IO.monoNanosNow
    let result ← IO.lazyPure fun _ => b.tick
    let after ← IO.monoNanosNow
    match result with
    | .error h => return .error (.fault h.fault)
    | .ok b => timedRun n b (Double.ofRatio false (after - before) 1000000 :: durations)

/-- Several runs of boards of a size under the clock of the machine. -/
def timedRuns (size : Nat) : Nat → Int → List Double → Nat → IO (Except Problem Throughput)
  | 0, _, durations, ants =>
    return match ofDurations? durations.reverse ants with
      | some t => .ok t
      | none => .error .noDurations
  | n + 1, seed, durations, _ => do
    match freshBoard .unbounded size seed with
    | .error e => return .error (.build e)
    | .ok b =>
      match ← timedRun defaultTicks b durations with
      | .error e => return .error e
      | .ok (durations, ants) => timedRuns size n (seed + 1) durations ants

end Formicary.Throughput

open Formicary in
/-- Prints the line of every size as soon as it has been measured. -/
def main : IO UInt32 := do
  let out ← IO.getStdout
  out.putStr Throughput.heading
  for size in Throughput.sizes do
    let measured ← Throughput.timedRuns size Throughput.defaultRuns Throughput.defaultSeed [] 0
    match measured.bind fun t => (Throughput.row size t).text with
    | .ok line => out.putStr line
    | .error e =>
      IO.eprintln e.message
      return 1
    out.flush
  out.putStr Throughput.ending
  return 0
