import Formicary.Number.Double

/-!
# Pairwise summation

Doubles are summed in an order that keeps rounding errors small: a long list is halved, and a block
of at most 128 is summed in eight lanes side by side, whose sums are then added in pairs. What does
not fill all lanes is added at the end. Numbers of another kind become doubles in parts of 8192, and
the sums of the parts are added one after another.
-/

namespace Formicary.Double

/-- The number of lanes of a block. -/
def lanes : Nat := 8

/-- The greatest length of a block. -/
def blockLength : Nat := 128

/-- The sum of doubles from the first on. -/
def runningSum (xs : List Double) : Double := xs.foldl (· + ·) 0

/-- The sum of every eighth entry from the one at `first` on, in the given number of rows. -/
def laneSum (xs : Array Double) (rows first : Nat) : Double :=
  runningSum ((List.range rows).map fun row => xs.getD (row * lanes + first) 0)

/-- The sum of a block. -/
def blockSum (xs : List Double) : Double :=
  let rows := xs.length / lanes
  if rows = 0 then runningSum xs
  else
    let lane := laneSum xs.toArray rows
    let full := ((lane 0 + lane 1) + (lane 2 + lane 3)) + ((lane 4 + lane 5) + (lane 6 + lane 7))
    (xs.drop (rows * lanes)).foldl (· + ·) full

/-- The sum of doubles, halving until the parts are blocks. The first half has full lanes. -/
def pairwiseSum (xs : List Double) : Double :=
  if xs.length ≤ blockLength then blockSum xs
  else
    let half := xs.length / 2 / lanes * lanes
    pairwiseSum (xs.take half) + pairwiseSum (xs.drop half)
termination_by xs.length
decreasing_by
  all_goals
    simp_all only [blockLength, lanes, List.length_take, List.length_drop]
    omega

/-- The greatest length of a part. -/
def partLength : Nat := 8192

/-- The sums of the parts added to a sum. -/
def partsSum (sum : Double) (xs : List Double) : Double :=
  if xs.length = 0 then sum
  else partsSum (sum + pairwiseSum (xs.take partLength)) (xs.drop partLength)
termination_by xs.length
decreasing_by
  simp only [partLength, List.length_drop]
  omega

/-- The mean of a list that is not empty. -/
def mean (xs : List Double) : Double := (0 + pairwiseSum xs) / ofInt xs.length

/-- The mean of a list that is not empty and becomes doubles in parts. -/
def meanOfParts (xs : List Double) : Double := partsSum 0 xs / ofInt xs.length

end Formicary.Double
