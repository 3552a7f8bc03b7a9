import Formicary.Number.Fixed

/-!
# Room for cells

The cells of a board take up one byte each for their kind and eight for their occupant entry. A
board is refused if a row of its cells is too long to be numbered or would take up more bytes than
can be had. How many can be had depends on the machine, so it is asked of a `Memory`. The refusal
tells the room in the unit that leaves a number of one to four digits.
-/

namespace Formicary

/-- Whether a number of bytes can be had in one piece. -/
abbrev Memory : Type := Nat → Bool

/-- A memory without bounds. -/
def Memory.unbounded : Memory := fun _ => true

/-- Why there is no room for the cells of a board. -/
inductive Crowding where
  | tooMany (cells : Nat)
  | noRoom (cells bytesPerCell : Nat)

namespace Crowding

/-- The names of the units, each of which is 1024 times the one before. -/
def units : List String := ["bytes", "KiB", "MiB", "GiB", "TiB", "PiB", "EiB"]

/-- A number of at least one with three significant digits, or with all before its point. -/
def significant (x : Double) : String :=
  if (x.fixed 0).length ≥ 3 then x.fixed 0 ++ "."
  else if (x.fixed 1).length ≥ 4 then x.fixed 1
  else x.fixed 2

/-- A number of bytes of at least 1024 in the unit that suits it. -/
def roomText (bytes : Nat) : String :=
  let unit := bytes.log2 / 10
  let unit := if Double.roundDiv bytes (twoTo (10 * unit)) = 1024 then unit + 1 else unit
  significant (Double.ofRatio false bytes (twoTo (10 * unit))) ++ " " ++ units.getD unit ""

/-- The wording of a refusal. -/
def message : Crowding → String
  | .tooMany _ => "Maximum allowed dimension exceeded"
  | .noRoom cells bytesPerCell =>
    "Unable to allocate " ++ roomText (cells * bytesPerCell) ++ " for an array with shape (" ++
      toString cells ++ ",) and data type int" ++ toString (8 * bytesPerCell)

/-- The refusal of a number of cells, if there is no room for them. -/
def of? (memory : Memory) (cells : Nat) : Option Crowding :=
  if 0x8000000000000000 ≤ cells then some (.tooMany cells)
  else if !memory cells then some (.noRoom cells 1)
  else if !memory (cells * 8) then some (.noRoom cells 8)
  else none

/-- There is room if the cells can be numbered and both of their rows can be had. -/
theorem of?_eq_none_iff {memory : Memory} {cells : Nat} :
    of? memory cells = none ↔
      cells < 0x8000000000000000 ∧ memory cells = true ∧ memory (cells * 8) = true := by
  unfold of?
  by_cases hmany : 0x8000000000000000 ≤ cells
  · rw [if_pos hmany]
    exact ⟨nofun, fun h => absurd h.1 (Nat.not_lt.2 hmany)⟩
  · rw [if_neg hmany]
    cases memory cells <;> cases memory (cells * 8) <;> simp [Nat.not_le.1 hmany]

example : roomText 1000000000001 = "931. GiB" := by decide +kernel
example : roomText 0x280000000 = "10.0 GiB" := by decide +kernel

end Crowding

end Formicary
