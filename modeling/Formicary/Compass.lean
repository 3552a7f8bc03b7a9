/-!
# Compass directions

The four facings of an ant, kept in counter-clockwise order: a left turn steps forward through
that order and a right turn steps back.
-/

namespace Formicary

/-- The facing of an ant. North is the direction of smaller row numbers. -/
inductive Direction where
  | east
  | north
  | west
  | south
  deriving DecidableEq

namespace Direction

/-- The directions in counter-clockwise order. -/
def all : List Direction := [.east, .north, .west, .south]

/-- The written name of a direction. -/
def name : Direction → String
  | .east => "east"
  | .north => "north"
  | .west => "west"
  | .south => "south"

/-- The direction with a given written name. -/
def ofName? (text : String) : Option Direction := all.find? (·.name == text)

/-- A quarter turn counter-clockwise. -/
def turnLeft : Direction → Direction
  | .east => .north
  | .north => .west
  | .west => .south
  | .south => .east

/-- A quarter turn clockwise. -/
def turnRight : Direction → Direction
  | .east => .south
  | .north => .east
  | .west => .north
  | .south => .west

/-- The direction faced after half a turn. -/
def opposite : Direction → Direction
  | .east => .west
  | .north => .south
  | .west => .east
  | .south => .north

@[simp] theorem turnRight_turnLeft (d : Direction) : d.turnLeft.turnRight = d := by cases d <;> rfl

end Direction

end Formicary
