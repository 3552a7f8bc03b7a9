/-!
# Teams

Every ant belongs to one of four teams. Teams gate combat and nothing else: an attack does damage
exactly when attacker and defender belong to different teams.
-/

namespace Formicary

/-- The affiliation of an ant. -/
inductive Team where
  | blue
  | red
  | yellow
  | cyan
  deriving DecidableEq

namespace Team

/-- The teams in the order in which they are sampled and listed. -/
def all : List Team := [.blue, .red, .yellow, .cyan]

/-- The written name of a team. -/
def name : Team → String
  | .blue => "blue"
  | .red => "red"
  | .yellow => "yellow"
  | .cyan => "cyan"

/-- The team with a given written name. -/
def ofName? (text : String) : Option Team := all.find? (·.name == text)

/-- Two teams fight exactly when they differ, so there is no friendly fire. -/
def hostile (a b : Team) : Bool := a != b

theorem mem_all (t : Team) : t ∈ all := by cases t <;> decide

theorem hostile_iff {a b : Team} : a.hostile b = true ↔ a ≠ b := by simp [hostile]

end Team

end Formicary
