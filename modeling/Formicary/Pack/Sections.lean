import Formicary.Config
import Formicary.Text.Pieces

/-!
# Sections of a document

A document describes a configuration in two sections: the one for the board has to be there, the one
for the life on it may be left out or empty. The fields of both are put together, those of the
second section winning, and make the configuration.

Documents may hold data of kinds that `Value` has no place for. So the sections are looked for in
data of any type, as long as `Reading` tells how such data are read; `Reading.ofValues` is the
reading of values.
-/

namespace Formicary.Pack

/-- The name of the section for the board. -/
def boardSection : String := "grid"

/-- The name of the section for the life on the board. -/
def lifeSection : String := "lifecycle"

/-- Why a document gives no configuration; what may be wrong with its fields is of a type of its
own. -/
inductive SectionProblem (π : Type) where
  | missingBoard
  | boardNotMapping
  | lifeNotMapping
  | config (problem : π)
  | notSearchable (kind : String)
  | listHasNoNames
  | textHasNoNames

/-- The wording of a problem with the document of a source. -/
def SectionProblem.message (source : String) : SectionProblem Config.Problem → String
  | .missingBoard => "Missing '" ++ boardSection ++ "' section in " ++ source
  | .boardNotMapping => "'" ++ boardSection ++ "' must be a mapping in " ++ source
  | .lifeNotMapping => "'" ++ lifeSection ++ "' must be a mapping in " ++ source
  | .config problem => "Invalid grid config in " ++ source ++ ": " ++ problem.message
  | .notSearchable kind => "argument of type '" ++ kind ++ "' is not iterable"
  | .listHasNoNames => "list indices must be integers or slices, not str"
  | .textHasNoNames => "string indices must be integers, not 'str'"

/-! ### Reading data -/

/-- How data of a type are read, and configurations are made of them. -/
structure Reading (δ κ π : Type) where
  /-- Whether a datum is a mapping. -/
  isMapping : δ → Bool
  /-- The value of a name in a mapping, if it is a key of it. -/
  find? : δ → String → Option δ
  /-- Whether a datum counts as true. -/
  truthy : δ → Bool
  /-- The mapping with the entries of two, those of the second winning. -/
  merge : δ → δ → δ
  /-- The datum that a text is. -/
  text : String → δ
  /-- The configuration that has the entries of a mapping as its fields. -/
  configure : δ → Except π κ

namespace Reading

variable {δ κ π : Type} (r : Reading δ κ π)

/-- The section for the board. -/
def boardOf (data : δ) : Except (SectionProblem π) δ :=
  match r.find? data boardSection with
  | none => .error .missingBoard
  | some board => if r.isMapping board then .ok board else .error .boardNotMapping

/-- The section for the life on the board, if there is one. A datum that does not count as true
stands for none. -/
def lifeOf (data : δ) : Except (SectionProblem π) (Option δ) :=
  match (r.find? data lifeSection).filter r.truthy with
  | none => .ok none
  | some life => if r.isMapping life then .ok (some life) else .error .lifeNotMapping

/-- The configuration of the sections of a mapping. -/
def configOf (data : δ) : Except (SectionProblem π) κ := do
  let board ← r.boardOf data
  let life ← r.lifeOf data
  (r.configure (life.elim board (r.merge board))).mapError .config

end Reading

/-! ### Values -/

/-- The entries of a mapping. -/
def entriesOf : Value → List (Value × Value)
  | .mapping entries => entries
  | _ => []

/-- The reading of values. -/
def Reading.ofValues : Reading Value Config Config.Problem where
  isMapping
    | .mapping _ => true
    | _ => false
  find? v name := Value.find? (entriesOf v) name
  truthy := Value.truthy
  merge a b := .mapping (Value.merge (entriesOf a) (entriesOf b))
  text := .text
  configure v := Config.ofEntries (entriesOf v)

/-- The configuration of a document. In a value that is no mapping there are no sections to be had,
even if the name of one occurs in it. -/
def configOf (data : Value) : Except (SectionProblem Config.Problem) Config :=
  match data with
  | .mapping _ => Reading.ofValues.configOf data
  | .list items =>
    .error (if items.any (·.isText boardSection) then .listHasNoNames else .missingBoard)
  | .text s =>
    .error (if Text.occursIn boardSection.toList s.toList then .textHasNoNames else .missingBoard)
  | v => .error (.notSearchable v.kindName)

end Formicary.Pack
