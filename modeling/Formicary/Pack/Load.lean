import Formicary.Pack.Path
import Formicary.Pack.Sections

/-!
# Loading packs

A document is read from a file, checked against a schema if there is a schema file where schemas are
looked for, and made into a configuration. `Pack.loadConfig` loads a document by its path, and
`Pack.load` the document of a pack by the directory of the pack, where by default the schemas are
looked for in the pack itself.

Loading relies on a system of files, on what parses their texts and on what checks data against
schemas. None of these is fixed here: `Pack.Surroundings` has what is asked of them, and any of the
questions may be met with a fault. Only the faults that loading tells of in its own words are told
apart from the others.
-/

namespace Formicary

/-- A configuration with the name of its pack. -/
structure Pack (κ δ : Type) where
  /-- The configuration. -/
  config : κ
  /-- The name, as it was written. -/
  name : δ

namespace Pack

/-! ### Names in a pack -/

/-- The name of the directory of a pack that holds its documents. -/
def documentDirectory : String := "grid"

/-- The name of the document of a pack, without its ending. -/
def documentName : String := "default"

/-- The name of the directory of a pack that holds its schemas. -/
def schemaDirectory : String := "schemas"

/-- The name of the schema file. -/
def schemaFile : String := "grid.schema.json"

/-- The place of the document of a pack. -/
def documentPath (root : Path) : Path :=
  (root.child documentDirectory).child (documentName ++ ".yaml")

/-! ### What loading relies on -/

/-- What is met instead of an answer: a text that is no document, one that is no schema, data that a
schema does not allow, each with its explanation if there is one, or any other fault. -/
inductive Raised (ε : Type) where
  | malformed (cause : Option String)
  | notJson (cause : Option String)
  | violation (cause : String)
  | other (fault : ε)

/-- What loading asks of what is around it: contents of files are of type `γ`, the data in them of
type `δ`, and schemas of type `σ`. -/
structure Surroundings (γ δ σ ε : Type) where
  /-- Whether there is anything at a path. -/
  exists? : Path → Except (Raised ε) Bool
  /-- The content of the file at a path. -/
  content : Path → Except (Raised ε) γ
  /-- The data of the document with a content. The path serves to tell where a fault is. -/
  document : Path → γ → Except (Raised ε) δ
  /-- The schema with a content. -/
  schema : γ → Except (Raised ε) σ
  /-- Checks data against a schema. -/
  validate : σ → δ → Except (Raised ε) Unit

/-- Why nothing can be loaded. -/
inductive Problem (ε π : Type) where
  | notFound (path : Path)
  | malformed (path : Path) (cause : Option String)
  | notMapping (path : Path)
  | brokenSchema (path : Path) (cause : Option String)
  | violation (source : Path) (cause : String)
  | sections (source : Path) (problem : SectionProblem π)
  | raised (fault : Raised ε)

section

variable {γ δ σ κ ε π : Type} (w : Surroundings γ δ σ ε) (r : Reading δ κ π)

/-! ### The steps -/

/-- The problem that something met while a document was read is told as. -/
def Raised.inDocument (path : Path) : Raised ε → Problem ε π
  | .malformed cause => .malformed path cause
  | fault => .raised fault

/-- The problem that something met while data were checked is told as. -/
def Raised.inCheck (schemaAt source : Path) : Raised ε → Problem ε π
  | .violation cause => .violation source cause
  | .notJson cause => .brokenSchema schemaAt cause
  | fault => .raised fault

/-- Whether there is anything at a path, faults being told as they are. -/
def isPresent (path : Path) : Except (Problem ε π) Bool := (w.exists? path).mapError .raised

/-- The data of the document at a path, which have to be a mapping. -/
def readDocument (path : Path) : Except (Problem ε π) δ := do
  if !(← isPresent w path) then throw (.notFound path)
  let data ← (w.content path >>= w.document path).mapError (·.inDocument path)
  if r.isMapping data then .ok data else .error (.notMapping path)

/-- Checks the data of a source against the schema in a file, if there is one. -/
def checkSchema (data : δ) (schemaAt source : Path) : Except (Problem ε π) Unit := do
  if ← isPresent w schemaAt then
    let checked : Except (Raised ε) Unit := do
      let s ← w.content schemaAt >>= w.schema
      w.validate s data
    checked.mapError (·.inCheck schemaAt source)

/-- The schema file to check against. Without a directory, or with an empty name for it, there is
none. -/
def schemaPath? : Option String → Option Path
  | none => none
  | some directory =>
    if directory = "" then none else some ((Path.ofText directory).child schemaFile)

/-- The configuration in the sections of a mapping. -/
def parseConfig (data : δ) (source : Path) : Except (Problem ε π) κ :=
  (r.configOf data).mapError (.sections source)

/-! ### Loading -/

/-- The configuration of the document at a path. -/
def loadConfig (path : Path) (schemas : Option String) : Except (Problem ε π) κ := do
  let data ← readDocument w r path
  if let some schemaAt := schemaPath? schemas then
    checkSchema w data schemaAt path
  parseConfig r data path

/-- Where the schemas for a pack are looked for: in the given directory, by default in that of the
pack if it has one. -/
def effectiveSchemas (root : Path) (schemas : Option String) :
    Except (Problem ε π) (Option String) :=
  match schemas with
  | some directory => .ok (some directory)
  | none => do
    let own := root.child schemaDirectory
    .ok (if ← isPresent w own then some own.text else none)

/-- The pack in a directory. A document without a name gives it the name of its file. -/
def load (root : Path) (schemas : Option String) : Except (Problem ε π) (Pack κ δ) := do
  let effective ← effectiveSchemas w root schemas
  let path := documentPath root
  let data ← readDocument w r path
  if let some schemaAt := schemaPath? effective then
    checkSchema w data schemaAt path
  let config ← parseConfig r data path
  let name := (r.find? data "name").getD (r.text documentName)
  .ok ⟨config, name⟩

end

end Pack

end Formicary
