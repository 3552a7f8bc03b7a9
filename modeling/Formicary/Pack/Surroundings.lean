import Formicary.Pack.Files
import Formicary.Pack.Load
import Formicary.Schema
import Formicary.Yaml.Document

/-!
# Packs among files

What the program itself gives loading to rely on: texts below a working directory, documents and
schemas of the forms that `Yaml.read` and `Schema.read` know, and the check of values against such
schemas. A text that cannot be parsed is not explained.
-/

namespace Formicary.Pack

/-- A fault that loading has no words of its own for. -/
inductive Uncaught where
  | missing (path : Path)
  | isDirectory (path : Path)
  | nameTooLong (path : Path)
  | scalar (problem : Yaml.Problem)
  | longNumeral (count : Nat)
  | tooLong

/-- The wording of a fault. -/
def Uncaught.message : Uncaught → String
  | .missing path => "[Errno 2] No such file or directory: " ++ Text.quoted path.text
  | .isDirectory path => "[Errno 21] Is a directory: " ++ Text.quoted path.text
  | .nameTooLong path => "[Errno 36] File name too long: " ++ Text.quoted path.text
  | .scalar problem => problem.message
  | .longNumeral count => Value.tooManyDigitsMessage count
  | .tooLong => Value.tooLongMessage

/-- The wording of what is met instead of an answer. -/
def Raised.message : Raised Uncaught → String
  | .malformed cause => cause.getD ""
  | .notJson cause => cause.getD ""
  | .violation cause => cause
  | .other fault => fault.message

/-- An explanation as it stands behind what it explains. -/
def explanation : Option String → String
  | none => ""
  | some cause => ": " ++ cause

/-- The wording of a problem. -/
def Problem.message : Problem Uncaught Config.Problem → String
  | .notFound path => "File not found: " ++ path.text
  | .malformed path cause => "YAML parse error in " ++ path.text ++ explanation cause
  | .notMapping path => "Expected a mapping at top level of " ++ path.text
  | .brokenSchema path cause => "Invalid JSON schema " ++ path.text ++ explanation cause
  | .violation source cause => "Validation error in " ++ source.text ++ ": " ++ cause
  | .sections source problem => problem.message source.text
  | .raised fault => fault.message

/-- The value of a document. -/
def readValue (content : String) : Except (Raised Uncaught) Value :=
  match Yaml.read content with
  | .ok v => .ok v
  | .error .malformed => .error (.malformed none)
  | .error problem => .error (.other (.scalar problem))

/-- The schema of a text. -/
def readSchema (content : String) : Except (Raised Uncaught) Schema :=
  match Schema.read content with
  | .ok s => .ok s
  | .error .malformed => .error (.notJson none)
  | .error (.tooManyDigits count) => .error (.other (.longNumeral count))

/-- Checks a value against a schema. A violation has to be worded even if another is reported. -/
def checkValue (s : Schema) (data : Value) : Except (Raised Uncaught) Unit :=
  if !(s.violations data).all (·.isWritable) then .error (.other .tooLong)
  else
    match s.report? data with
    | some found => .error (.violation found.message)
    | none => .ok ()

/-- What files give loading to rely on. The line ends of their texts are unified. -/
def Surroundings.ofFiles (files : Files) : Surroundings String Value Schema Uncaught where
  exists? path :=
    match files.entry path with
    | .missing => .ok false
    | .nameTooLong => .error (.other (.nameTooLong path))
    | _ => .ok true
  content path :=
    match files.entry path with
    | .missing => .error (.other (.missing path))
    | .nameTooLong => .error (.other (.nameTooLong path))
    | .directory => .error (.other (.isDirectory path))
    | .text content => .ok (String.ofList (unifyLineEnds content.toList))
  document _ := readValue
  schema := readSchema
  validate := checkValue

end Formicary.Pack
