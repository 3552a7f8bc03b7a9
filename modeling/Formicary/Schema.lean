import Formicary.Json
import Formicary.Value.Identity

/-!
# Schemas

A schema says which values are allowed: of what kinds they are, which properties a mapping has to
have and whether it may have others, between which bounds a number lies, and what the schemas of
its properties allow. `Schema.violations` lists everything that is wrong with a value, and
`Schema.report?` chooses the violation to report: the one nearest to the top, of several equally
near ones the one with the greatest path, and at one place a wrong kind rather than anything else.

Schemas are read from JSON texts. Only what is said there with `type`, `required`, `properties`,
`additionalProperties`, `minimum` and `maximum` is known here; the rest is passed over.
-/

namespace Formicary

namespace Schema

/-- The kinds of values that a schema tells apart. -/
inductive Kind where
  | null
  | boolean
  | integer
  | number
  | string
  | array
  | object
  deriving DecidableEq

namespace Kind

/-- The kinds. -/
def all : List Kind := [.null, .boolean, .integer, .number, .string, .array, .object]

/-- The name of a kind. -/
def name : Kind → String
  | .null => "null"
  | .boolean => "boolean"
  | .integer => "integer"
  | .number => "number"
  | .string => "string"
  | .array => "array"
  | .object => "object"

/-- The kind with a given name. -/
def ofName? (text : String) : Option Kind := all.find? (·.name == text)

/-- Whether a value is of a kind. A double without a fraction is an integer, and a truth value is
no number. -/
def holds : Kind → Value → Bool
  | .null, .null => true
  | .boolean, .bool _ => true
  | .integer, .int _ => true
  | .integer, .float x => (Quantity.ofDouble x).integer?.isSome
  | .number, .int _ => true
  | .number, .float _ => true
  | .string, .text _ => true
  | .array, .list _ => true
  | .object, .mapping _ => true
  | _, _ => false

end Kind

/-- A condition on a value itself, apart from the values of its properties. -/
inductive Rule where
  | kinds (allowed : List Kind)
  | required (names : List String)
  | closed
  | minimum (bound : Value)
  | maximum (bound : Value)
  deriving DecidableEq

/-- What is wrong with a value. -/
inductive Cause where
  | forbidden
  | wrongKind (allowed : List Kind)
  | missing (name : String)
  | unexpected (keys : List Value)
  | below (bound : Value)
  | above (bound : Value)

end Schema

/-- A description of the allowed values. -/
inductive Schema where
  | never
  | describe (rules : List Schema.Rule) (properties : List (String × Schema))

namespace Schema

/-! ### Equality -/

mutual

/-- Whether two schemas are the same. -/
def same : Schema → Schema → Bool
  | .never, .never => true
  | .describe rules properties, .describe rules' properties' =>
    decide (rules = rules') && sameProperties properties properties'
  | _, _ => false

/-- Whether two lists of properties are the same. -/
def sameProperties : List (String × Schema) → List (String × Schema) → Bool
  | [], [] => true
  | (name, s) :: rest, (name', s') :: rest' =>
    decide (name = name') && same s s' && sameProperties rest rest'
  | _, _ => false

end

mutual

theorem same_iff : ∀ s t : Schema, same s t = true ↔ s = t
  | .never, t => by cases t <;> simp [same]
  | .describe _ properties, t => by cases t <;> simp [same, sameProperties_iff properties]

theorem sameProperties_iff :
    ∀ ps qs : List (String × Schema), sameProperties ps qs = true ↔ ps = qs
  | [], qs => by cases qs <;> simp [sameProperties]
  | (_, s) :: ps, qs => by
    cases qs <;> simp [sameProperties, same_iff s, sameProperties_iff ps, Prod.ext_iff]

end

instance : DecidableEq Schema := fun s t => decidable_of_iff _ (same_iff s t)

/-! ### Violations -/

/-- A place where a value is not as a schema asks. -/
structure Violation where
  /-- The names of the properties that lead to the place. -/
  path : List String
  /-- The value at the place. -/
  given : Value
  /-- What is wrong with it. -/
  cause : Cause
  /-- Whether the value is at least of an allowed kind. -/
  rightKind : Bool

/-- The wording of a violation. -/
def Violation.message (v : Violation) : String :=
  let given := v.given.written
  match v.cause with
  | .forbidden => "False schema does not allow " ++ given
  | .wrongKind allowed =>
    given ++ " is not of type " ++ ", ".intercalate (allowed.map fun k => Text.quoted k.name)
  | .missing name => Text.quoted name ++ " is a required property"
  | .unexpected keys =>
    "Additional properties are not allowed (" ++ ", ".intercalate (keys.map Value.written) ++
      (if keys.length = 1 then " was" else " were") ++ " unexpected)"
  | .below bound => given ++ " is less than the minimum of " ++ bound.written
  | .above bound => given ++ " is greater than the maximum of " ++ bound.written

/-- Whether the wording of a violation has no integer that is too long to be written. -/
def Violation.isWritable (v : Violation) : Bool :=
  match v.cause with
  | .missing _ => true
  | .unexpected keys => Value.areWritable keys
  | .below bound => Value.areWritable [v.given, bound]
  | .above bound => Value.areWritable [v.given, bound]
  | _ => v.given.isWritable

/-! ### Checking -/

/-- The number that a value is for bounds; a truth value is none. -/
def number? (v : Value) : Option Quantity :=
  if Kind.number.holds v then v.quantity? else none

/-- Whether one value lies below another, if both are numbers. -/
def isBelow (a b : Value) : Bool :=
  match number? a, number? b with
  | some p, some q => p.lt q
  | _, _ => false

/-- Whether a key may stand before another: they are sorted by their text, and the undefined number
comes after the text that spells it. -/
def mayPrecede (a b : Value) : Bool :=
  if a.shown = b.shown then !a.isUndefined || b.isUndefined
  else !decide (Text.codes b.shown < Text.codes a.shown)

/-- The keys of a mapping that are none of the given names, sorted. -/
def strangers (known : List String) (entries : List (Value × Value)) : List Value :=
  ((entries.map (·.1)).filter fun k => !known.any (k.isText ·)).mergeSort mayPrecede

/-- What a rule finds wrong with a value whose known properties are given. -/
def Rule.causes (known : List String) (v : Value) : Rule → List Cause
  | .kinds allowed => if allowed.any (·.holds v) then [] else [.wrongKind allowed]
  | .required names =>
    match v with
    | .mapping entries =>
      (names.filter fun n => (Value.find? entries n).isNone).map .missing
    | _ => []
  | .closed =>
    match v with
    | .mapping entries =>
      let keys := strangers known entries
      if keys.isEmpty then [] else [.unexpected keys]
    | _ => []
  | .minimum bound => if isBelow v bound then [.below bound] else []
  | .maximum bound => if isBelow bound v then [.above bound] else []

/-- Whether a rule allows the kind of a value. A rule on something else does not. -/
def Rule.allowsKind (v : Value) : Rule → Bool
  | .kinds allowed => allowed.any (·.holds v)
  | _ => false

/-- The value of a property, if there is a mapping with it. -/
def property? (name : String) : Value → Option Value
  | .mapping entries => Value.find? entries name
  | _ => none

mutual

/-- All that is wrong with a value at a place, that of its own first. -/
def violationsAt (path : List String) : Schema → Value → List Violation
  | .never, v => [⟨path, v, .forbidden, false⟩]
  | .describe rules properties, v =>
    let known := properties.map (·.1)
    let rightKind := rules.any (·.allowsKind v)
    (rules.flatMap (·.causes known v)).map (⟨path, v, ·, rightKind⟩) ++
      propertyViolations path properties v

/-- All that is wrong with the properties of a value at a place. -/
def propertyViolations (path : List String) : List (String × Schema) → Value → List Violation
  | [], _ => []
  | (name, s) :: rest, v =>
    (match property? name v with
      | some w => violationsAt (path ++ [name]) s w
      | none => []) ++ propertyViolations path rest v

end

/-- All that is wrong with a value. -/
def violations (s : Schema) (v : Value) : List Violation := violationsAt [] s v

/-- Whether a violation is reported rather than one that was found before it. -/
def Violation.outranks (a b : Violation) : Bool :=
  if a.path.length = b.path.length then
    if a.path = b.path then !a.rightKind && b.rightKind
    else decide (b.path.map Text.codes < a.path.map Text.codes)
  else a.path.length < b.path.length

/-- The violation to report of a list in the order in which they were found. -/
def worst? : List Violation → Option Violation
  | [] => none
  | v :: rest => some (rest.foldl (fun best w => if w.outranks best then w else best) v)

/-- The violation to report of a value, if there is one. -/
def report? (s : Schema) (v : Value) : Option Violation := worst? (s.violations v)

/-- Whether a schema allows a value. -/
def accepts (s : Schema) (v : Value) : Bool := (s.violations v).isEmpty

/-! ### Reading schemas -/

/-- The kinds that a value names. -/
def kindsOf : Value → List Kind
  | .text s => (Kind.ofName? s).toList
  | .list items => items.filterMap fun
    | .text s => Kind.ofName? s
    | _ => none
  | _ => []

/-- The texts of a list. -/
def textsOf : Value → List String
  | .list items => items.filterMap fun
    | .text s => some s
    | _ => none
  | _ => []

/-- The rule that a keyword with its value states, if it states one. -/
def ruleOf? (keyword : String) (v : Value) : Option Rule :=
  match keyword with
  | "type" => some (.kinds (kindsOf v))
  | "required" => some (.required (textsOf v))
  | "additionalProperties" =>
    match v with
    | .bool false => some .closed
    | _ => none
  | "minimum" => some (.minimum v)
  | "maximum" => some (.maximum v)
  | _ => none

/-- The rules of the entries of a schema document, in their order. -/
def rulesOf (entries : List (Value × Value)) : List Rule :=
  entries.filterMap fun
    | (.text keyword, v) => ruleOf? keyword v
    | _ => none

mutual

/-- The schema of a document. -/
def ofValue : Value → Schema
  | .bool false => .never
  | .mapping entries => .describe (rulesOf entries) (propertiesOf entries)
  | _ => .describe [] []

/-- The properties that the entries of a schema document describe. -/
def propertiesOf : List (Value × Value) → List (String × Schema)
  | [] => []
  | (key, .mapping members) :: rest =>
    (if key.isText "properties" then membersOf members else []) ++ propertiesOf rest
  | _ :: rest => propertiesOf rest

/-- The schemas of a list of properties. -/
def membersOf : List (Value × Value) → List (String × Schema)
  | [] => []
  | (.text name, v) :: rest => (name, ofValue v) :: membersOf rest
  | _ :: rest => membersOf rest

end

/-- The schema of a JSON text, if it is one. -/
def read (text : String) : Except Json.Problem Schema := (Json.read text).map ofValue

end Schema

end Formicary
