import Formicary.Number.Power
import Formicary.Number.Quantity
import Formicary.Number.Shortest
import Formicary.Text.Quoted

/-!
# Values

A value is a datum as a configuration file holds it, before anything is known about its kind. A
mapping keeps its entries in the order in which their keys first appeared, and a later value for a
key that is already there replaces the earlier one. Keys are compared as numbers when both are
numbers, so a truth value and the integer it counts as are one key. The undefined number is no
number, but as a key and within a collection the one that documents share is always itself.
-/

namespace Formicary

/-- A datum of unknown kind. -/
inductive Value where
  | null
  | bool (b : Bool)
  | int (n : Int)
  | float (x : Double)
  | text (s : String)
  | list (items : List Value)
  | mapping (entries : List (Value × Value))

namespace Value

/-- The word for the kind of a value. -/
def kindName : Value → String
  | .null => "NoneType"
  | .bool _ => "bool"
  | .int _ => "int"
  | .float _ => "float"
  | .text _ => "str"
  | .list _ => "list"
  | .mapping _ => "dict"

/-- The number that a value is for comparisons; truth values count as 0 and 1. -/
def quantity? : Value → Option Quantity
  | .bool b => some (.ofInt b.toNat)
  | .int n => some (.ofInt n)
  | .float x => some (.ofDouble x)
  | _ => none

/-- The integer that a value is; truth values count as 0 and 1, and no float counts. -/
def integer? : Value → Option Int
  | .bool b => some b.toNat
  | .int n => some n
  | _ => none

/-- Whether a value counts as true: everything but null, false, zero and what is empty. -/
def truthy : Value → Bool
  | .null => false
  | .bool b => b
  | .int n => n != 0
  | .float x => !(Quantity.ofDouble x).same (.ofInt 0)
  | .text s => s != ""
  | .list items => !items.isEmpty
  | .mapping entries => !entries.isEmpty

/-- Whether a value is the undefined number that documents share. -/
def isUndefined : Value → Bool
  | .float x => x == Double.nan
  | _ => false

mutual

/-- Whether two values are equal as keys and within collections: numbers by their value, lists item
by item, mappings if they have equal values at equal keys, in whatever order. -/
def alike : Value → Value → Bool
  | .null, .null => true
  | .text s, .text t => s == t
  | .list xs, .list ys => alikeItems xs ys
  | .mapping es, .mapping fs => es.length == fs.length && alikeEntries es fs
  | a, b =>
    match a.quantity?, b.quantity? with
    | some p, some q => p.same q || (a.isUndefined && b.isUndefined)
    | _, _ => false

/-- Whether two lists of values are equal item by item. -/
def alikeItems : List Value → List Value → Bool
  | [], [] => true
  | x :: xs, y :: ys => alike x y && alikeItems xs ys
  | _, _ => false

/-- Whether every entry of a mapping has an equal one in another. -/
def alikeEntries : List (Value × Value) → List (Value × Value) → Bool
  | [], _ => true
  | (k, v) :: es, fs => fs.any (fun f => alike k f.1 && alike v f.2) && alikeEntries es fs

end

/-- Whether two values are equal. The undefined number equals nothing. -/
def same (a b : Value) : Bool := a.alike b && !(a.isUndefined && b.isUndefined)

/-- Whether a value is the given text. -/
def isText (name : String) : Value → Bool
  | .text s => s == name
  | _ => false

/-- Whether a value is a truth value. -/
def isTruth : Value → Bool
  | .bool _ => true
  | _ => false

/-! ### Mappings -/

/-- The value at a textual key of the entries of a mapping. -/
def find? (entries : List (Value × Value)) (name : String) : Option Value :=
  (entries.find? (·.1.isText name)).map (·.2)

/-- Puts a value at a key: in the place of the value that the key has, else at the end. -/
def put (entries : List (Value × Value)) (key value : Value) : List (Value × Value) :=
  if entries.any (·.1.alike key) then
    entries.map fun e => if e.1.alike key then (e.1, value) else e
  else entries ++ [(key, value)]

/-- Puts the entries of a second mapping into a first. -/
def merge (first second : List (Value × Value)) : List (Value × Value) :=
  second.foldl (fun acc e => put acc e.1 e.2) first

/-- The mapping of some named values. -/
def ofFields (fields : List (String × Value)) : Value :=
  .mapping (fields.map fun f => (.text f.1, f.2))

/-! ### Text -/

mutual

/-- A value as it is written inside a collection: texts are quoted. -/
def written : Value → String
  | .null => "None"
  | .bool b => if b then "True" else "False"
  | .int n => toString n
  | .float x => x.text
  | .text s => Text.quoted s
  | .list items => "[" ++ ", ".intercalate (writtenItems items) ++ "]"
  | .mapping entries => "\x7b" ++ ", ".intercalate (writtenEntries entries) ++ "\x7d"

/-- The written items of a list. -/
def writtenItems : List Value → List String
  | [] => []
  | v :: rest => v.written :: writtenItems rest

/-- The written entries of a mapping. -/
def writtenEntries : List (Value × Value) → List String
  | [] => []
  | (k, v) :: rest => (k.written ++ ": " ++ v.written) :: writtenEntries rest

end

/-- A value as it is shown on its own: a text is shown as it is. -/
def shown : Value → String
  | .text s => s
  | v => v.written

/-! ### Integers that are too long -/

/-- The number of digits beyond which an integer is neither written nor read in base ten. -/
def digitLimit : Nat := 4300

/-- The least natural number that is not written. -/
def unwritable : Nat := tenTo digitLimit

/-- What every refusal to write or read an integer of too many digits starts with. -/
def limitText : String :=
  "Exceeds the limit (" ++ toString digitLimit ++ " digits) for integer string conversion"

/-- What every such refusal ends with. -/
def limitAdvice : String := "use sys.set_int_max_str_digits() to increase the limit"

/-- The refusal to write an integer of too many digits. -/
def tooLongMessage : String := limitText ++ "; " ++ limitAdvice

/-- The refusal to read a numeral of too many digits. -/
def tooManyDigitsMessage (count : Nat) : String :=
  limitText ++ ": value has " ++ toString count ++ " digits; " ++ limitAdvice

/-- The refusal to read a text as an integer; only the beginning of a long text is quoted. -/
def badNumeralMessage (base : Nat) (text : String) : String :=
  "invalid literal for int() with base " ++ toString base ++ ": " ++
    String.ofList ((Text.quoted text).toList.take 200)

mutual

/-- Whether every integer in a value is short enough to be written. -/
def isWritable : Value → Bool
  | .int n => n.natAbs < unwritable
  | .list items => areWritable items
  | .mapping entries => haveWritable entries
  | _ => true

/-- Whether every integer in a list of values is short enough to be written. -/
def areWritable : List Value → Bool
  | [] => true
  | v :: rest => v.isWritable && areWritable rest

/-- Whether every integer in the entries of a mapping is short enough to be written. -/
def haveWritable : List (Value × Value) → Bool
  | [] => true
  | (k, v) :: rest => k.isWritable && v.isWritable && haveWritable rest

end

/-- A wording that shows values, if they can be written, else the refusal to write them. -/
def wording (values : List Value) (text : String) : String :=
  if areWritable values then text else tooLongMessage

end Value

end Formicary
