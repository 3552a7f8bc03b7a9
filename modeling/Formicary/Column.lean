import Formicary.Indexing
import Formicary.Number.Summation
import Formicary.Value.Arithmetic

/-!
# Columns of numbers

A column keeps all its numbers in one format, the narrowest that has room for each of them: truth
values, integers with or without a sign, doubles, or the numbers as they are. Signed and unsigned
integers have only doubles in common. The extremes of a column are shown in its format, and its mean
is a double.
-/

namespace Formicary

namespace Column

/-- The format of a column. -/
inductive Format where
  | truth
  | signed
  | unsigned
  | real
  | loose
  deriving DecidableEq

/-- The narrowest format that has room for a value. -/
def Format.ofValue : Value → Format
  | .bool _ => .truth
  | .int n =>
    if addressable n then .signed
    else if 0 ≤ n ∧ n < 0x10000000000000000 then .unsigned
    else .loose
  | .float _ => .real
  | _ => .loose

/-- The narrowest format that has room for what is in either of two. -/
def Format.join : Format → Format → Format
  | .loose, _ => .loose
  | _, .loose => .loose
  | .truth, f => f
  | f, .truth => f
  | .signed, .signed => .signed
  | .unsigned, .unsigned => .unsigned
  | _, _ => .real

end Column

/-- Values in one format. -/
structure Column where
  /-- The format. -/
  format : Column.Format
  /-- The values. -/
  values : List Value

namespace Column

/-- A value as a format keeps it. -/
def Format.keep (f : Format) (v : Value) : Value :=
  match f, v.double?, v.integer? with
  | .real, some (.ok x), _ => .float x
  | .signed, _, some n => .int n
  | .unsigned, _, some n => .int n
  | _, _, _ => v

/-- The column of a list of values. -/
def ofValues (values : List Value) : Column :=
  let format := (values.map Format.ofValue).foldl Format.join .truth
  ⟨format, values.map format.keep⟩

/-- The mean of a column that is not empty. Numbers that are kept as they are have an exact sum. -/
def mean (c : Column) : Except Value.Misuse Double :=
  match c.format with
  | .loose => do
    let sum ← c.values.tail.foldlM (Value.plus "+") (c.values.headD (.int 0))
    let x ← sum.double?.getD (.error (.operands "/" sum.kindName "int"))
    .ok (x / Double.ofInt c.values.length)
  | _ => do
    let xs ← (c.values.filterMap Value.double?).mapM id
    .ok (if c.format = .real then Double.mean xs else Double.meanOfParts xs)

/-- Whether an undefined number is in a column of doubles. -/
def hasNan (c : Column) : Bool :=
  c.format == .real && c.values.any fun v => v.quantity? == some .nan

/-- Whether a number is at most another, if both are numbers. -/
def atMost (a b : Value) : Except Value.Misuse Bool :=
  match a.quantity?, b.quantity? with
  | some p, some q => .ok (p.le q)
  | _, _ => .error (.order "<=" a.kindName b.kindName)

/-- Whether the first of two numbers comes before the second in a format: of equal doubles neither
does, of other equal numbers both. -/
def Format.precedes (f : Format) (a b : Value) : Except Value.Misuse Bool :=
  if f = .real then (atMost b a).map (!·) else atMost a b

/-- The last value that a list has preferred to the one before. -/
def preferred (prefers : Value → Value → Except Value.Misuse Bool) :
    Value → List Value → Except Value.Misuse Value
  | best, [] => .ok best
  | best, v :: rest => do preferred prefers (if ← prefers best v then best else v) rest

/-- The value of a column that is not empty that is preferred to all others, of equal doubles the
last. Undefined doubles come first. -/
def extreme (prefers : Value → Value → Except Value.Misuse Bool) (c : Column) :
    Except Value.Misuse Value :=
  if c.hasNan then .ok (.float Double.nan)
  else preferred prefers (c.values.headD .null) c.values.tail

/-- The least value of a column that is not empty. -/
def least (c : Column) : Except Value.Misuse Value := c.extreme c.format.precedes

/-- The greatest value of a column that is not empty. -/
def greatest (c : Column) : Except Value.Misuse Value :=
  c.extreme fun best v => c.format.precedes v best

end Column

end Formicary
