import Formicary.Number.Fixed
import Formicary.Number.Floor
import Formicary.Value

/-!
# Arithmetic on values

Values can be added, subtracted, divided and compared, although only some of them go together.
Truth values count as the integers 0 and 1. Two integers give an integer; as soon as a double takes
part, both are doubles, which an integer may be too large for. Comparisons are exact in either case.
Texts and lists can be joined and compared, and everything else is a misuse.
-/

namespace Formicary.Value

/-- Why values do not go together. -/
inductive Misuse where
  | operands (symbol left right : String)
  | order (symbol left right : String)
  | joining (left right : String)
  | notIterable (kind : String)
  | noMagnitude (kind : String)
  | noPlaces (kind : String)
  | tooLarge
  | zeroDivisor (inDoubles : Bool)
  deriving DecidableEq

/-- The wording of a misuse. -/
def Misuse.message : Misuse → String
  | .operands symbol left right =>
    "unsupported operand type(s) for " ++ symbol ++ ": '" ++ left ++ "' and '" ++ right ++ "'"
  | .order symbol left right =>
    "'" ++ symbol ++ "' not supported between instances of '" ++ left ++ "' and '" ++ right ++ "'"
  | .joining left right =>
    "can only concatenate " ++ left ++ " (not \"" ++ right ++ "\") to " ++ left
  | .notIterable kind => "'" ++ kind ++ "' object is not iterable"
  | .noMagnitude kind => "bad operand type for abs(): '" ++ kind ++ "'"
  | .noPlaces kind =>
    if kind = "str" then "Unknown format code 'f' for object of type 'str'"
    else "unsupported format string passed to " ++ kind ++ ".__format__"
  | .tooLarge => "int too large to convert to float"
  | .zeroDivisor inDoubles =>
    if inDoubles then "float floor division by zero" else "integer division or modulo by zero"

/-! ### Numbers -/

/-- The double nearest to an integer, if the integer is not beyond all of them. -/
def doubleOf (n : Int) : Except Misuse Double :=
  let x := Double.ofInt n
  if x.parts = .infinite (n < 0) then .error .tooLarge else .ok x

/-- The double that a number is in arithmetic with doubles; nothing else is one. -/
def double? : Value → Option (Except Misuse Double)
  | .bool b => some (doubleOf b.toNat)
  | .int n => some (doubleOf n)
  | .float x => some (.ok x)
  | _ => none

/-- The result of an operation on two numbers that is given on integers and on doubles; the symbol
names it where the values are no numbers. -/
def combine (symbol : String) (onInts : Int → Int → Except Misuse Int)
    (onDoubles : Double → Double → Except Misuse Double) (a b : Value) : Except Misuse Value :=
  match a.integer?, b.integer? with
  | some m, some n => (onInts m n).map .int
  | _, _ =>
    match a.double?, b.double? with
    | some x, some y => do .ok (.float (← onDoubles (← x) (← y)))
    | _, _ => .error (.operands symbol a.kindName b.kindName)

/-- The difference of two numbers. -/
def minus (symbol : String) : Value → Value → Except Misuse Value :=
  combine symbol (fun m n => .ok (m - n)) fun x y => .ok (x - y)

/-- The product of two numbers. -/
def times (symbol : String) : Value → Value → Except Misuse Value :=
  combine symbol (fun m n => .ok (m * n)) fun x y => .ok (x * y)

/-- The quotient of two numbers, rounded down. -/
def floorDiv (symbol : String) : Value → Value → Except Misuse Value :=
  combine symbol (fun m n => if n = 0 then .error (.zeroDivisor false) else .ok (m.fdiv n))
    fun x y => if y.isZero then .error (.zeroDivisor true) else .ok (x.floorDiv y)

/-- A number without its sign. -/
def magnitude : Value → Except Misuse Value
  | .bool b => .ok (.int b.toNat)
  | .int n => .ok (.int n.natAbs)
  | .float x => .ok (.float x.magnitude)
  | v => .error (.noMagnitude v.kindName)

/-- A number with the opposite sign; other values are left alone. -/
def opposite : Value → Value
  | .bool b => .int (-b.toNat)
  | .int n => .int (-n)
  | .float x => .float (-x)
  | v => v

/-- Whether a value is a number of at least zero. -/
def isNonnegative (v : Value) : Bool :=
  match v.quantity? with
  | some q => (Quantity.ofInt 0).le q
  | none => false

/-- The quotient of the magnitude of a number, rounded down, with the sign of the number. -/
def signedQuotient (v divisor : Value) : Except Misuse Value := do
  let q ← (← v.magnitude).floorDiv "//" divisor
  .ok (if v.isNonnegative then q else q.opposite)

/-- A number with a fixed count of places, written as the double that it is. -/
def fixed (places : Nat) (v : Value) : Except Misuse String :=
  match v.double? with
  | some x => do .ok ((← x).fixed places)
  | none => .error (.noPlaces v.kindName)

/-! ### Sums -/

/-- The sum of two numbers, or two texts or lists joined. -/
def plus (symbol : String) (a b : Value) : Except Misuse Value :=
  match a, b with
  | .text s, .text t => .ok (.text (s ++ t))
  | .list xs, .list ys => .ok (.list (xs ++ ys))
  | .text _, _ => .error (.joining a.kindName b.kindName)
  | .list _, _ => .error (.joining a.kindName b.kindName)
  | _, _ => combine symbol (fun m n => .ok (m + n)) (fun x y => .ok (x + y)) a b

/-- The values that a value consists of, if it consists of some. -/
def parts? : Value → Option (List Value)
  | .list items => some items
  | .text s => some ((Text.codes s).map fun code => .text (Text.ofCodes [code]))
  | .mapping entries => some (entries.map (·.1))
  | _ => none

/-- A value increased by another. A list takes in whatever the other consists of. -/
def grown (a b : Value) : Except Misuse Value :=
  match a with
  | .list items =>
    match b.parts? with
    | some more => .ok (.list (items ++ more))
    | none => .error (.notIterable b.kindName)
  | _ => a.plus "+=" b

/-- The sum of a list, from zero on. -/
def total (values : List Value) : Except Misuse Value := values.foldlM (plus "+") (.int 0)

/-! ### Comparisons -/

mutual

/-- Whether one value is above another: numbers by their value, texts by their code points, lists by
the first items that differ. -/
def exceeds : Value → Value → Except Misuse Bool
  | .text s, .text t => .ok (decide (Text.codes t < Text.codes s))
  | .list xs, .list ys => exceedsItems xs ys
  | a, b =>
    match a.quantity?, b.quantity? with
    | some p, some q => .ok (q.lt p)
    | _, _ => .error (.order ">" a.kindName b.kindName)

/-- Whether one list of values is above another. -/
def exceedsItems : List Value → List Value → Except Misuse Bool
  | [], _ => .ok false
  | _ :: _, [] => .ok true
  | x :: xs, y :: ys => if x.alike y then exceedsItems xs ys else x.exceeds y

end

/-- Whether a number is at most zero. -/
def isSpent (v : Value) : Except Misuse Bool :=
  match v.quantity? with
  | some q => .ok (q.le (.ofInt 0))
  | none => .error (.order "<=" v.kindName "int")

/-! ### Integers -/

@[simp] theorem minus_int (symbol : String) (m n : Int) :
    minus symbol (.int m) (.int n) = .ok (.int (m - n)) := rfl

@[simp] theorem grown_int (m n : Int) : grown (.int m) (.int n) = .ok (.int (m + n)) := rfl

@[simp] theorem plus_int (symbol : String) (m n : Int) :
    plus symbol (.int m) (.int n) = .ok (.int (m + n)) := rfl

theorem floorDiv_int (symbol : String) (m : Int) {n : Int} (h : n ≠ 0) :
    floorDiv symbol (.int m) (.int n) = .ok (.int (m.fdiv n)) := by
  simp [floorDiv, combine, integer?, h, Except.map]

@[simp] theorem exceeds_int (m n : Int) :
    exceeds (.int m) (.int n) = .ok (decide (n < m)) := by
  simp [exceeds, quantity?]

@[simp] theorem isSpent_int (n : Int) : isSpent (.int n) = .ok (decide (n ≤ 0)) := by
  simp [isSpent, quantity?]

/-- On integers the signed quotient by a positive divisor is the one rounded toward zero. -/
theorem signedQuotient_int (m : Int) {n : Int} (h : 0 < n) :
    signedQuotient (.int m) (.int n) = .ok (.int (m.tdiv n)) := by
  have hn : n ≠ 0 := by omega
  have hf : Int.fdiv (m.natAbs : Int) n = (m.natAbs : Int).tdiv n :=
    Int.fdiv_eq_tdiv_of_nonneg (by omega) (by omega)
  simp only [signedQuotient, magnitude, floorDiv_int _ _ hn, hf, isNonnegative, quantity?,
    Quantity.le_ofInt, bind, Except.bind]
  by_cases hm : 0 ≤ m
  · simp [hm, Int.natAbs_of_nonneg hm]
  · have ha : (m.natAbs : Int) = -m := by omega
    simp [hm, opposite, ha, Int.neg_tdiv]

end Formicary.Value
