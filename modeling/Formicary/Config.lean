import Formicary.Ant
import Formicary.Value

/-!
# Configurations

A configuration gives every field of a fixed list a value. The values are kept as they were
written, so that they can be shown again, and the checks of `Config.check` are those of numbers:
the sizes, the gene length and the attack divisor have to exceed zero and the growth chance has to
lie in `[0, 1]`. A value that is no number is told from one that is out of bounds.
-/

namespace Formicary

namespace Config

/-- The fields of a configuration. -/
inductive Field where
  | width
  | height
  | seed
  | geneLength
  | initialEnergy
  | foodEnergy
  | splitEnergy
  | actionCost
  | attackDivisor
  | foodGrowthChance
  | spareCell
  deriving DecidableEq

namespace Field

/-- The fields in the order in which they are listed. -/
def all : List Field :=
  [.width, .height, .seed, .geneLength, .initialEnergy, .foodEnergy, .splitEnergy, .actionCost,
    .attackDivisor, .foodGrowthChance, .spareCell]

/-- The written name of a field. -/
def name : Field → String
  | .width => "width"
  | .height => "height"
  | .seed => "seed"
  | .geneLength => "gene_length"
  | .initialEnergy => "initial_energy"
  | .foodEnergy => "food_energy"
  | .splitEnergy => "split_energy"
  | .actionCost => "action_cost"
  | .attackDivisor => "attack_divisor"
  | .foodGrowthChance => "food_growth_chance"
  | .spareCell => "spare_cell"

/-- The field with a given written name. -/
def ofName? (text : String) : Option Field := all.find? (·.name == text)

/-- The value of a field that is not given. -/
def defaultValue : Field → Value
  | .width => .int 50
  | .height => .int 50
  | .seed => .null
  | .geneLength => .int defaultGeneLength
  | .initialEnergy => .int defaultEnergy
  | .foodEnergy => .int defaultMeal
  | .splitEnergy => .int 120
  | .actionCost => .int 1
  | .attackDivisor => .int 10
  | .foodGrowthChance => .float (Double.ofRatio false 1 1000)
  | .spareCell => .bool true

theorem mem_all (f : Field) : f ∈ all := by cases f <;> decide

theorem ofName?_name (f : Field) : ofName? f.name = some f := by cases f <;> decide

end Field

/-- The name that the configuration itself goes by, so that no field can have it. -/
def ownName : String := "self"

/-- Why a list of fields is no configuration. -/
inductive Problem where
  | keyNotText
  | unknownField (name : String)
  | takenName
  | incomparable (left right : String)
  | tooSmall (width height : Value)
  | geneLength (given : Value)
  | attackDivisor (given : Value)
  | growthChance (given : Value)

/-- The wording of a problem. -/
def Problem.message : Problem → String
  | .keyNotText => "keywords must be strings"
  | .unknownField name =>
    "GridConfig.__init__() got an unexpected keyword argument '" ++ name ++ "'"
  | .takenName =>
    "GridConfig.__init__() got multiple values for argument '" ++ ownName ++ "'"
  | .incomparable left right => (Value.Misuse.order "<=" left right).message
  | .tooSmall width height =>
    Value.wording [width, height]
      ("Grid must be at least 1x1, got " ++ width.shown ++ "x" ++ height.shown)
  | .geneLength given =>
    Value.wording [given] ("gene_length must be positive, got " ++ given.shown)
  | .attackDivisor given =>
    Value.wording [given] ("attack_divisor must be positive, got " ++ given.shown)
  | .growthChance given =>
    Value.wording [given] ("food_growth_chance must be in [0, 1], got " ++ given.shown)

end Config

/-- A value for every field. -/
structure Config where
  /-- The value of a field. -/
  value : Config.Field → Value

namespace Config

/-- The width of the board. -/
def width (c : Config) : Value := c.value .width

/-- The height of the board. -/
def height (c : Config) : Value := c.value .height

/-- The seed, null if there is none. -/
def seed (c : Config) : Value := c.value .seed

/-- Whether a value is at most zero, if it is a number. -/
def atMostZero (v : Value) : Except Problem Bool :=
  match v.quantity? with
  | some q => .ok (q.le (.ofInt 0))
  | none => .error (.incomparable v.kindName "int")

/-- Whether a value lies in `[0, 1]`, if it is a number. -/
def inUnit (v : Value) : Except Problem Bool :=
  match v.quantity? with
  | some q => .ok ((Quantity.ofInt 0).le q && q.le (.ofInt 1))
  | none => .error (.incomparable "float" v.kindName)

/-- The configuration itself, if its values pass the checks, which are made in a fixed order. The
height is looked at only if the width is in order. -/
def check (c : Config) : Except Problem Config := do
  let small ← if ← atMostZero c.width then pure true else atMostZero c.height
  if small then throw (.tooSmall c.width c.height)
  if ← atMostZero (c.value .geneLength) then throw (.geneLength (c.value .geneLength))
  if ← atMostZero (c.value .attackDivisor) then throw (.attackDivisor (c.value .attackDivisor))
  if ← inUnit (c.value .foodGrowthChance) then pure c
  else throw (.growthChance (c.value .foodGrowthChance))

/-- The names that the keys of a mapping are, if all are texts. -/
def keyNames? : List (Value × Value) → Option (List String)
  | [] => some []
  | (.text s, _) :: rest => (keyNames? rest).map (s :: ·)
  | _ :: _ => none

/-- The configuration with the given values and the default for every other field, unchecked. -/
def fill (entries : List (Value × Value)) : Config :=
  ⟨fun f => (Value.find? entries f.name).getD f.defaultValue⟩

/-- The checked configuration of a mapping. Keys that are no texts are refused first, then the
first name that is no field, then what the checks refuse. -/
def ofEntries (entries : List (Value × Value)) : Except Problem Config :=
  match keyNames? entries with
  | none => .error .keyNotText
  | some names =>
    match names.find? fun n => (Field.ofName? n).isNone with
    | some name => .error (if name = ownName then .takenName else .unknownField name)
    | none => (fill entries).check

/-- The fields with their values, in order. -/
def entries (c : Config) : List (Value × Value) :=
  Field.all.map fun f => (.text f.name, c.value f)

/-- The configuration in which every field has its default. -/
def standard : Config := ⟨Field.defaultValue⟩

/-- The configuration with another size, checked again. -/
def resize (c : Config) (width height : Value) : Except Problem Config :=
  check ⟨fun
    | .width => width
    | .height => height
    | f => c.value f⟩

/-- The number of spare cells. -/
def spareCells (c : Config) : Nat := if (c.value .spareCell).truthy then 1 else 0

/-- The number of cells, including the spare cell if there is one. It is a double if the width or
the height is. -/
def cellCount (c : Config) : Except Value.Misuse Value := do
  (← c.width.times "*" c.height).plus "+" (.int c.spareCells)

/-- The number of cells of a configuration whose width and height are integers. -/
def cells? (c : Config) : Option Int := do
  some ((← c.width.integer?) * (← c.height.integer?) + c.spareCells)

end Config

end Formicary
