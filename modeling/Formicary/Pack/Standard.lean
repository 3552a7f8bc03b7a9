import Formicary.Pack.Files
import Formicary.Pack.Load
import Formicary.Schema

/-!
# The standard pack

The pack that comes with the library: a document with a board of fifty by fifty cells and the usual
life on it, and the schema that documents are checked against, both as the lines of their files.
`Pack.schema` is the schema as a value.
-/

namespace Formicary.Pack

/-- The lines of the standard document. -/
def documentLines : List String :=
  [
    "# Default ant grid: 50x50 board, reference lifecycle tuning.",
    "name: default",
    "description: Gene-driven ants foraging and fighting on a 50x50 board",
    "",
    "grid:",
    "  width: 50",
    "  height: 50",
    "  seed: 12345        # null = fresh entropy every run",
    "  spare_cell: true   # allocate width*height + 1 cells",
    "",
    "lifecycle:",
    "  gene_length: 20",
    "  initial_energy: 50",
    "  food_energy: 150",
    "  split_energy: 120",
    "  action_cost: 1",
    "  attack_divisor: 10",
    "  food_growth_chance: 0.001"
  ]

/-- The lines of the standard schema. -/
def schemaLines : List String :=
  [
    "\x7b",
    "  \"$schema\": \"http://json-schema.org/draft-07/schema#\",",
    "  \"title\": \"Ant grid configuration\",",
    "  \"type\": \"object\",",
    "  \"required\": [\"grid\"],",
    "  \"properties\": \x7b",
    "    \"name\": \x7b\"type\": \"string\"\x7d,",
    "    \"description\": \x7b\"type\": \"string\"\x7d,",
    "    \"grid\": \x7b",
    "      \"type\": \"object\",",
    "      \"required\": [\"width\", \"height\"],",
    "      \"additionalProperties\": false,",
    "      \"properties\": \x7b",
    "        \"width\": \x7b\"type\": \"integer\", \"minimum\": 1\x7d,",
    "        \"height\": \x7b\"type\": \"integer\", \"minimum\": 1\x7d,",
    "        \"seed\": \x7b\"type\": [\"integer\", \"null\"], \"minimum\": 0\x7d,",
    "        \"spare_cell\": \x7b\"type\": \"boolean\"\x7d",
    "      \x7d",
    "    \x7d,",
    "    \"lifecycle\": \x7b",
    "      \"type\": \"object\",",
    "      \"additionalProperties\": false,",
    "      \"properties\": \x7b",
    "        \"gene_length\": \x7b\"type\": \"integer\", \"minimum\": 1\x7d,",
    "        \"initial_energy\": \x7b\"type\": \"integer\"\x7d,",
    "        \"food_energy\": \x7b\"type\": \"integer\", \"minimum\": 0\x7d,",
    "        \"split_energy\": \x7b\"type\": \"integer\"\x7d,",
    "        \"action_cost\": \x7b\"type\": \"integer\", \"minimum\": 0\x7d,",
    "        \"attack_divisor\": \x7b\"type\": \"integer\", \"minimum\": 1\x7d,",
    "        \"food_growth_chance\": \x7b\"type\": \"number\", \"minimum\": 0, \"maximum\": 1\x7d",
    "      \x7d",
    "    \x7d",
    "  \x7d",
    "\x7d"
  ]

/-- A text of the given lines. -/
def ofLines (lines : List String) : String := String.join (lines.map (· ++ "\n"))

/-- The files of the standard pack. -/
def standardFiles (root : Path) : Files :=
  (Files.empty.write (documentPath root) (ofLines documentLines)).write
    ((root.child schemaDirectory).child schemaFile) (ofLines schemaLines)

/-! ### The schema -/

/-- A number of a kind, with a least value. -/
def atLeast (kind : Schema.Kind) (bound : Int) : Schema :=
  .describe [.kinds [kind], .minimum (.int bound)] []

/-- A value of a kind. -/
def ofKind (kind : Schema.Kind) : Schema := .describe [.kinds [kind]] []

/-- The schema of the section for the board. -/
def boardSchema : Schema :=
  .describe [.kinds [.object], .required ["width", "height"], .closed]
    [("width", atLeast .integer 1),
      ("height", atLeast .integer 1),
      ("seed", .describe [.kinds [.integer, .null], .minimum (.int 0)] []),
      ("spare_cell", ofKind .boolean)]

/-- The schema of the section for the life on the board. -/
def lifeSchema : Schema :=
  .describe [.kinds [.object], .closed]
    [("gene_length", atLeast .integer 1),
      ("initial_energy", ofKind .integer),
      ("food_energy", atLeast .integer 0),
      ("split_energy", ofKind .integer),
      ("action_cost", atLeast .integer 0),
      ("attack_divisor", atLeast .integer 1),
      ("food_growth_chance",
        .describe [.kinds [.number], .minimum (.int 0), .maximum (.int 1)] [])]

/-- The standard schema. -/
def schema : Schema :=
  .describe [.kinds [.object], .required ["grid"]]
    [("name", ofKind .string),
      ("description", ofKind .string),
      ("grid", boardSchema),
      ("lifecycle", lifeSchema)]

end Formicary.Pack
