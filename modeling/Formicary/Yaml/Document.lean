import Formicary.Yaml.Token

/-!
# Documents

The tokens of a text are put together to nodes. A key or value that is left out is an empty scalar,
and so is an item without content. An item of a list in brackets that has a colon is a mapping of
one entry, and a list with dashes may keep to the column of the key that it belongs to, where it has
no tokens that mark its ends. A token that is out of place ends the reading: a fault with its own
problem, any other one with a malformed document. Recursion is bounded by the number of tokens, for
each of which there are three calls at most. The nodes are given their values at the end.

These are not all documents there are: anchors, tags, directives and texts kept line by line are not
known here and count as malformed.
-/

namespace Formicary.Yaml

/-- The problem of tokens that cannot go on as they do. -/
def unexpected : List Token → Problem
  | .fault problem :: _ => problem
  | _ => .malformed

/-- The node of a scalar that is left out. -/
def missing : Node := .plain ""

namespace Token

/-- Whether an item is over in front of a token. -/
def endsItem : Token → Bool
  | .dash | .blockEnd => true
  | _ => false

/-- Whether a key or value is over in front of a token. -/
def endsEntry : Token → Bool
  | .key | .colon | .blockEnd => true
  | _ => false

/-- Whether a key or value in brackets is over in front of a token. -/
def endsPart : Token → Bool
  | .colon | .comma | .closeList | .closeMapping => true
  | _ => false

/-- Whether a document is over in front of a token. -/
def endsDocument : Token → Bool
  | .documentStart | .documentEnd | .finish => true
  | _ => false

end Token

/-- A node that is read from the start of the tokens, unless it is left out. -/
def optional (ends : Token → Bool) (read : List Token → Except Problem (Node × List Token))
    (ts : List Token) : Except Problem (Node × List Token) :=
  if ts.head?.any ends then .ok (missing, ts) else read ts

mutual

/-- The node at the start of the tokens, and what follows it. -/
def node : Nat → List Token → Except Problem (Node × List Token)
  | 0, _ => .error .malformed
  | fuel + 1, ts =>
    match ts with
    | .scalar n :: rest => .ok (n, rest)
    | .openList :: rest => listParts fuel [] rest
    | .openMapping :: rest => mappingParts fuel [] rest
    | .blockList :: rest => items fuel [] rest
    | .blockMapping :: rest => entries fuel [] rest
    | _ => .error (unexpected ts)

/-- The node of a key or value outside brackets, and what follows it. -/
def entryNode : Nat → List Token → Except Problem (Node × List Token)
  | 0, _ => .error .malformed
  | fuel + 1, ts =>
    match ts with
    | .dash :: _ => keyItems fuel [] ts
    | _ => node fuel ts

/-- The list whose items, in reverse behind `acc`, go on up to the end of their column, and what
follows it. -/
def items : Nat → List Node → List Token → Except Problem (Node × List Token)
  | 0, _, _ => .error .malformed
  | fuel + 1, acc, ts =>
    match ts with
    | .dash :: rest => do
      let (item, after) ← optional Token.endsItem (node fuel) rest
      items fuel (item :: acc) after
    | .blockEnd :: rest => .ok (.list acc.reverse, rest)
    | _ => .error (unexpected ts)

/-- The list whose items, in reverse behind `acc`, go on as long as dashes follow, and what follows
it. -/
def keyItems : Nat → List Node → List Token → Except Problem (Node × List Token)
  | 0, _, _ => .error .malformed
  | fuel + 1, acc, ts =>
    match ts with
    | .dash :: rest => do
      let (item, after) ← optional (fun t => t.endsItem || t.endsEntry) (node fuel) rest
      keyItems fuel (item :: acc) after
    | _ => .ok (.list acc.reverse, ts)

/-- The mapping whose entries, in reverse behind `acc`, go on up to the end of their column, and
what follows it. -/
def entries : Nat → List (Node × Node) → List Token → Except Problem (Node × List Token)
  | 0, _, _ => .error .malformed
  | fuel + 1, acc, ts =>
    match ts with
    | .key :: rest => do
      let (first, after) ← optional Token.endsEntry (entryNode fuel) rest
      match after with
      | .colon :: more => do
        let (second, last) ← optional Token.endsEntry (entryNode fuel) more
        entries fuel ((first, second) :: acc) last
      | _ => entries fuel ((first, missing) :: acc) after
    | .blockEnd :: rest => .ok (.mapping acc.reverse, rest)
    | _ => .error (unexpected ts)

/-- A node in brackets or, if it is a key, the node with its value, and what follows. -/
def part : Nat → List Token → Except Problem (Node × Option Node × List Token)
  | 0, _ => .error .malformed
  | fuel + 1, ts =>
    match ts with
    | .key :: rest => do
      let (first, after) ← optional Token.endsPart (node fuel) rest
      match after with
      | .colon :: more => do
        let (second, last) ← optional Token.endsPart (node fuel) more
        .ok (first, some second, last)
      | _ => .ok (first, some missing, after)
    | _ => do
      let (first, after) ← node fuel ts
      .ok (first, none, after)

/-- The list whose items, in reverse behind `acc`, go on up to its closing bracket, and what follows
it. -/
def listParts : Nat → List Node → List Token → Except Problem (Node × List Token)
  | 0, _, _ => .error .malformed
  | fuel + 1, acc, ts =>
    match ts with
    | .closeList :: rest => .ok (.list acc.reverse, rest)
    | _ => do
      let (first, second, after) ← part fuel ts
      let acc := second.elim first (fun v => .mapping [(first, v)]) :: acc
      match after with
      | .comma :: more => listParts fuel acc more
      | .closeList :: more => .ok (.list acc.reverse, more)
      | _ => .error (unexpected after)

/-- The mapping whose entries, in reverse behind `acc`, go on up to its closing brace, and what
follows it. A key without a colon has no value. -/
def mappingParts : Nat → List (Node × Node) → List Token → Except Problem (Node × List Token)
  | 0, _, _ => .error .malformed
  | fuel + 1, acc, ts =>
    match ts with
    | .closeMapping :: rest => .ok (.mapping acc.reverse, rest)
    | _ => do
      let (first, second, after) ← part fuel ts
      let acc := (first, second.getD missing) :: acc
      match after with
      | .comma :: more => mappingParts fuel acc more
      | .closeMapping :: more => .ok (.mapping acc.reverse, more)
      | _ => .error (unexpected after)

end

/-- The node of the first document, and what follows it. A marker may begin the document. -/
def content (fuel : Nat) (ts : List Token) : Except Problem (Node × List Token) :=
  match ts with
  | .finish :: _ => .ok (missing, ts)
  | .documentStart :: rest => optional Token.endsDocument (node fuel) rest
  | _ => node fuel ts

/-- Leaves out the markers that end a document. -/
def afterMarkers : List Token → List Token
  | .documentEnd :: rest => afterMarkers rest
  | ts => ts

/-- The node of the tokens of a single document. -/
def Node.ofTokens (ts : List Token) : Except Problem Node := do
  let (n, rest) ← content (3 * ts.length + 3) ts
  match afterMarkers rest with
  | .finish :: _ => .ok n
  | after => .error (unexpected after)

/-! ### Texts -/

/-- The characters of a text without the mark in front of it. -/
def withoutMark : List Char → List Char
  | [] => []
  | c :: rest => if c = byteOrderMark then rest else c :: rest

/-- The number of characters in a portion of a text. -/
def portion : Nat := 4096

/-- The number of characters that come before the portion with the first character that may not
occur in a text, if there is such a character. The first two portions come together. -/
def readable? (cs : List Char) : Option Nat :=
  (cs.findIdx? (!isAllowed ·)).map fun n => if n < 2 * portion then 0 else n / portion * portion

/-- The tokens of a text. It cannot be split beyond what is readable. -/
def tokens (cs : List Char) : List Token :=
  let count? := readable? cs
  let readable := (count?.map cs.take).getD cs
  Token.ofGlyphs (glyphsFrom 0 0 0 (withoutMark readable))
    (if count?.isNone then .finish else .fault .malformed)

/-- The node of a text that is a single document. -/
def parse (text : String) : Except Problem Node := Node.ofTokens (tokens text.toList)

/-- The value of a text that is a single document. The value of an empty document is null. -/
def read (text : String) : Except Problem Value := do (← parse text).value

end Formicary.Yaml
