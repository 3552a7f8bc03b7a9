import Formicary.Yaml.Node
import Formicary.Yaml.Plain
import Formicary.Yaml.Quoted

/-!
# Tokens

A text is split into tokens from left to right. Outside brackets the columns tell where a collection
begins and ends, and a collection that begins or ends there has a token for it. A scalar or bracket
is a key if a colon follows on its line within `keyLimit` characters; only then the tokens that mark
it are put in front of it, so no token from the first candidate for a key on is settled.

A text that cannot be split any further ends in a fault behind its settled tokens. What is wrong
with them is found before the fault.
-/

namespace Formicary.Yaml

/-- A token. -/
inductive Token where
  | documentStart
  | documentEnd
  | blockList
  | blockMapping
  | blockEnd
  | openList
  | closeList
  | openMapping
  | closeMapping
  | dash
  | comma
  | key
  | colon
  | reference
  | scalar (node : Node)
  | finish
  | fault (problem : Problem)

/-- The number of characters that a key may take up. -/
def keyLimit : Nat := 1024

/-- A place at which a key may have started. -/
structure Candidate where
  /-- The glyph at the place. -/
  start : Glyph
  /-- The number of tokens before it. -/
  number : Nat
  /-- Whether nothing but a key can be there. -/
  isRequired : Bool

/-- Whether a key from a candidate on may go on at a glyph. -/
def Candidate.reaches (c : Candidate) (g : Glyph) : Bool :=
  c.start.line = g.line && g.index - c.start.index ≤ keyLimit

/-- A text that has been split up to a place. -/
structure Splitting where
  /-- The number of glyphs of the text. -/
  size : Nat
  /-- What has not been split yet. -/
  rest : List Glyph
  /-- The tokens so far, the latest first. -/
  tokens : List Token
  /-- The number of tokens so far. -/
  count : Nat
  /-- The columns of the collections without brackets that are open, the innermost first. -/
  columns : List Nat
  /-- The candidate within the innermost brackets. -/
  inner : Option Candidate
  /-- The candidates around each pair of open brackets, the innermost first. -/
  outer : List (Option Candidate)
  /-- Whether a key may start here. -/
  isFresh : Bool

namespace Splitting

/-- The start of a text. -/
def start (gs : List Glyph) : Splitting := ⟨gs.length, gs, [], 0, [], none, [], true⟩

/-- Whether there are open brackets. -/
def inFlow (s : Splitting) : Bool := !s.outer.isEmpty

/-- The candidates, from the innermost on. -/
def candidates (s : Splitting) : List Candidate := (s.inner :: s.outer).filterMap id

/-- The splitting with another token behind the others. -/
def push (s : Splitting) (t : Token) : Splitting :=
  { s with tokens := t :: s.tokens, count := s.count + 1 }

/-- The splitting with another token behind a number of tokens. -/
def insert (s : Splitting) (number : Nat) (t : Token) : Splitting :=
  let later := s.count - number
  { s with tokens := s.tokens.take later ++ t :: s.tokens.drop later, count := s.count + 1 }

/-- The tokens in front of the first candidate. -/
def settled (s : Splitting) : List Token :=
  match s.candidates.getLast? with
  | some c => (s.tokens.drop (s.count - c.number)).reverse
  | none => s.tokens.reverse

/-! ### Candidates -/

/-- The splitting without the candidates that are out of reach. -/
def refresh (s : Splitting) : Except Problem Splitting :=
  match s.rest with
  | [] => .ok s
  | g :: _ =>
    if s.candidates.any fun c => c.isRequired && !c.reaches g then .error .malformed
    else .ok { s with
      inner := s.inner.filter (·.reaches g)
      outer := s.outer.map fun c => c.filter (·.reaches g) }

/-- The splitting without a candidate within the innermost brackets. -/
def forget (s : Splitting) : Except Problem Splitting :=
  if s.inner.any (·.isRequired) then .error .malformed else .ok { s with inner := none }

/-- The splitting in front of `g`, which is a candidate if a key may start there. A token in the
column of the innermost collection has to be a key. -/
def propose (s : Splitting) (g : Glyph) : Except Problem Splitting :=
  if s.isFresh then do
    let s ← s.forget
    let isRequired := !s.inFlow && s.columns.head? == some g.column
    .ok { s with inner := some ⟨g, s.count, isRequired⟩ }
  else .ok s

/-! ### Columns -/

/-- The splitting after all collections without brackets that are open in columns with a property
have ended. -/
def close (s : Splitting) (ends : Nat → Bool) : Splitting :=
  if s.inFlow then s
  else
    (s.columns.takeWhile ends).foldl (fun s _ => s.push .blockEnd)
      { s with columns := s.columns.dropWhile ends }

/-- The splitting after a collection without brackets has begun in a column, if none is open as far
to the right; the token for it comes behind a number of tokens. -/
def openBlock (s : Splitting) (column : Nat) (t : Token) (number : Nat) : Splitting :=
  if s.inFlow || s.columns.head?.any (column ≤ ·) then s
  else { s.insert number t with columns := column :: s.columns }

/-! ### Steps -/

/-- The splitting after a token up to `rest`. -/
def take (s : Splitting) (t : Token) (rest : List Glyph) : Splitting := { s.push t with rest }

/-- The splitting after a marker that begins or ends a document. -/
def marker (s : Splitting) (t : Token) : Except Problem Splitting := do
  let s ← (s.close fun _ => true).forget
  .ok { s.take t (s.rest.drop 3) with isFresh := false }

/-- The splitting after an opening bracket. -/
def opened (s : Splitting) (t : Token) (g : Glyph) (rest : List Glyph) :
    Except Problem Splitting := do
  let s ← s.propose g
  .ok { s.take t rest with inner := none, outer := s.inner :: s.outer, isFresh := true }

/-- The splitting after a closing bracket. -/
def closed (s : Splitting) (t : Token) (rest : List Glyph) : Except Problem Splitting := do
  let s ← s.forget
  match s.outer with
  | [] => .error .malformed
  | inner :: outer => .ok { s.take t rest with inner, outer, isFresh := false }

/-- The splitting after a comma. -/
def comma (s : Splitting) (rest : List Glyph) : Except Problem Splitting := do
  .ok { (← s.forget).take .comma rest with isFresh := true }

/-- The splitting in front of a mark that stands for itself, with the collection that it may begin.
Outside brackets it may stand only where a key could. -/
def lead (s : Splitting) (block : Token) (g : Glyph) : Except Problem Splitting :=
  if s.inFlow || s.isFresh then (s.openBlock g.column block s.count).forget
  else .error .malformed

/-- The splitting after the dash of an item. -/
def dash (s : Splitting) (g : Glyph) (rest : List Glyph) : Except Problem Splitting := do
  .ok { (← s.lead .blockList g).take .dash rest with isFresh := true }

/-- The splitting after the mark of a key. -/
def key (s : Splitting) (g : Glyph) (rest : List Glyph) : Except Problem Splitting := do
  .ok { (← s.lead .blockMapping g).take .key rest with isFresh := !s.inFlow }

/-- The splitting after the colon behind a key. The tokens for a key that was a candidate are put in
front of it. -/
def colon (s : Splitting) (g : Glyph) (rest : List Glyph) : Except Problem Splitting :=
  match s.inner with
  | some c =>
    let s := { s.insert c.number .key with inner := none }
    let s := s.openBlock c.start.column .blockMapping c.number
    .ok { s.take .colon rest with isFresh := false }
  | none => do .ok { (← s.lead .blockMapping g).take .colon rest with isFresh := !s.inFlow }

/-- Whether a character may be in the name of a node. -/
def isNameChar (c : Char) : Bool := c.isAlphanum || c = '-' || c = '_'

/-- Whether the name of a node may end in front of `gs`. -/
def endsName (gs : List Glyph) : Bool :=
  atSpace gs ||
    gs.head?.any fun g => ['?', ':', ',', ']', '\x7d', '%', '@', '\x60'].contains g.char

/-- The splitting after a name that stands for the node so named. -/
def reference (s : Splitting) (g : Glyph) (rest : List Glyph) : Except Problem Splitting := do
  let s ← s.propose g
  let after := rest.dropWhile (isNameChar ·.char)
  if rest.head?.any (isNameChar ·.char) && endsName after then
    .ok { s.take .reference after with isFresh := false }
  else .error .malformed

/-- The splitting after a scalar. -/
def scalar (s : Splitting) (g : Glyph) (rest : List Glyph) : Except Problem Splitting := do
  if g.char = '\'' ∨ g.char = '"' then
    let s ← s.propose g
    let (text, after) ← quotedText g.char s.size rest
    .ok { s.take (.scalar (.quoted (String.ofList text))) after with isFresh := false }
  else if startsPlain s.inFlow (g :: rest) then
    let s ← s.propose g
    let indent := (s.columns.head?.map (· + 1)).getD 0
    let (text, space) := plainText s.inFlow indent s.size (g :: rest)
    .ok { s.take (.scalar (.plain (Text.ofChars text))) space.after with isFresh := space.isBroken }
  else .error .malformed

/-- The splitting after the token that starts with `g`. -/
def token (s : Splitting) (g : Glyph) (rest : List Glyph) : Except Problem Splitting :=
  if atMarker '-' (g :: rest) then s.marker .documentStart
  else if atMarker '.' (g :: rest) then s.marker .documentEnd
  else
    match g.char with
    | '[' => s.opened .openList g rest
    | '\x7b' => s.opened .openMapping g rest
    | ']' => s.closed .closeList rest
    | '\x7d' => s.closed .closeMapping rest
    | ',' => s.comma rest
    | '*' => s.reference g rest
    | '-' => if atSpace rest then s.dash g rest else s.scalar g rest
    | '?' => if s.inFlow || atSpace rest then s.key g rest else s.scalar g rest
    | ':' => if s.inFlow || atSpace rest then s.colon g rest else s.scalar g rest
    | _ => s.scalar g rest

/-- The splitting in front of the next token. -/
def advance (s : Splitting) : Except Problem Splitting :=
  let rest := gap s.rest
  let isFresh := s.isFresh || (!s.inFlow && rest.head?.map (·.line) != s.rest.head?.map (·.line))
  do
    let s ← { s with rest, isFresh }.refresh
    match s.rest with
    | [] => s.forget
    | g :: _ => .ok (s.close (g.column < ·))

/-- The splitting after the next token; none at the end of the text. -/
def step (s : Splitting) : Except Problem (Option Splitting) := do
  let s ← s.advance
  match s.rest with
  | [] => .ok none
  | g :: rest => (s.token g rest).map some

/-- The tokens of a text that is over, up to a last one. -/
def ending (s : Splitting) (last : Token) : List Token :=
  ((s.close fun _ => true).push last).tokens.reverse

/-- The tokens of a text that is split further from a place on, with the one for its end. -/
def run (last : Token) : Nat → Splitting → List Token
  | 0, s => s.settled ++ [.fault .malformed]
  | fuel + 1, s =>
    match s.refresh with
    | .error p => s.settled ++ [.fault p]
    | .ok s =>
      match s.step with
      | .error p => s.settled ++ [.fault p]
      | .ok none => s.ending last
      | .ok (some next) => run last fuel next

end Splitting

/-- The tokens of a text, with the one for its end. -/
def Token.ofGlyphs (gs : List Glyph) (last : Token) : List Token :=
  let s := Splitting.start gs
  s.run last (s.size + 1)

end Formicary.Yaml
