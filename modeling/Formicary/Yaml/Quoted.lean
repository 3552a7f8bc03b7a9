import Formicary.Yaml.Glyph
import Formicary.Yaml.Scalar

/-!
# Scalars in quotes

Between single quotes every character stands for itself and a quote is written twice. Between double
quotes a backslash starts an escape, and one before the end of a line joins the line to the next.
Line ends between words are folded in both. An escape that names no code point is a problem of its
own.
-/

namespace Formicary.Yaml

/-- The character that a one-letter escape stands for. -/
def letterEscape? : Char → Option Char
  | '0' => some '\x00'
  | 'a' => some '\x07'
  | 'b' => some '\x08'
  | 't' => some '\t'
  | '\t' => some '\t'
  | 'n' => some '\n'
  | 'v' => some '\x0b'
  | 'f' => some '\x0c'
  | 'r' => some '\r'
  | 'e' => some '\x1b'
  | ' ' => some ' '
  | '"' => some '"'
  | '\\' => some '\\'
  | '/' => some '/'
  | 'N' => some '\x85'
  | '_' => some '\xa0'
  | 'L' => some '\u2028'
  | 'P' => some '\u2029'
  | _ => none

/-- The number of digits of a hexadecimal escape. -/
def hexEscape? : Char → Option Nat
  | 'x' => some 2
  | 'u' => some 4
  | 'U' => some 8
  | _ => none

/-- Whether a character is a blank or a tab. -/
def isBlankOrTab (c : Char) : Bool := c = ' ' || c = '\t'

/-- The line ends at the start of a run of lines, unless a marker ends the document among them. -/
def innerBreaks (gs : List Glyph) : Except Problem (List Char × List Glyph) :=
  let (breaks, after) := blankLines isBlankOrTab gs
  if atBoundary after then .error .malformed else .ok (breaks, after)

/-- What the blanks or line ends at the start of `gs` stand for, and what follows them. -/
def innerSpace (gs : List Glyph) : Except Problem (List Char × List Glyph) :=
  let blanks := gs.takeWhile (isBlankOrTab ·.char)
  let after := gs.drop blanks.length
  match after with
  | g :: _ =>
    if isBreak g.char then (innerBreaks after).map fun (breaks, rest) => (folded breaks, rest)
    else .ok (blanks.map (·.char), after)
  | [] => .error .malformed

/-- The number of codes that have room in a signed word of 32 bits. -/
def codeLimit : Nat := 0x80000000

/-- What a code point is kept as. -/
def character (code : Nat) : Except Problem (List Char) :=
  if code < Text.codeCount then .ok (Text.ofCode code)
  else .error (if code < codeLimit then .noCharacter else .wideCode)

/-- What the escape after a backslash stands for, and what follows it. -/
def escape : List Glyph → Except Problem (List Char × List Glyph)
  | [] => .error .malformed
  | g :: rest =>
    match letterEscape? g.char, hexEscape? g.char with
    | some c, _ => .ok ([c], rest)
    | none, some width =>
      match Json.hexCode? width ((rest.take width).map (·.char)) with
      | some (code, _) => do .ok (← character code, rest.drop width)
      | none => .error .malformed
    | none, none =>
      if isBreak g.char then
        (innerBreaks (g :: rest)).map fun (breaks, after) => (breaks.drop 1, after)
      else .error .malformed

/-- The text up to the closing quote, and what follows it. -/
def quotedText (quote : Char) : Nat → List Glyph → Except Problem (List Char × List Glyph)
  | 0, _ => .error .malformed
  | _ + 1, [] => .error .malformed
  | fuel + 1, g :: rest =>
    if isSpace g.char then do
      let (space, after) ← innerSpace (g :: rest)
      let (text, last) ← quotedText quote fuel after
      .ok (space ++ text, last)
    else if g.char = '\\' ∧ quote = '"' then do
      let (c, after) ← escape rest
      let (text, last) ← quotedText quote fuel after
      .ok (c ++ text, last)
    else if g.char ≠ quote then
      (quotedText quote fuel rest).map fun (text, last) =>
        (Text.ofChar g.char ++ text, last)
    else
      match rest with
      | h :: more =>
        if h.char = quote ∧ quote = '\'' then
          (quotedText quote fuel more).map fun (text, last) => (quote :: text, last)
        else .ok ([], rest)
      | [] => .ok ([], [])

end Formicary.Yaml
