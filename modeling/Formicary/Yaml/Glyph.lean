/-!
# Characters in their places

The structure of a document hangs on where its characters stand: a token belongs to the collection
whose column it keeps to, and a key ends on the line on which it starts. A glyph is a character with
its place. `gap` leaves out what separates tokens: blanks, line ends and comments, but no tabs.
-/

namespace Formicary.Yaml

/-- A character with its place. -/
structure Glyph where
  /-- The character. -/
  char : Char
  /-- The number of characters before it. -/
  index : Nat
  /-- The number of lines above it. -/
  line : Nat
  /-- The number of characters before it on its line. -/
  column : Nat

/-- Whether a character ends a line. -/
def isBreak (c : Char) : Bool :=
  c = '\n' || c = '\r' || c = '\x85' || c = '\u2028' || c = '\u2029'

/-- Whether a character is a blank, a tab or the end of a line. -/
def isSpace (c : Char) : Bool := c = ' ' || c = '\t' || isBreak c

/-- The mark that may stand in front of a text and takes up no column. -/
def byteOrderMark : Char := '\ufeff'

/-- Whether a character may occur in a document. -/
def isAllowed (c : Char) : Bool :=
  let n := c.toNat
  isSpace c || (0x20 ≤ n && n ≤ 0x7e) || (0xa0 ≤ n && n ≤ 0xd7ff) || (0xe000 ≤ n && n ≤ 0xfffd) ||
    0x10000 ≤ n

/-- The glyphs of a text from a place on. -/
def glyphsFrom (index line column : Nat) : List Char → List Glyph
  | [] => []
  | c :: rest =>
    ⟨c, index, line, column⟩ ::
      (if isBreak c then glyphsFrom (index + 1) (line + 1) 0 rest
      else glyphsFrom (index + 1) line (if c = byteOrderMark then column else column + 1) rest)

/-- Whether a line ends or a blank follows. -/
def atSpace : List Glyph → Bool
  | [] => true
  | g :: _ => isSpace g.char

/-- Leaves out separators; the flag tells whether a comment is running. -/
def skip : Bool → List Glyph → List Glyph
  | _, [] => []
  | true, g :: rest => skip (!isBreak g.char) rest
  | false, g :: rest =>
    if g.char = ' ' || isBreak g.char then skip false rest
    else if g.char = '#' then skip true rest
    else g :: rest

/-- The glyphs from the next token on. -/
def gap (gs : List Glyph) : List Glyph := skip false gs

/-- Whether the line starts with three times a character and then a blank or its end. -/
def atMarker (mark : Char) : List Glyph → Bool
  | a :: b :: c :: rest =>
    a.column = 0 && a.char = mark && b.char = mark && c.char = mark && atSpace rest
  | _ => false

/-- Whether the line starts with a marker that begins or ends a document. -/
def atBoundary (gs : List Glyph) : Bool := atMarker '-' gs || atMarker '.' gs

/-- The glyphs of a run of blank lines at the start of a line: the line ends among them, written as
newlines where they are no separators of their own, and what follows. -/
def blankLines (isBlank : Char → Bool) : List Glyph → List Char × List Glyph
  | [] => ([], [])
  | g :: rest =>
    if isBreak g.char then
      let (breaks, after) := blankLines isBlank rest
      ((if g.char = '\u2028' || g.char = '\u2029' then g.char else '\n') :: breaks, after)
    else if isBlank g.char then blankLines isBlank rest
    else ([], g :: rest)

/-- What line ends between two words of a scalar stand for: a single newline is a blank, and the
first of several newlines is left out. -/
def folded : List Char → List Char
  | ['\n'] => [' ']
  | '\n' :: more => more
  | breaks => breaks

end Formicary.Yaml
