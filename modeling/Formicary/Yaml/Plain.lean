import Formicary.Yaml.Glyph

/-!
# Scalars without quotes

A plain scalar is a run of words. Within brackets a comma or bracket ends it, and a colon in front
of one of them; outside, it goes on over lines that are indented far enough. The space after its
last word is left out of its text, but gone through with it, since a key may start after a line end.
-/

namespace Formicary.Yaml

/-- The characters that begin, end and separate the parts of a collection in brackets. -/
def isFlowMark (c : Char) : Bool :=
  c = ',' || c = '[' || c = ']' || c = '\x7b' || c = '\x7d'

/-- Whether a bracket or comma follows. -/
def atFlowMark : List Glyph → Bool
  | [] => false
  | g :: _ => isFlowMark g.char

/-- The characters that no plain scalar starts with, unless what follows allows it. -/
def indicators : List Char :=
  ['-', '?', ':', ',', '[', ']', '\x7b', '\x7d', '#', '&', '*', '!', '|', '>', '\'', '"', '%', '@',
    '\x60']

/-- Whether a plain scalar starts here. -/
def startsPlain (inFlow : Bool) : List Glyph → Bool
  | [] => false
  | g :: rest =>
    !isSpace g.char &&
      (!indicators.contains g.char ||
        (!atSpace rest && (g.char = '-' || (!inFlow && (g.char = '?' || g.char = ':')))))

/-- Whether a word of a plain scalar ends in front of `gs`. -/
def endsWord (inFlow : Bool) : List Glyph → Bool
  | [] => true
  | g :: rest =>
    isSpace g.char ||
      (g.char = ':' && (atSpace rest || (inFlow && atFlowMark rest))) ||
      (inFlow && (isFlowMark g.char || g.char = '?'))

/-- The word at the start of `gs`, and what follows it. -/
def plainWord (inFlow : Bool) : List Glyph → List Char × List Glyph
  | [] => ([], [])
  | g :: rest =>
    if endsWord inFlow (g :: rest) then ([], g :: rest)
    else
      let (word, after) := plainWord inFlow rest
      (g.char :: word, after)

/-- The space after a word. -/
structure Space where
  /-- What it stands for if the scalar goes on. -/
  text : List Char
  /-- Whether a line ends in it. -/
  isBroken : Bool
  /-- What follows it. -/
  after : List Glyph

/-- The space at the start of `gs`. -/
def Space.ofGlyphs (gs : List Glyph) : Space :=
  let blanks := gs.takeWhile (·.char = ' ')
  let rest := gs.drop blanks.length
  match rest with
  | [] => ⟨[], false, []⟩
  | g :: _ =>
    if isBreak g.char then
      let (breaks, after) := blankLines (· = ' ') rest
      ⟨folded breaks, true, after⟩
    else ⟨blanks.map (·.char), false, rest⟩

/-- Whether a plain scalar goes on after a space. -/
def Space.continues (inFlow : Bool) (indent : Nat) (s : Space) : Bool :=
  match s.after with
  | [] => false
  | g :: _ =>
    g.char ≠ '#' && !endsWord inFlow s.after && (inFlow || indent ≤ g.column) &&
      !(s.isBroken && atBoundary s.after)

/-- The plain scalar at the start of `gs`, and the space after it. Outside brackets, its later lines
are indented by `indent` at least. -/
def plainText (inFlow : Bool) (indent : Nat) : Nat → List Glyph → List Char × Space
  | 0, gs => ([], ⟨[], false, gs⟩)
  | fuel + 1, gs =>
    let (word, rest) := plainWord inFlow gs
    let space := Space.ofGlyphs rest
    if space.continues inFlow indent then
      let (more, last) := plainText inFlow indent fuel space.after
      (word ++ space.text ++ more, last)
    else (word, space)

end Formicary.Yaml
