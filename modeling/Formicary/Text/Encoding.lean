import Formicary.Text.Quoted

/-!
# Encoded texts

Texts are encoded in UTF-8, in which half of a surrogate pair has no encoding. `loneRun?` finds what
stands in the way of it. The name of a file is encoded in the same way, except that the halves from
U+DC80 to U+DCFF stand for single bytes; a name with another half or with the zero character in it
names no file.
-/

namespace Formicary.Text

/-- The lone halves that stand together first in a text. -/
structure LoneRun where
  /-- The code point of the first of them. -/
  code : Nat
  /-- The place of the first of them. -/
  first : Nat
  /-- The place of the last of them. -/
  last : Nat

/-- The first lone halves of a text, if there are some. -/
def loneRun? (text : String) : Option LoneRun :=
  let before := (codes text).takeWhile fun code => !isHalf code
  match (codes text).drop before.length with
  | [] => none
  | code :: rest =>
    some ⟨code, before.length, before.length + (rest.takeWhile isHalf).length⟩

/-- The refusal to encode a text with lone halves of surrogate pairs in it. -/
def LoneRun.message (r : LoneRun) : String :=
  "'utf-8' codec can't encode " ++
    (if r.first = r.last then
      "character '\\u" ++ String.ofList (hex 4 r.code) ++ "' in position " ++ toString r.first
    else "characters in position " ++ toString r.first ++ "-" ++ toString r.last) ++
    ": surrogates not allowed"

/-! ### Names of files -/

/-- Whether a code point can be in the name of a file. -/
def isFileCode (code : Nat) : Bool :=
  if isHalf code then 0xdc80 ≤ code && code < 0xdd00 else code != 0

/-- The number of bytes of a text as the name of a file. -/
def fileSize (text : String) : Nat :=
  (codes text).foldl (fun n code => n + if isHalf code then 1 else (Char.ofNat code).utf8Size) 0

end Formicary.Text
