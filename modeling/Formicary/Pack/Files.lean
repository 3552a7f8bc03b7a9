import Formicary.Pack.Path
import Formicary.Text.Encoding

/-!
# Files

Files are texts at places below a working directory. A place is a list of names without a parent
name; the directories are those that the places of the texts lead through. A path is followed name
by name, so that a parent name leads back only out of a directory that is there, and a name that is
too long is met only in such a directory. Every directory may be searched and every text be read,
and outside of the working directory there are no texts.
-/

namespace Formicary

/-- Texts at places below a working directory. -/
structure Files where
  /-- The texts with the names that lead to them. -/
  texts : List (List String × String)

namespace Files

/-- What a path leads to. -/
inductive Entry where
  | missing
  | directory
  | nameTooLong
  | text (content : String)
  deriving DecidableEq

/-- No files. -/
def empty : Files := ⟨[]⟩

/-- The files with a text put at a path in place of what was there. -/
def write (f : Files) (p : Path) (content : String) : Files :=
  ⟨f.texts.filter (·.1 ≠ p.names) ++ [(p.names, content)]⟩

/-- What is at a place. -/
def entryAt (f : Files) (place : List String) : Entry :=
  match f.texts.find? (·.1 = place) with
  | some (_, content) => .text content
  | none =>
    if place = [] ∨ f.texts.any fun t => place.isPrefixOf t.1 then .directory else .missing

/-- The greatest number of bytes of a name. -/
def nameLimit : Nat := 255

/-- The greatest number of bytes of a path. -/
def pathLimit : Nat := 4095

/-- What names lead to outside of the working directory, where only the directories on the way to it
are known. -/
def outside : List String → Entry
  | [] => .directory
  | name :: rest =>
    if name = Path.parent then outside rest
    else if nameLimit < Text.fileSize name then .nameTooLong
    else .missing

/-- What names lead to from a place, which is given from its end. -/
def follow (f : Files) : List String → List String → Entry
  | here, [] => f.entryAt here.reverse
  | here, name :: rest =>
    match f.entryAt here.reverse with
    | .directory =>
      if name = Path.parent then
        match here with
        | [] => outside rest
        | _ :: above => f.follow above rest
      else if nameLimit < Text.fileSize name then .nameTooLong
      else f.follow (name :: here) rest
    | _ => .missing

/-- What a path leads to. -/
def entry (f : Files) (p : Path) : Entry :=
  if !(Text.codes p.text).all Text.isFileCode then .missing
  else if pathLimit < Text.fileSize p.text then .nameTooLong
  else if p.root = "" then f.follow [] p.names
  else outside p.names

end Files

/-- The lines of a text with a single newline between them, whichever line ends it was written
with. -/
def unifyLineEnds : List Char → List Char
  | '\r' :: '\n' :: rest => '\n' :: unifyLineEnds rest
  | '\r' :: rest => '\n' :: unifyLineEnds rest
  | c :: rest => c :: unifyLineEnds rest
  | [] => []

end Formicary
