import Formicary.Text.Pieces

/-!
# Paths

A path is a list of names that lead from the working directory, or from the root of all directories,
to a file or directory. Empty names and names for the directory itself are left out; names for the
parent directory are kept, since what they lead to depends on the files.
-/

namespace Formicary

/-- A path. -/
structure Path where
  /-- The slashes before the names, none in a path from the working directory. -/
  root : String := ""
  /-- The names on the way. -/
  names : List String
  deriving DecidableEq

namespace Path

/-- The name of the parent of a directory. -/
def parent : String := ".."

/-- The slashes before the names of a text: two are kept apart from one, and more count as one. -/
def rootOf (cs : List Char) : String :=
  match (cs.takeWhile (· = '/')).length with
  | 0 => ""
  | 2 => "//"
  | _ => "/"

/-- The path that a text denotes. -/
def ofText (text : String) : Path where
  root := rootOf text.toList
  names := ((Text.pieces '/' text.toList).map String.ofList).filter fun n => n ≠ "" ∧ n ≠ "."

/-- The text of a path. -/
def text (p : Path) : String :=
  if p.root = "" ∧ p.names = [] then "." else p.root ++ "/".intercalate p.names

/-- The path of an entry of a directory. -/
def child (p : Path) (name : String) : Path := { p with names := p.names ++ [name] }

example : (ofText "./d//../x.yaml").names = ["d", "..", "x.yaml"] := by decide +kernel
example : (ofText "").text = "." := by decide +kernel
example : (ofText "///d/./x").text = "/d/x" := by decide +kernel

end Path

end Formicary
