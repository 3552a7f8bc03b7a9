/-!
# Pieces of text

`pieces` cuts a text at every occurrence of a mark, and `occursIn` says whether one text is a part
of another.
-/

namespace Formicary.Text

/-- The pieces between the occurrences of a mark; there is always at least one. -/
def pieces (mark : Char) : List Char → List (List Char)
  | [] => [[]]
  | c :: rest =>
    if c = mark then [] :: pieces mark rest
    else
      match pieces mark rest with
      | first :: others => (c :: first) :: others
      | [] => [[c]]

/-- Whether a text occurs in another. -/
def occursIn (part : List Char) : List Char → Bool
  | [] => part.isEmpty
  | c :: rest => part.isPrefixOf (c :: rest) || occursIn part rest

end Formicary.Text
