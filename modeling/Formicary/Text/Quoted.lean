import Formicary.Text.CodePoint
import Formicary.Text.Printable

/-!
# Quoted text

The quoted form of a text stands between single quotes, or between double quotes if it holds a
single quote and no double one. Inside, the surrounding quote and the backslash are escaped, tab,
newline and carriage return have short escapes, and every other unprintable code point is written
with two, four or eight hexadecimal digits.
-/

namespace Formicary.Text

/-- A number in lower-case hexadecimal with at least `width` digits. -/
def hex (width n : Nat) : List Char :=
  let ds := Nat.toDigits 16 n
  List.replicate (width - ds.length) '0' ++ ds

/-- A code point inside quotes. -/
def escape (quote : Char) (code : Nat) : List Char :=
  if code = quote.toNat ∨ code = '\\'.toNat then ['\\', Char.ofNat code]
  else if code = '\t'.toNat then ['\\', 't']
  else if code = '\n'.toNat then ['\\', 'n']
  else if code = '\r'.toNat then ['\\', 'r']
  else if isPrintable code then ofCode code
  else if code < 0x100 then '\\' :: 'x' :: hex 2 code
  else if code < 0x10000 then '\\' :: 'u' :: hex 4 code
  else '\\' :: 'U' :: hex 8 code

/-- The quote that surrounds a text. -/
def quoteFor (codes : List Nat) : Char :=
  if codes.contains '\''.toNat && !codes.contains '"'.toNat then '"' else '\''

/-- The quoted form of a text. -/
def quoted (text : String) : String :=
  let codes := codes text
  let quote := quoteFor codes
  String.ofList (quote :: codes.flatMap (escape quote) ++ [quote])

example : quoted "it's" = "\"it's\"" := by decide +kernel
example : quoted "a\tb" = "'a\\tb'" := by decide +kernel
example : quoted (ofCodes [0x78, 0xd83d]) = "'x\\ud83d'" := by decide +kernel
example : quoted (ofCodes [0x10f000]) = "'\\U0010f000'" := by decide +kernel

end Formicary.Text
