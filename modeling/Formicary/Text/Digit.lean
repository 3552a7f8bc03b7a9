/-!
# Digits and blanks of all scripts

Many scripts have ten decimal digits of their own, which follow one another in the order of their
values. The table lists the zeros, in increasing order, as of version 14 of the character database.
`folded` replaces the digits of all scripts by the common ones and the blanks beyond them by the
common blank, which is how numerals are written in a uniform way before they are read.
-/

namespace Formicary.Text

/-- The code points of the digits zero. -/
def digitZeros : List Nat := [
  0x30, 0x660, 0x6f0, 0x7c0, 0x966, 0x9e6, 0xa66, 0xae6, 0xb66, 0xbe6, 0xc66, 0xce6, 0xd66, 0xde6,
  0xe50, 0xed0, 0xf20, 0x1040, 0x1090, 0x17e0, 0x1810, 0x1946, 0x19d0, 0x1a80, 0x1a90, 0x1b50,
  0x1bb0, 0x1c40, 0x1c50, 0xa620, 0xa8d0, 0xa900, 0xa9d0, 0xa9f0, 0xaa50, 0xabf0, 0xff10, 0x104a0,
  0x10d30, 0x11066, 0x110f0, 0x11136, 0x111d0, 0x112f0, 0x11450, 0x114d0, 0x11650, 0x116c0, 0x11730,
  0x118e0, 0x11950, 0x11c50, 0x11d50, 0x11da0, 0x16a60, 0x16ac0, 0x16b50, 0x1d7ce, 0x1d7d8, 0x1d7e2,
  0x1d7ec, 0x1d7f6, 0x1e140, 0x1e2f0, 0x1e950, 0x1fbf0]

/-- The value of a decimal digit of any script. -/
def digit? (c : Char) : Option Nat :=
  (digitZeros.find? fun first => first ≤ c.toNat && c.toNat < first + 10).map (c.toNat - ·)

/-- The blanks beyond the first 128 characters. -/
def wideBlanks : List Nat :=
  [0x85, 0xa0, 0x1680, 0x2000, 0x2001, 0x2002, 0x2003, 0x2004, 0x2005, 0x2006, 0x2007, 0x2008,
    0x2009, 0x200a, 0x2028, 0x2029, 0x202f, 0x205f, 0x3000]

/-- A character with the common digit or blank in its place, if it is a digit or a wide blank. -/
def foldChar (c : Char) : Char :=
  match digit? c with
  | some d => Char.ofNat ('0'.toNat + d)
  | none => if wideBlanks.contains c.toNat then ' ' else c

/-- Whether a folded character is a blank at the end of a numeral: the blank, a tab, or the end of a
line or page. -/
def isBlank (c : Char) : Bool := c = ' ' || (0x9 ≤ c.toNat && c.toNat ≤ 0xd)

/-- A text without the blanks at its ends, with common digits only. -/
def folded (text : String) : List Char :=
  let start := (text.toList.map foldChar).dropWhile isBlank
  (start.reverse.dropWhile isBlank).reverse

example : digit? '5' = some 5 := by decide +kernel
example : digit? '\u0665' = some 5 := by decide +kernel
example : digit? 'a' = none := by decide +kernel

end Formicary.Text
