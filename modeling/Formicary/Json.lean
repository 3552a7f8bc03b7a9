import Formicary.Number.Reading
import Formicary.Text.CodePoint
import Formicary.Value

/-!
# JSON texts

`Json.read` reads a JSON text as a value. Numbers without fraction and exponent are integers, the
words for infinity and the undefined value are accepted, and an object keeps its members in order, a
repeated name keeping its first place and its last value. Of several problems the first in the text
is reported. Each level of nesting consumes at least one character, so the length of the text bounds
the recursion.
-/

namespace Formicary.Json

/-- Why a text has no value. -/
inductive Problem where
  | malformed
  | tooManyDigits (count : Nat)

/-- What an attempt has found, or that the text is malformed. -/
def orMalformed {α : Type} : Option α → Except Problem α
  | some x => .ok x
  | none => .error .malformed

/-- The text without leading blanks. -/
def skip (cs : List Char) : List Char :=
  cs.dropWhile fun c => c = ' ' || c = '\t' || c = '\n' || c = '\r'

/-- Whether a character is a hexadecimal digit. -/
def isHexDigit (c : Char) : Bool :=
  c.isDigit || ('a' ≤ c && c ≤ 'f') || ('A' ≤ c && c ≤ 'F')

/-- The number of `n` hexadecimal digits, and the text after them. -/
def hexCode? (n : Nat) (cs : List Char) : Option (Nat × List Char) :=
  let ds := cs.take n
  if ds.length = n && ds.all isHexDigit then some (numeral 16 ds, cs.drop n) else none

/-- The character that a one-letter escape stands for. -/
def shortEscape? : Char → Option Char
  | '"' => some '"'
  | '\\' => some '\\'
  | '/' => some '/'
  | 'b' => some '\x08'
  | 'f' => some '\x0c'
  | 'n' => some '\n'
  | 'r' => some '\r'
  | 't' => some '\t'
  | _ => none

/-- The code point of a four-digit escape, which may be the first of a pair of escapes. -/
def unicodeEscape? (cs : List Char) : Option (Nat × List Char) := do
  let (n, rest) ← hexCode? 4 cs
  match rest with
  | '\\' :: 'u' :: more =>
    match hexCode? 4 more with
    | some (m, last) =>
      if 0xd800 ≤ n ∧ n < 0xdc00 ∧ 0xdc00 ≤ m ∧ m < 0xe000 then
        some (0x10000 + (n - 0xd800) * 0x400 + (m - 0xdc00), last)
      else some (n, rest)
    | none => some (n, rest)
  | _ => some (n, rest)

/-- The string up to its closing quote, whose code points are in reverse behind `acc`, and the text
after the quote. -/
def string? : Nat → List Nat → List Char → Option (String × List Char)
  | 0, _, _ => none
  | _ + 1, _, [] => none
  | fuel + 1, acc, c :: rest =>
    if c = '"' then some (Text.ofCodes acc.reverse, rest)
    else if c = '\\' then
      match rest with
      | 'u' :: more => do
        let (d, last) ← unicodeEscape? more
        string? fuel (d :: acc) last
      | e :: more => do
        let d ← shortEscape? e
        string? fuel (d.toNat :: acc) more
      | [] => none
    else if c.toNat < 0x20 then none
    else string? fuel (c.toNat :: acc) rest

/-- A number, and the text after it. -/
def number (cs : List Char) : Except Problem (Value × List Char) :=
  let (negative, body) := match cs with
    | '-' :: rest => (true, rest)
    | _ => (false, cs)
  let whole := match body with
    | '0' :: _ => ['0']
    | _ => body.takeWhile Char.isDigit
  let rest := body.drop whole.length
  let fraction := match rest with
    | '.' :: more => more.takeWhile Char.isDigit
    | _ => []
  let afterFraction := if fraction.isEmpty then rest else rest.drop (fraction.length + 1)
  let (mark, signed) := match afterFraction with
    | c :: more => if c = 'e' ∨ c = 'E' then ([c], more) else ([], [])
    | [] => ([], [])
  let sign := signed.takeWhile fun c => c = '-' || c = '+'
  let power := (signed.drop sign.length).takeWhile Char.isDigit
  let hasPower := !mark.isEmpty && sign.length ≤ 1 && !power.isEmpty
  let exponent := if hasPower then mark ++ sign ++ power else []
  if whole.isEmpty then .error .malformed
  else if fraction.isEmpty && exponent.isEmpty then
    if Value.digitLimit < whole.length then .error (.tooManyDigits whole.length)
    else
      let n : Int := numeral 10 whole
      .ok (.int (if negative then -n else n), rest)
  else do
    let e ← orMalformed (readExponent? exponent)
    let x := Double.ofDecimal negative (numeral 10 (whole ++ fraction)) (e - fraction.length)
    .ok (.float x, afterFraction.drop exponent.length)

/-- The words that are values. -/
def words : List (String × Value) :=
  [("true", .bool true), ("false", .bool false), ("null", .null), ("NaN", .float Double.nan),
    ("Infinity", .float (Double.infinity false)), ("-Infinity", .float (Double.infinity true))]

/-- A word or a number, and the text after it. -/
def scalar (cs : List Char) : Except Problem (Value × List Char) :=
  match words.find? fun w => w.1.toList.isPrefixOf cs with
  | some (w, v) => .ok (v, cs.drop w.length)
  | none => number cs

mutual

/-- The value at the start of a text without leading blanks, and the text after it. -/
def value : Nat → List Char → Except Problem (Value × List Char)
  | 0, _ => .error .malformed
  | fuel + 1, cs =>
    match cs with
    | '"' :: rest => do
      let (s, last) ← orMalformed (string? (rest.length + 1) [] rest)
      .ok (.text s, last)
    | '[' :: rest =>
      match skip rest with
      | ']' :: last => .ok (.list [], last)
      | inner => do
        let (found, last) ← items fuel [] inner
        .ok (.list found, last)
    | '\x7b' :: rest =>
      match skip rest with
      | '\x7d' :: last => .ok (.mapping [], last)
      | inner => do
        let (entries, last) ← members fuel [] inner
        .ok (.mapping entries, last)
    | _ => scalar cs

/-- The items of an array up to its closing bracket, in reverse behind `acc`. -/
def items : Nat → List Value → List Char → Except Problem (List Value × List Char)
  | 0, _, _ => .error .malformed
  | fuel + 1, acc, cs => do
    let (v, rest) ← value fuel cs
    match skip rest with
    | ',' :: more => items fuel (v :: acc) (skip more)
    | ']' :: last => .ok ((v :: acc).reverse, last)
    | _ => .error .malformed

/-- The members of an object up to its closing brace, put behind `acc`. -/
def members : Nat → List (Value × Value) → List Char →
    Except Problem (List (Value × Value) × List Char)
  | 0, _, _ => .error .malformed
  | fuel + 1, acc, cs =>
    match cs with
    | '"' :: start => do
      let (name, rest) ← orMalformed (string? (start.length + 1) [] start)
      match skip rest with
      | ':' :: more => do
        let (v, after) ← value fuel (skip more)
        let entries := Value.put acc (.text name) v
        match skip after with
        | ',' :: next => members fuel entries (skip next)
        | '\x7d' :: last => .ok (entries, last)
        | _ => .error .malformed
      | _ => .error .malformed
    | _ => .error .malformed

end

/-- The value of a JSON text, if it is one. -/
def read (text : String) : Except Problem Value := do
  let cs := text.toList
  let (v, rest) ← value (2 * cs.length + 2) (skip cs)
  if (skip rest).isEmpty then .ok v else .error .malformed

end Formicary.Json
