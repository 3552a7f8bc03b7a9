import Formicary.Random.Wide

/-!
# Entropy expansion

A seed is a list of 32-bit digits, such as those of a natural number of any size. The digits are
stirred into a pool of four words, and the pool is squeezed into two double words, from which a
generator starts. Every step is modulo `2 ^ 32`, and each use of the multiplicative constant moves
the constant on, so equal digits in different places leave different traces.
-/

namespace Formicary.Random

/-- The digits of a number in base `2 ^ 32`, least significant first; zero has the one digit 0. -/
def digits32 (n : Nat) : List UInt32 :=
  if n < 0x100000000 then [n.toUInt32]
  else (n % 0x100000000).toUInt32 :: digits32 (n / 0x100000000)
termination_by n
decreasing_by omega

/-- A pool of four words together with the constant that its next scrambling uses. -/
structure Pool where
  /-- The four words. -/
  words : Array UInt32
  /-- The running multiplicative constant. -/
  constant : UInt32

namespace Pool

/-- The word a value is scrambled to, and the constant for the next scrambling. -/
def scramble (constant value : UInt32) : UInt32 × UInt32 :=
  let next := constant * 0x931e8875
  let product := (value ^^^ constant) * next
  (product ^^^ (product >>> 16), next)

/-- Two words folded into one. -/
def fold (x y : UInt32) : UInt32 :=
  let r := 0xca01f9dd * x - 0x4973f715 * y
  r ^^^ (r >>> 16)

/-- Appends a scrambled word. -/
def fill (p : Pool) (value : UInt32) : Pool :=
  let (word, next) := scramble p.constant value
  ⟨p.words.push word, next⟩

/-- Folds a scrambled value into the word at `target`. -/
def absorb (p : Pool) (target : Nat) (value : UInt32) : Pool :=
  let (word, next) := scramble p.constant value
  ⟨p.words.modify target (fold · word), next⟩

/-- Folds every word into each of the others. -/
def stir (p : Pool) : Pool :=
  (List.range 4).foldl (fun p source =>
    ((List.range 4).filter (· != source)).foldl (fun p target =>
      p.absorb target (p.words.getD source 0)) p) p

/-- The pool of a list of digits: four words filled and stirred, then every further digit folded
into all four. -/
def ofDigits (digits : List UInt32) : Pool :=
  let start : Pool := ⟨#[], 0x43b0d7e5⟩
  let filled := ((List.range 4).map (digits.getD · 0)).foldl fill start
  (digits.drop 4).foldl (fun p digit =>
    (List.range 4).foldl (fun p target => p.absorb target digit) p) filled.stir

/-- The first `n` output words of a pool, which reads its four words in rotation. -/
def squeeze (p : Pool) (n : Nat) : List UInt32 :=
  ((List.range n).foldl (fun (acc : List UInt32 × UInt32) i =>
    let next := acc.2 * 0x58f38ded
    let product := (p.words.getD (i % 4) 0 ^^^ acc.2) * next
    ((product ^^^ (product >>> 16)) :: acc.1, next)) ([], 0x8b51f9dd)).1.reverse

end Pool

/-- Pairs of words put together, the first of a pair being the lower half. -/
def pairWords : List UInt32 → List UInt64
  | low :: high :: rest => (high.toUInt64 * 0x100000000 + low.toUInt64) :: pairWords rest
  | _ => []

/-- The two double words that digits expand to: a starting point and a sequence selector. -/
def expand (digits : List UInt32) : Wide × Wide :=
  match pairWords ((Pool.ofDigits digits).squeeze 8) with
  | [a, b, c, d] => (⟨a, b⟩, ⟨c, d⟩)
  | _ => (⟨0, 0⟩, ⟨0, 0⟩)

end Formicary.Random
