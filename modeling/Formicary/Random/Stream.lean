import Formicary.Random.Entropy

/-!
# Streams of random numbers

A stream is a permuted congruential generator: a double word moved by one affine step per draw,
from which 64 bits are read by an exclusive or of the halves and a rotation. A draw is a pure
function that returns the drawn value and the stream that follows, so a run is replayed by
starting from the same seed.

Numbers below a bound come from 32-bit halves of a word by multiplication; the half that is not
used yet is held back for the next such draw and is left alone by draws of units and of words.
-/

namespace Formicary.Random

/-- The state of a generator. -/
structure Stream where
  /-- The current state. -/
  state : Wide
  /-- The odd number added at each step; it selects the sequence. -/
  increment : Wide
  /-- The upper half of a word whose lower half has been used. -/
  held : Option UInt32
  deriving DecidableEq

namespace Stream

/-- The number that the state is multiplied by at each step. -/
def multiplier : Wide := ⟨0x2360ed051fc65da4, 0x4385df649fccf645⟩

/-- One affine step of the state. -/
def advance (s : Stream) : Stream := { s with state := s.state * multiplier + s.increment }

/-- The stream that a list of digits starts. -/
def ofDigits (digits : List UInt32) : Stream :=
  let (start, selector) := expand digits
  let fresh : Stream := ⟨⟨0, 0⟩, selector + selector + ⟨0, 1⟩, none⟩
  let stepped := fresh.advance
  { stepped with state := stepped.state + start }.advance

/-- The stream that a number starts. -/
def ofSeed (seed : Nat) : Stream := ofDigits (digits32 seed)

/-- A word turned to the right by a number of bits. -/
def rotate (x turn : UInt64) : UInt64 := x >>> turn ||| x <<< (64 - turn)

/-- A word of 64 random bits: the two words of the state combined and turned by the number that the
upper six bits are. -/
def word (s : Stream) : UInt64 × Stream :=
  let next := s.advance
  (rotate (next.state.high ^^^ next.state.low) (next.state.high >>> 58), next)

/-- Half a word: the held half if there is one, else the lower half of a new word. -/
def half (s : Stream) : UInt32 × Stream :=
  match s.held with
  | some h => (h, { s with held := none })
  | none =>
    let (w, next) := s.word
    (w.toUInt32, { next with held := some (w >>> 32).toUInt32 })

/-- The number of units: a unit draw is one of the multiples of `1 / unitCount` in `[0, 1)`. -/
def unitCount : Nat := 0x20000000000000

/-- A draw from `[0, 1)`, given by its numerator over `unitCount`. -/
def unit (s : Stream) : Nat × Stream :=
  let (w, next) := s.word
  ((w >>> 11).toNat, next)

/-- Half a word as a number. -/
def halfNumber (s : Stream) : Nat × Stream :=
  let (h, next) := s.half
  (h.toNat, next)

/-- The number of halves. -/
def halfCount : Nat := 0x100000000

/-- A word as a number. -/
def wordNumber (s : Stream) : Nat × Stream :=
  let (w, next) := s.word
  (w.toNat, next)

/-- The number of words. -/
def wordCount : Nat := 0x10000000000000000

/-- The product of a bound with a number drawn below `span`, drawn again while its remainder by
`span` is under the threshold that would favour some results; `attempts` bounds the number of draws.
-/
def product (source : Stream → Nat × Stream) (span bound : Nat) : Nat → Stream → Nat × Stream
  | 0, s =>
    let (x, next) := source s
    (x * bound, next)
  | attempts + 1, s =>
    let (x, next) := source s
    if x * bound % span < (span - bound) % bound then product source span bound attempts next
    else (x * bound, next)

/-- A draw below a bound of at most `span` from numbers drawn below `span`. Each attempt succeeds
with a chance above one half, so the limit on attempts is met with a chance below `2 ^ (-256)`. -/
def scaled (source : Stream → Nat × Stream) (span bound : Nat) (s : Stream) : Nat × Stream :=
  let (m, next) := product source span bound 256 s
  (m / span, next)

/-- A uniform draw from the numbers below `bound`. A bound of at most one leaves no choice and
draws nothing. Half a word is drawn if that is enough, else a word. -/
def below (bound : Nat) (s : Stream) : Nat × Stream :=
  if bound ≤ 1 then (0, s)
  else if bound ≤ halfCount then scaled halfNumber halfCount bound s
  else scaled wordNumber wordCount bound s

/-- Why a draw is refused. -/
inductive Refusal where
  | lowOutside
  | highOutside
  | emptyRange (low : Int)
  | negativeCount
  | hugeCount
  deriving DecidableEq

/-- The wording of a refusal. -/
def Refusal.message : Refusal → String
  | .lowOutside => "low is out of bounds for int64"
  | .highOutside => "high is out of bounds for int64"
  | .emptyRange low => if low = 0 then "high <= 0" else "low >= high"
  | .negativeCount => "negative dimensions are not allowed"
  | .hugeCount => "Maximum allowed dimension exceeded"

/-- The refusal of the range `[low, high)`, if it is refused: its members have to be addressable,
and there has to be one. -/
def refusal? (low high : Int) : Option Refusal :=
  if low < -0x8000000000000000 then some .lowOutside
  else if 0x8000000000000000 < high then some .highOutside
  else if high ≤ low then some (.emptyRange low)
  else none

/-- The refusal of a number of draws, if it is refused: their results have to be addressable. -/
def countRefusal? (n : Int) : Option Refusal :=
  if n < 0 then some .negativeCount
  else if 0x8000000000000000 ≤ n then some .hugeCount
  else none

/-- A uniform draw from the integers of `[low, high)`. -/
def integer (low high : Int) (s : Stream) : Except Refusal (Int × Stream) :=
  match refusal? low high with
  | some r => .error r
  | none =>
    let (n, next) := s.below (high - low).toNat
    .ok (low + n, next)

/-- The results of `n` draws in order. -/
def draws {α : Type} (draw : Stream → α × Stream) : Nat → Stream → List α × Stream
  | 0, s => ([], s)
  | n + 1, s =>
    let (x, next) := draw s
    let (xs, last) := draws draw n next
    (x :: xs, last)

/-- The results of a number of units, which may be no number of draws. -/
def units (n : Int) (s : Stream) : Except Refusal (List Nat × Stream) :=
  match countRefusal? n with
  | some r => .error r
  | none => .ok (draws unit n.toNat s)

/-- The results of `n` draws from the integers of `[low, high)`. No draws need no member. -/
def integers (low high n : Int) (s : Stream) : Except Refusal (List Int × Stream) :=
  if n = 0 then .ok ([], s)
  else
    match (refusal? low high).or (countRefusal? n) with
    | some r => .error r
    | none =>
      let (ns, next) := draws (below (high - low).toNat) n.toNat s
      .ok (ns.map (fun k : Nat => low + (k : Int)), next)

/-! ### Bounds -/

theorem halfNumber_lt (s : Stream) : s.halfNumber.1 < halfCount := s.half.1.toNat_lt

theorem wordNumber_lt (s : Stream) : s.wordNumber.1 < wordCount := s.word.1.toNat_lt

theorem product_lt {source : Stream → Nat × Stream} {span bound : Nat}
    (hs : ∀ s, (source s).1 < span) (hb : 0 < bound) (attempts : Nat) (s : Stream) :
    (product source span bound attempts s).1 < span * bound := by
  induction attempts generalizing s with
  | zero => exact Nat.mul_lt_mul_of_pos_right (hs s) hb
  | succ n ih =>
    simp only [product]
    split
    · exact ih _
    · exact Nat.mul_lt_mul_of_pos_right (hs s) hb

theorem scaled_lt {source : Stream → Nat × Stream} {span bound : Nat}
    (hs : ∀ s, (source s).1 < span) (hb : 0 < bound) (s : Stream) :
    (scaled source span bound s).1 < bound := by
  have h := product_lt hs hb 256 s
  exact Nat.div_lt_of_lt_mul h

/-- A draw below a positive bound is below it. -/
theorem below_lt (bound : Nat) (s : Stream) (h : 0 < bound) : (s.below bound).1 < bound := by
  unfold below
  split
  · exact h
  · split
    · exact scaled_lt halfNumber_lt h s
    · exact scaled_lt wordNumber_lt h s

theorem length_draws {α : Type} (draw : Stream → α × Stream) (n : Nat) (s : Stream) :
    (draws draw n s).1.length = n := by
  induction n generalizing s with
  | zero => rfl
  | succ n ih => simp [draws, ih]

end Stream

end Formicary.Random
