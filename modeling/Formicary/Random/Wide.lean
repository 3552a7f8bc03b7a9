/-!
# Double words

A double word is a number below `2 ^ 128`, kept as two words of 64 bits. Sums and products are taken
modulo `2 ^ 128`; the upper word of a product of words is put together from the four products of
their halves, none of which overflows. `toNat_add` and `toNat_mul` say that this is arithmetic on
numbers.
-/

namespace Formicary.Random

/-- A number of 128 bits. -/
structure Wide where
  /-- The upper word. -/
  high : UInt64
  /-- The lower word. -/
  low : UInt64
  deriving DecidableEq

namespace Wide

/-- The number that a double word is. -/
def toNat (x : Wide) : Nat := x.high.toNat * 0x10000000000000000 + x.low.toNat

/-- The sum of two double words. -/
def add (x y : Wide) : Wide :=
  let low := x.low + y.low
  ⟨x.high + y.high + (if low < x.low then 1 else 0), low⟩

/-- The upper word of the product of two words. -/
def upperProduct (x y : UInt64) : UInt64 :=
  let x0 := x % 0x100000000
  let x1 := x / 0x100000000
  let y0 := y % 0x100000000
  let y1 := y / 0x100000000
  let inner := x0 * y1
  let outer := x1 * y0
  let middle := x0 * y0 / 0x100000000 + inner % 0x100000000 + outer % 0x100000000
  x1 * y1 + inner / 0x100000000 + outer / 0x100000000 + middle / 0x100000000

/-- The product of two double words. -/
def mul (x y : Wide) : Wide :=
  ⟨upperProduct x.low y.low + x.high * y.low + x.low * y.high, x.low * y.low⟩

instance : Add Wide := ⟨add⟩

instance : Mul Wide := ⟨mul⟩

/-! ### Arithmetic on numbers -/

/-- A sum is taken modulo `2 ^ 128`. -/
theorem toNat_add (x y : Wide) :
    (x + y).toNat = (x.toNat + y.toNat) % 0x100000000000000000000000000000000 := by
  have hx := x.low.toNat_lt
  have hy := y.low.toNat_lt
  change (add x y).toNat = _
  simp only [add, toNat, UInt64.toNat_add, UInt64.lt_iff_toNat_lt]
  split
  · simp only [UInt64.toNat_one]
    omega
  · simp only [UInt64.toNat_zero]
    omega

/-- A product of two numbers of 32 bits leaves room for two more such numbers in a word. -/
theorem mul_half_le {m n : Nat} (hm : m < 0x100000000) (hn : n < 0x100000000) :
    m * n ≤ 0xfffffffe00000001 :=
  Nat.mul_le_mul (Nat.le_of_lt_succ hm) (Nat.le_of_lt_succ hn)

/-- The product of two numbers in the products of their halves. -/
theorem mul_eq_halves (a1 a0 b1 b0 : Nat) :
    (0x100000000 * a1 + a0) * (0x100000000 * b1 + b0) =
      a1 * b1 * 0x10000000000000000 + (a0 * b1 + a1 * b0) * 0x100000000 + a0 * b0 := by
  grind

/-- The upper word of a product is its quotient by `2 ^ 64`. -/
theorem toNat_upperProduct (x y : UInt64) :
    (upperProduct x y).toNat = x.toNat * y.toNat / 0x10000000000000000 := by
  have hx := x.toNat_lt
  have hy := y.toNat_lt
  have a1 : x.toNat / 0x100000000 < 0x100000000 := by omega
  have b1 : y.toNat / 0x100000000 < 0x100000000 := by omega
  have a0 : x.toNat % 0x100000000 < 0x100000000 := Nat.mod_lt _ (by omega)
  have b0 : y.toNat % 0x100000000 < 0x100000000 := Nat.mod_lt _ (by omega)
  have e := mul_eq_halves (x.toNat / 0x100000000) (x.toNat % 0x100000000)
    (y.toNat / 0x100000000) (y.toNat % 0x100000000)
  rw [Nat.div_add_mod, Nat.div_add_mod] at e
  have p00 := mul_half_le a0 b0
  have p01 := mul_half_le a0 b1
  have p10 := mul_half_le a1 b0
  have p11 := mul_half_le a1 b1
  have half : (0x100000000 : UInt64).toNat = 0x100000000 := rfl
  simp only [upperProduct, UInt64.toNat_add, UInt64.toNat_mul, UInt64.toNat_div, UInt64.toNat_mod,
    half]
  rw [e]
  generalize x.toNat % 0x100000000 * (y.toNat % 0x100000000) = q00 at *
  generalize x.toNat % 0x100000000 * (y.toNat / 0x100000000) = q01 at *
  generalize x.toNat / 0x100000000 * (y.toNat % 0x100000000) = q10 at *
  generalize x.toNat / 0x100000000 * (y.toNat / 0x100000000) = q11 at *
  clear e hx hy a0 a1 b0 b1
  omega

/-- A product is taken modulo `2 ^ 128`. -/
theorem toNat_mul (x y : Wide) :
    (x * y).toNat = x.toNat * y.toNat % 0x100000000000000000000000000000000 := by
  have e : x.toNat * y.toNat =
      x.high.toNat * y.high.toNat * 0x100000000000000000000000000000000 +
        (x.high.toNat * y.low.toNat + x.low.toNat * y.high.toNat) * 0x10000000000000000 +
        x.low.toNat * y.low.toNat := by
    simp only [toNat]
    grind
  rw [e]
  change (mul x y).toNat = _
  simp only [mul, toNat, UInt64.toNat_add, UInt64.toNat_mul, toNat_upperProduct]
  omega

end Wide

end Formicary.Random
