import Formicary.Shape
import Mathlib.Algebra.Order.Group.Unbundled.Int

/-!
# The cell ahead

The cell ahead of a cell is on the board: it is not negative and below the number of cells.  It is
the cell of the rectangle whose column and row are one step on from those of the cell
(`Shape.ahead?_eq_index?`), so there is none across an edge, and the spare cell is never ahead.

In the rectangle cells and their columns and rows tell each other (`Shape.index?_coordinates`,
`Shape.coordinates_of_index?`), so what holds of steps in the plane holds of cells.
-/

namespace Formicary

/-- The column and row one step on from a column and row. -/
def Direction.step (d : Direction) (p : Int × Int) : Int × Int :=
  match d with
  | .east => (p.1 + 1, p.2)
  | .north => (p.1, p.2 - 1)
  | .west => (p.1 - 1, p.2)
  | .south => (p.1, p.2 + 1)

namespace Direction

/-- A step leads elsewhere. -/
theorem step_ne (d : Direction) (p : Int × Int) : d.step p ≠ p := by
  obtain ⟨x, y⟩ := p
  cases d <;> simp [step]

/-- A step is taken back by the step the other way. -/
theorem eq_step_iff {d : Direction} {p q : Int × Int} : q = d.step p ↔ p = d.opposite.step q := by
  obtain ⟨x, y⟩ := p
  obtain ⟨x', y'⟩ := q
  cases d <;> simp only [step, opposite, Prod.mk.injEq] <;> omega

/-- Two points are a step apart if their columns and rows differ by one altogether. -/
theorem exists_step_eq_iff {p q : Int × Int} :
    (∃ d : Direction, q = d.step p) ↔ |q.1 - p.1| + |q.2 - p.2| = 1 := by
  obtain ⟨x, y⟩ := p
  obtain ⟨x', y'⟩ := q
  rw [Int.abs_eq_natAbs, Int.abs_eq_natAbs]
  constructor
  · rintro ⟨d, h⟩
    rw [h]
    cases d <;> simp [step]
  · intro h
    have hcases : x' = x + 1 ∧ y' = y ∨ x' = x ∧ y' = y - 1 ∨ x' = x - 1 ∧ y' = y ∨
        x' = x ∧ y' = y + 1 := by
      dsimp only at h
      omega
    rcases hcases with ⟨rfl, rfl⟩ | ⟨rfl, rfl⟩ | ⟨rfl, rfl⟩ | ⟨rfl, rfl⟩
    · exact ⟨.east, rfl⟩
    · exact ⟨.north, rfl⟩
    · exact ⟨.west, rfl⟩
    · exact ⟨.south, rfl⟩

end Direction

namespace Shape

/-- A cell of the rectangle lies one step to the east, north, west or south of another cell. -/
def Adjacent (s : Shape) (n m : Nat) : Prop :=
  ∃ d : Direction, s.contains (d.step (s.coordinates n)).1 (d.step (s.coordinates n)).2 = true ∧
    s.coordinates m = d.step (s.coordinates n)

variable {s : Shape} {m n : Nat}

/-- The column and row of a numbered cell are remainder and quotient of its number. -/
theorem coordinates_natCast (s : Shape) (n : Nat) :
    s.coordinates n = (((n % s.width : Nat) : Int), ((n / s.width : Nat) : Int)) := by
  rw [coordinates, Int.natCast_emod, Int.natCast_ediv,
    Int.fmod_eq_emod_of_nonneg _ (Int.natCast_nonneg _),
    Int.fdiv_eq_ediv_of_nonneg _ (Int.natCast_nonneg _)]

/-- The cell ahead of a cell is a cell of the board. -/
theorem ahead?_bounds {d : Direction} {t : Int} (h : s.ahead? n d = some t) :
    0 ≤ t ∧ t < s.cells := by
  rw [ahead?, coordinates_natCast, Option.filter_eq_some_iff] at h
  obtain ⟨htarget, hlt⟩ := h
  refine ⟨?_, by simpa using hlt⟩
  -- a step west or north starts right of the first column or below the first row
  have hcolumn : n % s.width ≤ n := Nat.mod_le n s.width
  have hrow : 0 < n / s.width → s.width ≤ n := fun hpos => (Nat.div_pos_iff.1 hpos).2
  cases d with
  | east =>
    simp only [Option.ite_none_right_eq_some, Option.some.injEq] at htarget
    omega
  | north =>
    simp only [Option.ite_none_right_eq_some, Option.some.injEq] at htarget
    have := hrow (by omega)
    omega
  | west =>
    simp only [Option.ite_none_right_eq_some, Option.some.injEq] at htarget
    omega
  | south =>
    simp only [Option.ite_none_right_eq_some, Option.some.injEq] at htarget
    omega

/-- A column and row belong to the rectangle if they lie between its edges. -/
theorem contains_iff {x y : Int} :
    s.contains x y = true ↔ 0 ≤ x ∧ x < s.width ∧ 0 ≤ y ∧ y < s.height := by
  simp [contains, and_assoc]

/-- A cell of the rectangle has the column and row that it is numbered by. -/
theorem coordinates_of_index? {x y t : Int} (h : s.index? x y = some t) :
    s.contains x y = true ∧ s.coordinates t = (x, y) := by
  simp only [index?, Option.ite_none_right_eq_some, Option.some.injEq] at h
  obtain ⟨hcontains, rfl⟩ := h
  obtain ⟨hx, hxlt, hy, -⟩ := contains_iff.1 hcontains
  have hwidth : (0 : Int) < s.width := by omega
  refine ⟨hcontains, Prod.ext ?_ ?_⟩
  · rw [coordinates, Int.fmod_eq_emod_of_nonneg _ (Int.le_of_lt hwidth),
      Int.add_mul_emod_self_right, Int.emod_eq_of_lt hx hxlt]
  · rw [coordinates, Int.fdiv_eq_ediv_of_nonneg _ (Int.le_of_lt hwidth),
      Int.add_mul_ediv_right _ _ (Int.ne_of_gt hwidth), Int.ediv_eq_zero_of_lt hx hxlt,
      Int.zero_add]

/-- The column and row of a cell of the rectangle belong to the rectangle. -/
theorem contains_coordinates (hwidth : 0 < s.width) (hn : n < s.width * s.height) :
    s.contains (s.coordinates n).1 (s.coordinates n).2 = true := by
  have hrow : n / s.width < s.height := Nat.div_lt_of_lt_mul hn
  have hcolumn : n % s.width < s.width := Nat.mod_lt n hwidth
  rw [contains_iff, coordinates_natCast]
  exact ⟨Int.natCast_nonneg _, Int.ofNat_lt.2 hcolumn, Int.natCast_nonneg _, Int.ofNat_lt.2 hrow⟩

/-- A cell of the rectangle is found at its column and row. -/
theorem index?_coordinates (hwidth : 0 < s.width) (hn : n < s.width * s.height) :
    s.index? (s.coordinates n).1 (s.coordinates n).2 = some (n : Int) := by
  have hsplit : n % s.width + n / s.width * s.width = n := Nat.mod_add_div' n s.width
  rw [index?, if_pos (contains_coordinates hwidth hn), coordinates_natCast, Option.some.injEq]
  change ((n % s.width : Nat) : Int) + (n / s.width : Nat) * (s.width : Int) = n
  exact_mod_cast hsplit

/-- The cell at a column and row of the rectangle is in the rectangle. -/
theorem index?_bounds {x y t : Int} (h : s.index? x y = some t) :
    0 ≤ t ∧ t < (s.width * s.height : Nat) := by
  simp only [index?, Option.ite_none_right_eq_some, Option.some.injEq] at h
  obtain ⟨hcontains, rfl⟩ := h
  obtain ⟨hx, hxlt, hy, hylt⟩ := contains_iff.1 hcontains
  have hrows : (y + 1) * (s.width : Int) ≤ s.height * s.width :=
    Int.mul_le_mul_of_nonneg_right hylt (Int.natCast_nonneg _)
  have hnonneg : 0 ≤ y * (s.width : Int) := Int.mul_nonneg hy (Int.natCast_nonneg _)
  rw [Int.add_mul, Int.one_mul] at hrows
  rw [Int.natCast_mul, Int.mul_comm (s.width : Int)]
  omega

/-- On a board with at most one spare cell, the cell ahead of a cell is the one that is a step on,
if that is in the rectangle. -/
theorem ahead?_eq_index? (hwidth : 0 < s.width) (hle : s.width * s.height ≤ s.cells)
    (hcells : s.cells ≤ s.width * s.height + 1) (hn : n < s.cells) (d : Direction) :
    s.ahead? n d =
      s.index? (d.step (s.coordinates n)).1 (d.step (s.coordinates n)).2 := by
  have hsplit : s.width * (n / s.width) + n % s.width = n := Nat.div_add_mod n s.width
  have hmod : n % s.width < s.width := Nat.mod_lt n hwidth
  have hcast : ((n / s.width : Nat) : Int) * s.width = (s.width * (n / s.width) : Nat) := by
    rw [Int.natCast_mul, Int.mul_comm]
  -- whole rows fill the rectangle, and beyond the last one there is only the spare cell
  have hmono : ∀ {i j : Nat}, i ≤ j → s.width * i ≤ s.width * j := Nat.mul_le_mul_left s.width
  have hlast : n / s.width + 1 ≤ s.height →
      s.width * (n / s.width) + s.width ≤ s.width * s.height := hmono
  have hnext : n / s.width + 2 ≤ s.height →
      s.width * (n / s.width) + s.width + s.width ≤ s.width * s.height := hmono
  have hspare : s.height ≤ n / s.width → s.width * s.height ≤ s.width * (n / s.width) := hmono
  have hbeyond : s.height + 1 ≤ n / s.width →
      s.width * s.height + s.width ≤ s.width * (n / s.width) := hmono
  rw [ahead?, coordinates_natCast]
  ext t
  rw [Option.filter_eq_some_iff, index?, Option.ite_none_right_eq_some, contains_iff,
    Option.some.injEq]
  generalize s.width * (n / s.width) = p at *
  generalize n / s.width = y at *
  generalize n % s.width = x at *
  generalize s.width * s.height = q at *
  cases d with
  | east =>
    simp only [Direction.step, Option.ite_none_right_eq_some, Option.some.injEq, decide_eq_true_eq,
      hcast]
    omega
  | north =>
    simp only [Direction.step, Option.ite_none_right_eq_some, Option.some.injEq, Int.sub_mul,
      Int.one_mul, decide_eq_true_eq, hcast]
    omega
  | west =>
    simp only [Direction.step, Option.ite_none_right_eq_some, Option.some.injEq, decide_eq_true_eq,
      hcast]
    omega
  | south =>
    simp only [Direction.step, Option.ite_none_right_eq_some, Option.some.injEq, Int.add_mul,
      Int.one_mul, decide_eq_true_eq, hcast]
    omega

/-- On a board with at most one spare cell, the cell ahead of a cell is the cell of the rectangle
that is a step on. -/
theorem ahead?_eq_some_iff (hwidth : 0 < s.width) (hle : s.width * s.height ≤ s.cells)
    (hcells : s.cells ≤ s.width * s.height + 1) (hn : n < s.cells) {d : Direction} :
    s.ahead? n d = some (m : Int) ↔
      m < s.width * s.height ∧ s.coordinates m = d.step (s.coordinates n) := by
  rw [ahead?_eq_index? hwidth hle hcells hn]
  constructor
  · intro h
    exact ⟨Int.ofNat_lt.1 (index?_bounds h).2, (coordinates_of_index? h).2⟩
  · rintro ⟨hm, hstep⟩
    rw [← hstep]
    exact index?_coordinates hwidth hm

/-- On a board with at most one spare cell, the cell ahead of a cell is adjacent to it. -/
theorem adjacent_of_ahead? (hwidth : 0 < s.width) (hle : s.width * s.height ≤ s.cells)
    (hcells : s.cells ≤ s.width * s.height + 1) (hn : n < s.cells) {d : Direction}
    (h : s.ahead? n d = some (m : Int)) : s.Adjacent n m := by
  rw [ahead?_eq_index? hwidth hle hcells hn] at h
  exact ⟨d, coordinates_of_index? h⟩

end Shape

end Formicary
