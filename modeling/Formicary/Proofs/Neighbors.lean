import Formicary.Board.Build
import Formicary.Proofs.Geometry

/-!
# Steps and neighbours

On a board of whatever width and height, with or without a spare cell, steps and neighbours are
those of the plane: nothing wraps around, the spare cell is nobody's neighbour, and from its row it
looks at the last row of the rectangle like any other cell (`neighbors_without_wraparound`).

Neighbours are looked at in two ways.  A scan asks whether there is an empty one
(`Board.hasEmptyNeighbor`), and a request from outside looks at one after the other up to the first
that is empty (`Board.neighborEmpty?`).  For a cell of the board both come to the same, because what
is ahead of it can always be looked at (`Board.neighborEmpty?_eq`).
-/

namespace Formicary

/-- Looking for a first hit among things that can all be looked at finds out whether there is
one. -/
theorem foldlM_found {ε α : Type} {look : α → Except ε Bool} {p : α → Bool}
    (hlook : ∀ x, look x = .ok (p x)) (xs : List α) (found : Bool) :
    xs.foldlM (fun found x => if found then .ok true else look x) found =
      (.ok (found || xs.any p) : Except ε Bool) := by
  induction xs generalizing found with
  | nil => simp [pure, Except.pure]
  | cons x xs ih =>
    rw [List.foldlM_cons, List.any_cons]
    by_cases hfound : found = true
    · rw [if_pos hfound, hfound, Bool.true_or]
      exact ih true
    · rw [if_neg hfound, hlook, Bool.eq_false_iff.2 hfound, Bool.false_or]
      exact ih (p x)

namespace Board

variable {b : Board} {n : Nat}

/-- A cell is of a kind if that is its entry in the row of kinds. -/
theorem kindIs_natCast_iff (hn : n < b.size) {k : CellKind} :
    b.kindIs n k = true ↔ b.kinds[n]? = some k := by
  have hplace : place? b.kinds.size n = some n := place?_natCast hn
  rw [kindIs, hplace, Option.any_some, beq_iff_eq]

/-- The kind of a cell of the board can be looked up. -/
theorem kind?_natCast (hn : n < b.size) (k : CellKind) :
    (b.kind? n).map (· == k) = .ok (b.kindIs n k) := by
  have hplace : place? b.kinds.size n = some n := place?_natCast hn
  have hkind : b.kinds[n]? = some b.kinds[n] := Array.getElem?_eq_getElem hn
  simp only [kind?, kindIs, hplace, Option.bind_some, Option.any_some, hkind, Except.map,
    Option.some_beq_some]

/-- A look at the neighbours of a cell finds out whether one of them is empty. -/
theorem neighborEmpty?_eq (b : Board) (n : Nat) :
    b.neighborEmpty? n = .ok (b.hasEmptyNeighbor n) := by
  unfold neighborEmpty? hasEmptyNeighbor
  refine foldlM_found (p := fun d => (b.shape.ahead? n d).any fun t => b.kindIs t .empty)
    (fun d => ?_) Direction.all false
  split
  · rename_i hnone
    rw [hnone, Option.any_none]
  · rename_i t ht
    obtain ⟨h0, hlt⟩ := Shape.ahead?_bounds ht
    obtain ⟨m, rfl⟩ := Int.eq_ofNat_of_zero_le h0
    rw [ht, Option.any_some]
    exact kind?_natCast (Int.ofNat_lt.1 hlt) .empty

/-- On a board with at most one spare cell, a cell has an empty neighbour if there is an empty cell
in the rectangle that is one column or one row away. -/
theorem hasEmptyNeighbor_iff (hwidth : 0 < b.width) (hle : b.width * b.height ≤ b.size)
    (hsize : b.size ≤ b.width * b.height + 1) (hn : n < b.size) :
    b.hasEmptyNeighbor n = true ↔ ∃ m < b.width * b.height, b.kinds[m]? = some .empty ∧
      |(b.shape.coordinates m).1 - (b.shape.coordinates n).1| +
        |(b.shape.coordinates m).2 - (b.shape.coordinates n).2| = 1 := by
  have hahead : ∀ {m : Nat} {d : Direction}, b.shape.ahead? n d = some (m : Int) ↔
      m < b.width * b.height ∧ b.shape.coordinates m = d.step (b.shape.coordinates n) :=
    Shape.ahead?_eq_some_iff hwidth hle hsize hn
  simp only [hasEmptyNeighbor, List.any_eq_true, Option.any_eq_true, ← Direction.exists_step_eq_iff]
  constructor
  · rintro ⟨d, -, t, ht, hempty⟩
    obtain ⟨h0, hlt⟩ := Shape.ahead?_bounds ht
    obtain ⟨m, rfl⟩ := Int.eq_ofNat_of_zero_le h0
    obtain ⟨hm, hstep⟩ := hahead.1 ht
    exact ⟨m, hm, (kindIs_natCast_iff (Int.ofNat_lt.1 hlt)).1 hempty, d, hstep⟩
  · rintro ⟨m, hm, hempty, d, hstep⟩
    refine ⟨d, by cases d <;> decide, m, hahead.2 ⟨hm, hstep⟩, ?_⟩
    exact (kindIs_natCast_iff (Nat.lt_of_lt_of_le hm hle)).2 hempty

/-- The cell at a column and row is asked for in vain only outside the rectangle. -/
theorem indexOf?_eq (b : Board) (x y : Int) :
    b.indexOf? x y =
      if 0 ≤ x ∧ x < b.width ∧ 0 ≤ y ∧ y < b.height then .ok (x + y * b.width)
      else .error (.outsideRectangle x y b.config.width b.config.height) := by
  have hinside : b.shape.contains x y = true ↔ 0 ≤ x ∧ x < b.width ∧ 0 ≤ y ∧ y < b.height :=
    Shape.contains_iff
  rw [indexOf?, Shape.index?]
  by_cases hxy : b.shape.contains x y = true
  · rw [if_pos hxy, if_pos (hinside.1 hxy)]
    rfl
  · rw [if_neg hxy, if_neg (mt hinside.2 hxy)]

end Board

/-- Steps and neighbours on a board of whatever width and height, with or without a spare cell.
The cell ahead of a cell is the one at the column and row a step on if these belong to the
rectangle, else there is none.  So a step neither stays where it is nor leaves the rectangle, and
within the rectangle it is taken back by the step the other way.  Cells of the rectangle and their
columns and rows tell each other, and a cell has an empty neighbour if an empty cell of the
rectangle is one column or one row away, which is what a look at its neighbours finds. -/
theorem neighbors_without_wraparound {b : Board} (hwidth : 0 < b.width)
    (hsize : b.size = b.width * b.height ∨ b.size = b.width * b.height + 1) :
    (∀ x y : Int, b.indexOf? x y =
      if 0 ≤ x ∧ x < b.width ∧ 0 ≤ y ∧ y < b.height then .ok (x + y * b.width)
      else .error (.outsideRectangle x y b.config.width b.config.height)) ∧
    (∀ n < b.size, ∀ d : Direction, b.shape.ahead? n d =
      (b.indexOf? (d.step (b.shape.coordinates n)).1
        (d.step (b.shape.coordinates n)).2).toOption) ∧
    (∀ n < b.size, ∀ d t, b.shape.ahead? n d = some t →
      t ≠ n ∧ 0 ≤ t ∧ t < (b.width * b.height : Nat)) ∧
    (∀ m < b.width * b.height, ∀ n < b.width * b.height, ∀ d : Direction,
      b.shape.ahead? m d = some (n : Int) ↔ b.shape.ahead? n d.opposite = some (m : Int)) ∧
    (∀ n < b.width * b.height,
      b.indexOf? (b.shape.coordinates n).1 (b.shape.coordinates n).2 = .ok (n : Int)) ∧
    (∀ x y t, b.indexOf? x y = .ok t →
      0 ≤ t ∧ t < (b.width * b.height : Nat) ∧ b.shape.coordinates t = (x, y)) ∧
    ∀ n < b.size, b.neighborEmpty? n = .ok (b.hasEmptyNeighbor n) ∧
      (b.hasEmptyNeighbor n = true ↔ ∃ m < b.width * b.height, b.kinds[m]? = some .empty ∧
        |(b.shape.coordinates m).1 - (b.shape.coordinates n).1| +
          |(b.shape.coordinates m).2 - (b.shape.coordinates n).2| = 1) := by
  have hle : b.width * b.height ≤ b.size := by omega
  have hcells : b.size ≤ b.width * b.height + 1 := by omega
  have hfound : ∀ x y : Int, (b.indexOf? x y).toOption = b.shape.index? x y := by
    intro x y
    rw [Board.indexOf?]
    cases b.shape.index? x y <;> rfl
  have hahead : ∀ n < b.size, ∀ d : Direction, b.shape.ahead? n d =
      b.shape.index? (d.step (b.shape.coordinates n)).1 (d.step (b.shape.coordinates n)).2 :=
    fun n hn d => Shape.ahead?_eq_index? hwidth hle hcells hn d
  refine ⟨b.indexOf?_eq, fun n hn d => ?_, fun n hn d t ht => ?_, fun m hm n hn d => ?_,
    fun n hn => ?_, fun x y t ht => ?_, fun n hn => ?_⟩
  · rw [hfound, hahead n hn d]
  · rw [hahead n hn d] at ht
    refine ⟨?_, Shape.index?_bounds ht⟩
    rintro rfl
    exact d.step_ne _ (Shape.coordinates_of_index? ht).2.symm
  · rw [Shape.ahead?_eq_some_iff hwidth hle hcells (Nat.lt_of_lt_of_le hm hle),
      Shape.ahead?_eq_some_iff hwidth hle hcells (Nat.lt_of_lt_of_le hn hle)]
    exact and_congr (iff_of_true hn hm) Direction.eq_step_iff
  · rw [Board.indexOf?, Shape.index?_coordinates hwidth hn]
  · have hindex : b.shape.index? x y = some t := by
      rw [← hfound, ht]
      rfl
    obtain ⟨h0, hlt⟩ := Shape.index?_bounds hindex
    exact ⟨h0, hlt, (Shape.coordinates_of_index? hindex).2⟩
  · exact ⟨b.neighborEmpty?_eq n, Board.hasEmptyNeighbor_iff hwidth hle hcells hn⟩

/-- The configuration of two rows of three cells and a spare cell. -/
def nookConfig : Config :=
  ⟨fun
    | .width => .int 3
    | .height => .int 2
    | f => f.defaultValue⟩

/-- A board that has food on all cells but the last one of the first row. -/
def nook : Board :=
  { Board.blank nookConfig (.ofConfig nookConfig) 3 2 7 (.ofSeed 0) with
    kinds := #[.food, .food, .empty, .food, .food, .food, .food] }

/-- The empty cell is a neighbour of the cell below it, not of the one that comes next to it in the
count of cells; the spare cell looks north at the last row, and no cell looks back. -/
theorem nook_neighbors :
    0 < nook.width ∧
      (nook.size = nook.width * nook.height ∨ nook.size = nook.width * nook.height + 1) ∧
      nook.neighborEmpty? (5 : Nat) = .ok true ∧ nook.neighborEmpty? (3 : Nat) = .ok false ∧
      nook.shape.ahead? (6 : Nat) .north = some 3 ∧ nook.shape.ahead? (3 : Nat) .south = none := by
  have hwidth : 0 < nook.width := by decide
  have hsize : nook.size = nook.width * nook.height ∨ nook.size = nook.width * nook.height + 1 :=
    Or.inr rfl
  obtain ⟨-, hahead, -, -, -, -, hlook⟩ := neighbors_without_wraparound hwidth hsize
  refine ⟨hwidth, hsize, ?_, ?_, ?_, ?_⟩
  · obtain ⟨heq, hiff⟩ := hlook 5 (by decide)
    rw [heq, hiff.2 ⟨2, by decide, rfl, by decide⟩]
  · obtain ⟨heq, -⟩ := hlook 3 (by decide)
    rw [heq]
    rfl
  · rw [hahead 6 (by decide)]
    rfl
  · rw [hahead 3 (by decide)]
    rfl

end Formicary
