import Formicary.Proofs.Placing

/-!
# Setting up one cell at a time

An ant is put on a board, and a cell gets food or is emptied, by writing a single cell.  Either the
request is refused and the board is as it was, or that cell alone is written and nothing else has
changed than the arena, which whoever was there has left and which the ant that was put there has
joined, and the next id (`Board.Atomic`).

An ant whose id is too wide for an occupant entry is neither refused nor put on the board: the
placing halts when its cell has been written in part.
-/

namespace Formicary.Board

variable {b b' : Board} {index next : Int} {n : Nat} {a : Ant} {c : Content}

/-! ### One cell written -/

/-- The board `b'` is the board `b` with another content of one cell.  Every other cell is as it
was.  The arena has lost the ant whose id was the occupant entry of the cell and got the newcomer,
if there is one; the other ants are as they were and in the same order. -/
structure Rewritten (b b' : Board) (n : Nat) (c : Content) (newcomer : Option Ant) (next : Int) :
    Prop where
  shows : b'.Shows n c
  kinds_eq : ∀ m, m ≠ n → b'.kinds[m]? = b.kinds[m]?
  occupants_eq : ∀ m, m ≠ n → b'.occupants[m]? = b.occupants[m]?
  ants_eq : b'.arena.ants =
    (b.arena.ants.filter fun x => b.occupants[n]? != some x.id) ++ newcomer.toList
  frame : b' = { b with
    kinds := b'.kinds
    occupants := b'.occupants
    arena := b'.arena
    nextId := next }

/-- The ants that stay when a cell is written are those whose id is not its occupant entry. -/
theorem Lodged.ants_without (h : b.Lodged) (hn : n < b.size) :
    (b.arena.without (b.content n).ant?).ants =
      b.arena.ants.filter fun x => b.occupants[n]? != some x.id := by
  rw [h.displays.occupant n hn]
  by_cases hant : ∃ id, b.content n = .ant id
  · obtain ⟨id, hid⟩ := hant
    rw [hid]
    refine List.filter_congr fun x _ => ?_
    rw [Content.occupant, Bool.eq_iff_iff, bne_iff_ne, bne_iff_ne, ne_comm, ne_eq, ne_eq,
      Option.some.injEq]
  · -- the entry is that of a vacant cell, which is nobody's id
    have hnone : (b.content n).ant? = none :=
      Option.eq_none_iff_forall_ne_some.2 fun id hid => hant ⟨id, Content.ant?_eq_some_iff.1 hid⟩
    rw [hnone, Arena.without_none, Content.occupant_of_ant?_eq_none hnone]
    refine (List.filter_eq_self.2 fun x hx => ?_).symm
    refine bne_iff_ne.2 fun hvacant => h.vacant_notMem ?_
    rw [Option.some.inj hvacant]
    exact Arena.mem_ids_of_mem hx

/-- A cell is rewritten when it is given a content. -/
theorem Lodged.rewritten (h : b.Lodged) (hn : n < b.size) (c : Content) :
    b.Rewritten (b.written n c) n c none b.nextId where
  shows := by
    refine ⟨Array.getElem?_setIfInBounds_self_of_lt hn,
      Array.getElem?_setIfInBounds_self_of_lt ?_⟩
    rw [h.displays.occupants_size]
    exact hn
  kinds_eq _ hm := Array.getElem?_setIfInBounds_ne hm.symm
  occupants_eq _ hm := Array.getElem?_setIfInBounds_ne hm.symm
  ants_eq := (h.ants_without hn).trans (List.append_nil _).symm
  frame := rfl

/-- An ant that joins the arena afterwards is the newcomer. -/
theorem Rewritten.insert {m : Int} (h : b.Rewritten b' n c none m) (hnew : a.id ∉ b.arena.ids)
    (next : Int) :
    b.Rewritten { b' with arena := b'.arena.insert a, nextId := next } n c (some a) next where
  shows := h.shows
  kinds_eq := h.kinds_eq
  occupants_eq := h.occupants_eq
  ants_eq := by
    have hants : b'.arena.ants = b.arena.ants.filter fun x => b.occupants[n]? != some x.id :=
      h.ants_eq.trans (List.append_nil _)
    have hnew' : a.id ∉ b'.arena.ids := fun hmem => by
      obtain ⟨x, hx, hid⟩ := List.mem_map.1 hmem
      rw [hants] at hx
      exact hnew (hid ▸ Arena.mem_ids_of_mem (List.mem_of_mem_filter hx))
    rw [Arena.insert_of_notMem hnew', hants]
    rfl
  frame := congrArg
    (fun x : Board => { x with arena := b'.arena.insert a, nextId := next }) h.frame

/-- A cell is rewritten when an ant with a new id is put there. -/
theorem Lodged.rewritten_settled (h : b.Lodged) (hn : n < b.size) (hnew : a.id ∉ b.arena.ids)
    (next : Int) : b.Rewritten (b.settled n a next) n (.ant a.id) (some a) next :=
  (h.rewritten hn (.ant a.id)).insert hnew next

/-! ### All or nothing -/

/-- The writing of a cell of the board `b` is atomic and local.  It is refused if and only if there
is no such cell or the newcomer is there already, and then the board stands as it was.  Otherwise
that cell is rewritten. -/
structure Atomic (b : Board) (result : Except (Halted Board Fault) Board) (index : Int)
    (c : Content) (newcomer : Option Ant) (next : Int) : Prop where
  error_iff : (∃ halted, result = .error halted) ↔
    (index < 0 ∨ b.size ≤ index) ∨ ∃ a ∈ newcomer, a.id ∈ b.arena.ids
  refusal : ∀ halted, result = .error halted →
    halted = ⟨b, .offBoard index b.size⟩ ∨ ∃ a ∈ newcomer, halted = ⟨b, .alreadyPlaced a.id⟩
  rewritten : ∀ b', result = .ok b' → ∃ n : Nat, index = n ∧ b.Rewritten b' n c newcomer next

variable {newcomer : Option Ant}

/-- It is atomic to be refused if there is no such cell. -/
theorem Atomic.of_offBoard (h : index < 0 ∨ b.size ≤ index) :
    b.Atomic (.error ⟨b, .offBoard index b.size⟩) index c newcomer next where
  error_iff := ⟨fun _ => Or.inl h, fun _ => ⟨_, rfl⟩⟩
  refusal _ heq := Or.inl (Except.error.inj heq).symm
  rewritten _ heq := nomatch heq

/-- It is atomic to be refused if the newcomer is there already. -/
theorem Atomic.of_alreadyPlaced (h : a.id ∈ b.arena.ids) :
    b.Atomic (.error ⟨b, .alreadyPlaced a.id⟩) index c (some a) next where
  error_iff := ⟨fun _ => Or.inr ⟨a, rfl, h⟩, fun _ => ⟨_, rfl⟩⟩
  refusal _ heq := Or.inr ⟨a, rfl, (Except.error.inj heq).symm⟩
  rewritten _ heq := nomatch heq

/-- It is atomic to rewrite the cell otherwise. -/
theorem Atomic.of_rewritten (hn : n < b.size) (hnew : ∀ x ∈ newcomer, x.id ∉ b.arena.ids)
    (h : b.Rewritten b' n c newcomer next) : b.Atomic (.ok b') n c newcomer next where
  error_iff := by
    refine ⟨fun ⟨_, heq⟩ => (nomatch heq), ?_⟩
    rintro (hoff | ⟨x, hx, hmem⟩)
    · omega
    · exact absurd hmem (hnew x hx)
  refusal _ heq := nomatch heq
  rewritten _ heq := ⟨n, rfl, Except.ok.inj heq ▸ h⟩

/-- To rid a cell of its ant is atomic. -/
theorem Lodged.atomic_vacate (h : b.Lodged) (index : Int) (hc : c.ant? = none) :
    b.Atomic (b.vacate index c.kind) index c none b.nextId := by
  rw [h.vacate_eq index hc]
  obtain ⟨hoff, hcell⟩ | ⟨n, rfl, hn, hcell⟩ := b.cell?_cases index
  · rw [hcell]
    exact .of_offBoard hoff
  · rw [hcell]
    exact .of_rewritten hn (fun _ hx => nomatch hx) (h.rewritten hn c)

/-- To put an ant on a cell is atomic, if its id fits an occupant entry. -/
theorem Lodged.atomic_place (h : b.Lodged) (index : Int) (hfits : idFits a.id = true) :
    b.Atomic (b.place index a) index (.ant a.id) (some a) (max b.nextId (a.id + 1)) := by
  rw [h.place_eq]
  obtain ⟨hoff, hcell⟩ | ⟨n, rfl, hn, hcell⟩ := b.cell?_cases index
  · rw [hcell]
    exact .of_offBoard hoff
  · rw [hcell]
    by_cases hmem : a.id ∈ b.arena.ids
    · simp only [if_pos hmem]
      exact .of_alreadyPlaced hmem
    · simp only [if_neg hmem, if_pos hfits]
      refine .of_rewritten hn (fun x hx => ?_) (h.rewritten_settled hn hmem _)
      rw [← Option.mem_some.1 hx]
      exact hmem

end Formicary.Board

namespace Formicary

open Board in
/-- On a board whose ants are lodged, as on consistent ones (`Board.Consistent.lodged`), it is
atomic and local to put food on a cell, to empty it, and to put an ant on it whose id fits an
occupant entry; the next id rises for an ant only, and just above the id of that ant.  An ant of
another id is refused as any other, without a change; but if it is not refused, the kind of the cell
has been written and the ant that was there has left when the placing halts. -/
theorem setup_is_atomic {b : Board} (hb : b.Lodged) (index : Int) :
    b.Atomic (b.placeFood index) index .food none b.nextId ∧
      b.Atomic (b.clear index) index .empty none b.nextId ∧
      ∀ a : Ant,
        (idFits a.id = true →
          b.Atomic (b.place index a) index (.ant a.id) (some a) (max b.nextId (a.id + 1))) ∧
        (idFits a.id = false →
          (index < 0 ∨ b.size ≤ index → b.place index a = .error ⟨b, .offBoard index b.size⟩) ∧
          ∀ n : Nat, index = n → n < b.size →
            (a.id ∈ b.arena.ids → b.place index a = .error ⟨b, .alreadyPlaced a.id⟩) ∧
            (a.id ∉ b.arena.ids →
              b.place index a = .error ⟨b.halfWritten n (.ant a.id), .wideId a.id⟩)) := by
  refine ⟨hb.atomic_vacate (c := .food) index rfl, hb.atomic_vacate (c := .empty) index rfl,
    fun a => ⟨hb.atomic_place index, fun hwide => ⟨fun hoff => ?_, ?_⟩⟩⟩
  · obtain ⟨-, hcell⟩ | ⟨n, rfl, hn, -⟩ := b.cell?_cases index
    · rw [hb.place_eq, hcell]
    · omega
  · rintro n rfl hn
    rw [hb.place_eq, cell?_natCast hn]
    refine ⟨fun hmem => if_pos hmem, fun hmem => ?_⟩
    simp only [if_neg hmem, hwide, Bool.false_eq_true, if_false]

/-- An ant is put on the cell of another ant of the crowd, and a cell left of the first one is
refused. -/
theorem crowd_set_up :
    crowd.Lodged ∧
      (∃ b', crowd.place 4 (simpleton 7 .red .move 5 .north) = .ok b' ∧
        crowd.Rewritten b' 4 (.ant 7) (some (simpleton 7 .red .move 5 .north)) 8 ∧
        b'.arena.ids = [0, 1, 3, 7] ∧ b'.nextId = 8) ∧
      crowd.clear (-1) = .error ⟨crowd, .offBoard (-1) 6⟩ := by
  have hlodged := wellFormed_crowd.lodged
  obtain ⟨-, -, hplace⟩ := setup_is_atomic hlodged 4
  obtain ⟨-, hclear, -⟩ := setup_is_atomic hlodged (-1)
  have hatomic := (hplace (simpleton 7 .red .move 5 .north)).1 rfl
  refine ⟨hlodged, ?_, ?_⟩
  · obtain ⟨n, hn, hrewritten⟩ := hatomic.rewritten _ rfl
    obtain rfl : n = 4 := by omega
    exact ⟨_, rfl, hrewritten, by decide +kernel, by decide +kernel⟩
  · obtain ⟨halted, hhalted⟩ := hclear.error_iff.2 (Or.inl (Or.inl (by decide)))
    rw [hhalted]
    obtain hoff | ⟨x, hx, -⟩ := hclear.refusal halted hhalted
    · exact congrArg _ hoff
    · cases hx

/-- An ant whose id is too wide puts the ant of the cell out of the arena, though it is not put on
the board. -/
theorem row_half_written :
    Reachable (emptyRow.enter 0 (simpleton 0 .blue .move 50 .north)) ∧
      (emptyRow.enter 0 (simpleton 0 .blue .move 50 .north)).arena.ids = [0] ∧
      ∃ halted, (emptyRow.enter 0 (simpleton 0 .blue .move 50 .north)).place 0
          (simpleton 0x8000000000000000 .red .move 50 .north) =
            .error ⟨halted, .wideId 0x8000000000000000⟩ ∧
        halted.arena.ids = [] ∧ halted.kinds[0]? = some .ant ∧ halted.occupants[0]? = some 0 := by
  refine ⟨.enter_simpleton reachable_emptyRow, by decide +kernel, _, rfl, ?_, ?_, ?_⟩
  · decide +kernel
  · decide +kernel
  · decide +kernel

end Formicary
