import Formicary.Proofs.Reachable

/-!
# Placing ants of any id

The id of an ant that is placed is up to the caller, and it is written into the occupant entry of
the cell.  An id of the width of an entry that is not the entry of a vacant cell can be read back,
whether or not the board has given it out: then the cells and the arena agree as before, and the ant
is found on its cell (`Board.Received`).

Two sorts of ids cannot be read back.  An ant whose id is `vacant` gets into the arena and on a cell
that is taken for one without an ant, and it stays in the arena whatever is done to that cell
(`Board.Unseen`).  The placing of an ant whose id is too wide halts when the kind of the cell has
been written and the ant that was there has left.  After either an audit has something to find.
-/

namespace Formicary.Board

variable {b b' : Board} {n : Nat} {a : Ant} {c : Content}

/-! ### Consistent boards -/

/-- The ids of the arena of a consistent board have been given out. -/
theorem Consistent.id_lt (hb : b.Consistent) : ∀ id ∈ b.arena.ids, id < b.nextId := by
  intro id hid
  obtain ⟨a, ha⟩ := Option.isSome_iff_exists.1 (Arena.has_iff.2 hid)
  exact (hb.id_of_find? id a ha).2

/-- The number of cells of a consistent board is the configured one. -/
theorem Consistent.cells?_eq (hb : b.Consistent) : b.config.cells? = some (b.size : Int) := by
  rw [hb.cells, size, hb.kinds_size]

/-- A board stays consistent if a cell is written that no ant moves to. -/
theorem Consistent.written (hb : b.Consistent) (hn : n < b.size) (hc : c.ant? = none) :
    (b.written n c).Consistent := by
  refine (hb.lodged.written_vacant hn hc).consistent ?_ (fun id hid => ?_) fun a ha => ?_
  · rw [size_written]
    exact hb.cells?_eq
  · exact hb.id_lt id (Arena.mem_ids_without.1 hid).1
  · exact hb.gene a ((Arena.ants_without_sublist b.arena _).subset ha)

/-- A board stays consistent if an ant with a new id, other than the entry of a vacant cell, is put
on a cell. -/
theorem Consistent.settled (hb : b.Consistent) (hn : n < b.size) (ha : a.gene.WellFormed)
    (hnew : a.id ∉ b.arena.ids) (hid : a.id ≠ vacant) :
    (b.settled n a (max b.nextId (a.id + 1))).Consistent := by
  have hnew' : a.id ∉ (b.arena.without (b.content n).ant?).ids := fun hmem =>
    hnew (Arena.mem_ids_without.1 hmem).1
  refine (hb.lodged.settled hn hnew hid _).consistent ?_ (fun id hmem => ?_) fun x hx => ?_
  · rw [size_settled]
    exact hb.cells?_eq
  · change id ∈ ((b.arena.without (b.content n).ant?).insert a).ids at hmem
    change id < max b.nextId (a.id + 1)
    rw [Arena.ids_insert_of_notMem hnew', List.mem_append, List.mem_singleton] at hmem
    rcases hmem with hmem | rfl
    · have hlt := hb.id_lt id (Arena.mem_ids_without.1 hmem).1
      omega
    · omega
  · change x ∈ ((b.arena.without (b.content n).ant?).insert a).ants at hx
    rw [Arena.insert_of_notMem hnew', List.mem_append, List.mem_singleton] at hx
    rcases hx with hx | rfl
    · exact hb.gene x ((Arena.ants_without_sublist b.arena _).subset hx)
    · exact ha

/-- A cell of a consistent board is rid of its ant, which leaves the arena. -/
theorem Consistent.vacate (hb : b.Consistent) {id : Int} (hid : b.content n = .ant id)
    (hc : c.ant? = none) :
    ∃ b', b.vacate n c.kind = .ok b' ∧ b'.Consistent ∧ b'.Shows n c ∧ id ∉ b'.arena.ids := by
  have hn : n < b.size := lt_size_of_content_ne (by rw [hid]; exact Content.noConfusion)
  have heq := hb.lodged.vacate_eq n hc
  rw [cell?_natCast hn] at heq
  have hdisplays := (hb.lodged.written_vacant hn hc).displays
  refine ⟨b.written n c, heq, hb.written hn hc, ?_, fun hmem => ?_⟩
  · refine hdisplays.shows ((size_written b n c).symm ▸ hn) ?_
    rw [content_written hb.displays hn, Function.update_self]
  · have hgone := (Arena.mem_ids_without.1 hmem).2
    rw [hid] at hgone
    exact hgone rfl

/-! ### Ants that can be found -/

/-- The board `b'` has received an ant on a cell of the board `b`.  It is consistent, the ant is on
that cell alone and is found there, and whoever was there has left.  On `b'` and wherever else the
ant is still there, it leaves the arena when the cell gets food or is cleared. -/
structure Received (b b' : Board) (n : Nat) (a : Ant) : Prop where
  consistent : b'.Consistent
  audit_eq : b'.audit = none
  shows : b'.Shows n (.ant a.id)
  only : ∀ m, b'.occupants[m]? = some a.id → m = n
  antAt?_eq : b'.antAt? n = .ok (some a)
  indexOfAnt?_eq : b'.indexOfAnt? a.id = some n
  arena_eq : b'.arena = (b.arena.without (b.content n).ant?).insert a
  leaves : ∀ later : Board, later.Consistent → later.Shows n (.ant a.id) →
    (∃ fed, later.placeFood n = .ok fed ∧ fed.Consistent ∧ fed.Shows n .food ∧
      a.id ∉ fed.arena.ids) ∧
    ∃ cleared, later.clear n = .ok cleared ∧ cleared.Consistent ∧ cleared.Shows n .empty ∧
      a.id ∉ cleared.arena.ids

/-- An ant whose id can be read back is received. -/
theorem Consistent.received (hb : b.Consistent) (hn : n < b.size) (ha : a.gene.WellFormed)
    (hnew : a.id ∉ b.arena.ids) (hid : a.id ≠ vacant) :
    b.Received (b.settled n a (max b.nextId (a.id + 1))) n a := by
  have hb' := hb.settled hn ha hnew hid
  have hn' : n < (b.settled n a (max b.nextId (a.id + 1))).size := by rwa [size_settled]
  have hcontent : (b.settled n a (max b.nextId (a.id + 1))).content n = .ant a.id := by
    rw [content_settled hb.displays hn, Function.update_self]
  have hshows := hb'.displays.shows hn' hcontent
  have hfind : (b.settled n a (max b.nextId (a.id + 1))).arena.find? a.id = some a := by
    change ((b.arena.without (b.content n).ant?).insert a).find? a.id = some a
    rw [Arena.find?_insert, if_pos rfl]
  refine ⟨hb', hb'.audit_eq_none, hshows, fun m hm => ?_, ?_, hb'.lodged.indexOfAnt?_eq hcontent,
    rfl, fun later hlater hon => ?_⟩
  · exact hb'.lodged.eq_of_content (hb'.displays.content_of_occupant hm hid) hcontent
  · have hplace : place? (b.settled n a (max b.nextId (a.id + 1))).occupants.size (n : Int) =
        some n := by
      rw [hb'.displays.occupants_size]
      exact place?_natCast hn'
    have hoccupant := hshows.2
    rw [Content.occupant] at hoccupant
    simp only [antAt?, occupant?, hplace, Option.bind_some, hoccupant, bind, Except.bind,
      if_neg hid, ant?, hfind, Except.map]
  · have hcontent := hlater.displays.content_of_shows hon
    exact ⟨hlater.vacate (c := .food) hcontent rfl, hlater.vacate (c := .empty) hcontent rfl⟩

/-! ### Ants that cannot be found -/

/-- An ant is in the arena, but the cell that it has been put on is taken for one without an ant; it
is there to stay, and an audit objects. -/
structure Unseen (b : Board) (n : Nat) (a : Ant) : Prop where
  mem : a ∈ b.arena.ants
  audit_ne : b.audit ≠ none
  antAt?_eq : b.antAt? n = .ok none
  vacate : ∀ k, ∃ b', b.vacate n k = .ok b' ∧ a ∈ b'.arena.ants

/-- Nobody leaves the arena if a vacant cell is written. -/
theorem overwrite_of_vacant (hn : n < b.size) (hvacant : b.occupants[n]? = some vacant)
    (k : CellKind) :
    ∃ b', b.overwrite n k vacant = .ok (b', none) ∧ b'.arena = b.arena := by
  have hsize : ¬ b.kinds.size ≤ n := Nat.not_le.2 hn
  have hfits : idFits vacant = true := rfl
  refine ⟨{ b with
    kinds := b.kinds.setIfInBounds n k
    occupants := b.occupants.setIfInBounds n vacant }, ?_, rfl⟩
  simp only [overwrite, hvacant, ne_eq, not_true_eq_false, false_and, if_false, if_true, hsize,
    hfits]

/-- An ant that goes by the entry of a vacant cell is not seen. -/
theorem Consistent.unseen (hb : b.Consistent) (hn : n < b.size) (hnew : a.id ∉ b.arena.ids)
    (hid : a.id = vacant) : (b.settled n a (max b.nextId (a.id + 1))).Unseen n a := by
  have hn' : n < (b.settled n a (max b.nextId (a.id + 1))).size := by rwa [size_settled]
  have hkind : (b.settled n a (max b.nextId (a.id + 1))).kinds[n]? = some .ant :=
    Array.getElem?_setIfInBounds_self_of_lt hn
  have hentry : (b.settled n a (max b.nextId (a.id + 1))).occupants[n]? = some vacant := by
    rw [← hid]
    exact Array.getElem?_setIfInBounds_self_of_lt (Nat.lt_of_lt_of_eq hn hb.kinds_size)
  have hmem : a ∈ (b.settled n a (max b.nextId (a.id + 1))).arena.ants := by
    have hnew' : a.id ∉ (b.arena.without (b.content n).ant?).ids := fun hmem =>
      hnew (Arena.mem_ids_without.1 hmem).1
    change a ∈ ((b.arena.without (b.content n).ant?).insert a).ants
    rw [Arena.insert_of_notMem hnew']
    exact List.mem_append_right _ (List.mem_singleton_self a)
  refine ⟨hmem, fun haudit => ?_, ?_, fun k => ?_⟩
  · obtain ⟨-, -, hiff, -⟩ := audit_eq_none_iff.1 haudit
    exact (hiff n _ _ hkind hentry).1 rfl rfl
  · have hplace : place? (b.settled n a (max b.nextId (a.id + 1))).occupants.size (n : Int) =
        some n := place?_natCast (Array.getElem?_eq_some_iff.1 hentry).1
    simp only [antAt?, occupant?, hplace, Option.bind_some, hentry, bind, Except.bind, if_true]
  · obtain ⟨b', hwrite, harena⟩ := overwrite_of_vacant hn' hentry k
    refine ⟨b', ?_, harena ▸ hmem⟩
    simp only [Board.vacate, cell?_natCast hn', hwrite]
    rfl

/-- An audit objects to a board on which the writing of a cell has stopped half way. -/
theorem Consistent.audit_halfWritten (hb : b.Consistent) (hn : n < b.size) (id : Int) :
    (b.halfWritten n (.ant id)).audit ≠ none := by
  intro haudit
  obtain ⟨-, -, hiff, -, hids, -⟩ := audit_eq_none_iff.1 haudit
  have hentry := hb.displays.occupant n hn
  have hkind : (b.halfWritten n (.ant id)).kinds[n]? = some .ant :=
    Array.getElem?_setIfInBounds_self_of_lt hn
  -- the entry stands, so it names somebody, who has left
  have hne : (b.content n).occupant ≠ vacant := (hiff n _ _ hkind hentry).1 rfl
  have hcontent := hb.displays.content_of_occupant hentry hne
  have hmem : (b.content n).occupant ∈ (b.halfWritten n (.ant id)).occupantIds :=
    List.mem_filter.2 ⟨Array.mem_toList_iff.2 (Array.mem_of_getElem? hentry), bne_iff_ne.2 hne⟩
  have hgone := (Arena.mem_ids_without.1 ((hids _).1 hmem)).2
  exact hgone (Content.ant?_eq_some_iff.2 hcontent)

end Formicary.Board

namespace Formicary

open Board in
/-- Placing an ant on a consistent board, as reachable ones are (`Reachable.wellFormed`,
`Board.WellFormed.consistent`).  If the index is off the board or the ant is there already, it is
refused and the board is left as it is.  Otherwise the ant is received, if its id fits an occupant
entry and is not the entry of a vacant cell.  If it is that entry the ant is not seen, and if it
does not fit the placing halts half way, each of which an audit objects to. -/
theorem place_outcomes {b : Board} (hb : b.Consistent) {a : Ant} (ha : a.gene.WellFormed)
    (index : Int) :
    (∃ fault, b.place index a = .error ⟨b, fault⟩ ∧
      ((index < 0 ∨ b.size ≤ index) ∧ fault = .offBoard index b.size ∨
        a.id ∈ b.arena.ids ∧ fault = .alreadyPlaced a.id)) ∨
      ∃ n : Nat, index = n ∧ n < b.size ∧ a.id ∉ b.arena.ids ∧
        (a.id ≠ vacant → idFits a.id = true →
          ∃ b', b.place index a = .ok b' ∧ b.Received b' n a) ∧
        (a.id = vacant → ∃ b', b.place index a = .ok b' ∧ b'.Unseen n a) ∧
        (idFits a.id = false → ∃ halted,
          b.place index a = .error ⟨halted, .wideId a.id⟩ ∧ halted.audit ≠ none) := by
  have heq := hb.lodged.place_eq index a
  by_cases hindex : 0 ≤ index ∧ index < b.size
  · obtain ⟨n, rfl⟩ := Int.eq_ofNat_of_zero_le hindex.1
    have hn : n < b.size := Int.ofNat_lt.1 hindex.2
    rw [cell?_natCast hn] at heq
    by_cases hmem : a.id ∈ b.arena.ids
    · simp only [if_pos hmem] at heq
      exact Or.inl ⟨_, heq, Or.inr ⟨hmem, rfl⟩⟩
    · simp only [if_neg hmem] at heq
      refine Or.inr ⟨n, rfl, hn, hmem, fun hid hfits => ?_, fun hid => ?_, fun hwide => ?_⟩
      · rw [if_pos hfits] at heq
        exact ⟨_, heq, hb.received hn ha hmem hid⟩
      · rw [if_pos (by rw [hid]; rfl)] at heq
        exact ⟨_, heq, hb.unseen hn hmem hid⟩
      · rw [if_neg (Bool.eq_false_iff.1 hwide)] at heq
        exact ⟨_, heq, hb.audit_halfWritten hn a.id⟩
  · have hcell : b.cell? index = .error (.offBoard index b.size) := if_neg hindex
    rw [hcell] at heq
    exact Or.inl ⟨_, heq, Or.inl ⟨by omega, rfl⟩⟩

/-- The crowd receives an ant of a negative id on the cell of another ant, which leaves. -/
theorem crowd_receives :
    crowd.Consistent ∧ (simpleton (-5) .red .move 5 .north).gene.WellFormed ∧
      ∃ b', crowd.place 4 (simpleton (-5) .red .move 5 .north) = .ok b' ∧
        crowd.Received b' 4 (simpleton (-5) .red .move 5 .north) ∧
        b'.arena.ids = [0, 1, 3, -5] := by
  have hgene := (@sound_simpleton (-5) .red .move rfl 5 .north).gene
  refine ⟨wellFormed_crowd.consistent, hgene, ?_⟩
  rcases place_outcomes wellFormed_crowd.consistent hgene 4 with
    ⟨fault, -, ⟨hindex, -⟩ | ⟨hmem, -⟩⟩ | ⟨n, hn, -, -, hgood, -⟩
  · exact absurd hindex (by decide +kernel)
  · exact absurd hmem (by decide +kernel)
  · obtain rfl : n = 4 := by omega
    obtain ⟨b', hplace, hreceived⟩ := hgood (by decide) rfl
    refine ⟨b', hplace, hreceived, ?_⟩
    rw [hreceived.arena_eq]
    decide +kernel

/-- An ant whose id is the entry of a vacant cell is not refused by the row, and an audit of the row
objects to it. -/
theorem row_with_unseen_ant :
    Reachable emptyRow ∧ (simpleton vacant .blue .move 50 .north).gene.WellFormed ∧
      ∃ b', emptyRow.place 0 (simpleton vacant .blue .move 50 .north) = .ok b' ∧
        b'.audit.isSome = true ∧ (b'.antAt? 0).toOption = some none := by
  have hgene := (@sound_simpleton vacant .blue .move rfl 50 .north).gene
  refine ⟨reachable_emptyRow, hgene, _, rfl, ?_, ?_⟩
  · decide +kernel
  · decide +kernel

end Formicary
