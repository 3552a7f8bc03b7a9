import Formicary.Board.Audit
import Formicary.Proofs.Stage

/-!
# Consistency of cells and arena

`Board.Consistent` is the agreement of the cells and the arena of a board, in terms of the rows of
the board alone.  A well-formed board is consistent, and an audit of it finds nothing.  Conversely
the ants of a consistent board are lodged (`Board.Consistent.lodged`), so that what is known of
writing cells applies to it.
-/

namespace Formicary.Board

variable {b : Board} {f : Nat → Content}

/-- The cells of a board are as many as are configured, each is empty, food or an ant, those with an
ant are those with an occupant, and the occupants are, each once, the ants of the arena.  The ants
of the arena go by their own ids, which have been given out, and their programs are in order. -/
structure Consistent (b : Board) : Prop where
  kinds_size : b.kinds.size = b.occupants.size
  cells : b.config.cells? = some (b.occupants.size : Int)
  kind_cases : ∀ k ∈ b.kinds, k = .empty ∨ k = .food ∨ k = .ant
  ant_iff : ∀ (n : Nat) (k : CellKind) (id : Int), b.kinds[n]? = some k →
    b.occupants[n]? = some id → (k = .ant ↔ id ≠ vacant)
  occupantIds_nodup : b.occupantIds.Nodup
  mem_occupantIds_iff : ∀ id, id ∈ b.occupantIds ↔ id ∈ b.arena.ids
  ids_nodup : b.arena.ids.Nodup
  id_of_find? : ∀ id a, b.arena.find? id = some a → a.id = id ∧ id < b.nextId
  gene : ∀ a ∈ b.arena.ants, a.gene.WellFormed

/-- The kinds of the cells of a board that shows `f`, in order. -/
theorem Displays.kinds_toList (h : b.Displays f) :
    b.kinds.toList = (List.range b.size).map fun n => (f n).kind := by
  refine List.ext_getElem? fun n => ?_
  rw [Array.getElem?_toList, List.getElem?_map]
  by_cases hn : n < b.size
  · rw [h.kind n hn, List.getElem?_range hn]
    rfl
  · rw [List.getElem?_eq_none (by rw [List.length_range]; omega)]
    exact Array.getElem?_eq_none (Nat.not_lt.1 hn)

/-- The occupant entries of a board that shows `f`, in order. -/
theorem Displays.occupants_toList (h : b.Displays f) :
    b.occupants.toList = (List.range b.size).map fun n => (f n).occupant := by
  refine List.ext_getElem? fun n => ?_
  rw [Array.getElem?_toList, List.getElem?_map]
  by_cases hn : n < b.size
  · rw [h.occupant n hn, List.getElem?_range hn]
    rfl
  · rw [List.getElem?_eq_none (by rw [List.length_range]; omega)]
    exact Array.getElem?_eq_none (h.occupants_size ▸ Nat.not_lt.1 hn)

/-- An occupant entry other than a vacant one names the ant on its cell. -/
theorem Displays.content_of_occupant (h : b.Displays b.content) {n : Nat} {id : Int}
    (hentry : b.occupants[n]? = some id) (hid : id ≠ vacant) : b.content n = .ant id := by
  have hn : n < b.size := by
    rw [← h.occupants_size]
    exact (Array.getElem?_eq_some_iff.1 hentry).1
  rw [h.occupant n hn, Option.some.injEq] at hentry
  cases hc : b.content n with
  | ant id' =>
    rw [hc] at hentry
    exact congrArg Content.ant hentry
  | empty =>
    rw [hc] at hentry
    exact (hid hentry.symm).elim
  | food =>
    rw [hc] at hentry
    exact (hid hentry.symm).elim

/-! ### Lodged ants -/

/-- The occupant entry of a cell is not vacant exactly if there is an ant on it. -/
theorem Lodged.occupant_ne_vacant_iff (h : b.Lodged) (n : Nat) :
    (b.content n).occupant ≠ vacant ↔ (b.content n).kind = .ant := by
  cases hc : b.content n with
  | empty => simp [Content.occupant, Content.kind]
  | food => simp [Content.occupant, Content.kind]
  | ant id => simp [Content.occupant, Content.kind, h.ne_vacant hc]

/-- The occupants of a board are the ants on its cells. -/
theorem Lodged.occupantIds_eq (h : b.Lodged) : b.occupantIds = b.residents b.size := by
  rw [occupantIds, h.displays.occupants_toList, residents, List.filter_map]
  rw [← List.filterMap_eq_map, List.filterMap_filter]
  refine List.filterMap_congr fun n _ => ?_
  rw [Function.comp_apply]
  cases hc : b.content n with
  | empty => rfl
  | food => rfl
  | ant id => simp [hc, Content.occupant, Content.ant?, h.ne_vacant hc]

/-- The cell of an ant is where its id is found. -/
theorem Lodged.indexOfAnt?_eq (h : b.Lodged) {n : Nat} {id : Int} (hc : b.content n = .ant id) :
    b.indexOfAnt? id = some n := by
  have hn : n < b.size := lt_size_of_content_ne (by rw [hc]; exact Content.noConfusion)
  have hself : b.occupants.toList[n]? = some id := by
    rw [Array.getElem?_toList, h.displays.occupant n hn, hc]
    rfl
  obtain ⟨m, hm⟩ : ∃ m, b.indexOfAnt? id = some m :=
    Option.isSome_iff_exists.1 (List.isSome_idxOf?.2 (List.mem_of_getElem? hself))
  obtain ⟨hlt, hmid, -⟩ := List.idxOf?_eq_some_iff.1 hm
  have hentry : b.occupants[m]? = some id := by
    rw [← Array.getElem?_toList, List.getElem?_eq_getElem hlt, hmid]
  rw [hm, h.eq_of_content (h.displays.content_of_occupant hentry (h.ne_vacant hc)) hc]

/-- No ant is on two cells. -/
theorem Lodged.nodup_residents (h : b.Lodged) (n : Nat) : (b.residents n).Nodup := by
  induction n with
  | zero => exact List.nodup_nil
  | succ n ih =>
    rw [residents_succ]
    cases hc : b.content n with
    | empty => simpa [Content.ant?] using ih
    | food => simpa [Content.ant?] using ih
    | ant id =>
      refine List.nodup_append.2 ⟨ih, List.nodup_singleton id, ?_⟩
      intro x hx y hy
      rw [List.mem_singleton.1 hy]
      rintro rfl
      exact h.notMem_residents hc hx

/-- The ants on the cells are those of the arena. -/
theorem Lodged.mem_residents_iff (h : b.Lodged) {id : Int} :
    id ∈ b.residents b.size ↔ id ∈ b.arena.ids := by
  rw [mem_residents, h.housed.mem_ids_iff]

/-- Cell by cell the ids are those of the arena, in another order. -/
theorem WellFormed.perm_residents (h : b.WellFormed) :
    (b.residents b.size).Perm b.arena.ids :=
  (List.perm_ext_iff_of_nodup (h.lodged.nodup_residents b.size) h.peopled.ids_nodup).2
    fun _ => h.lodged.mem_residents_iff

/-- A board whose ants are lodged is consistent, if its cells are as many as are configured and its
ants have ids that have been given out and programs that are in order. -/
theorem Lodged.consistent (h : b.Lodged) (hcells : b.config.cells? = some (b.size : Int))
    (hlt : ∀ id ∈ b.arena.ids, id < b.nextId) (hgene : ∀ a ∈ b.arena.ants, a.gene.WellFormed) :
    b.Consistent where
  kinds_size := h.displays.occupants_size.symm
  cells := by rw [hcells, h.displays.occupants_size]
  kind_cases k hk := by
    rw [← Array.mem_toList_iff, h.displays.kinds_toList] at hk
    obtain ⟨n, -, rfl⟩ := List.mem_map.1 hk
    cases b.content n with
    | empty => exact Or.inl rfl
    | food => exact Or.inr (Or.inl rfl)
    | ant id => exact Or.inr (Or.inr rfl)
  ant_iff n k id hk hid := by
    have hn : n < b.size := (Array.getElem?_eq_some_iff.1 hk).1
    rw [h.displays.kind n hn, Option.some.injEq] at hk
    rw [h.displays.occupant n hn, Option.some.injEq] at hid
    rw [← hk, ← hid]
    exact (h.occupant_ne_vacant_iff n).symm
  occupantIds_nodup := by
    rw [h.occupantIds_eq]
    exact h.nodup_residents b.size
  mem_occupantIds_iff id := by rw [h.occupantIds_eq, h.mem_residents_iff]
  ids_nodup := h.housed.ids_nodup
  id_of_find? id a ha := by
    have hid := Arena.id_of_find? ha
    refine ⟨hid, hlt id ?_⟩
    exact hid ▸ Arena.mem_ids_of_mem (Arena.mem_of_find? ha)
  gene := hgene

/-- In a row in which every entry of a sort occurs once, it occurs in one place. -/
theorem eq_of_nodup_filter {α : Type} {p : α → Bool} {l : List α} (hl : (l.filter p).Nodup)
    {m n : Nat} {x : α} (hm : l[m]? = some x) (hn : l[n]? = some x) (hx : p x = true) : m = n := by
  rw [List.Nodup, List.pairwise_filter, List.pairwise_iff_getElem] at hl
  obtain ⟨hmlt, hmx⟩ := List.getElem?_eq_some_iff.1 hm
  obtain ⟨hnlt, hnx⟩ := List.getElem?_eq_some_iff.1 hn
  rcases Nat.lt_trichotomy m n with hlt | heq | hlt
  · exact (hl m n hmlt hnlt hlt (hmx ▸ hx) (hnx ▸ hx) (hmx.trans hnx.symm)).elim
  · exact heq
  · exact (hl n m hnlt hmlt hlt (hnx ▸ hx) (hmx ▸ hx) (hnx.trans hmx.symm)).elim

/-- The rows of a consistent board show what its cells hold. -/
theorem Consistent.displays (h : b.Consistent) : b.Displays b.content := by
  have hcell : ∀ n < b.size, b.kinds[n]? = some (b.content n).kind ∧
      b.occupants[n]? = some (b.content n).occupant := by
    intro n hn
    have hk : b.kinds[n]? = some b.kinds[n] := Array.getElem?_eq_getElem hn
    have hn' : n < b.occupants.size := Nat.lt_of_lt_of_eq hn h.kinds_size
    have ho : b.occupants[n]? = some b.occupants[n] := Array.getElem?_eq_getElem hn'
    have hiff := h.ant_iff n _ _ hk ho
    have hvacant : b.kinds[n] ≠ .ant → b.occupants[n] = vacant := fun hne =>
      Classical.not_not.1 fun hid => hne (hiff.2 hid)
    rw [content, hk, ho]
    rcases h.kind_cases _ (Array.getElem_mem hn) with hkind | hkind | hkind
    · rw [hkind] at hvacant ⊢
      exact ⟨rfl, congrArg some (hvacant CellKind.noConfusion)⟩
    · rw [hkind] at hvacant ⊢
      exact ⟨rfl, congrArg some (hvacant CellKind.noConfusion)⟩
    · rw [hkind]
      exact ⟨rfl, rfl⟩
  exact ⟨h.kinds_size.symm, fun n hn => (hcell n hn).1, fun n hn => (hcell n hn).2⟩

/-- The ants of a consistent board are lodged. -/
theorem Consistent.lodged (h : b.Consistent) : b.Lodged := by
  have hentry : ∀ {n : Nat} {id : Int}, n < b.size → b.content n = .ant id →
      b.occupants[n]? = some id ∧ id ≠ vacant := by
    intro n id hn hc
    have hk := h.displays.kind n hn
    have ho := h.displays.occupant n hn
    rw [hc] at hk ho
    exact ⟨ho, (h.ant_iff n _ _ hk ho).1 rfl⟩
  have hmem : ∀ id, id ∈ b.arena.ids ↔ id ∈ b.occupants.toList ∧ id ≠ vacant := by
    intro id
    rw [← h.mem_occupantIds_iff, occupantIds, List.mem_filter, bne_iff_ne]
  refine ⟨h.displays, ⟨fun id => ?_, fun {m n id} hm hn hcm hcn => ?_, h.ids_nodup⟩,
    fun hv => ((hmem vacant).1 hv).2 rfl⟩
  · rw [hmem]
    constructor
    · rintro ⟨hoccupant, hid⟩
      obtain ⟨n, hn⟩ := List.mem_iff_getElem?.1 hoccupant
      rw [Array.getElem?_toList] at hn
      have hsize := (Array.getElem?_eq_some_iff.1 hn).1
      exact ⟨n, Nat.lt_of_lt_of_eq hsize h.kinds_size.symm, h.displays.content_of_occupant hn hid⟩
    · rintro ⟨n, hn, hc⟩
      obtain ⟨ho, hid⟩ := hentry hn hc
      exact ⟨Array.mem_toList_iff.2 (Array.mem_of_getElem? ho), hid⟩
  · obtain ⟨hm, hid⟩ := hentry hm hcm
    obtain ⟨hn, -⟩ := hentry hn hcn
    rw [← Array.getElem?_toList] at hm hn
    exact eq_of_nodup_filter h.occupantIds_nodup hm hn (bne_iff_ne.2 hid)

/-- The number of cells of a well-formed board is the configured one. -/
theorem WellFormed.cells?_eq (h : b.WellFormed) : b.config.cells? = some (b.size : Int) := by
  have hcells : b.config.cells? =
      some ((b.width : Int) * (b.height : Int) + (b.config.spareCells : Int)) := by
    simp only [Config.cells?, h.width, h.height, Value.integer?]
    rfl
  rw [hcells, h.size_eq, Int.natCast_add, Int.natCast_mul]

/-- A well-formed board is consistent. -/
theorem WellFormed.consistent (h : b.WellFormed) : b.Consistent :=
  h.lodged.consistent h.cells?_eq h.peopled.id_lt fun a ha => (h.peopled.sound a ha).gene

/-! ### Audits -/

/-- Rows of one length agree on where ants are if they do so cell by cell. -/
theorem map_kinds_eq_iff (hsize : b.kinds.size = b.occupants.size) :
    b.kinds.toList.map (· == .ant) = b.occupants.toList.map (· != vacant) ↔
      ∀ (n : Nat) (k : CellKind) (id : Int), b.kinds[n]? = some k → b.occupants[n]? = some id →
        (k = .ant ↔ id ≠ vacant) := by
  constructor
  · intro hrows n k id hk hid
    have hentry := congrArg (·[n]?) hrows
    simp only [List.getElem?_map, Array.getElem?_toList, hk, hid, Option.map_some,
      Option.some.injEq] at hentry
    rw [Bool.eq_iff_iff, beq_iff_eq, bne_iff_ne] at hentry
    exact hentry
  · intro hiff
    refine List.ext_getElem? fun n => ?_
    rw [List.getElem?_map, List.getElem?_map, Array.getElem?_toList, Array.getElem?_toList]
    by_cases hn : n < b.kinds.size
    · have hk := Array.getElem?_eq_getElem hn
      have hid := Array.getElem?_eq_getElem (Nat.lt_of_lt_of_eq hn hsize)
      rw [hk, hid, Option.map_some, Option.map_some, Option.some.injEq, Bool.eq_iff_iff,
        beq_iff_eq, bne_iff_ne]
      exact hiff n _ _ hk hid
    · rw [Array.getElem?_eq_none (Nat.not_lt.1 hn),
        Array.getElem?_eq_none (hsize ▸ Nat.not_lt.1 hn)]
      rfl

/-- The ants on cells are checked against those of the arena in both directions. -/
theorem all_has_iff :
    (b.occupantIds.all b.arena.has && b.arena.ids.all b.occupantIds.contains) = true ↔
      ∀ id, id ∈ b.occupantIds ↔ id ∈ b.arena.ids := by
  simp only [Bool.and_eq_true, List.all_eq_true, Arena.has_iff, List.contains_iff_mem]
  exact ⟨fun h id => ⟨h.1 id, h.2 id⟩, fun h => ⟨fun id => (h id).1, fun id => (h id).2⟩⟩

/-- Nothing is found if a check passes and nothing is found by the rest. -/
theorem ite_some_eq_none_iff {α : Type} {p : Prop} [Decidable p] {x : α} {rest : Option α} :
    (if p then some x else rest) = none ↔ ¬ p ∧ rest = none := by
  split <;> simp [*]

/-- What it takes for an audit to find nothing. -/
theorem audit_eq_none_iff :
    b.audit = none ↔ b.kinds.size = b.occupants.size ∧
      b.config.cells?.getD 0 = (b.occupants.size : Int) ∧
      (∀ (n : Nat) (k : CellKind) (id : Int), b.kinds[n]? = some k → b.occupants[n]? = some id →
        (k = .ant ↔ id ≠ vacant)) ∧
      b.occupantIds.Nodup ∧ (∀ id, id ∈ b.occupantIds ↔ id ∈ b.arena.ids) ∧
      ∀ a ∈ b.arena.ants, 0 ≤ a.gene.pointer ∧ a.gene.pointer < a.gene.length := by
  have hpointers : b.arena.ants.find? (fun a => !pointerInRange a) = none ↔
      ∀ a ∈ b.arena.ants, 0 ≤ a.gene.pointer ∧ a.gene.pointer < a.gene.length := by
    simp only [List.find?_eq_none, Bool.not_eq_true', Bool.not_eq_false, pointerInRange,
      Bool.and_eq_true, decide_eq_true_eq]
  simp only [audit, ite_some_eq_none_iff, Option.map_eq_none_iff, hpointers, not_or,
    Classical.not_not, all_has_iff, and_assoc]
  refine and_congr_right fun hsize => ?_
  rw [map_kinds_eq_iff hsize]

/-- An audit of a consistent board finds nothing. -/
theorem Consistent.audit_eq_none (h : b.Consistent) : b.audit = none := by
  exact audit_eq_none_iff.2 ⟨h.kinds_size, by rw [h.cells]; rfl, h.ant_iff, h.occupantIds_nodup,
    h.mem_occupantIds_iff, fun a ha => ⟨(h.gene a ha).pointer_nonneg, (h.gene a ha).pointer_lt⟩⟩

end Formicary.Board
