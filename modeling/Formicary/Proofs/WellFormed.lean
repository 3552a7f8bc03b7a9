import Formicary.Proofs.Contents
import Formicary.Tick.Commit

/-!
# Well-formed boards

A board is well formed if its kinds and occupants agree on what the cells hold, its arena holds
exactly the ants that stand on cells, its rules are those of its configuration and reckon with
integers, and its size is the configured one.  This is what the operations on a board rely on
without looking.

For a well-formed board the two ways in which cells are written come down to an update of
`Board.content`: `Board.Lodged.overwrite_eq` for a single cell and `Board.exchange_eq` for two.  The
only thing left that can go wrong is an id that does not fit an occupant entry.
-/

namespace Formicary

namespace Board

/-- What a cell holds, as told by its kind and, for an ant, by its occupant entry. -/
def content (b : Board) (n : Nat) : Content :=
  match b.kinds[n]?, b.occupants[n]? with
  | some .food, _ => .food
  | some .ant, some id => .ant id
  | _, _ => .empty

/-- Both rows of a board are as long as each other and show the values of `f`. -/
structure Displays (b : Board) (f : Nat → Content) : Prop where
  occupants_size : b.occupants.size = b.size
  kind : ∀ n < b.size, b.kinds[n]? = some (f n).kind
  occupant : ∀ n < b.size, b.occupants[n]? = some (f n).occupant

/-- Both rows of a board show a content on a cell. -/
def Shows (b : Board) (n : Nat) (c : Content) : Prop :=
  b.kinds[n]? = some c.kind ∧ b.occupants[n]? = some c.occupant

/-- A board whose cells, ants, size and rules are in order. -/
structure WellFormed (b : Board) : Prop where
  width : b.config.width = .int b.width
  height : b.config.height = .int b.height
  width_pos : 0 < b.width
  height_pos : 0 < b.height
  size_eq : b.size = b.width * b.height + b.config.spareCells
  tuned : b.rules = Rules.ofConfig b.config
  rules : b.rules.Integral
  chance : ∃ q, (b.config.value .foodGrowthChance).quantity? = some (.exact q)
  displays : b.Displays b.content
  peopled : Peopled b.content b.size b.arena b.nextId

/-- A board whose rows agree and whose arena holds the ants of the cells, none of which goes by the
entry of a vacant cell.  Of all that is in order on a well-formed board, this is what the writing of
cells relies on. -/
structure Lodged (b : Board) : Prop where
  displays : b.Displays b.content
  housed : Housed b.content b.size b.arena
  vacant_notMem : vacant ∉ b.arena.ids

variable {b : Board}

/-- On a well-formed board the ants are lodged. -/
theorem WellFormed.lodged (h : b.WellFormed) : b.Lodged where
  displays := h.displays
  housed := h.peopled.housed
  vacant_notMem hmem := absurd (h.peopled.id_nonneg vacant hmem) (by decide)

/-! ### Tuning -/

/-- The growth chance that a well-formed board lives by is the configured one. -/
theorem WellFormed.growthChance_eq (h : b.WellFormed) {q : Rat}
    (hq : (b.config.value .foodGrowthChance).quantity? = some (.exact q)) :
    b.rules.growthChance = q := by
  rw [h.tuned]
  simp only [Rules.ofConfig, Rules.exact, hq]

/-! ### Reading -/

/-- A board that shows `f` holds what `f` says. -/
theorem Displays.content_eq {f : Nat → Content} (h : b.Displays f) {n : Nat} (hn : n < b.size) :
    b.content n = f n := by
  rw [content, h.kind n hn, h.occupant n hn]
  cases f n <;> rfl

/-- Beyond the last cell there is nothing. -/
theorem content_of_size_le {n : Nat} (hn : b.size ≤ n) : b.content n = .empty := by
  have hk : b.kinds[n]? = none := Array.getElem?_eq_none hn
  simp only [content, hk]

/-- A cell that holds an ant or food is on the board. -/
theorem lt_size_of_content_ne {n : Nat} (h : b.content n ≠ .empty) : n < b.size := by
  by_contra hn
  exact h (content_of_size_le (Nat.le_of_not_lt hn))

/-- A board that shows `f` and nothing beyond its last cell has the content `f`. -/
theorem Displays.content_eq_of_empty {f : Nat → Content} (h : b.Displays f)
    (hf : ∀ n, b.size ≤ n → f n = .empty) : b.content = f := by
  funext n
  by_cases hn : n < b.size
  · exact h.content_eq hn
  · rw [content_of_size_le (Nat.le_of_not_lt hn), hf n (Nat.le_of_not_lt hn)]

/-- A board that shows its own content shows on its cells what they hold. -/
theorem Displays.shows (h : b.Displays b.content) {n : Nat} (hn : n < b.size) {c : Content}
    (hc : b.content n = c) : b.Shows n c :=
  hc ▸ ⟨h.kind n hn, h.occupant n hn⟩

/-- What a board that shows its own content shows on a cell is what the cell holds. -/
theorem Displays.content_of_shows (h : b.Displays b.content) {n : Nat} {c : Content}
    (hshows : b.Shows n c) : b.content n = c := by
  have hn : n < b.size := (Array.getElem?_eq_some_iff.1 hshows.1).1
  have hkind := Option.some.inj ((h.kind n hn).symm.trans hshows.1)
  have hoccupant := Option.some.inj ((h.occupant n hn).symm.trans hshows.2)
  cases c with
  | empty => exact Content.kind_eq_empty_iff.1 hkind
  | food => exact Content.kind_eq_food_iff.1 hkind
  | ant id =>
    obtain ⟨id', hid'⟩ := Content.kind_eq_ant_iff.1 hkind
    rw [hid'] at hoccupant ⊢
    exact congrArg Content.ant hoccupant

/-- What a board shows is a matter of its two rows. -/
theorem Displays.of_rows {b' : Board} {f : Nat → Content} (h : b.Displays f)
    (hk : b'.kinds = b.kinds) (ho : b'.occupants = b.occupants) : b'.Displays f := by
  have hsize : b'.size = b.size := by rw [size, hk, size]
  refine ⟨?_, ?_, ?_⟩
  · rw [ho, hsize]
    exact h.occupants_size
  · intro n hn
    rw [hk]
    exact h.kind n (hsize ▸ hn)
  · intro n hn
    rw [ho]
    exact h.occupant n (hsize ▸ hn)

/-- The kind test of a cell, by its content. -/
theorem WellFormed.kindIs_iff (h : b.WellFormed) {n : Nat} (hn : n < b.size) (k : CellKind) :
    b.kindIs n k = true ↔ (b.content n).kind = k := by
  have hplace : place? b.kinds.size n = some n := place?_natCast hn
  simp [kindIs, hplace, h.displays.kind n hn]

/-- The ant on a cell is found in the arena under its id, and is sound. -/
theorem WellFormed.exists_find? (h : b.WellFormed) {n : Nat} {id : Int}
    (hc : b.content n = .ant id) :
    ∃ a, b.arena.find? id = some a ∧ a.id = id ∧ a ∈ b.arena.ants ∧ a.Sound := by
  have hn : n < b.size := lt_size_of_content_ne (by rw [hc]; exact Content.noConfusion)
  obtain ⟨a, ha⟩ := Option.isSome_iff_exists.1 (Arena.has_iff.2 (h.peopled.mem_ids hn hc))
  have hmem := Arena.mem_of_find? ha
  exact ⟨a, ha, Arena.id_of_find? ha, hmem, h.peopled.sound a hmem⟩

/-- The occupant of a cell with an ant is looked up in the arena. -/
theorem WellFormed.tenant?_eq (h : b.WellFormed) {n : Nat} {id : Int} (hc : b.content n = .ant id)
    {a : Ant} (ha : b.arena.find? id = some a) : b.tenant? n = .ok a := by
  have hn : n < b.size := lt_size_of_content_ne (by rw [hc]; exact Content.noConfusion)
  have hplace : place? b.occupants.size n = some n := by
    rw [h.displays.occupants_size]
    exact place?_natCast hn
  have hocc : b.occupants[n]? = some id := by rw [h.displays.occupant n hn, hc]; rfl
  simp [tenant?, occupant?, hplace, hocc, ant?, ha, bind, Except.bind]

/-! ### Writing one cell -/

/-- The board after a cell has been given a content and the ant that was on it has left. -/
def written (b : Board) (n : Nat) (c : Content) : Board :=
  { b with
    kinds := b.kinds.setIfInBounds n c.kind
    occupants := b.occupants.setIfInBounds n c.occupant
    arena := b.arena.without (b.content n).ant? }

/-- Writing a cell keeps the number of cells. -/
@[simp] theorem size_written (b : Board) (n : Nat) (c : Content) :
    (b.written n c).size = b.size := by
  simp [size, written]

/-- What a board shows after a cell has been written. -/
theorem displays_written (h : b.Displays b.content) (n : Nat) (c : Content) :
    (b.written n c).Displays (Function.update b.content n c) := by
  refine ⟨?_, ?_, ?_⟩
  · rw [size_written, ← h.occupants_size]
    exact Array.size_setIfInBounds
  · intro m hm
    rw [size_written] at hm
    by_cases hmn : m = n
    · subst hmn
      rw [Function.update_self]
      exact Array.getElem?_setIfInBounds_self_of_lt hm
    · rw [Function.update_of_ne hmn, ← h.kind m hm]
      exact Array.getElem?_setIfInBounds_ne (Ne.symm hmn)
  · intro m hm
    rw [size_written] at hm
    by_cases hmn : m = n
    · subst hmn
      rw [Function.update_self]
      exact Array.getElem?_setIfInBounds_self_of_lt (h.occupants_size.symm ▸ hm)
    · rw [Function.update_of_ne hmn, ← h.occupant m hm]
      exact Array.getElem?_setIfInBounds_ne (Ne.symm hmn)

/-- Writing a cell is an update of what the cells hold. -/
theorem content_written (h : b.Displays b.content) {n : Nat} (hn : n < b.size) (c : Content) :
    (b.written n c).content = Function.update b.content n c := by
  refine (displays_written h n c).content_eq_of_empty fun m hm => ?_
  rw [size_written] at hm
  have hmn : m ≠ n := fun hmn => Nat.not_lt.2 hm (hmn ▸ hn)
  rw [Function.update_of_ne hmn, content_of_size_le hm]

/-- The board in which the writing of a cell stops if the new occupant is refused: the kind has been
written and the ant that was there has left, but its occupant entry stands. -/
def halfWritten (b : Board) (n : Nat) (c : Content) : Board :=
  { b with
    kinds := b.kinds.setIfInBounds n c.kind
    arena := b.arena.without (b.content n).ant? }

/-- The id of an ant on a cell is not the entry of a vacant cell. -/
theorem Lodged.ne_vacant (h : b.Lodged) {n : Nat} {id : Int} (hc : b.content n = .ant id) :
    id ≠ vacant := by
  have hn : n < b.size := lt_size_of_content_ne (by rw [hc]; exact Content.noConfusion)
  intro hid
  exact h.vacant_notMem (hid ▸ h.housed.mem_ids hn hc)

/-- An ant is on one cell only. -/
theorem Lodged.eq_of_content (h : b.Lodged) {m n : Nat} {id : Int} (hm : b.content m = .ant id)
    (hn : b.content n = .ant id) : m = n := by
  have hmsize := lt_size_of_content_ne (by rw [hm]; exact Content.noConfusion)
  have hnsize := lt_size_of_content_ne (by rw [hn]; exact Content.noConfusion)
  exact h.housed.eq_of_content hmsize hnsize hm hn

/-- A cell is written, and its ant put out, unless the new occupant does not fit an occupant
entry. -/
theorem Lodged.overwrite_eq (h : b.Lodged) {n : Nat} (hn : n < b.size) (c : Content) :
    b.overwrite n c.kind c.occupant =
      if idFits c.occupant then .ok (b.written n c, (b.content n).ant?)
      else .error ⟨b.halfWritten n c, .wideId c.occupant⟩ := by
  have hocc := h.displays.occupant n hn
  have hsize : ¬ b.kinds.size ≤ n := Nat.not_le.2 hn
  cases hc : b.content n with
  | ant id =>
    have hne : id ≠ vacant := h.ne_vacant hc
    have hocc' : b.occupants[n]? = some id := by rw [hocc, hc]; rfl
    have hhas : b.arena.has id = true := Arena.has_iff.2 (h.housed.mem_ids hn hc)
    simp only [overwrite, hocc', hne, hhas, hsize, ne_eq, not_false_eq_true, if_false,
      Bool.true_eq_false, and_false, written, halfWritten, hc, Content.ant?, Arena.without]
  | empty =>
    have hocc' : b.occupants[n]? = some vacant := by rw [hocc, hc]; rfl
    simp only [overwrite, hocc', hsize, ne_eq, not_true_eq_false, false_and, if_false, if_true,
      written, halfWritten, hc, Content.ant?, Arena.without]
  | food =>
    have hocc' : b.occupants[n]? = some vacant := by rw [hocc, hc]; rfl
    simp only [overwrite, hocc', hsize, ne_eq, not_true_eq_false, false_and, if_false, if_true,
      written, halfWritten, hc, Content.ant?, Arena.without]

/-- The writing of a cell whose new occupant fits. -/
theorem Lodged.overwrite_of_fits (h : b.Lodged) {n : Nat} (hn : n < b.size) (c : Content)
    (hfits : idFits c.occupant = true) :
    b.overwrite n c.kind c.occupant = .ok (b.written n c, (b.content n).ant?) := by
  rw [h.overwrite_eq hn, if_pos hfits]

/-- The writing of a cell whose new occupant does not fit. -/
theorem Lodged.overwrite_of_wide (h : b.Lodged) {n : Nat} (hn : n < b.size) (c : Content)
    (hwide : ¬ idFits c.occupant = true) :
    b.overwrite n c.kind c.occupant = .error ⟨b.halfWritten n c, .wideId c.occupant⟩ := by
  rw [h.overwrite_eq hn, if_neg hwide]

/-- Ants stay lodged if a cell is written that no ant moves to. -/
theorem Lodged.written_vacant (h : b.Lodged) {n : Nat} (hn : n < b.size) {c : Content}
    (hc : c.ant? = none) : (b.written n c).Lodged where
  displays := by
    rw [content_written h.displays hn]
    exact displays_written h.displays n c
  housed := by
    rw [content_written h.displays hn, size_written]
    exact h.housed.vacate hn hc
  vacant_notMem hmem := h.vacant_notMem (Arena.mem_ids_without.1 hmem).1

/-- A board stays well formed if a cell is written that no ant moves to. -/
theorem WellFormed.written_vacant (h : b.WellFormed) {n : Nat} (hn : n < b.size) {c : Content}
    (hc : c.ant? = none) : (b.written n c).WellFormed where
  width := h.width
  height := h.height
  width_pos := h.width_pos
  height_pos := h.height_pos
  size_eq := by rw [size_written]; exact h.size_eq
  tuned := h.tuned
  rules := h.rules
  chance := h.chance
  displays := (h.lodged.written_vacant hn hc).displays
  peopled := by
    rw [content_written h.displays hn, size_written]
    exact h.peopled.vacate hn hc

/-- The board after an ant has been put on a cell and into the arena. -/
def settled (b : Board) (n : Nat) (a : Ant) (next : Int) : Board :=
  { b.written n (.ant a.id) with
    arena := (b.arena.without (b.content n).ant?).insert a
    nextId := next }

/-- A cell on which an ant is put holds that ant. -/
theorem content_settled (h : b.Displays b.content) {n : Nat} (hn : n < b.size) (a : Ant)
    (next : Int) : (b.settled n a next).content = Function.update b.content n (.ant a.id) :=
  content_written h hn (.ant a.id)

/-- Putting an ant on a cell keeps the number of cells. -/
@[simp] theorem size_settled (b : Board) (n : Nat) (a : Ant) (next : Int) :
    (b.settled n a next).size = b.size :=
  size_written b n (.ant a.id)

/-- Ants stay lodged if an ant with a new id, other than the entry of a vacant cell, is put on a
cell. -/
theorem Lodged.settled (h : b.Lodged) {n : Nat} (hn : n < b.size) {a : Ant}
    (hnew : a.id ∉ b.arena.ids) (hid : a.id ≠ vacant) (next : Int) :
    (b.settled n a next).Lodged where
  displays := by
    rw [content_settled h.displays hn]
    exact (displays_written h.displays n (.ant a.id)).of_rows rfl rfl
  housed := by
    rw [content_settled h.displays hn, size_settled]
    exact h.housed.settle hn hnew
  vacant_notMem hmem := by
    have hnew' : a.id ∉ (b.arena.without (b.content n).ant?).ids := fun hmem =>
      hnew (Arena.mem_ids_without.1 hmem).1
    have hmem' : vacant ∈ ((b.arena.without (b.content n).ant?).insert a).ids := hmem
    rw [Arena.ids_insert_of_notMem hnew', List.mem_append, List.mem_singleton] at hmem'
    exact hmem'.elim (fun hmem => h.vacant_notMem (Arena.mem_ids_without.1 hmem).1)
      fun heq => hid heq.symm

/-- A board stays well formed if a sound ant with a new id is put on a cell. -/
theorem WellFormed.settled (h : b.WellFormed) {n : Nat} (hn : n < b.size) {a : Ant} (ha : a.Sound)
    (hnew : a.id ∉ b.arena.ids) (h0 : 0 ≤ a.id) {next : Int} (hnext : b.nextId ≤ next)
    (hlt : a.id < next) : (b.settled n a next).WellFormed where
  width := h.width
  height := h.height
  width_pos := h.width_pos
  height_pos := h.height_pos
  size_eq := by rw [size_settled]; exact h.size_eq
  tuned := h.tuned
  rules := h.rules
  chance := h.chance
  displays := by
    have hid : a.id ≠ vacant := fun hid => absurd (hid ▸ h0) (by decide)
    exact (h.lodged.settled hn hnew hid next).displays
  peopled := by
    rw [content_settled h.displays hn, size_settled]
    exact h.peopled.settle hn ha hnew h0 hnext hlt

/-! ### Exchanging two cells -/

/-- The board after two cells have exchanged what they hold. -/
def exchanged (b : Board) (m n : Nat) : Board :=
  { b with
    kinds := b.kinds.swapIfInBounds m n
    occupants := b.occupants.swapIfInBounds m n }

/-- Exchanging two cells keeps the number of cells. -/
@[simp] theorem size_exchanged (b : Board) (m n : Nat) : (b.exchanged m n).size = b.size :=
  Array.size_swapIfInBounds

/-- Two cells of the board can be exchanged. -/
theorem exchange_eq {m n : Nat} (hm : m < b.size) (hn : n < b.size) :
    Commit.exchange b m n = .ok (b.exchanged m n) := by
  rw [Commit.exchange, if_neg (Nat.not_le.2 hm), if_neg (Nat.not_le.2 hn)]
  rfl

/-- An entry of a row after two of its places have been exchanged. -/
theorem getElem?_swapIfInBounds {α : Type} {xs : Array α} {m n : Nat} (hm : m < xs.size)
    (hn : n < xs.size) {k : Nat} (hk : k < xs.size) :
    (xs.swapIfInBounds m n)[k]? = xs[Equiv.swap m n k]? := by
  have hk' : k < (xs.swapIfInBounds m n).size := by rwa [Array.size_swapIfInBounds]
  rw [Array.getElem?_eq_getElem hk', Array.getElem_swapIfInBounds, Equiv.swap_apply_def]
  split_ifs <;> simp_all

/-- What a board shows after two cells have been exchanged. -/
theorem displays_exchanged (h : b.Displays b.content) {m n : Nat} (hm : m < b.size)
    (hn : n < b.size) : (b.exchanged m n).Displays (b.content ∘ Equiv.swap m n) := by
  have hlt : ∀ {k : Nat}, k < b.size → Equiv.swap m n k < b.size := fun {k} hk => by
    rw [Equiv.swap_apply_def]
    split_ifs <;> assumption
  refine ⟨?_, ?_, ?_⟩
  · rw [size_exchanged, ← h.occupants_size]
    exact Array.size_swapIfInBounds
  · intro k hk
    rw [size_exchanged] at hk
    exact (getElem?_swapIfInBounds hm hn hk).trans (h.kind _ (hlt hk))
  · intro k hk
    rw [size_exchanged] at hk
    rw [← h.occupants_size] at hm hn hk
    exact (getElem?_swapIfInBounds hm hn hk).trans (h.occupant _ (hlt (h.occupants_size ▸ hk)))

/-- Exchanging two cells exchanges what they hold. -/
theorem content_exchanged (h : b.Displays b.content) {m n : Nat} (hm : m < b.size)
    (hn : n < b.size) : (b.exchanged m n).content = b.content ∘ Equiv.swap m n := by
  refine (displays_exchanged h hm hn).content_eq_of_empty fun k hk => ?_
  rw [size_exchanged] at hk
  rw [Function.comp_apply, Equiv.swap_apply_of_ne_of_ne (by omega) (by omega),
    content_of_size_le hk]

/-- A board stays well formed if two of its cells are exchanged. -/
theorem WellFormed.exchanged (h : b.WellFormed) {m n : Nat} (hm : m < b.size) (hn : n < b.size) :
    (b.exchanged m n).WellFormed where
  width := h.width
  height := h.height
  width_pos := h.width_pos
  height_pos := h.height_pos
  size_eq := by rw [size_exchanged]; exact h.size_eq
  tuned := h.tuned
  rules := h.rules
  chance := h.chance
  displays := by
    rw [content_exchanged h.displays hm hn]
    exact displays_exchanged h.displays hm hn
  peopled := by
    rw [content_exchanged h.displays hm hn, size_exchanged]
    exact h.peopled.exchange hm hn

/-! ### Changing ants where they stand -/

/-- Two boards that differ at most in the states of their ants, which keep their ids and their order
of arrival, in the ids to come and in the random numbers to come. -/
structure Frozen (b b' : Board) : Prop where
  eq_frame : b' = { b with arena := b'.arena, nextId := b'.nextId, random := b'.random }
  ids : b'.arena.ids = b.arena.ids
  nextId_le : b.nextId ≤ b'.nextId

namespace Frozen

variable {b b' b'' : Board}

/-- A board differs from itself in nothing. -/
theorem refl (b : Board) : Frozen b b := ⟨rfl, rfl, Int.le_refl _⟩

/-- Changes of this kind, one after the other. -/
theorem trans (h : Frozen b b') (h' : Frozen b' b'') : Frozen b b'' :=
  ⟨h'.eq_frame.trans (by rw [h.eq_frame]), h'.ids.trans h.ids,
    Int.le_trans h.nextId_le h'.nextId_le⟩

/-- Giving an ant of the arena another state. -/
theorem update (b : Board) (a : Ant) : Frozen b (b.update a) :=
  ⟨rfl, Arena.ids_update b.arena a, Int.le_refl _⟩

theorem config (h : Frozen b b') : b'.config = b.config := by rw [h.eq_frame]

theorem rules (h : Frozen b b') : b'.rules = b.rules := by rw [h.eq_frame]

theorem kinds (h : Frozen b b') : b'.kinds = b.kinds := by rw [h.eq_frame]

theorem occupants (h : Frozen b b') : b'.occupants = b.occupants := by rw [h.eq_frame]

theorem size (h : Frozen b b') : b'.size = b.size := by rw [Board.size, h.kinds, Board.size]

theorem shape (h : Frozen b b') : b'.shape = b.shape := by rw [h.eq_frame]; rfl

theorem content (h : Frozen b b') : b'.content = b.content := by
  funext n
  rw [Board.content, h.kinds, h.occupants, Board.content]

/-- A board stays well formed while its cells are left alone and its ants stay sound. -/
theorem wellFormed (h : Frozen b b') (hb : b.WellFormed) (hsound : ∀ a ∈ b'.arena.ants, a.Sound) :
    b'.WellFormed where
  width := by rw [h.eq_frame]; exact hb.width
  height := by rw [h.eq_frame]; exact hb.height
  width_pos := by rw [h.eq_frame]; exact hb.width_pos
  height_pos := by rw [h.eq_frame]; exact hb.height_pos
  size_eq := by rw [h.size, h.eq_frame]; exact hb.size_eq
  tuned := by rw [h.rules, h.config]; exact hb.tuned
  rules := by rw [h.rules]; exact hb.rules
  chance := by rw [h.config]; exact hb.chance
  displays := by
    rw [h.content]
    exact hb.displays.of_rows h.kinds h.occupants
  peopled := by
    rw [h.content, h.size]
    exact hb.peopled.renew h.ids hsound h.nextId_le

end Frozen

end Board

end Formicary
