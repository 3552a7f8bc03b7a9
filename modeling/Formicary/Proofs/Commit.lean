import Formicary.Proofs.Queue

/-!
# Committing a queue

On a well-formed board nothing can go wrong with a change whose cells are on the board, except that
the id of a newborn may be too large for an occupant entry.  So a commit is a fold of a function
that is defined everywhere, `Commit.applied`, and what it does to the cells is a fold of
`Change.write`.

The invariant that carries a commit is `Pending`: the newborns still to come have ids of their own
that are not in the arena yet.
-/

namespace Formicary

/-- The ids that are too large for an occupant entry begin here. -/
def idLimit : Int := 0x8000000000000000

/-- A natural id fits an occupant entry exactly if it is below the limit. -/
theorem idFits_iff {id : Int} (h0 : 0 ≤ id) : Board.idFits id = true ↔ id < idLimit := by
  simp only [Board.idFits, addressable, idLimit, Bool.and_eq_true, decide_eq_true_eq]
  omega

namespace Change

variable {size : Nat} {f : Nat → Content}

/-- The cells of a change are on a board of the given size. -/
def Within (size : Nat) (c : Change) : Prop :=
  c.cell < size ∧ ∀ x, c.source? = some x → x < size

/-- What the cells hold after a change. -/
def write (f : Nat → Content) : Change → Nat → Content
  | .growFood n => Function.update f n .food
  | .removeFood n => Function.update f n .empty
  | .swap target source => f ∘ Equiv.swap target source
  | .born n child => Function.update f n (.ant child.id)
  | .death n _ => Function.update f n .food

/-- The ant that a change puts out of its cell. -/
def evicts? (f : Nat → Content) : Change → Option Int
  | .swap _ _ => none
  | c => (f c.cell).ant?

/-- Whether a change is the death of a given ant. -/
def isDeathOf (id : Int) : Change → Bool
  | .death _ own => own == id
  | _ => false

/-- What suits a board is within it. -/
theorem Suits.within {b : Board} {c : Change} (h : c.Suits b b.size) : c.Within b.size := by
  cases c with
  | growFood cell => exact ⟨h.1, fun x hx => nomatch hx⟩
  | removeFood cell =>
    have hfood : b.content cell = .food := h
    have hne : b.content cell ≠ .empty := by
      rw [hfood]
      exact Content.noConfusion
    exact ⟨Board.lt_size_of_content_ne hne, fun x hx => nomatch hx⟩
  | swap target source => exact ⟨h.2.1, fun x hx => Option.some.inj hx ▸ h.1⟩
  | born cell child => exact ⟨h.1, fun x hx => nomatch hx⟩
  | death cell id => exact ⟨h.1, fun x hx => nomatch hx⟩

end Change

/-- A queue can be committed on a board: its cells are there, and the newborns in it are sound and
have ids of their own that have been given out but are not in use. -/
structure Pending (b : Board) (q : List Change) : Prop where
  within : ∀ c ∈ q, c.Within b.size
  sound : ∀ a ∈ newborns q, a.Sound
  id_nonneg : ∀ a ∈ newborns q, 0 ≤ a.id
  id_lt : ∀ a ∈ newborns q, a.id < b.nextId
  unused : ∀ a ∈ newborns q, a.id ∉ b.arena.ids
  nodup : ((newborns q).map Ant.id).Nodup

namespace Commit

variable {c : Commit} {x : Change} {q : List Change}

/-- The commit after a change, as far as nothing goes wrong. -/
def applied (c : Commit) : Change → Commit
  | .growFood n =>
    ⟨c.board.written n .food,
      countEvicted { c.tally with foodGrown := c.tally.foodGrown + 1 } false
        (c.board.content n).ant?⟩
  | .removeFood n =>
    ⟨c.board.written n .empty, countEvicted c.tally false (c.board.content n).ant?⟩
  | .swap target source =>
    ⟨c.board.exchanged target source, { c.tally with moves := c.tally.moves + 1 }⟩
  | .born n child =>
    ⟨c.board.settled n child c.board.nextId,
      countEvicted { c.tally with births := c.tally.births + 1 } false (c.board.content n).ant?⟩
  | .death n id =>
    ⟨c.board.written n .food,
      countEvicted c.tally ((c.board.content n).ant? == some id) (c.board.content n).ant?⟩

/-! ### One change -/

/-- A change is applied if the id of the ant that it brings fits an occupant entry. -/
theorem apply_eq_applied (h : c.board.WellFormed) (hin : x.Within c.board.size)
    (hfits : ∀ child, x.child? = some child → Board.idFits child.id = true) :
    c.apply x = .ok (c.applied x) := by
  cases x with
  | growFood n =>
    have heq : c.board.overwrite n .food vacant = .ok (c.board.written n .food, _) :=
      h.lodged.overwrite_of_fits hin.1 .food rfl
    simp only [apply, heq]
    rfl
  | removeFood n =>
    have heq : c.board.overwrite n .empty vacant = .ok (c.board.written n .empty, _) :=
      h.lodged.overwrite_of_fits hin.1 .empty rfl
    simp only [apply, heq]
    rfl
  | swap target source =>
    have heq : exchange c.board target source = .ok (c.board.exchanged target source) :=
      Board.exchange_eq hin.1 (hin.2 source rfl)
    simp only [apply, heq]
    rfl
  | born n child =>
    have heq : c.board.overwrite n .ant child.id = .ok (c.board.written n (.ant child.id), _) :=
      h.lodged.overwrite_of_fits hin.1 (.ant child.id) (hfits child rfl)
    simp only [apply, heq]
    rfl
  | death n id =>
    have heq : c.board.overwrite n .food vacant = .ok (c.board.written n .food, _) :=
      h.lodged.overwrite_of_fits hin.1 .food rfl
    simp only [apply, heq]
    rfl

/-- A commit halts at a newborn whose id does not fit an occupant entry. -/
theorem apply_of_wide (h : c.board.WellFormed) {n : Nat} {child : Ant} (hn : n < c.board.size)
    (hwide : ¬ Board.idFits child.id = true) :
    c.apply (.born n child) =
      .error ⟨⟨c.board.halfWritten n (.ant child.id), c.tally⟩, .wideId child.id⟩ := by
  have heq : c.board.overwrite n .ant child.id =
      .error ⟨c.board.halfWritten n (.ant child.id), .wideId child.id⟩ :=
    h.lodged.overwrite_of_wide hn (.ant child.id) hwide
  simp only [apply, heq]
  rfl

/-- A change keeps the number of cells. -/
@[simp] theorem size_applied (c : Commit) (x : Change) :
    (c.applied x).board.size = c.board.size := by
  cases x with
  | growFood n => exact Board.size_written c.board n .food
  | removeFood n => exact Board.size_written c.board n .empty
  | swap target source => exact Board.size_exchanged c.board target source
  | born n child => exact Board.size_settled c.board n child c.board.nextId
  | death n id => exact Board.size_written c.board n .food

/-- A change gives out no ids. -/
@[simp] theorem nextId_applied (c : Commit) (x : Change) :
    (c.applied x).board.nextId = c.board.nextId := by
  cases x <;> rfl

/-- What a change does to what the cells hold. -/
theorem content_applied (h : c.board.Displays c.board.content) (hin : x.Within c.board.size) :
    (c.applied x).board.content = x.write c.board.content := by
  cases x with
  | growFood n => exact Board.content_written h hin.1 .food
  | removeFood n => exact Board.content_written h hin.1 .empty
  | swap target source => exact Board.content_exchanged h hin.1 (hin.2 source rfl)
  | born n child => exact Board.content_settled h hin.1 child c.board.nextId
  | death n id => exact Board.content_written h hin.1 .food

/-- What a change does to the arena: the ant that it puts out leaves and the ant that it brings goes
to the end. -/
theorem ants_applied (hnew : ∀ child, x.child? = some child → child.id ∉ c.board.arena.ids) :
    (c.applied x).board.arena.ants =
      (c.board.arena.without (x.evicts? c.board.content)).ants ++ x.child?.toList := by
  cases x with
  | growFood n => exact (List.append_nil _).symm
  | removeFood n => exact (List.append_nil _).symm
  | swap target source => exact (List.append_nil _).symm
  | death n id => exact (List.append_nil _).symm
  | born n child =>
    have hnew' : child.id ∉ (c.board.arena.without (c.board.content n).ant?).ids := fun hmem =>
      hnew child rfl (Arena.mem_ids_without.1 hmem).1
    exact congrArg Arena.ants (Arena.insert_of_notMem hnew')

/-- An ant put out counts as dead or as overwritten. -/
theorem countEvicted_eq (t : Tally) (mine : Bool) (o : Option Int) :
    countEvicted t mine o =
      { t with
        deaths := t.deaths + o.toList.countP fun _ => mine
        overwritten := t.overwritten + o.toList.countP fun _ => !mine } := by
  cases o with
  | none => rfl
  | some id => cases mine <;> rfl

/-- What a change counts: the ant that it brings, and the ant that it puts out, as dead or as
overwritten. -/
theorem tally_applied (c : Commit) (x : Change) :
    (c.applied x).tally.births = c.tally.births + x.child?.toList.length ∧
      (c.applied x).tally.deaths = c.tally.deaths +
        (x.evicts? c.board.content).toList.countP (x.isDeathOf ·) ∧
      (c.applied x).tally.overwritten = c.tally.overwritten +
        (x.evicts? c.board.content).toList.countP (!x.isDeathOf ·) := by
  cases x with
  | growFood n =>
    simp only [applied, countEvicted_eq]
    exact ⟨rfl, rfl, rfl⟩
  | removeFood n =>
    simp only [applied, countEvicted_eq]
    exact ⟨rfl, rfl, rfl⟩
  | swap target source => exact ⟨rfl, rfl, rfl⟩
  | born n child =>
    simp only [applied, countEvicted_eq]
    exact ⟨rfl, rfl, rfl⟩
  | death n id =>
    simp only [applied, countEvicted_eq, Change.evicts?, Change.isDeathOf, Change.cell]
    cases (c.board.content n).ant? with
    | none => exact ⟨rfl, rfl, rfl⟩
    | some gone =>
      have hcomm : (some gone == some id) = (id == gone) := Bool.beq_comm
      simp only [hcomm]
      exact ⟨rfl, rfl, rfl⟩

/-- A change leads from a well-formed board to a well-formed board. -/
theorem wellFormed_applied (h : c.board.WellFormed) (hp : Pending c.board (x :: q)) :
    (c.applied x).board.WellFormed := by
  have hin := hp.within x List.mem_cons_self
  cases x with
  | growFood n => exact h.written_vacant hin.1 rfl
  | removeFood n => exact h.written_vacant hin.1 rfl
  | swap target source => exact h.exchanged hin.1 (hin.2 source rfl)
  | death n id => exact h.written_vacant hin.1 rfl
  | born n child =>
    have hmem : child ∈ newborns (.born n child :: q) := List.mem_cons_self
    exact h.settled hin.1 (hp.sound child hmem) (hp.unused child hmem) (hp.id_nonneg child hmem)
      (Int.le_refl _) (hp.id_lt child hmem)

/-- The ids in use after a change. -/
theorem ids_applied (hp : Pending c.board (x :: q)) :
    (c.applied x).board.arena.ids =
      (c.board.arena.without (x.evicts? c.board.content)).ids ++ x.child?.toList.map Ant.id := by
  have hnew : ∀ child, x.child? = some child → child.id ∉ c.board.arena.ids := fun child hc =>
    hp.unused child (by rw [newborns_cons, hc]; exact List.mem_cons_self)
  rw [Arena.ids, ants_applied hnew, List.map_append, Arena.ids]

/-- After a change the rest of the queue can be committed. -/
theorem pending_applied (hp : Pending c.board (x :: q)) : Pending (c.applied x).board q := by
  have hmem : ∀ a ∈ newborns q, a ∈ newborns (x :: q) := fun a ha => by
    rw [newborns_cons]
    exact List.mem_append_right _ ha
  have hnodup := hp.nodup
  rw [newborns_cons, List.map_append] at hnodup
  refine ⟨?_, ?_, ?_, ?_, ?_, (List.nodup_append.1 hnodup).2.1⟩
  · intro y hy
    rw [size_applied]
    exact hp.within y (List.mem_cons_of_mem x hy)
  · intro a ha
    exact hp.sound a (hmem a ha)
  · intro a ha
    exact hp.id_nonneg a (hmem a ha)
  · intro a ha
    rw [nextId_applied]
    exact hp.id_lt a (hmem a ha)
  · intro a ha hused
    rw [ids_applied hp, List.mem_append] at hused
    rcases hused with hused | hused
    · exact hp.unused a (hmem a ha) (Arena.mem_ids_without.1 hused).1
    · exact (List.nodup_append.1 hnodup).2.2 _ hused _ (List.mem_map_of_mem ha) rfl

/-! ### A whole queue -/

/-- A commit keeps a board well formed. -/
theorem wellFormed_foldl (h : c.board.WellFormed) (hp : Pending c.board q) :
    (q.foldl applied c).board.WellFormed := by
  induction q generalizing c with
  | nil => exact h
  | cons x q ih => exact ih (wellFormed_applied h hp) (pending_applied hp)

/-- A commit keeps the number of cells. -/
@[simp] theorem size_foldl (c : Commit) (q : List Change) :
    (q.foldl applied c).board.size = c.board.size := by
  induction q generalizing c with
  | nil => rfl
  | cons x q ih => rw [List.foldl_cons, ih, size_applied]

/-- A commit gives out no ids. -/
@[simp] theorem nextId_foldl (c : Commit) (q : List Change) :
    (q.foldl applied c).board.nextId = c.board.nextId := by
  induction q generalizing c with
  | nil => rfl
  | cons x q ih => rw [List.foldl_cons, ih, nextId_applied]

/-- What the cells hold after a commit. -/
theorem content_foldl (h : c.board.WellFormed) (hp : Pending c.board q) :
    (q.foldl applied c).board.content = q.foldl Change.write c.board.content := by
  induction q generalizing c with
  | nil => rfl
  | cons x q ih =>
    rw [List.foldl_cons, List.foldl_cons, ih (wellFormed_applied h hp) (pending_applied hp),
      content_applied h.displays (hp.within x List.mem_cons_self)]

/-- The first change of a queue is applied, unless it brings an ant whose id does not fit. -/
theorem apply_cases (h : c.board.WellFormed) (hp : Pending c.board (x :: q)) :
    ((∀ child, x.child? = some child → child.id < idLimit) ∧ c.apply x = .ok (c.applied x)) ∨
      ∃ child, x.child? = some child ∧ idLimit ≤ child.id ∧
        ∃ halted : Commit, halted.board.nextId = c.board.nextId ∧
          c.apply x = .error ⟨halted, .wideId child.id⟩ := by
  have hin := hp.within x List.mem_cons_self
  have hiff : ∀ child, x.child? = some child →
      (Board.idFits child.id = true ↔ child.id < idLimit) := by
    intro child hchild
    refine idFits_iff (hp.id_nonneg child ?_)
    rw [newborns_cons, hchild]
    exact List.mem_cons_self
  by_cases hwide : ∃ child, x.child? = some child ∧ ¬ child.id < idLimit
  · obtain ⟨child, hchild, hwide⟩ := hwide
    refine Or.inr ⟨child, hchild, Int.not_lt.1 hwide, ?_⟩
    rw [← hiff child hchild] at hwide
    cases x with
    | born n child' =>
      cases hchild
      exact ⟨⟨c.board.halfWritten n (.ant child.id), c.tally⟩, rfl, apply_of_wide h hin.1 hwide⟩
    | growFood n => cases hchild
    | removeFood n => cases hchild
    | swap target source => cases hchild
    | death n id => cases hchild
  · have hfits : ∀ child, x.child? = some child → child.id < idLimit :=
      fun child hchild => by_contra fun hw => hwide ⟨child, hchild, hw⟩
    refine Or.inl ⟨hfits, apply_eq_applied h hin ?_⟩
    intro child hchild
    exact (hiff child hchild).2 (hfits child hchild)

/-- A commit completes if the ids of the newborns fit, and otherwise halts at one that does not. -/
theorem run_eq (h : c.board.WellFormed) (hp : Pending c.board q) :
    ((∀ a ∈ newborns q, a.id < idLimit) ∧ run c.board c.tally q = .ok (q.foldl applied c)) ∨
      ∃ a ∈ newborns q, idLimit ≤ a.id ∧
        ∃ halted : Commit, halted.board.nextId = c.board.nextId ∧
          run c.board c.tally q = .error ⟨halted, .wideId a.id⟩ := by
  induction q generalizing c with
  | nil => exact Or.inl ⟨fun a ha => (List.not_mem_nil ha).elim, rfl⟩
  | cons x q ih =>
    rw [run, List.foldlM_cons, newborns_cons]
    rcases apply_cases h hp with ⟨hfits, hfirst⟩ | ⟨child, hchild, hle, halted, hnext, hfirst⟩
    · rw [hfirst, List.foldl_cons]
      rcases ih (wellFormed_applied h hp) (pending_applied hp) with
        ⟨hsmall, hok⟩ | ⟨a, ha, hle, halted, hnext, hhalt⟩
      · refine Or.inl ⟨?_, hok⟩
        intro a ha
        rw [List.mem_append, Option.mem_toList] at ha
        exact ha.elim (hfits a) (hsmall a)
      · exact Or.inr ⟨a, List.mem_append_right _ ha, hle, halted,
          hnext.trans (nextId_applied c x), hhalt⟩
    · refine Or.inr ⟨child, ?_, hle, halted, hnext, ?_⟩
      · rw [hchild]
        exact List.mem_cons_self
      · rw [hfirst]
        rfl

/-- A commit that completes is the fold. -/
theorem eq_foldl_of_run (h : c.board.WellFormed) (hp : Pending c.board q) {c' : Commit}
    (hrun : run c.board c.tally q = .ok c') : c' = q.foldl applied c := by
  rcases run_eq h hp with ⟨-, hok⟩ | ⟨a, -, -, halted, -, hhalt⟩
  · exact Except.ok.inj (hrun.symm.trans hok)
  · rw [hrun] at hhalt
    cases hhalt

/-- The first changes of a queue can be committed if all can. -/
theorem pending_of_append {p : List Change} (h : Pending c.board (p ++ q)) : Pending c.board p := by
  have hmem : ∀ a ∈ newborns p, a ∈ newborns (p ++ q) := fun a ha => by
    rw [newborns_append]
    exact List.mem_append_left _ ha
  have hnodup := h.nodup
  rw [newborns_append, List.map_append] at hnodup
  exact ⟨fun x hx => h.within x (List.mem_append_left q hx), fun a ha => h.sound a (hmem a ha),
    fun a ha => h.id_nonneg a (hmem a ha), fun a ha => h.id_lt a (hmem a ha),
    fun a ha => h.unused a (hmem a ha), (List.nodup_append.1 hnodup).1⟩

/-- After the first changes of a queue the rest of it can be committed. -/
theorem pending_foldl {p : List Change} (hp : Pending c.board (p ++ q)) :
    Pending (p.foldl applied c).board q := by
  induction p generalizing c with
  | nil => exact hp
  | cons x p ih => exact ih (pending_applied hp)

/-- The ants that leave with a change are those that it puts out of its cell. -/
theorem evicts?_iff (h : c.board.WellFormed) (hp : Pending c.board (x :: q)) {c' : Commit}
    (happly : c.apply x = .ok c') {id : Int} :
    id ∈ c.board.arena.ids ∧ id ∉ c'.board.arena.ids ↔
      id ∈ c.board.arena.ids ∧ x.evicts? c.board.content = some id := by
  obtain rfl : c.applied x = c' := by
    rcases apply_cases h hp with ⟨-, hok⟩ | ⟨child, -, -, halted, -, hhalt⟩
    · exact Except.ok.inj (hok.symm.trans happly)
    · rw [happly] at hhalt
      cases hhalt
  refine and_congr_right fun hid => ?_
  rw [ids_applied hp, List.mem_append, Arena.mem_ids_without, not_or]
  constructor
  · rintro ⟨hgone, -⟩
    by_contra hne
    exact hgone ⟨hid, hne⟩
  · intro heq
    refine ⟨fun hstays => hstays.2 heq, fun hborn => ?_⟩
    obtain ⟨child, hchild, rfl⟩ := List.mem_map.1 hborn
    refine hp.unused child ?_ hid
    rw [newborns_cons]
    exact List.mem_append_left _ hchild

/-- A commit changes no ant: those in the arena afterwards were there before or are newborns. -/
theorem mem_ants_foldl (hp : Pending c.board q) {a : Ant}
    (ha : a ∈ (q.foldl applied c).board.arena.ants) :
    a ∈ c.board.arena.ants ∨ a ∈ newborns q := by
  induction q generalizing c with
  | nil => exact Or.inl ha
  | cons x q ih =>
    have hnew : ∀ child, x.child? = some child → child.id ∉ c.board.arena.ids := fun child hc =>
      hp.unused child (by rw [newborns_cons, hc]; exact List.mem_cons_self)
    rw [newborns_cons]
    rcases ih (pending_applied hp) ha with hmem | hmem
    · rw [ants_applied hnew] at hmem
      rcases List.mem_append.1 hmem with hmem | hmem
      · exact Or.inl ((Arena.ants_without_sublist _ _).subset hmem)
      · exact Or.inr (List.mem_append_left _ hmem)
    · exact Or.inr (List.mem_append_right _ hmem)

end Commit

end Formicary
