import Formicary.Proofs.Counters
import Formicary.Proofs.Outcome
import Formicary.Proofs.Succession

/-!
# The spare cell

The spare cell follows the last cell of the rectangle.  It is ahead of no cell
(`Shape.ahead?_lt_rectangle`) and comes before none, so no turn proposes anything for it but the
death of an ant there (`Change.Reached`, `Scan.Completes.sown`): nobody comes to it of its own
accord, is born there or takes food from it.  An ant leaves it northward, and then the spare cell
gets what has been put before on the cell to the north; that may be another ant.  But where no ant
is none leaves, so food stays there, and an empty spare cell waits for food.
-/

namespace Formicary

/-! ### What turns come to -/

/-- On a board with at most one spare cell, the cell ahead of a cell is in the rectangle. -/
theorem Shape.ahead?_lt_rectangle {s : Shape} (hwidth : 0 < s.width)
    (hle : s.width * s.height ≤ s.cells) (hcells : s.cells ≤ s.width * s.height + 1) {n : Nat}
    (hn : n < s.cells) {d : Direction} {t : Nat} (h : s.ahead? n d = some (t : Int)) :
    t < s.width * s.height :=
  ((ahead?_eq_some_iff hwidth hle hcells hn).1 h).1

/-- A change that a turn may come to: a move or a meal for the cell ahead of a cell, a birth for the
cell before a cell, or a death. -/
def Change.Reached (b : Board) : Change → Prop
  | .growFood _ => False
  | .removeFood target => ∃ source < b.size, ∃ d, b.shape.ahead? source d = some (target : Int)
  | .swap target source => source < b.size ∧ ∃ d, b.shape.ahead? source d = some (target : Int)
  | .born cell _ => cell + 1 < b.size
  | .death _ _ => True

variable {b b' : Board} {q q' : List Change} {n : Nat}

/-- What can be reached is a matter of the shape of a board. -/
theorem Board.Frozen.reached_iff (h : b.Frozen b') (c : Change) :
    c.Reached b' ↔ c.Reached b := by
  cases c <;> simp only [Change.Reached, h.size, h.shape]

/-! ### The queue -/

/-- A queue that holds the growth of the first `n` cells, and else what turns may come to. -/
structure Sown (b : Board) (n : Nat) (q : List Change) : Prop where
  growth : ∀ m, .growFood m ∈ q ↔ m < n ∧ b.sprouts m = true
  reached : ∀ c ∈ q, c.isGrowth = false → c.Reached b

/-- A cell on which food is about to grow has its growth proposed. -/
theorem Sown.grow (h : Sown b n q) (hsprouts : b.sprouts n = true) :
    Sown b (n + 1) (q ++ [.growFood n]) := by
  constructor
  · intro m
    rw [List.mem_append, List.mem_singleton, h.growth, Change.growFood.injEq]
    constructor
    · rintro (⟨hm, hgrows⟩ | rfl)
      · exact ⟨Nat.lt_succ_of_lt hm, hgrows⟩
      · exact ⟨Nat.lt_succ_self m, hsprouts⟩
    · rintro ⟨hm, hgrows⟩
      exact (Nat.lt_succ_iff_lt_or_eq.1 hm).imp_left fun hlt => ⟨hlt, hgrows⟩
  · intro c hc hgrowth
    rcases List.mem_append.1 hc with hc | hc
    · exact h.reached c hc hgrowth
    · rw [List.mem_singleton.1 hc] at hgrowth
      cases hgrowth

/-- On any other cell there is at most a turn. -/
theorem Sown.turn (h : Sown b n q) (hsprouts : b.sprouts n = false) (hsub : ∀ c ∈ q, c ∈ q')
    (hnew : ∀ c ∈ q', c ∈ q ∨ c.Reached b) : Sown b (n + 1) q' := by
  constructor
  · intro m
    have hmem : .growFood m ∈ q' ↔ .growFood m ∈ q :=
      ⟨fun hc => (hnew _ hc).resolve_right id, hsub _⟩
    rw [hmem, h.growth, Nat.lt_succ_iff_lt_or_eq]
    constructor
    · rintro ⟨hm, hgrows⟩
      exact ⟨Or.inl hm, hgrows⟩
    · rintro ⟨hm | rfl, hgrows⟩
      · exact ⟨hm, hgrows⟩
      · rw [hsprouts] at hgrows
        cases hgrows
  · intro c hc hgrowth
    exact (hnew c hc).elim (fun hc => h.reached c hc hgrowth) id

namespace Scan

variable {s s' : Scan} {cell : Nat} {a a' : Ant} {c : Change}

/-- What is proposed is in the queue, and nothing else is new in it. -/
theorem mem_queue_propose {c' : Change} :
    c ∈ (s.propose c').queue.toList ↔ c ∈ s.queue.toList ∨ c = c' := by
  rw [propose, Array.toList_push, List.mem_append, List.mem_singleton]

/-- What settling a request proposes is for the cell ahead. -/
theorem Settled.reached (hcell : cell < s.board.size) {request : Option Request}
    (h : Settled s cell a request s' a') (hc : c ∈ s'.queue.toList) :
    c ∈ s.queue.toList ∨ c.Reached s.board := by
  cases h with
  | moved ahead =>
    refine (mem_queue_propose.1 hc).imp_right ?_
    rintro rfl
    exact ⟨hcell, _, ahead⟩
  | fed ahead =>
    refine (mem_queue_propose.1 hc).imp_right ?_
    rintro rfl
    exact ⟨cell, hcell, _, ahead⟩
  | blocked => exact Or.inl hc
  | unfed => exact Or.inl hc
  | hit => exact Or.inl hc
  | missed => exact Or.inl hc
  | idled => exact Or.inl hc

/-- What splitting proposes is for the cell before. -/
theorem Divided.reached (hcell : cell < s.board.size) (h : Divided s cell a s' a')
    (hc : c ∈ s'.queue.toList) : c ∈ s.queue.toList ∨ c.Reached s.board := by
  cases h with
  | split _ _ _ pos =>
    refine (mem_queue_propose.1 hc).imp_right ?_
    rintro rfl
    change cell - 1 + 1 < s.board.size
    omega
  | whole => exact Or.inl hc

/-- What a turn proposes can be reached. -/
theorem Turn.reached (hs : s.board.WellFormed) (ha : a.Sound) (hcell : cell < s.board.size)
    (h : Turn s cell a s') (hc : c ∈ s'.queue.toList) :
    c ∈ s.queue.toList ∨ c.Reached s.board := by
  obtain ⟨-, hsettled, hdivided, -⟩ := h
  rename_i i s₁ s₂ a₁ a₂ e
  have hsound : a.execute.1.Sound := (ha.execute).choose_spec.2.2
  have hfrozen := (hsettled.frozen hs hsound).1
  have hperished : c ∈ s₂.queue.toList ∨ c.Reached s.board := by
    change c ∈ (if e ≤ 0 then s₂.propose (.death cell a₂.id) else s₂).queue.toList at hc
    split at hc
    · refine (mem_queue_propose.1 hc).imp_right ?_
      rintro rfl
      trivial
    · exact Or.inl hc
  rcases hperished with hc | hreached
  · rcases hdivided.reached (hfrozen.size.symm ▸ hcell) hc with hc | hreached
    · exact hsettled.reached hcell hc
    · exact Or.inr ((hfrozen.reached_iff c).1 hreached)
  · exact Or.inr hreached

/-- The queue of a scan holds the growth of all cells, and else what turns may come to. -/
theorem Completes.sown (hb : b.WellFormed) (hs : Completes b s) : Sown b b.size s.queue.toList := by
  refine hs.induct hb (P := fun n s _ => Sown b n s.queue.toList) ⟨?_, ?_⟩ ?_
  · intro m
    exact ⟨fun hc => (List.not_mem_nil hc).elim, fun hm => (Nat.not_lt_zero m hm.1).elim⟩
  · intro c hc
    exact (List.not_mem_nil hc).elim
  · intro n draw s s' o J hn hdraw hstage hcourse hentry ih
    have hkind := hb.kindIs_iff hn .empty
    have hsprouts : b.sprouts n = (b.kindIs n .empty && grows b.rules.growthChance draw) := by
      rw [Board.sprouts, hdraw, Option.any_some]
    have hoccupied : b.content n ≠ .empty → b.sprouts n = false := by
      intro hne
      have hno : b.kindIs n .empty = false := by
        rw [← Bool.not_eq_true, hkind, Content.kind_eq_empty_iff]
        exact hne
      rw [hsprouts, hno, Bool.false_and]
    cases hentry with
    | grown free grows =>
      rw [propose, Array.toList_push]
      refine ih.grow ?_
      rw [hsprouts, grows, hkind.2 (by rw [free]; rfl), Bool.and_true]
    | bare free stays =>
      refine ih.turn ?_ (fun _ => id) fun _ => Or.inl
      rw [hsprouts, stays, Bool.and_false]
    | stocked food =>
      refine ih.turn (hoccupied ?_) (fun _ => id) fun _ => Or.inl
      rw [food]
      exact Content.noConfusion
    | acted hcell occupied found tells =>
      rename_i e
      subst hcell
      have hs : ({ s with visited := e.met.id :: s.visited } : Scan).board.WellFormed :=
        hstage.wellFormed hb
      have hsound : e.met.Sound := hstage.sound _ (Arena.mem_of_find? found)
      obtain ⟨deed, birth, death, hprop, -⟩ := tells.turn.proposals hs hsound
      refine ih.turn (hoccupied ?_) (fun c hc => ?_) fun c hc => ?_
      · rw [occupied]
        exact Content.noConfusion
      · rw [hprop.queue]
        exact List.mem_append_left _ hc
      · have hlt : e.cell < s.board.size := hstage.frozen.size.symm ▸ hn
        exact (tells.turn.reached hs hsound hlt hc).imp_right (hstage.frozen.reached_iff c).1

end Scan

/-! ### The spare cell -/

/-- The number of the spare cell of a board that has one. -/
def Board.spare (b : Board) : Nat := b.width * b.height

/-- Of a cell for which nothing is proposed but its growth it can be told what is put there. -/
theorem register_of_growth {f : Nat → Content}
    (h : ∀ c ∈ q, c.cell = n → c = .growFood n) :
    register f q n = if .growFood n ∈ q then .food else .empty := by
  unfold register
  cases hlast : (q.filter (·.cell == n)).getLast? with
  | none =>
    rw [List.getLast?_eq_none_iff, List.filter_eq_nil_iff] at hlast
    rw [if_neg fun hc => hlast (.growFood n) hc (beq_self_eq_true n)]
    rfl
  | some c =>
    have hc := List.mem_of_getLast? hlast
    rw [List.mem_filter, beq_iff_eq] at hc
    obtain rfl := h c hc.1 hc.2
    rw [if_pos hc.1]
    rfl

namespace Board

/-- The spare cell is the last cell. -/
theorem WellFormed.size_eq_spare (hb : b.WellFormed)
    (hspare : (b.config.value .spareCell).truthy = true) : b.size = b.spare + 1 := by
  rw [hb.size_eq, Config.spareCells, if_pos hspare, spare]

/-- The spare cell is on the board. -/
theorem WellFormed.spare_lt_size (hb : b.WellFormed)
    (hspare : (b.config.value .spareCell).truthy = true) : b.spare < b.size :=
  Nat.lt_of_lt_of_eq (Nat.lt_succ_self _) (hb.size_eq_spare hspare).symm

/-- The kind of the spare cell is that of what it holds. -/
theorem WellFormed.kind_spare (hb : b.WellFormed)
    (hspare : (b.config.value .spareCell).truthy = true) :
    b.kinds[b.spare]? = some (b.content b.spare).kind :=
  hb.displays.kind b.spare (hb.spare_lt_size hspare)

/-- What turns may come to leaves the spare cell alone, unless it is the death of an ant there. -/
theorem WellFormed.ne_spare_of_reached (hb : b.WellFormed)
    (hspare : (b.config.value .spareCell).truthy = true) {c : Change} (h : c.Reached b)
    (hdeath : ∀ id, c ≠ .death b.spare id) : c.cell ≠ b.spare := by
  have hsize := hb.size_eq_spare hspare
  have hahead : ∀ source < b.size, ∀ (d : Direction) (target : Nat),
      b.shape.ahead? source d = some (target : Int) → target < b.spare :=
    fun source hsource d target ht =>
      Shape.ahead?_lt_rectangle hb.width_pos (Nat.le.intro hsize.symm) (Nat.le_of_eq hsize)
        hsource ht
  cases c with
  | growFood => exact h.elim
  | removeFood target =>
    obtain ⟨source, hsource, d, ht⟩ := h
    exact Nat.ne_of_lt (hahead source hsource d target ht)
  | swap target source =>
    obtain ⟨hsource, d, ht⟩ := h
    exact Nat.ne_of_lt (hahead source hsource d target ht)
  | born cell child =>
    have hcell : cell + 1 < b.size := h
    change cell ≠ b.spare
    omega
  | death cell id =>
    rintro rfl
    exact hdeath id rfl

/-- The proposals for the spare cell are its growth and the death of an ant there. -/
theorem WellFormed.eq_of_spare (hb : b.WellFormed)
    (hspare : (b.config.value .spareCell).truthy = true) {s : Scan} (hs : Scan.Completes b s)
    {c : Change} (hc : c ∈ s.queue.toList) (hcell : c.cell = b.spare) :
    c = .growFood b.spare ∨ ∃ id, c = .death b.spare id := by
  cases c with
  | growFood m => exact Or.inl (congrArg Change.growFood hcell)
  | death m id =>
    obtain rfl : m = b.spare := hcell
    exact Or.inr ⟨id, rfl⟩
  | removeFood target =>
    exact (hb.ne_spare_of_reached hspare ((hs.sown hb).reached _ hc rfl) nofun hcell).elim
  | swap target source =>
    exact (hb.ne_spare_of_reached hspare ((hs.sown hb).reached _ hc rfl) nofun hcell).elim
  | born m child =>
    exact (hb.ne_spare_of_reached hspare ((hs.sown hb).reached _ hc rfl) nofun hcell).elim

/-- What the spare cell holds after a tick, unless an ant was there. -/
theorem WellFormed.content_spare_of_tick (hb : b.WellFormed)
    (hspare : (b.config.value .spareCell).truthy = true) (h : b.tick = .ok b') :
    (b.content b.spare = .food → b'.content b.spare = .food) ∧
      (b.content b.spare = .empty →
        b'.content b.spare = if b.sprouts b.spare then .food else .empty) := by
  obtain ⟨s, hs⟩ := Scan.exists_completes hb
  obtain ⟨-, hcommit, hb'⟩ := hb.commit_of_tick hs h
  have houtcome := hb.outcome_of_commit hs (List.append_nil _).symm hcommit b.spare
  have hafter : b'.content = s.committed.board.content := by
    rw [hb']
    rfl
  rw [hafter]
  constructor
  · intro hfood
    rw [houtcome.food hfood, if_neg]
    intro hc
    rcases hb.eq_of_spare hspare hs hc rfl with heq | ⟨id, heq⟩ <;> cases heq
  · intro hempty
    have hgrowth : .growFood b.spare ∈ s.queue.toList ↔ b.sprouts b.spare = true := by
      rw [(hs.sown hb).growth, and_iff_right (hb.spare_lt_size hspare)]
    rw [houtcome.empty hempty, register_of_growth]
    · simp only [hgrowth]
    · intro c hc hcell
      refine (hb.eq_of_spare hspare hs hc hcell).resolve_right ?_
      rintro ⟨id, rfl⟩
      -- nobody dies on an empty cell
      cases hempty.symm.trans (hs.stage.suits _ hc).2

/-- Ticks keep the number of the spare cell and that there is one. -/
theorem WellFormed.spare_eq_of_tick (hb : b.WellFormed) (h : b.tick = .ok b') :
    b'.config = b.config ∧ b'.spare = b.spare := by
  have hb' := hb.tick h
  have hconfig := (hb.frame_of_tick h).1
  have hwidth : (b'.width : Int) = b.width :=
    Value.int.inj (hb'.width.symm.trans (hconfig ▸ hb.width))
  have hheight : (b'.height : Int) = b.height :=
    Value.int.inj (hb'.height.symm.trans (hconfig ▸ hb.height))
  refine ⟨hconfig, ?_⟩
  rw [spare, spare, Int.ofNat.inj hwidth, Int.ofNat.inj hheight]

/-- A tick keeps food on the spare cell, and puts food there or nothing if it is empty. -/
theorem WellFormed.spare_of_tick (hb : b.WellFormed)
    (hspare : (b.config.value .spareCell).truthy = true) (h : b.tick = .ok b') :
    (b.kinds[b.spare]? = some .food → b'.kinds[b.spare]? = some .food) ∧
      (b.kinds[b.spare]? = some .empty →
        b'.kinds[b.spare]? = some (if b.sprouts b.spare then .food else .empty)) := by
  obtain ⟨hconfig, hindex⟩ := hb.spare_eq_of_tick h
  have hkind := hb.kind_spare hspare
  have hkind' := (hb.tick h).kind_spare (hconfig ▸ hspare)
  rw [hindex] at hkind'
  obtain ⟨hfood, hempty⟩ := hb.content_spare_of_tick hspare h
  rw [hkind, hkind', Option.some.injEq, Option.some.injEq, Option.some.injEq, Option.some.injEq,
    Content.kind_eq_food_iff, Content.kind_eq_food_iff, Content.kind_eq_empty_iff]
  refine ⟨hfood, fun hc => ?_⟩
  rw [hempty hc]
  split <;> rfl

/-- Over any number of ticks the spare cell is where it was, food stays on it, and no ant comes to
it. -/
theorem WellFormed.spare_of_ticksFrom (hb : b.WellFormed)
    (hspare : (b.config.value .spareCell).truthy = true) (h : b.ticksFrom n = .ok b') :
    (b'.config = b.config ∧ b'.spare = b.spare) ∧
      (b.kinds[b.spare]? = some .food → b'.kinds[b.spare]? = some .food) ∧
      (b.kinds[b.spare]? ≠ some .ant → b'.kinds[b.spare]? ≠ some .ant) := by
  refine hb.ticksFrom_induct (P := fun x => (x.config = b.config ∧ x.spare = b.spare) ∧
    (b.kinds[b.spare]? = some .food → x.kinds[b.spare]? = some .food) ∧
    (b.kinds[b.spare]? ≠ some .ant → x.kinds[b.spare]? ≠ some .ant))
    ⟨⟨rfl, rfl⟩, id, id⟩ ?_ h
  rintro x x' hx htick ⟨⟨hconfig, hindex⟩, hfood, hnobody⟩
  obtain ⟨hconfig', hindex'⟩ := hx.spare_eq_of_tick htick
  have hspare' : (x.config.value .spareCell).truthy = true := hconfig ▸ hspare
  have hkind := hx.kind_spare hspare'
  obtain ⟨hkept, hgrown⟩ := hx.spare_of_tick hspare' htick
  rw [hindex] at hkind hkept hgrown
  refine ⟨⟨hconfig'.trans hconfig, hindex'.trans hindex⟩, fun h => hkept (hfood h), fun h => ?_⟩
  cases hc : x.content b.spare with
  | empty =>
    rw [hc] at hkind
    rw [hgrown hkind]
    split <;> nofun
  | food =>
    rw [hc] at hkind
    rw [hkept hkind]
    nofun
  | ant id =>
    rw [hc] at hkind
    exact (hnobody h hkind).elim

end Board

/-- The states of the spare cell, on a board that has one.  No move, no meal and no birth is ever
proposed for it.  Food there stays; if it is empty, it has food after a tick just if the unit drawn
for it is below the configured growth chance.  So in a run food there is never eaten, and there is
an ant only as long as there has been one ever since the start.  The board need only be well formed,
as reachable ones are (`Reachable.wellFormed`). -/
theorem spare_cell_states {b : Board} (hb : b.WellFormed)
    (hspare : (b.config.value .spareCell).truthy = true) :
    ∃ chance, (b.config.value .foodGrowthChance).quantity? = some (.exact chance) ∧
    (∃ s, Scan.run b = .ok s ∧ (∀ source, .swap b.spare source ∉ s.queue.toList) ∧
      .removeFood b.spare ∉ s.queue.toList ∧ ∀ child, .born b.spare child ∉ s.queue.toList) ∧
    (∀ b', b.tick = .ok b' →
      (b.kinds[b.spare]? = some .food → b'.kinds[b.spare]? = some .food) ∧
      (b.kinds[b.spare]? = some .empty →
        ∃ draw : Nat, (Scan.growthDraws b).1[b.spare]? = some draw ∧ b'.kinds[b.spare]? =
          some (if (draw : Rat) / Random.Stream.unitCount < chance then .food else .empty))) ∧
    (∀ n b', b.ticksFrom n = .ok b' → ∀ m ≤ n, ∃ x, b.ticksFrom m = .ok x ∧
      (x.kinds[b.spare]? = some .food → b'.kinds[b.spare]? = some .food) ∧
      (b'.kinds[b.spare]? = some .ant → x.kinds[b.spare]? = some .ant)) ∧
    (∀ n : Nat, b.nextId + n * b.size ≤ idLimit → ∃ b', b.ticksFrom n = .ok b') := by
  obtain ⟨chance, hchance⟩ := hb.chance
  refine ⟨chance, hchance, ?_, fun b' htick => ?_, fun n b' hrun m hm => ?_, hb.exists_ticksFrom⟩
  · obtain ⟨s, hs⟩ := Scan.exists_completes hb
    have hcases : ∀ c ∈ s.queue.toList, c.cell = b.spare → c.source? = none ∧ c.child? = none ∧
        c ≠ .removeFood b.spare := by
      intro c hc hcell
      rcases hb.eq_of_spare hspare hs hc hcell with rfl | ⟨id, rfl⟩
      · exact ⟨rfl, rfl, nofun⟩
      · exact ⟨rfl, rfl, nofun⟩
    refine ⟨s, hs.run_eq, fun source hc => ?_, fun hc => ?_, fun child hc => ?_⟩
    · cases (hcases _ hc rfl).1
    · exact (hcases _ hc rfl).2.2 rfl
    · cases (hcases _ hc rfl).2.1
  · obtain ⟨hkept, hgrown⟩ := hb.spare_of_tick hspare htick
    refine ⟨hkept, fun hempty => ?_⟩
    obtain ⟨draw, hdraw⟩ : ∃ draw, (Scan.growthDraws b).1[b.spare]? = some draw := by
      refine ⟨_, List.getElem?_eq_getElem ?_⟩
      rw [Scan.length_growthDraws]
      exact hb.spare_lt_size hspare
    have hsprouts : b.sprouts b.spare =
        decide ((draw : Rat) / Random.Stream.unitCount < chance) := by
      have hkind : b.kindIs b.spare .empty = true :=
        (hb.kindIs_iff (hb.spare_lt_size hspare) .empty).2
          (Option.some.inj ((hb.kind_spare hspare).symm.trans hempty))
      rw [Board.sprouts, hkind, hdraw, Bool.true_and, Option.any_some, Scan.grows_eq,
        hb.growthChance_eq hchance]
    refine ⟨draw, hdraw, ?_⟩
    rw [hgrown hempty, hsprouts]
    simp only [decide_eq_true_eq]
  · obtain ⟨k, rfl⟩ := Nat.exists_eq_add_of_le hm
    rw [Board.ticksFrom_add] at hrun
    obtain ⟨x, hx, hrest⟩ := exists_of_bind_eq_ok hrun
    obtain ⟨⟨hconfig, hindex⟩, -, -⟩ := hb.spare_of_ticksFrom hspare hx
    obtain ⟨-, hfood, hnobody⟩ := (hb.ticksFrom hx).spare_of_ticksFrom (hconfig ▸ hspare) hrest
    rw [hindex] at hfood hnobody
    exact ⟨x, hx, hfood, fun hant => Classical.not_not.1 fun h => hnobody h hant⟩

/-! ### An annexe -/

/-- The configuration of two cells and a spare one, on which food grows wherever it can. -/
def annexeConfig : Config :=
  ⟨fun
    | .width => .int 2
    | .height => .int 1
    | .foodGrowthChance => .int 1
    | f => f.defaultValue⟩

/-- Two cells and a spare one. -/
def annexeRow : Board := .blank annexeConfig (.ofConfig annexeConfig) 2 1 3 (.ofSeed 0)

/-- The two cells and the spare one are built from their configuration. -/
theorem reachable_annexeRow : Reachable annexeRow := by
  have hbuild : Board.build .unbounded (.int 2) (.int 1) (some annexeConfig) (some (.ofSeed 0)) =
      .ok annexeRow := rfl
  exact .of_config ⟨⟨_, rfl⟩, ⟨_, rfl⟩, ⟨_, rfl⟩, ⟨_, rfl⟩, ⟨_, rfl⟩, ⟨_, rfl⟩, ⟨_, rfl⟩, ⟨_, rfl⟩⟩
    rfl hbuild

/-- An ant on the spare cell that wants to the first cell, as another ant does. -/
def annexe : Board :=
  (annexeRow.enter 1 (simpleton 0 .blue .move 50 .west)).enter 2
    (simpleton 1 .blue .move 50 .north)

/-- The annexe is in order. -/
theorem wellFormed_annexe : annexe.WellFormed :=
  (Reachable.enter_simpleton (.enter_simpleton reachable_annexeRow)).wellFormed (by decide +kernel)

/-- The two ants change places on the first cell: the one that was on the spare cell gets there, and
the other is put on the spare cell, where it stays. -/
theorem annexe_spare_cell :
    annexe.WellFormed ∧ (annexe.config.value .spareCell).truthy = true ∧ annexe.spare = 2 ∧
      ∃ x b', annexe.ticksFrom 1 = .ok x ∧ annexe.ticksFrom 3 = .ok b' ∧
        annexe.occupants[2]? = some 1 ∧ b'.occupants[2]? = some 0 ∧
        b'.kinds[2]? = some .ant ∧ x.kinds[2]? = some .ant := by
  have hspare : (annexe.config.value .spareCell).truthy = true := by decide +kernel
  have hlater : (annexe.ticksFrom 3).toOption.map (fun b => (b.occupants[2]?, b.kinds[2]?)) =
      some (some 0, some .ant) := by
    decide +kernel
  obtain ⟨chance, -, -, -, hruns, hexists⟩ := spare_cell_states wellFormed_annexe hspare
  obtain ⟨b', hrun⟩ := hexists 3 (by decide +kernel)
  rw [hrun] at hlater
  simp only [Except.toOption, Option.map_some, Option.some.injEq, Prod.mk.injEq] at hlater
  obtain ⟨x, hx, -, hant⟩ := hruns 3 b' hrun 1 (by decide)
  exact ⟨wellFormed_annexe, hspare, by decide +kernel, x, b', hx, hrun, by decide +kernel, hlater.1,
    hlater.2, hant hlater.2⟩

end Formicary
