import Formicary.Proofs.Counters
import Formicary.Proofs.Geometry

/-!
# Which cell proposed what

A commit applies the changes of a queue without looking at the cells, so it relies on where they
come from.  `Board.proposals` lists the changes of a queue together with the cell whose visit
proposed each of them: what a visit adds to the queue is its own.

Proposals come in the order of their cells, and those of one cell in the order in which a turn makes
them (`Change.rank`), at most one of each rank; that is `Proposal.Before`.  Every change fits the
cell it comes from and the board as it was at the start of the tick (`Change.ComesFrom`).  From
these two facts, which every visit keeps (`Scan.Traced.visit`), it follows how often a cell may be
proposed for what.
-/

namespace Formicary

/-- The cells of the rectangle are cells of a well-formed board. -/
theorem Board.WellFormed.area_le_size {b : Board} (hb : b.WellFormed) :
    b.width * b.height ≤ b.size :=
  Nat.le.intro hb.size_eq.symm

/-- A well-formed board has at most one cell more than the rectangle. -/
theorem Board.WellFormed.size_le_area_succ {b : Board} (hb : b.WellFormed) :
    b.size ≤ b.width * b.height + 1 := by
  rw [hb.size_eq, Config.spareCells]
  split
  · exact Nat.le_refl _
  · exact Nat.le_succ _

namespace Change

/-- The place of a change among those that one turn proposes: first a move or a meal, then a birth,
then a death.  Growth is the only thing that its cell proposes. -/
def rank : Change → Nat
  | .growFood _ => 0
  | .removeFood _ => 0
  | .swap _ _ => 0
  | .born _ _ => 1
  | .death _ _ => 2

/-- A change may come from the visit of the cell `n`.  Food grows on that cell if it is empty; all
else comes from an ant there, which moves to an adjacent empty cell, takes food from an adjacent
cell, bears a child on the empty cell before, or dies where it is. -/
def ComesFrom (b : Board) (n : Nat) : Change → Prop
  | .growFood cell => cell = n ∧ b.Shows cell .empty
  | .removeFood cell => b.Shows cell .food ∧ b.shape.Adjacent n cell ∧ ∃ id, b.Shows n (.ant id)
  | .swap target source => source = n ∧ b.Shows target .empty ∧ b.shape.Adjacent n target ∧
      ∃ id, b.Shows n (.ant id)
  | .born cell _ => cell + 1 = n ∧ b.Shows cell .empty ∧ ∃ id, b.Shows n (.ant id)
  | .death cell id => cell = n ∧ b.Shows n (.ant id)

variable {b : Board} {n : Nat} {c : Change}

/-- The cell that a change tells to be its proposer is the one that it comes from. -/
theorem ComesFrom.eq_of_proposer? (h : c.ComesFrom b n) {m : Nat} (hm : c.proposer? = some m) :
    m = n := by
  cases c with
  | growFood cell => exact (Option.some.inj hm).symm.trans h.1
  | removeFood cell => cases hm
  | swap target source => exact (Option.some.inj hm).symm.trans h.1
  | born cell child => exact (Option.some.inj hm).symm.trans h.1
  | death cell id => exact (Option.some.inj hm).symm.trans h.1

end Change

/-- A change and the cell whose visit proposed it. -/
structure Proposal where
  /-- The cell that was visited. -/
  cell : Nat
  /-- What is proposed. -/
  change : Change
  deriving DecidableEq

/-- One proposal is due before another: its cell comes first, or of one cell its rank. -/
def Proposal.Before (p p' : Proposal) : Prop :=
  p.cell < p'.cell ∨ p.cell = p'.cell ∧ p.change.rank < p'.change.rank

/-- What the visits of some cells propose, given the units drawn for their growth: each of them what
it adds to the queue. -/
def Scan.proposals (s : Scan) : List (Nat × Nat) → List Proposal
  | [] => []
  | v :: rest =>
    match s.visit v.1 v.2 with
    | .ok s' => (s'.queue.toList.drop s.queue.size).map (.mk v.1) ++ proposals s' rest
    | .error _ => []

/-- The proposals of a scan of a board. -/
def Board.proposals (b : Board) : List Proposal :=
  Scan.proposals (Scan.opening b) ((List.range b.size).zip (Scan.growthDraws b).1)

namespace Scan

variable {b : Board} {s s' : Scan} {n draw : Nat} {a : Ant} {q : List Change} {ps : List Proposal}

/-! ### One visit -/

/-- The proposals of a turn are of growing rank. -/
theorem Proposals.ranked {id : Int} {deed birth death : List Change}
    (h : Proposals s s' n id deed birth death) :
    (deed ++ birth ++ death).Pairwise fun c c' => c.rank < c'.rank := by
  have hdeed : deed.Pairwise (fun c c' => c.rank < c'.rank) ∧ ∀ c ∈ deed, c.rank = 0 := by
    rcases h.deed with rfl | ⟨_, rfl, -⟩ | ⟨_, rfl, -⟩ <;> simp [Change.rank]
  have hbirth : birth.Pairwise (fun c c' => c.rank < c'.rank) ∧ ∀ c ∈ birth, c.rank = 1 := by
    rcases h.birth with ⟨rfl, -⟩ | ⟨_, rfl, -⟩ <;> simp [Change.rank]
  have hdeath : death.Pairwise (fun c c' => c.rank < c'.rank) ∧ ∀ c ∈ death, c.rank = 2 := by
    rcases h.death with rfl | rfl <;> simp [Change.rank]
  refine List.pairwise_append.2
    ⟨List.pairwise_append.2 ⟨hdeed.1, hbirth.1, fun c hc c' hc' => ?_⟩, hdeath.1,
      fun c hc c' hc' => ?_⟩
  · rw [hdeed.2 c hc, hbirth.2 c' hc']
    exact Nat.zero_lt_one
  · rw [hdeath.2 c' hc']
    rcases List.mem_append.1 hc with hc | hc
    · rw [hdeed.2 c hc]
      exact Nat.zero_lt_two
    · rw [hbirth.2 c hc]
      exact Nat.one_lt_two

/-- The turn of the ant on the cell `n` adds changes to the queue that come from that cell. -/
theorem Stage.comesFrom_of_turn (hb : b.WellFormed) (h : Stage b n s) (hn : n < b.size)
    (hc : b.content n = .ant a.id) (hfind : s.board.arena.find? a.id = some a)
    (hturn : Turn { s with visited := a.id :: s.visited } n a s') :
    ∃ q, s'.queue.toList = s.queue.toList ++ q ∧
      (q.Pairwise fun c c' => c.rank < c'.rank) ∧ ∀ c ∈ q, c.ComesFrom b n := by
  obtain ⟨deed, birth, death, hprop, hfaces⟩ := hturn.proposals
    (s := { s with visited := a.id :: s.visited }) (h.wellFormed hb)
    (h.sound a (Arena.mem_of_find? hfind))
  have hcontent := h.frozen.content
  have hhere : b.Shows n (.ant a.id) := hb.displays.shows hn hc
  have hadjacent : ∀ c ∈ deed, b.shape.Adjacent n c.cell := by
    intro c hmem
    have hahead := hfaces c hmem
    rw [Faces, h.frozen.shape] at hahead
    exact Shape.adjacent_of_ahead? hb.width_pos hb.area_le_size hb.size_le_area_succ hn hahead
  refine ⟨_, hprop.queue, hprop.ranked, fun c hmem => ?_⟩
  rcases List.mem_append.1 hmem with hmem | hmem
  · rcases List.mem_append.1 hmem with hmem | hmem
    · have hnear := hadjacent c hmem
      rcases hprop.deed with rfl | ⟨target, rfl, hfree, hlt⟩ | ⟨target, rfl, hfood⟩
      · cases hmem
      · obtain rfl := List.mem_singleton.1 hmem
        exact ⟨rfl, hb.displays.shows (h.frozen.size ▸ hlt) (hcontent ▸ hfree), hnear, _, hhere⟩
      · obtain rfl := List.mem_singleton.1 hmem
        have hfood' : b.content target = .food := hcontent ▸ hfood
        have hlt := Board.lt_size_of_content_ne (by rw [hfood']; exact Content.noConfusion)
        exact ⟨hb.displays.shows hlt hfood', hnear, _, hhere⟩
    · rcases hprop.birth with ⟨rfl, -⟩ | ⟨child, rfl, hpos, hfree, -⟩
      · cases hmem
      · obtain rfl := List.mem_singleton.1 hmem
        exact ⟨Nat.succ_pred_eq_of_pos hpos,
          hb.displays.shows (Nat.lt_of_le_of_lt (Nat.sub_le n 1) hn) (hcontent ▸ hfree), _, hhere⟩
  · rcases hprop.death with rfl | rfl
    · cases hmem
    · obtain rfl := List.mem_singleton.1 hmem
      exact ⟨rfl, hhere⟩

/-- A visit of the cell `n` adds changes to the queue that come from that cell, of growing rank. -/
theorem Stage.comesFrom_of_visit (hb : b.WellFormed) (h : Stage b n s) (hn : n < b.size)
    (hvisit : Visit s n draw s') :
    ∃ q, s'.queue.toList = s.queue.toList ++ q ∧
      (q.Pairwise fun c c' => c.rank < c'.rank) ∧ ∀ c ∈ q, c.ComesFrom b n := by
  have hcontent := h.frozen.content
  have hnothing : ∃ q, s.queue.toList = s.queue.toList ++ q ∧
      (q.Pairwise fun c c' => c.rank < c'.rank) ∧ ∀ c ∈ q, c.ComesFrom b n :=
    ⟨[], (List.append_nil _).symm, .nil, fun c hc => (List.not_mem_nil hc).elim⟩
  cases hvisit with
  | grown free =>
    refine ⟨[.growFood n], Array.toList_push, List.pairwise_singleton _ _, fun c hc => ?_⟩
    obtain rfl := List.mem_singleton.1 hc
    exact ⟨rfl, hb.displays.shows hn (hcontent ▸ free)⟩
  | bare => exact hnothing
  | stocked => exact hnothing
  | acted occupied found turn => exact h.comesFrom_of_turn hb hn (hcontent ▸ occupied) found turn

/-! ### A whole scan -/

/-- What holds of the proposals that have been made when the first `n` cells of the board `b` have
been visited: they make up the queue, each was made in its place and comes from its cell. -/
structure Traced (b : Board) (n : Nat) (s : Scan) (ps : List Proposal) : Prop where
  queue : ps.map Proposal.change = s.queue.toList
  before : ps.Pairwise Proposal.Before
  cell_lt : ∀ p ∈ ps, p.cell < n
  comesFrom : ∀ p ∈ ps, p.change.ComesFrom b p.cell

/-- A visit keeps what holds of the proposals, its own added. -/
theorem Traced.visit (h : Traced b n s ps) (hqueue : s'.queue.toList = s.queue.toList ++ q)
    (hranked : q.Pairwise fun c c' => c.rank < c'.rank) (hq : ∀ c ∈ q, c.ComesFrom b n) :
    Traced b (n + 1) s' (ps ++ q.map (.mk n)) where
  queue := by
    rw [List.map_append, List.map_map, h.queue, hqueue]
    exact congrArg _ (List.map_id q)
  before := by
    refine List.pairwise_append.2 ⟨h.before, List.pairwise_map.2 ?_, fun p hp p' hp' => ?_⟩
    · exact hranked.imp fun hlt => Or.inr ⟨rfl, hlt⟩
    · obtain ⟨c, -, rfl⟩ := List.mem_map.1 hp'
      exact Or.inl (h.cell_lt p hp)
  cell_lt p hp := by
    rcases List.mem_append.1 hp with hp | hp
    · exact Nat.lt_succ_of_lt (h.cell_lt p hp)
    · obtain ⟨c, -, rfl⟩ := List.mem_map.1 hp
      exact Nat.lt_succ_self n
  comesFrom p hp := by
    rcases List.mem_append.1 hp with hp | hp
    · exact h.comesFrom p hp
    · obtain ⟨c, hc, rfl⟩ := List.mem_map.1 hp
      exact hq c hc

/-- Visits keep what holds of the proposals, those of the visits added. -/
theorem Visits.traced (hb : b.WellFormed) {draws : List Nat} (h : Visits b n s draws s')
    (hps : Traced b n s ps) :
    Traced b (n + draws.length) s'
      (ps ++ s.proposals ((List.range' n draws.length).zip draws)) := by
  induction h generalizing ps with
  | done =>
    rw [List.length_nil, List.range'_zero, List.zip_nil_left, proposals, List.append_nil]
    exact hps
  | next stage lt_size ran visit rest ih =>
    rename_i n draw s s₁ s' draws
    obtain ⟨q, hqueue, hranked, hq⟩ := stage.comesFrom_of_visit hb lt_size visit
    have hnew : s₁.queue.toList.drop s.queue.size = q := by
      rw [hqueue, ← Array.length_toList, List.drop_left]
    have hrest := ih (hps.visit hqueue hranked hq)
    rw [List.length_cons, List.range'_succ, List.zip_cons_cons, proposals]
    simp only [ran, hnew]
    rw [Nat.add_comm draws.length 1, ← Nat.add_assoc, ← List.append_assoc]
    exact hrest

/-- The proposals of a whole scan make up its queue, each in its place and from its cell. -/
theorem Completes.traced (hb : b.WellFormed) (hs : Completes b s) :
    Traced b b.size s b.proposals := by
  have hstart : Traced b 0 (opening b) [] :=
    ⟨rfl, .nil, fun _ hp => (List.not_mem_nil hp).elim, fun _ hp => (List.not_mem_nil hp).elim⟩
  have h := Visits.traced hb hs hstart
  rwa [length_growthDraws, Nat.zero_add, List.nil_append, ← List.range_eq_range'] at h

/-! ### How often -/

/-- No cell is proposed twice for a sort of change if the cell that a change of that sort is for and
its sort tell the proposer and the rank. -/
theorem Traced.nodup_cells (h : Traced b n s ps) (sort : Change → Bool) (from? : Nat → Nat)
    (rank : Nat) (hsort : ∀ c, sort c = true → c.proposer? = some (from? c.cell) ∧ c.rank = rank) :
    ((s.queue.toList.filter sort).map Change.cell).Nodup := by
  rw [← h.queue, List.Nodup, List.pairwise_map, List.pairwise_filter, List.pairwise_map]
  refine h.before.imp_of_mem fun {p p'} hp hp' hbefore hsorted hsorted' hcell => ?_
  obtain ⟨hfrom, hrank⟩ := hsort _ hsorted
  obtain ⟨hfrom', hrank'⟩ := hsort _ hsorted'
  have hp := (h.comesFrom p hp).eq_of_proposer? hfrom
  have hp' := (h.comesFrom p' hp').eq_of_proposer? hfrom'
  rcases hbefore with hlt | ⟨-, hlt⟩
  · rw [← hp, ← hp', hcell] at hlt
    exact Nat.lt_irrefl _ hlt
  · rw [hrank, hrank'] at hlt
    exact Nat.lt_irrefl _ hlt

end Scan

/-- The queue of a scan of a well-formed board consists of the proposals of its cells, in the order
of the cells.  Every change comes from its cell and suits the board at the start of the tick.  The
proposals of one ant are of growing rank: at most one move or meal, then at most one birth, then at
most one death.  No cell is proposed twice for growth, nor for a birth, and the first cell proposes
no birth.  The newborns have the ids that follow those given out, one after the other, and none of
these is in the arena.  Reachable boards are well formed (`Reachable.wellFormed`). -/
theorem queue_of_proposals {b : Board} (hb : b.WellFormed) :
    ∃ s, Scan.run b = .ok s ∧ s.queue.toList = b.proposals.map Proposal.change ∧
      (b.proposals.map Proposal.cell).Pairwise (· ≤ ·) ∧
      (∀ p ∈ b.proposals, p.change.ComesFrom b p.cell ∧
        ∀ m, p.change.proposer? = some m → m = p.cell) ∧
      (b.proposals.Pairwise fun p p' => ∀ id, b.Shows p.cell (.ant id) →
        b.Shows p'.cell (.ant id) → p.change.rank < p'.change.rank) ∧
      ((s.queue.toList.filter Change.isGrowth).map Change.cell).Nodup ∧
      ((s.queue.toList.filter fun c => c.child?.isSome).map Change.cell).Nodup ∧
      (newborns s.queue.toList).map Ant.id =
        consecutive b.nextId (newborns s.queue.toList).length ∧
      (∀ y ∈ newborns s.queue.toList, y.id ∉ b.arena.ids) ∧
      ∀ p ∈ b.proposals, p.cell = 0 → p.change.child? = none := by
  obtain ⟨s, hs⟩ := Scan.exists_completes hb
  have htraced := hs.traced hb
  refine ⟨s, hs.run_eq, htraced.queue.symm, ?_, fun p hp => ?_, ?_, ?_, ?_, hs.stage.numbered,
    fun y hy hmem => ?_, fun p hp hcell => ?_⟩
  · rw [List.pairwise_map]
    exact htraced.before.imp fun hbefore =>
      hbefore.elim Nat.le_of_lt fun heq => Nat.le_of_eq heq.1
  · exact ⟨htraced.comesFrom p hp, fun m => (htraced.comesFrom p hp).eq_of_proposer?⟩
  · refine htraced.before.imp fun {p p'} hbefore id hid hid' => ?_
    have hlt : p.cell < b.size := (Array.getElem?_eq_some_iff.1 hid.1).1
    have hlt' : p'.cell < b.size := (Array.getElem?_eq_some_iff.1 hid'.1).1
    have hcell : p.cell = p'.cell := hb.peopled.eq_of_content hlt hlt'
      (hb.displays.content_of_shows hid) (hb.displays.content_of_shows hid')
    rcases hbefore with hbefore | hbefore
    · exact (Nat.ne_of_lt hbefore hcell).elim
    · exact hbefore.2
  · refine htraced.nodup_cells Change.isGrowth id 0 fun c hc => ?_
    cases c <;> simp_all [Change.isGrowth, Change.proposer?, Change.cell, Change.rank]
  · refine htraced.nodup_cells (fun c => c.child?.isSome) (· + 1) 1 fun c hc => ?_
    cases c <;> simp_all [Change.child?, Change.proposer?, Change.cell, Change.rank]
  · have hle := (hs.stage.id_of_newborn hy).1
    have hlt := hb.peopled.id_lt _ hmem
    omega
  · have hfrom := htraced.comesFrom p hp
    cases hchange : p.change with
    | born cell child =>
      rw [hchange, hcell] at hfrom
      exact (Nat.succ_ne_zero cell hfrom.1).elim
    | growFood cell => rfl
    | removeFood cell => rfl
    | swap target source => rfl
    | death cell id => rfl

/-- In the crowd the two ants that face the same cell propose their moves before and after its
growth, and the newborn has the first id that has not been given out. -/
theorem crowd_proposals :
    crowd.WellFormed ∧
      crowd.proposals.map (fun p => (p.cell, p.change.kindName, p.change.cell)) =
        [(0, "swap", 1), (1, "grow_food", 1), (2, "swap", 1), (3, "grow_food", 3), (4, "born", 3),
          (5, "death", 5)] ∧
      ∃ s, Scan.run crowd = .ok s ∧ (newborns s.queue.toList).map Ant.id = [crowd.nextId] ∧
        crowd.nextId ∉ crowd.arena.ids := by
  obtain ⟨s, hrun, hqueue, -, -, -, -, -, hids, hnew, -⟩ := queue_of_proposals wellFormed_crowd
  have hlength : (newborns s.queue.toList).length = 1 := by
    rw [hqueue]
    decide +kernel
  rw [hlength] at hids
  obtain ⟨y, hy⟩ := List.exists_mem_of_length_pos (hlength ▸ Nat.one_pos)
  have hid : y.id ∈ (newborns s.queue.toList).map Ant.id := List.mem_map_of_mem hy
  rw [hids, mem_consecutive] at hid
  have heq : y.id = crowd.nextId := by omega
  refine ⟨wellFormed_crowd, by decide +kernel, s, hrun, ?_, heq ▸ hnew y hy⟩
  rw [hids, consecutive_succ]
  exact congrArg (fun id => [id]) (Int.add_zero _)

end Formicary
