import Formicary.Proofs.Queue
import Formicary.Proofs.Turn

/-!
# The stages of a scan

A scan visits the cells in order.  `Scan.Stage b n s` is what holds when the first `n` cells of the
board `b` have been visited: the cells of `b` are as they were, every ant on the visited cells has
had its turn and no other, and the changes proposed so far suit `b` and come in a sensible order.

One visit leads from each stage to the next (`Scan.Stage.visit`), so a scan of a well-formed board
completes.  `Scan.Visits` keeps the stages that it goes through, for facts about a whole scan.
-/

namespace Formicary

namespace Board

/-- The ids of the ants on the first `n` cells, in the order of their cells. -/
def residents (b : Board) (n : Nat) : List Int :=
  (List.range n).filterMap fun m => (b.content m).ant?

/-- The ants on one cell more. -/
theorem residents_succ (b : Board) (n : Nat) :
    b.residents (n + 1) = b.residents n ++ (b.content n).ant?.toList := by
  rw [residents, List.range_succ, List.filterMap_append, residents]
  cases h : (b.content n).ant? <;> simp [h]

/-- The ants on the first cells, one by one. -/
theorem mem_residents {b : Board} {n : Nat} {id : Int} :
    id ∈ b.residents n ↔ ∃ m < n, b.content m = .ant id := by
  simp [residents]

/-- An ant is not among those on the cells before its own. -/
theorem Lodged.notMem_residents {b : Board} (hb : b.Lodged) {n : Nat} {id : Int}
    (hc : b.content n = .ant id) : id ∉ b.residents n := by
  intro hmem
  obtain ⟨m, hm, hcm⟩ := mem_residents.1 hmem
  exact Nat.ne_of_lt hm (hb.eq_of_content hcm hc)

end Board

namespace Scan

variable {b : Board} {s s' : Scan} {n draw : Nat}

/-! ### One visit -/

/-- What a visit of a cell can come to, if the ant on it has not had its turn. -/
inductive Visit (s : Scan) (cell draw : Nat) : Scan → Prop
  | grown (free : s.board.content cell = .empty)
      (grows : grows s.board.rules.growthChance draw = true) :
      Visit s cell draw (s.propose (.growFood cell))
  | bare (free : s.board.content cell = .empty)
      (stays : grows s.board.rules.growthChance draw = false) : Visit s cell draw s
  | stocked (food : s.board.content cell = .food) : Visit s cell draw s
  | acted {a : Ant} {s' : Scan} (occupied : s.board.content cell = .ant a.id)
      (found : s.board.arena.find? a.id = some a)
      (turn : Turn { s with visited := a.id :: s.visited } cell a s') : Visit s cell draw s'

/-- On a well-formed board the visit of a cell comes to an end. -/
theorem exists_visit (hs : s.board.WellFormed) (hn : n < s.board.size)
    (hnew : ∀ id, s.board.content n = .ant id → id ∉ s.visited) (draw : Nat) :
    ∃ s', s.visit n draw = .ok s' ∧ Visit s n draw s' := by
  have hkind := hs.displays.kind n hn
  cases hc : s.board.content n with
  | empty =>
    rw [hc] at hkind
    by_cases hg : grows s.board.rules.growthChance draw = true
    · refine ⟨_, ?_, .grown hc hg⟩
      simp only [visit, hkind, Content.kind, hg, if_true]
    · refine ⟨_, ?_, .bare hc (Bool.eq_false_iff.2 hg)⟩
      simp only [visit, hkind, Content.kind, hg]
      rfl
  | food =>
    rw [hc] at hkind
    exact ⟨s, by simp only [visit, hkind, Content.kind], .stocked hc⟩
  | ant id =>
    rw [hc] at hkind
    obtain ⟨a, hfind, rfl, -, hsound⟩ := hs.exists_find? hc
    have htenant := hs.tenant?_eq hc hfind
    have hunseen : s.visited.contains a.id = false := by
      rw [← Bool.not_eq_true, List.contains_iff_mem]
      exact hnew a.id hc
    obtain ⟨s', hact, hturn⟩ :=
      exists_turn (s := { s with visited := a.id :: s.visited }) hs hsound hn
    refine ⟨s', ?_, .acted hc hfind hturn⟩
    simp only [visit, hkind, Content.kind, htenant, hunseen]
    exact hact

/-! ### From stage to stage -/

/-- What holds of a scan of the board `b` when the first `n` cells have been visited. -/
structure Stage (b : Board) (n : Nat) (s : Scan) : Prop where
  frozen : b.Frozen s.board
  sound : ∀ a ∈ s.board.arena.ants, a.Sound
  visited : s.visited = (b.residents n).reverse
  counts : Counts {} s.tally
  suits : ∀ c ∈ s.queue.toList, c.Suits b n
  order : s.queue.toList.Pairwise Change.Respects
  numbered : (newborns s.queue.toList).map Ant.id =
    consecutive b.nextId (newborns s.queue.toList).length
  nextId : s.board.nextId = b.nextId + ((newborns s.queue.toList).length : Int)
  births_le : (newborns s.queue.toList).length ≤ n

/-- Before the first visit nothing has been proposed. -/
theorem Stage.start (hb : b.WellFormed) (r : Random.Stream) :
    Stage b 0 (start { b with random := r }) where
  frozen := ⟨rfl, rfl, Int.le_refl _⟩
  sound := hb.peopled.sound
  visited := rfl
  counts := ⟨_, _, _, _, rfl⟩
  suits _ hc := absurd hc (List.not_mem_nil)
  order := List.Pairwise.nil
  numbered := rfl
  nextId := (Int.add_zero _).symm
  births_le := Nat.zero_le _

/-- The board of a scan is well formed at every stage. -/
theorem Stage.wellFormed (h : Stage b n s) (hb : b.WellFormed) : s.board.WellFormed :=
  h.frozen.wellFormed hb h.sound

/-- What is counted in two steps. -/
theorem Counts.trans {t t' t'' : Tally} (h : Counts t t') (h' : Counts t' t'') : Counts t t'' := by
  obtain ⟨_, _, _, _, rfl⟩ := h
  obtain ⟨_, _, _, _, rfl⟩ := h'
  exact ⟨_, _, _, _, rfl⟩

/-- The proposals of an ant's turn suit the board. -/
theorem Proposals.suits {id : Int} {deed birth death : List Change}
    (h : Proposals s s' n id deed birth death) (hfrozen : b.Frozen s.board)
    (hid : b.content n = .ant id) : ∀ c ∈ deed ++ birth ++ death, c.Suits b (n + 1) := by
  have hdeed := h.deed
  have hbirth := h.birth
  rw [hfrozen.content, hfrozen.size] at hdeed
  rw [hfrozen.content] at hbirth
  intro c hc
  rcases List.mem_append.1 hc with hc | hc
  · rcases List.mem_append.1 hc with hc | hc
    · rcases hdeed with rfl | ⟨target, rfl, hfree, hlt⟩ | ⟨target, rfl, hfood⟩
      · cases hc
      · rw [List.mem_singleton.1 hc]
        exact ⟨Nat.lt_succ_self n, hlt, hfree, id, hid⟩
      · rw [List.mem_singleton.1 hc]
        exact hfood
    · rcases hbirth with ⟨rfl, -⟩ | ⟨child, rfl, -, hfree, hsound, -, hage, -⟩
      · cases hc
      · rw [List.mem_singleton.1 hc]
        exact ⟨by omega, hfree, hsound, hage⟩
  · rcases h.death with rfl | rfl
    · cases hc
    · rw [List.mem_singleton.1 hc]
      exact ⟨Nat.lt_succ_self n, hid⟩

/-- A turn moves no ant by its births. -/
theorem Proposals.source?_birth {id : Int} {deed birth death : List Change}
    (h : Proposals s s' n id deed birth death) : ∀ c ∈ birth, c.source? = none := by
  rcases h.birth with ⟨rfl, -⟩ | ⟨child, rfl, -⟩ <;> simp [Change.source?]

/-- A turn moves no ant by its deaths. -/
theorem Proposals.source?_death {id : Int} {deed birth death : List Change}
    (h : Proposals s s' n id deed birth death) : ∀ c ∈ death, c.source? = none := by
  rcases h.death with rfl | rfl <;> simp [Change.source?]

/-- A turn moves the ant of its own cell. -/
theorem Proposals.source?_eq {id : Int} {deed birth death : List Change}
    (h : Proposals s s' n id deed birth death) {c : Change} (hc : c ∈ deed ++ birth ++ death)
    {x : Nat} (hx : c.source? = some x) : x = n := by
  rcases List.mem_append.1 hc with hc | hc
  · rcases List.mem_append.1 hc with hc | hc
    · rcases h.deed with rfl | ⟨target, rfl, -⟩ | ⟨target, rfl, -⟩
      · cases hc
      · rw [List.mem_singleton.1 hc] at hx
        exact (Option.some.inj hx).symm
      · rw [List.mem_singleton.1 hc] at hx
        cases hx
    · rw [h.source?_birth c hc] at hx
      cases hx
  · rw [h.source?_death c hc] at hx
    cases hx

/-- Of the proposals of a turn, the move comes first. -/
theorem Proposals.order {id : Int} {deed birth death : List Change}
    (h : Proposals s s' n id deed birth death) :
    (deed ++ birth ++ death).Pairwise Change.Respects := by
  have hdeed : deed.Pairwise Change.Respects := by
    rcases h.deed with rfl | ⟨_, rfl, _⟩ | ⟨_, rfl, _⟩ <;> simp
  have hbirth : birth.Pairwise Change.Respects := by
    rcases h.birth with ⟨rfl, -⟩ | ⟨_, rfl, _⟩ <;> simp
  have hdeath : death.Pairwise Change.Respects := by
    rcases h.death with rfl | rfl <;> simp
  refine List.pairwise_append.2 ⟨List.pairwise_append.2 ⟨hdeed, hbirth, ?_⟩, hdeath, ?_⟩
  · intro c _ c' hc' x hx
    rw [h.source?_birth c' hc'] at hx
    cases hx
  · intro c _ c' hc' x hx
    rw [h.source?_death c' hc'] at hx
    cases hx

/-- A turn has at most one newborn, which gets the next id. -/
theorem Proposals.newborns {id : Int} {deed birth death : List Change}
    (h : Proposals s s' n id deed birth death) :
    (newborns (deed ++ birth ++ death) = [] ∧ s'.board.nextId = s.board.nextId) ∨
      ∃ child, newborns (deed ++ birth ++ death) = [child] ∧ child.id = s.board.nextId ∧
        s'.board.nextId = s.board.nextId + 1 := by
  have hdeed : Formicary.newborns deed = [] := by
    rcases h.deed with rfl | ⟨_, rfl, _⟩ | ⟨_, rfl, _⟩ <;> rfl
  have hdeath : Formicary.newborns death = [] := by
    rcases h.death with rfl | rfl <;> rfl
  rw [newborns_append, newborns_append, hdeed, hdeath, List.nil_append, List.append_nil]
  rcases h.birth with ⟨rfl, hnext⟩ | ⟨child, rfl, -, -, -, hid, -, hnext⟩
  · exact Or.inl ⟨rfl, hnext⟩
  · exact Or.inr ⟨child, rfl, hid, hnext⟩

/-- A proposal without a newborn that suits the board and moves no ant leads to the next stage of an
empty cell. -/
theorem Stage.propose (h : Stage b n s) {c : Change} (hsuits : c.Suits b (n + 1))
    (hsource : c.source? = none) (hchild : c.child? = none) (hempty : (b.content n).ant? = none) :
    Stage b (n + 1) (s.propose c) := by
  have hq : (s.propose c).queue.toList = s.queue.toList ++ [c] := Array.toList_push
  have hnew : newborns (s.propose c).queue.toList = newborns s.queue.toList := by
    rw [hq, newborns_append, newborns_cons, hchild]
    simp
  refine ⟨h.frozen, h.sound, ?_, h.counts, ?_, ?_, ?_, ?_, ?_⟩
  · rw [Board.residents_succ, hempty, Option.toList_none, List.append_nil]
    exact h.visited
  · intro c' hc'
    rw [hq] at hc'
    rcases List.mem_append.1 hc' with hc' | hc'
    · exact (h.suits c' hc').mono (Nat.le_succ n)
    · rw [List.mem_singleton.1 hc']
      exact hsuits
  · rw [hq]
    refine List.pairwise_append.2 ⟨h.order, List.pairwise_singleton _ _, ?_⟩
    intro c₁ _ c₂ hc₂ x hx
    rw [List.mem_singleton.1 hc₂, hsource] at hx
    cases hx
  · rw [hnew]
    exact h.numbered
  · rw [hnew]
    exact h.nextId
  · rw [hnew]
    exact Nat.le_succ_of_le h.births_le

/-- A visit that finds nothing to do leads to the next stage. -/
theorem Stage.pass (h : Stage b n s) (hempty : (b.content n).ant? = none) : Stage b (n + 1) s where
  frozen := h.frozen
  sound := h.sound
  visited := by
    rw [Board.residents_succ, hempty, Option.toList_none, List.append_nil]
    exact h.visited
  counts := h.counts
  suits c hc := (h.suits c hc).mono (Nat.le_succ n)
  order := h.order
  numbered := h.numbered
  nextId := h.nextId
  births_le := Nat.le_succ_of_le h.births_le

/-- The turn of the ant on the next cell leads to the next stage. -/
theorem Stage.turn (hb : b.WellFormed) (h : Stage b n s) {a : Ant} (hc : b.content n = .ant a.id)
    (hfind : s.board.arena.find? a.id = some a)
    (hturn : Turn { s with visited := a.id :: s.visited } n a s') : Stage b (n + 1) s' := by
  have hs : ({ s with visited := a.id :: s.visited } : Scan).board.WellFormed := h.wellFormed hb
  have ha : a.Sound := h.sound a (Arena.mem_of_find? hfind)
  obtain ⟨hfrozen, hsound⟩ := hturn.frozen hs ha
  obtain ⟨deed, birth, death, hprop, -⟩ := hturn.proposals hs ha
  have hq : s'.queue.toList = s.queue.toList ++ (deed ++ birth ++ death) := hprop.queue
  have hsuits := hprop.suits h.frozen hc
  have hbirths : (newborns s'.queue.toList).map Ant.id =
        consecutive b.nextId (newborns s'.queue.toList).length ∧
      s'.board.nextId = b.nextId + ((newborns s'.queue.toList).length : Int) ∧
      (newborns s'.queue.toList).length ≤ n + 1 := by
    rw [hq, newborns_append]
    rcases hprop.newborns with ⟨hnew, hnext⟩ | ⟨child, hnew, hid, hnext⟩
    · rw [hnew, List.append_nil]
      exact ⟨h.numbered, hnext.trans h.nextId, Nat.le_succ_of_le h.births_le⟩
    · have hid' : child.id = b.nextId + ((newborns s.queue.toList).length : Int) :=
        hid.trans h.nextId
      have hnext' : s'.board.nextId = b.nextId + ((newborns s.queue.toList).length : Int) + 1 := by
        rw [← h.nextId]
        exact hnext
      rw [hnew, List.map_append, List.length_append, List.length_singleton, consecutive_succ,
        h.numbered, List.map_singleton, hid', hnext', Int.natCast_add, Int.add_assoc]
      exact ⟨rfl, rfl, Nat.succ_le_succ h.births_le⟩
  refine ⟨h.frozen.trans hfrozen, hsound, ?_, h.counts.trans hturn.counts, ?_, ?_, hbirths.1,
    hbirths.2.1, hbirths.2.2⟩
  · rw [hturn.visited, h.visited, Board.residents_succ, hc]
    simp [Content.ant?]
  · intro c hmem
    rw [hq] at hmem
    rcases List.mem_append.1 hmem with hmem | hmem
    · exact (h.suits c hmem).mono (Nat.le_succ n)
    · exact hsuits c hmem
  · rw [hq]
    refine List.pairwise_append.2 ⟨h.order, hprop.order, ?_⟩
    -- earlier proposals take ants from earlier cells, a turn moves the ant of this one
    intro c hcq c' hc' x hx hx'
    have hlt : x < n := (h.suits c hcq).vacates?_lt hx'
    exact Nat.ne_of_lt hlt (hprop.source?_eq hc' hx)

/-- Every visit leads to the next stage. -/
theorem Stage.visit (hb : b.WellFormed) (h : Stage b n s) (hvisit : Visit s n draw s') :
    Stage b (n + 1) s' := by
  have hcontent := h.frozen.content
  cases hvisit with
  | grown free =>
    rw [hcontent] at free
    exact h.propose ⟨Nat.lt_succ_self n, free⟩ rfl rfl (by rw [free]; rfl)
  | bare free =>
    rw [hcontent] at free
    exact h.pass (by rw [free]; rfl)
  | stocked food =>
    rw [hcontent] at food
    exact h.pass (by rw [food]; rfl)
  | acted occupied found turn =>
    rw [hcontent] at occupied
    exact h.turn hb occupied found turn

/-- From every stage before the last there is a visit. -/
theorem Stage.exists_visit (hb : b.WellFormed) (h : Stage b n s) (hn : n < b.size) (draw : Nat) :
    ∃ s', s.visit n draw = .ok s' ∧ Visit s n draw s' := by
  refine Scan.exists_visit (h.wellFormed hb) (h.frozen.size.symm ▸ hn) ?_ draw
  intro id hc
  rw [h.visited, List.mem_reverse]
  exact hb.lodged.notMem_residents (h.frozen.content ▸ hc)

/-! ### A whole scan -/

/-- Successive visits of the cells from the `n`th on, one for each draw, with the stages that the
scan goes through. -/
inductive Visits (b : Board) : Nat → Scan → List Nat → Scan → Prop
  | done {n : Nat} {s : Scan} (stage : Stage b n s) : Visits b n s [] s
  | next {n draw : Nat} {s s₁ s' : Scan} {draws : List Nat} (stage : Stage b n s)
      (lt_size : n < b.size) (ran : s.visit n draw = .ok s₁) (visit : Visit s n draw s₁)
      (rest : Visits b (n + 1) s₁ draws s') : Visits b n s (draw :: draws) s'

/-- There are visits as long as there are cells. -/
theorem exists_visits (hb : b.WellFormed) (draws : List Nat) (h : Stage b n s)
    (hn : n + draws.length ≤ b.size) : ∃ s', Visits b n s draws s' := by
  induction draws generalizing n s with
  | nil => exact ⟨s, .done h⟩
  | cons draw draws ih =>
    rw [List.length_cons] at hn
    have hlt : n < b.size := by omega
    obtain ⟨s₁, hran, hvisit⟩ := h.exists_visit hb hlt draw
    obtain ⟨s', hrest⟩ := ih (h.visit hb hvisit) (by omega)
    exact ⟨s', .next h hlt hran hvisit hrest⟩

/-- Visits end in the stage of their number. -/
theorem Visits.stage {draws : List Nat} (h : Visits b n s draws s') :
    Stage b (n + draws.length) s' := by
  induction h with
  | done stage => exact stage
  | next stage lt_size ran visit rest ih =>
    rw [List.length_cons, Nat.add_comm _ 1, ← Nat.add_assoc]
    exact ih

/-- Visits are what the fold over the cells and their draws does. -/
theorem Visits.foldlM_eq {draws : List Nat} (h : Visits b n s draws s') :
    ((List.range' n draws.length).zip draws).foldlM (fun s p => s.visit p.1 p.2) s = .ok s' := by
  induction h with
  | done => rfl
  | next stage lt_size ran visit rest ih =>
    rw [List.length_cons, List.range'_succ, List.zip_cons_cons, List.foldlM_cons, ran]
    exact ih

/-- The units drawn for the growth of the cells, and the random numbers that are left. -/
def growthDraws (b : Board) : List Nat × Random.Stream :=
  Random.Stream.draws Random.Stream.unit b.size b.random

/-- A unit is drawn for every cell. -/
theorem length_growthDraws (b : Board) : (growthDraws b).1.length = b.size :=
  Random.Stream.length_draws Random.Stream.unit b.size b.random

/-- A scan before its first visit. -/
def opening (b : Board) : Scan := start { b with random := (growthDraws b).2 }

/-- All the visits of a scan of a board, one after the other. -/
def Completes (b : Board) (s : Scan) : Prop := Visits b 0 (opening b) (growthDraws b).1 s

/-- A scan of a well-formed board completes. -/
theorem exists_completes (hb : b.WellFormed) : ∃ s, Completes b s :=
  exists_visits hb (growthDraws b).1 (.start hb (growthDraws b).2)
    (Nat.le_of_eq (by rw [length_growthDraws, Nat.zero_add]))

/-- The visits of all the cells are a run of the scan. -/
theorem Completes.run_eq (h : Completes b s) : Scan.run b = .ok s := by
  have hfold := Visits.foldlM_eq h
  rw [length_growthDraws, ← List.range_eq_range'] at hfold
  exact hfold

/-- A scan that completes is at its last stage. -/
theorem Completes.stage (h : Completes b s) : Stage b b.size s := by
  have hstage := Visits.stage h
  rwa [length_growthDraws, Nat.zero_add] at hstage

/-- A scan of a well-formed board that ran has visited all the cells. -/
theorem completes_of_run (hb : b.WellFormed) (h : Scan.run b = .ok s) : Completes b s := by
  obtain ⟨s', hs'⟩ := exists_completes hb
  have heq : s' = s := Except.ok.inj (hs'.run_eq.symm.trans h)
  exact heq ▸ hs'

end Scan

end Formicary
