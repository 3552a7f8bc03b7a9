import Formicary.Board.Census
import Formicary.Proofs.Counters
import Formicary.Proofs.Lineage
import Formicary.Proofs.Outcome
import Formicary.Proofs.Succession

/-!
# Extinction and heredity

Birth is the only way in, and a child has the team of its parent and as many instructions.  So a
team that has died out is gone for good, and no new length of tape ever appears
(`Board.WellFormed.heirs_of_ticksFrom`).

When the last ant is gone a scan proposes nothing but growth.  From then on nobody comes, nothing
but growth is counted, and cells change from empty to food and in no other way.
`Board.Fallow` says so of a later board; one tick leads from one such board to the next
(`Board.Fallow.tick`).
-/

namespace Formicary

namespace Board

/-- A board without ants, some time after another one: nothing but growth has been counted in the
last tick in between, food is where it was, and where the cells were empty at most food has
grown. -/
structure Fallow (b b' : Board) : Prop where
  extinct : b'.arena.ants = []
  counters : b.ticks < b'.ticks → b'.lastTally = { foodGrown := b'.lastTally.foodGrown }
  food : ∀ n : Nat, b.kinds[n]? = some CellKind.food → b'.kinds[n]? = some CellKind.food
  empty : ∀ n : Nat, b.kinds[n]? = some CellKind.empty →
    b'.kinds[n]? = some CellKind.empty ∨ b'.kinds[n]? = some CellKind.food

variable {b b' b'' : Board} {s : Scan} {n : Nat} {t : Team}

/-! ### Heredity -/

/-- A team has died out if and only if no ant of the arena is of it. -/
theorem populationOf_eq_zero_iff :
    b.populationOf t = 0 ↔ ∀ a ∈ b.arena.ants, a.team ≠ t := by
  rw [populationOf, List.countP_eq_zero]
  simp only [beq_iff_eq, ne_eq]

/-- After any number of ticks every ant has its team and the length of its tape from an ant of the
start. -/
theorem WellFormed.heirs_of_ticksFrom (hb : b.WellFormed) (h : b.ticksFrom n = .ok b') :
    ∀ y ∈ b'.arena.ants, ∃ x ∈ b.arena.ants, y.team = x.team ∧ y.gene.length = x.gene.length := by
  refine hb.ticksFrom_induct
    (P := fun b' => ∀ y ∈ b'.arena.ants, ∃ x ∈ b.arena.ants, y.team = x.team ∧
      y.gene.length = x.gene.length) (fun y hy => ⟨y, hy, rfl, rfl⟩) ?_ h
  intro b₁ b₂ hb₁ htick ih y hy
  rcases hb₁.succession htick hy with ⟨x, hx, hpersists⟩ | ⟨-, x, hx, hbegets⟩
  · rw [hpersists.team, hpersists.length]
    exact ih x hx
  · rw [hbegets.team, hbegets.length]
    exact ih x hx

/-- Ticks keep the configuration. -/
theorem WellFormed.config_of_ticksFrom (hb : b.WellFormed) (h : b.ticksFrom n = .ok b') :
    b'.config = b.config :=
  hb.ticksFrom_induct (P := fun b' => b'.config = b.config) rfl
    (fun hb₁ htick ih => (hb₁.frame_of_tick htick).1.trans ih) h

/-! ### A tick without ants -/

/-- Without ants a scan proposes nothing but growth. -/
theorem WellFormed.growth_of_extinct (hb : b.WellFormed) (hs : Scan.Completes b s)
    (h : b.arena.ants = []) : ∀ c ∈ s.queue.toList, ∃ n, c = .growFood n := by
  intro c hc
  rcases (hs.assembled hb).source c hc with hgrowth | ⟨e, he, -⟩
  · cases c with
    | growFood n => exact ⟨n, rfl⟩
    | removeFood n => cases hgrowth
    | swap target source => cases hgrowth
    | born n child => cases hgrowth
    | death n id => cases hgrowth
  · obtain ⟨x, hx, -⟩ := hs.standing_of_mem hb e he
    have hmem := Arena.mem_of_find? (standing?_eq_some_iff.1 hx).2
    rw [h] at hmem
    cases hmem

/-- Without ants nobody is born. -/
theorem WellFormed.newborns_of_extinct (hb : b.WellFormed) (hs : Scan.Completes b s)
    (h : b.arena.ants = []) : newborns s.queue.toList = [] := by
  refine List.eq_nil_iff_forall_not_mem.2 fun y hy => ?_
  obtain ⟨n, hborn⟩ := mem_newborns.1 hy
  obtain ⟨m, hm⟩ := hb.growth_of_extinct hs h _ hborn
  cases hm

/-- A tick without ants counts nothing but growth. -/
theorem WellFormed.counters_of_extinct (hb : b.WellFormed) (h : b.arena.ants = [])
    (htick : b.tick = .ok b') : b'.lastTally = { foodGrown := b'.lastTally.foodGrown } := by
  obtain ⟨s, hs⟩ := Scan.exists_completes hb
  have hbooks := hb.books hs htick
  have hof := hb.of_tick htick
  simp only [h, List.countP_nil] at hof
  have hborn := hb.newborns_of_extinct hs h
  -- nobody was there and nobody was born, so nobody has left
  have hleft : departures b.content s.queue.toList = [] := by
    have hlength := hbooks.perm.length_eq
    simp only [Arena.ids, h, hborn, List.map_nil, List.append_nil, List.length_nil,
      List.length_append, List.length_map] at hlength
    exact List.length_eq_zero_iff.1 (by omega)
  have hbirths := hbooks.births
  have hdeaths := hbooks.deaths
  have hoverwritten := hbooks.overwritten
  rw [hborn, List.length_nil] at hbirths
  rw [hleft, List.countP_nil] at hdeaths hoverwritten
  have hattacks : b'.lastTally.attacks = 0 := hof .attack
  have hhits : b'.lastTally.hits = 0 := hof .hit
  have heaten : b'.lastTally.foodEaten = 0 := hof .meal
  have hmoves : b'.lastTally.moves = 0 := hof .move
  have hmutations : b'.lastTally.mutations = 0 := hof .mutation
  cases hlast : b'.lastTally with
  | mk grown eaten moves attacks hits births deaths overwritten mutations =>
    rw [hlast] at hattacks hhits heaten hmoves hmutations hbirths hdeaths hoverwritten
    rw [Tally.mk.injEq]
    exact ⟨rfl, heaten, hmoves, hattacks, hhits, hbirths, hdeaths, hoverwritten, hmutations⟩

/-- What a cell becomes in a tick without ants. -/
theorem WellFormed.content_of_extinct (hb : b.WellFormed) (h : b.arena.ants = [])
    (htick : b.tick = .ok b') (n : Nat) : (b.content n = .food → b'.content n = .food) ∧
      (b.content n = .empty → b'.content n = .empty ∨ b'.content n = .food) := by
  obtain ⟨s, hs⟩ := Scan.exists_completes hb
  obtain ⟨-, hcommit, rfl⟩ := hb.commit_of_tick hs htick
  have houtcome := hb.outcome_of_commit hs (List.append_nil _).symm hcommit n
  have hgrowth := hb.growth_of_extinct hs h
  constructor
  · intro hfood
    refine (houtcome.food hfood).trans (if_neg fun hmem => ?_)
    obtain ⟨m, hm⟩ := hgrowth _ hmem
    cases hm
  · intro hempty
    change s.committed.board.content n = .empty ∨ s.committed.board.content n = .food
    rw [houtcome.empty hempty, register]
    cases hlast : (s.queue.toList.filter (·.cell == n)).getLast? with
    | none => exact Or.inl rfl
    | some c =>
      obtain ⟨m, rfl⟩ := hgrowth c (List.mem_of_mem_filter (List.mem_of_getLast? hlast))
      exact Or.inr rfl

/-- A cell of a certain kind is on the board, and holds a thing of that kind. -/
theorem WellFormed.of_kinds_eq_some (hb : b.WellFormed) {k : CellKind}
    (h : b.kinds[n]? = some k) : n < b.size ∧ (b.content n).kind = k := by
  have hn : n < b.size := (Array.getElem?_eq_some_iff.1 h).1
  rw [hb.displays.kind n hn, Option.some.injEq] at h
  exact ⟨hn, h⟩

/-- What the kind of a cell becomes in a tick without ants. -/
theorem WellFormed.kinds_of_extinct (hb : b.WellFormed) (h : b.arena.ants = [])
    (htick : b.tick = .ok b') (n : Nat) :
    (b.kinds[n]? = some CellKind.food → b'.kinds[n]? = some CellKind.food) ∧
      (b.kinds[n]? = some CellKind.empty →
        b'.kinds[n]? = some CellKind.empty ∨ b'.kinds[n]? = some CellKind.food) := by
  obtain ⟨hfood, hempty⟩ := hb.content_of_extinct h htick n
  have hkind : ∀ {x : Content}, n < b.size → b'.content n = x → b'.kinds[n]? = some x.kind := by
    rintro x hn rfl
    exact (hb.tick htick).displays.kind n ((hb.size_of_tick htick).1 ▸ hn)
  constructor
  · intro hk
    obtain ⟨hn, hc⟩ := hb.of_kinds_eq_some hk
    exact hkind hn (hfood (Content.kind_eq_food_iff.1 hc))
  · intro hk
    obtain ⟨hn, hc⟩ := hb.of_kinds_eq_some hk
    exact (hempty (Content.kind_eq_empty_iff.1 hc)).imp (hkind hn) (hkind hn)

/-- In a tick without ants nobody comes. -/
theorem WellFormed.extinct_after_tick (hb : b.WellFormed) (h : b.arena.ants = [])
    (htick : b.tick = .ok b') : b'.arena.ants = [] := by
  refine List.eq_nil_iff_forall_not_mem.2 fun y hy => ?_
  obtain ⟨x, hx⟩ : ∃ x, x ∈ b.arena.ants := by
    rcases hb.succession htick hy with ⟨x, hx, -⟩ | ⟨-, x, hx, -⟩
    · exact ⟨x, hx⟩
    · exact ⟨x, hx⟩
  rw [h] at hx
  cases hx

/-- A tick without ants completes, and gives out no ids. -/
theorem WellFormed.exists_tick_of_extinct (hb : b.WellFormed) (h : b.arena.ants = [])
    (hids : b.nextId ≤ idLimit) : ∃ b', b.tick = .ok b' ∧ b'.nextId = b.nextId := by
  obtain ⟨s, hs⟩ := Scan.exists_completes hb
  have hborn := hb.newborns_of_extinct hs h
  rcases hb.tick_cases hs with ⟨-, -, htick⟩ | ⟨id, halted, -, hle, hlt, -⟩
  · refine ⟨_, htick, ?_⟩
    rw [(hb.books hs htick).nextId, hborn]
    exact Int.add_zero b.nextId
  · -- a tick halts only at an id that has been given out in it
    have hnext : s.board.nextId = b.nextId := by
      rw [hs.stage.nextId, hborn]
      exact Int.add_zero b.nextId
    omega

/-! ### Many ticks without ants -/

/-- A board without ants is fallow, and stays so in a tick. -/
theorem Fallow.tick (hb' : b'.WellFormed) (h : b.Fallow b') (htick : b'.tick = .ok b'') :
    b.Fallow b'' := by
  have hkinds := hb'.kinds_of_extinct h.extinct htick
  refine ⟨hb'.extinct_after_tick h.extinct htick,
    fun _ => hb'.counters_of_extinct h.extinct htick,
    fun n hfood => (hkinds n).1 (h.food n hfood), fun n hempty => ?_⟩
  rcases h.empty n hempty with hk | hk
  · exact (hkinds n).2 hk
  · exact Or.inr ((hkinds n).1 hk)

/-- A board without ants lies fallow. -/
theorem WellFormed.fallow_of_ticksFrom (hb : b.WellFormed) (hextinct : b.arena.ants = [])
    (h : b.ticksFrom n = .ok b') : b.Fallow b' :=
  hb.ticksFrom_induct (P := b.Fallow)
    ⟨hextinct, fun hlt => (Nat.lt_irrefl _ hlt).elim, fun _ hfood => hfood,
      fun _ hempty => Or.inl hempty⟩
    (fun hb₁ htick hfallow => hfallow.tick hb₁ htick) h

/-- Without ants no ids are given out, so that ticks always complete. -/
theorem WellFormed.exists_ticksFrom_of_extinct (hb : b.WellFormed) (hextinct : b.arena.ants = [])
    (hids : b.nextId ≤ idLimit) (n : Nat) : ∃ b', b.ticksFrom n = .ok b' := by
  induction n generalizing b with
  | zero => exact ⟨b, rfl⟩
  | succ n ih =>
    obtain ⟨b₁, htick, hnext⟩ := hb.exists_tick_of_extinct hextinct hids
    obtain ⟨b', hrest⟩ := ih (hb.tick htick) (hb.extinct_after_tick hextinct htick) (hnext ▸ hids)
    refine ⟨b', ?_⟩
    rw [Board.ticksFrom, htick]
    exact hrest

end Board

/-! ### The future of a board -/

/-- However long a board is ticked, a team that has died out does not come back, and the tapes have
lengths that there were at the start; on a board that has been generated, that is the length of the
configuration.  Once there are no ants the board lies fallow, and its ticks complete.  The board
need only be well formed, as reachable ones are (`Reachable.wellFormed`). -/
theorem extinction_is_absorbing {b : Board} (hb : b.WellFormed) :
    (∀ n b', b.ticksFrom n = .ok b' →
      (∀ t, b.populationOf t = 0 → b'.populationOf t = 0) ∧
      (∀ y ∈ b'.arena.ants, ∃ x ∈ b.arena.ants, y.gene.length = x.gene.length) ∧
      (∀ memory w k config random, (∀ c, config = some c → c.Integral ∧ c.check = .ok c) →
        Board.generate memory (.int w) (.int k) config random = .ok b →
        ∀ y ∈ b'.arena.ants, b'.config.value .geneLength = .int y.gene.length) ∧
      (b.arena.ants = [] → b'.ticks = b.ticks + n ∧ b.Fallow b')) ∧
    (∀ n : Nat, b.nextId + n * b.size ≤ idLimit → ∃ b', b.ticksFrom n = .ok b') ∧
    (b.arena.ants = [] → b.nextId ≤ idLimit → ∀ n, ∃ b', b.ticksFrom n = .ok b') := by
  refine ⟨fun n b' h => ?_, hb.exists_ticksFrom, hb.exists_ticksFrom_of_extinct⟩
  have hheirs := hb.heirs_of_ticksFrom h
  refine ⟨fun t ht => ?_, fun y hy => ?_, ?_, fun hextinct =>
    ⟨hb.ticks_of_ticksFrom h, hb.fallow_of_ticksFrom hextinct h⟩⟩
  · refine Board.populationOf_eq_zero_iff.2 fun y hy hteam => ?_
    obtain ⟨x, hx, hkin, -⟩ := hheirs y hy
    exact Board.populationOf_eq_zero_iff.1 ht x hx (hkin.symm.trans hteam)
  · obtain ⟨x, hx, -, hlength⟩ := hheirs y hy
    exact ⟨x, hx, hlength⟩
  · intro memory w k config random checked generate y hy
    obtain ⟨x, hx, -, hlength⟩ := hheirs y hy
    obtain ⟨hint, hfounded⟩ := Board.founded_of_generate checked generate
    rw [hb.config_of_ticksFrom h, hlength]
    exact hfounded.length_eq hint hx

/-- The row after its only ant has spent its last energy and a cell has been cleared. -/
def barren : Board :=
  (Op.clear 2).after (Op.tick.after
    ((Op.placeFood 3).after (emptyRow.enter 0 (simpleton 0 .red .attack 1 .west))))

/-- The barren row is in order. -/
theorem wellFormed_barren : barren.WellFormed := by
  have hlast : Reachable ((Op.placeFood 3).after
      (emptyRow.enter 0 (simpleton 0 .red .attack 1 .west))) :=
    .step (.placeFood 3) (.enter_simpleton reachable_emptyRow) trivial
  exact (Reachable.step (.clear 2) (.step .tick hlast trivial) trivial).wellFormed
    (by decide +kernel)

/-- On the barren row, food grows back on the cell that has been cleared, and nothing else happens.
In the nursery there are founders of two teams; three ticks later there is still nobody of the
others, and the tapes of all ants are as long as configured. -/
theorem barren_extinction :
    (barren.WellFormed ∧ barren.arena.ants = [] ∧ barren.nextId ≤ idLimit ∧
      barren.lastTally.deaths = 1 ∧ barren.kinds[2]? = some .empty ∧
      ∃ b', barren.ticksFrom 2 = .ok b' ∧ b'.ticks = 3 ∧ b'.kinds[2]? = some .food ∧
        barren.Fallow b') ∧
    (∀ c, some nurseryConfig = some c → c.Integral ∧ c.check = .ok c) ∧
    ∃ b b', Board.generate .unbounded (.int 4) (.int 2) (some nurseryConfig)
        (some (.ofSeed 2)) = .ok b ∧
      b.ticksFrom 3 = .ok b' ∧ b'.arena.size = 7 ∧ b.populationOf .blue = 0 ∧
      b'.populationOf .blue = 0 ∧ b'.populationOf .red = 3 ∧
      ∀ y ∈ b'.arena.ants, b'.config.value .geneLength = .int y.gene.length := by
  refine ⟨?_, checked_nurseryConfig, ?_⟩
  · have hextinct : barren.arena.ants = [] := by decide +kernel
    have hids : barren.nextId ≤ idLimit := by decide +kernel
    have hgrown : ((barren.ticksFrom 2).toOption.bind fun b' => b'.kinds[2]?) = some .food := by
      decide +kernel
    obtain ⟨hruns, -, hexists⟩ := extinction_is_absorbing wellFormed_barren
    obtain ⟨b', hrun⟩ := hexists hextinct hids 2
    obtain ⟨hticks, hfallow⟩ := (hruns 2 b' hrun).2.2.2 hextinct
    rw [hrun] at hgrown
    exact ⟨wellFormed_barren, hextinct, hids, by decide +kernel, by decide +kernel, b', hrun,
      hticks.trans (by decide +kernel), hgrown, hfallow⟩
  · have hlater : ((Board.generate .unbounded (.int 4) (.int 2) (some nurseryConfig)
        (some (.ofSeed 2))).toOption.bind fun b => (b.ticksFrom 3).toOption.map fun b' =>
          (b.populationOf .blue, b'.arena.size, b'.populationOf .red)) = some (0, 7, 3) := by
      decide +kernel
    obtain ⟨b, b', hgenerate, hrun, hvalues⟩ := exists_run_of_eq_some hlater
    simp only [Prod.mk.injEq] at hvalues
    obtain ⟨hnone, hsize, hred⟩ := hvalues
    have hb := (Board.founded_of_generate checked_nurseryConfig hgenerate).2.wellFormed
    obtain ⟨hteams, -, htapes, -⟩ := (extinction_is_absorbing hb).1 3 b' hrun
    exact ⟨b, b', hgenerate, hrun, hsize, hnone, hteams .blue hnone, hred,
      htapes _ 4 2 _ _ checked_nurseryConfig hgenerate⟩

end Formicary
