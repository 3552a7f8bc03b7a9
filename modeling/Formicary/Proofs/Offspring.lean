import Formicary.Proofs.Succession
import Mathlib.Data.Set.Function

/-!
# Children and their parents after a tick

A child is made in the middle of the turn of its parent, after all that the parent has done in the
tick by itself, and waits in the queue until the commit.  In the meantime other ants may strike the
parent, and nothing else happens to either of them.  So after the tick the two are still the same
but for the id, the age, the generation and the damage (`Ant.Mirrors`), even if the parent has been
put out.

An ant splits once in a tick, so different newborns have different parents.  This is the count of
births by cells, `Scan.Completes.eq_of_born`.
-/

namespace Formicary

/-- A child and its parent after the tick of its birth: the child has the team, the direction, the
sensor, the tape and the pointer of the parent, it is new and of the next generation, and it has as
much more energy than the parent as that has lost. -/
structure Ant.Mirrors (y z : Ant) (lost : Int) : Prop where
  team : y.team = z.team
  direction : y.direction = z.direction
  sensor : y.sensor = z.sensor
  code : y.gene.code = z.gene.code
  pointer : y.gene.pointer = z.gene.pointer
  generation : ∃ g, z.generation = .int g ∧ y.generation = .int (g + 1)
  age : y.age = .int 0
  energy : ∃ v, y.energy = .int v ∧ z.energy = .int (v - lost)

variable {b b' : Board} {s s' : Scan} {n m : Nat} {x y y' z : Ant} {e e' : Account}
  {cost meal divisor limit : Int}

namespace Scan

/-! ### One birth for a cell -/

/-- A birth in a queue to which an account has contributed was there before, or is that of the
account. -/
theorem born_of_contributes {deed birth q : List Change} (h : e.Contributes b deed birth)
    (hmem : .born m y ∈ q ++ (deed ++ birth ++ e.death)) :
    .born m y ∈ q ∨ e.cell = m + 1 ∧ birth = [.born m y] := by
  refine (List.mem_append.1 hmem).imp_right fun hlast => ?_
  obtain ⟨hcell, -, hbirth⟩ := h.of_born_mem hlast
  exact ⟨hcell, hbirth⟩

/-- When the first `n` cells have been visited, births are queued for the cells before these, and
for each of them at most one. -/
theorem Completes.births (hb : b.WellFormed) (hs : Completes b s) :
    (∀ m y, .born m y ∈ s.queue.toList → m + 1 < b.size) ∧
      ∀ m y y', .born m y ∈ s.queue.toList → .born m y' ∈ s.queue.toList → y = y' := by
  refine hs.induct hb (P := fun n s _ => (∀ m y, .born m y ∈ s.queue.toList → m + 1 < n) ∧
    ∀ m y y', .born m y ∈ s.queue.toList → .born m y' ∈ s.queue.toList → y = y')
    ⟨fun _ _ hborn => (List.not_mem_nil hborn).elim,
      fun _ _ _ hborn => (List.not_mem_nil hborn).elim⟩ ?_
  intro n draw s s' o J hn hdraw hstage hcourse hentry ih
  obtain ⟨hlt, hone⟩ := ih
  cases hentry with
  | grown =>
    have hold : ∀ {m y}, .born m y ∈ (s.propose (.growFood n)).queue.toList →
        .born m y ∈ s.queue.toList := by
      intro m y hborn
      rw [propose, Array.toList_push] at hborn
      exact (List.mem_append.1 hborn).resolve_right (by simp)
    exact ⟨fun m y hborn => Nat.lt_succ_of_lt (hlt m y (hold hborn)),
      fun m y y' hborn hborn' => hone m y y' (hold hborn) (hold hborn')⟩
  | bare => exact ⟨fun m y hborn => Nat.lt_succ_of_lt (hlt m y hborn), hone⟩
  | stocked => exact ⟨fun m y hborn => Nat.lt_succ_of_lt (hlt m y hborn), hone⟩
  | acted hcell occupied found tells =>
    rename_i e
    have hc : s.board.content e.cell = .ant e.met.id := by
      rw [hcell, hstage.frozen.content, occupied]
    obtain ⟨deed, birth, hqueue, hcontributes⟩ :=
      Tells.contributes (s := { s with visited := e.met.id :: s.visited }) (hstage.wellFormed hb)
        (hstage.sound _ (Arena.mem_of_find? found)) hc tells
    rw [hqueue]
    constructor
    · intro m y hborn
      rcases born_of_contributes hcontributes hborn with hold | ⟨hnew, -⟩
      · exact Nat.lt_succ_of_lt (hlt m y hold)
      · omega
    · intro m y y' hborn hborn'
      rcases born_of_contributes hcontributes hborn with hold | ⟨hnew, rfl⟩
      · rcases born_of_contributes hcontributes hborn' with hold' | ⟨hnew', -⟩
        · exact hone m y y' hold hold'
        · have := hlt m y hold
          omega
      · rcases born_of_contributes hcontributes hborn' with hold' | ⟨-, hbirth⟩
        · have := hlt m y' hold'
          omega
        · rw [List.singleton_inj, Change.born.injEq] at hbirth
          exact hbirth.2

/-- Two children that are born for the same cell are the same. -/
theorem Completes.eq_of_born (hb : b.WellFormed) (hs : Completes b s)
    (hborn : .born m y ∈ s.queue.toList) (hborn' : .born m y' ∈ s.queue.toList) : y = y' :=
  (hs.births hb).2 m y y' hborn hborn'

/-! ### Parents after the tick -/

/-- What is left of a parent mirrors its child. -/
theorem Completes.mirrors (hb : b.WellFormed) (hs : Completes b s)
    (hprices : b.Prices cost meal divisor limit) (he : e ∈ b.journal)
    (hx : b.standing? e.cell = some x) (hbears : e.Bears y)
    (hz : s.board.arena.find? x.id = some z) :
    y.Mirrors z (b.toll divisor x (b.journal.filter (e.cell < ·.cell))) := by
  obtain ⟨x', hx', hmet, hparted⟩ := hs.standing_of_mem hb e he
  obtain rfl : x' = x := Option.some.inj (hx'.symm.trans hx)
  have hid : e.met.id = x'.id := by rw [hmet]
  obtain ⟨hpersists, v, hv⟩ := hs.find?_parted hb he
  obtain rfl : z = { e.parted with energy := v } := Option.some.inj (hz.symm.trans (hid ▸ hv))
  -- the energy that is left is what the reckoning of the journal says
  have hn := Board.lt_size_of_content_ne (n := e.cell) (b := b) (by
    rw [(Board.standing?_eq_some_iff.1 hx).1]
    exact Content.noConfusion)
  obtain ⟨e', he', hcell, -, z', hz', hworth⟩ := (hs.reckons hb hprices).acted hn hx
  obtain rfl : e' = e := hs.eq_of_cell hb he' he hcell
  obtain rfl := Option.some.inj (hz'.symm.trans hz)
  have hleft := (hs.stage.sound _ (Arena.mem_of_find? hz)).energy_eq
  rw [hworth] at hleft
  obtain ⟨-, hframe, g, hg, hnext⟩ := hbears
  refine ⟨?_, ?_, ?_, ?_, ?_, ⟨g, ?_, hnext⟩, ?_, e'.parted.worth, ?_, hleft⟩
  · rw [hframe]
  · rw [hframe]
  · rw [hframe]
  · rw [hframe]
  · rw [hframe]
  · rw [← hg]
    exact hpersists.generation
  · rw [hframe]
  · rw [hframe]
    exact hparted

end Scan

/-- A newborn and its parent: the parent `x` is an ant of the start that stood after an empty cell
and split, and `e` is its account.  Among the ants that are left after the tick there is one that
has the id of the parent, and that mirrors the newborn, but for the damage that was done to the
parent after its turn. -/
structure Board.Parentage (b : Board) (divisor : Int) (left : List Ant) (y x : Ant)
    (e : Account) : Prop where
  parent : x ∈ b.arena.ants
  account : e ∈ b.journal
  met : e.met.id = x.id
  cell : b.indexOfAnt? x.id = some e.cell
  pos : 0 < e.cell
  empty : b.kinds[e.cell - 1]? = some .empty
  split : e.split = true
  found : ∃ z ∈ left, z.id = x.id
  mirrors : ∀ z ∈ left, z.id = x.id →
    y.Mirrors z (b.toll divisor x (b.journal.filter (e.cell < ·.cell)))

/-- Every newborn of a tick has a parent. -/
theorem Board.WellFormed.exists_parentage (hb : b.WellFormed) (hs : Scan.Completes b s)
    (hprices : b.Prices cost meal divisor limit) (htick : b.tick = .ok b')
    (hy : y ∈ b'.arena.ants) (hnew : b.nextId ≤ y.id) :
    ∃ x e, b.Parentage divisor
        (b'.arena.ants ++ Commit.evicted ⟨s.board, s.tally⟩ s.queue.toList) y x e ∧
      .born (e.cell - 1) y ∈ s.queue.toList := by
  have hborn : y ∈ newborns s.queue.toList := by
    have hmem := hy
    rw [hb.eq_completed hs htick] at hmem
    refine (Commit.mem_ants_foldl (c := ⟨s.board, s.tally⟩) (hs.stage.pending hb)
      hmem).resolve_left fun hold => ?_
    have hid := Arena.mem_ids_of_mem hold
    rw [hs.stage.frozen.ids] at hid
    exact Int.not_lt.2 hnew (hb.peopled.id_lt _ hid)
  obtain ⟨e, he, hpos, hempty, hqueued, hbears⟩ := hs.exists_parent_of_newborn hb hborn
  obtain ⟨x, hx, hmet, -⟩ := hs.standing_of_mem hb e he
  obtain ⟨hc, hfind⟩ := standing?_eq_some_iff.1 hx
  have hn := lt_size_of_content_ne (n := e.cell) (b := b) (by rw [hc]; exact Content.noConfusion)
  obtain ⟨e', he', hx', -, v, hv⟩ := hs.exists_parted hb (Arena.mem_of_find? hfind)
  obtain ⟨hleft, hunique⟩ := hb.kept_of_tick hs htick (Arena.mem_of_find? hfind) hv
  have hmirrors := hs.mirrors hb hprices he hx hbears hv
  refine ⟨x, e, ⟨Arena.mem_of_find? hfind, he, by rw [hmet], hb.indexOfAnt?_eq hc, hpos, ?_,
    hbears.split, ⟨_, hleft, Arena.id_of_find? hv⟩, fun z hz hid => ?_⟩, hqueued⟩
  · rw [hb.displays.kind (e.cell - 1) (by omega), hempty]
    rfl
  · rw [hunique z hz hid]
    exact hmirrors

/-- Every newborn of a tick has a parent of its own: an ant of the start that stood after an empty
cell and split.  After the tick the two are the same but for the id, the age, the generation, and
the damage that was done to the parent by ants that had their turns after it, and that is so even if
the parent has been put out.  The board need only be well formed, as reachable ones are
(`Reachable.wellFormed`). -/
theorem newborns_mirror_parents {b : Board} (hb : b.WellFormed) :
    ∃ cost meal divisor limit s, b.Prices cost meal divisor limit ∧ Scan.run b = .ok s ∧
      (∀ b', b.tick = .ok b' → ∃ parent : Ant → Ant,
        Set.InjOn parent {y | y ∈ b'.arena.ants ∧ b.nextId ≤ y.id} ∧
        ∀ y ∈ b'.arena.ants, b.nextId ≤ y.id → ∃ e, b.Parentage divisor
          (b'.arena.ants ++ Commit.evicted ⟨s.board, s.tally⟩ s.queue.toList) y (parent y) e) ∧
      (b.nextId + b.size ≤ idLimit → ∃ b', b.tick = .ok b') := by
  obtain ⟨cost, meal, divisor, limit, hprices⟩ := hb.exists_prices
  obtain ⟨s, hs⟩ := Scan.exists_completes hb
  refine ⟨cost, meal, divisor, limit, s, hprices, hs.run_eq, ?_, hb.exists_tick⟩
  intro b' htick
  have hchoice : ∀ y : Ant, ∃ x : Ant, y ∈ b'.arena.ants ∧ b.nextId ≤ y.id →
      ∃ e, b.Parentage divisor
          (b'.arena.ants ++ Commit.evicted ⟨s.board, s.tally⟩ s.queue.toList) y x e ∧
        .born (e.cell - 1) y ∈ s.queue.toList := by
    intro y
    by_cases h : y ∈ b'.arena.ants ∧ b.nextId ≤ y.id
    · obtain ⟨x, e, hparentage⟩ := hb.exists_parentage hs hprices htick h.1 h.2
      exact ⟨x, fun _ => ⟨e, hparentage⟩⟩
    · exact ⟨y, fun h' => (h h').elim⟩
  choose parent hparent using hchoice
  refine ⟨parent, ?_, ?_⟩
  · -- the parent stood on one cell, and there is one birth for the cell before it
    intro y hy y' hy' hsame
    obtain ⟨e, hp, hborn⟩ := hparent y hy
    obtain ⟨e', hp', hborn'⟩ := hparent y' hy'
    have hcell : e.cell = e'.cell := by
      have hindex := hp.cell
      rw [hsame, hp'.cell, Option.some.injEq] at hindex
      exact hindex.symm
    rw [hcell] at hborn
    exact hs.eq_of_born hb hborn hborn'
  · intro y hy hnew
    obtain ⟨e, hp, -⟩ := hparent y ⟨hy, hnew⟩
    exact ⟨e, hp⟩

/-- In the crossfire the ant in the middle has a child with 144 units, of which five more are lost
to the ant itself. -/
theorem crossfire_child :
    crossfire.WellFormed ∧ crossfire.nextId + crossfire.size ≤ idLimit ∧ ∃ b' y z,
      crossfire.tick = .ok b' ∧ y ∈ b'.arena.ants ∧ z ∈ b'.arena.ants ∧ y.id = 3 ∧ z.id = 0 ∧
        y.Mirrors z 5 ∧ y.energy = .int 144 ∧ z.energy = .int 139 := by
  have hroom : crossfire.nextId + crossfire.size ≤ idLimit := by decide +kernel
  obtain ⟨cost, meal, divisor, limit, s, hprices, -, hparents, hexists⟩ :=
    newborns_mirror_parents wellFormed_crossfire
  obtain ⟨b', htick⟩ := hexists hroom
  obtain rfl : divisor = 10 := Value.int.inj (hprices.divisor_eq.symm.trans rfl)
  have hants : (crossfire.tick.toOption.map fun b' => b'.arena.ants.map fun a => (a.id, a.energy)) =
      some [(0, .int 139), (1, .int 100), (2, .int 51), (3, .int 144)] := by
    decide +kernel
  rw [htick] at hants
  have hleft : b'.arena.ants.map (fun a => (a.id, a.energy)) =
      [(0, .int 139), (1, .int 100), (2, .int 51), (3, .int 144)] := Option.some.inj hants
  have hchild : (3, .int 144) ∈ b'.arena.ants.map fun a => (a.id, a.energy) := by
    rw [hleft]
    decide
  have hsplit : (0, .int 139) ∈ b'.arena.ants.map fun a => (a.id, a.energy) := by
    rw [hleft]
    decide
  obtain ⟨y, hy, hyid⟩ := List.mem_map.1 hchild
  obtain ⟨z, hz, hzid⟩ := List.mem_map.1 hsplit
  rw [Prod.mk.injEq] at hyid hzid
  have hnext : crossfire.nextId = 3 := by decide +kernel
  obtain ⟨parent, -, hparent⟩ := hparents b' htick
  obtain ⟨e, hp⟩ := hparent y hy (by rw [hnext, hyid.1])
  have hown : ∀ e ∈ crossfire.journal, e.split = true → e.cell = 4 ∧ e.met.id = 0 := by
    decide +kernel
  obtain ⟨hcell, hmet⟩ := hown e hp.account hp.split
  have hmiddle : ∀ x ∈ crossfire.arena.ants, x.id = 0 →
      x = simpleton 0 .blue .eat 300 .east := by
    decide +kernel
  have hx := hmiddle _ hp.parent (hp.met.symm.trans hmet)
  have hafter : crossfire.toll 10 (simpleton 0 .blue .eat 300 .east)
      (crossfire.journal.filter (4 < ·.cell)) = 5 := by decide +kernel
  have hmirrors := hp.mirrors z (List.mem_append_left _ hz)
    (by rw [hzid.1, ← hp.met, hmet])
  rw [hx, hcell, hafter] at hmirrors
  exact ⟨wellFormed_crossfire, hroom, b', y, z, htick, hy, hz, hyid.1, hzid.1, hmirrors, hyid.2,
    hzid.2⟩

end Formicary
