import Formicary.Proofs.Founders
import Formicary.Proofs.Succession

/-!
# The clock of a lineage

On a board that has been generated and then only ticked, ages and generations can be read against
the clock.  A founder is as old as the board.  Every split costs at least the tick in which it
happens, so an ant that was born has lived, with all its line of descent, no longer than that.  And
since ids rise, an ant with a greater id is never older.

`Board.Dated` is the invariant, which a tick keeps because of what it does to each ant
(`Ant.Dated.persists`, `Ant.Dated.begets`).
-/

namespace Formicary

/-- An ant when the clock shows a time, on a board with a number of founders: its age and its
generation are not more than the time together; a founder is of generation zero and as old as the
board, and any other ant is of a later generation and younger. -/
def Ant.Dated (founders time : Nat) (y : Ant) : Prop :=
  ∃ age generation : Nat, y.age = .int age ∧ y.generation = .int generation ∧
    age + generation ≤ time ∧ (y.id < founders → generation = 0 ∧ age = time) ∧
    (founders ≤ y.id → 1 ≤ generation ∧ age < time)

/-- An ant that has been there for longer than another is at least as old. -/
def Ant.Senior (x y : Ant) : Prop :=
  x.id < y.id → ∃ p q : Nat, x.age = .int p ∧ y.age = .int q ∧ q ≤ p

/-- A board with a number of founders on which all ants are dated. -/
structure Board.Dated (founders : Nat) (b : Board) : Prop where
  founders_le : (founders : Int) ≤ b.nextId
  dated : ∀ y ∈ b.arena.ants, y.Dated founders b.ticks
  senior : ∀ x ∈ b.arena.ants, ∀ y ∈ b.arena.ants, x.Senior y

variable {b b' : Board} {c : Config} {n founders time : Nat} {x y : Ant}

namespace Ant.Dated

/-- An ant that persists in a tick is dated a tick later. -/
theorem persists (h : x.Dated founders time) (hxy : x.Persists y) :
    y.Dated founders (time + 1) := by
  obtain ⟨age, generation, hage, hgeneration, hle, hfounder, hborn⟩ := h
  obtain ⟨g, hg, hg'⟩ := hxy.age
  obtain rfl : (age : Int) = g := Value.int.inj (hage.symm.trans hg)
  refine ⟨age + 1, generation, hg', hxy.generation.trans hgeneration, by omega, ?_, ?_⟩
  · intro hid
    obtain ⟨hzero, rfl⟩ := hfounder (hxy.id ▸ hid)
    exact ⟨hzero, rfl⟩
  · intro hid
    obtain ⟨hone, hlt⟩ := hborn (hxy.id ▸ hid)
    exact ⟨hone, Nat.succ_lt_succ hlt⟩

/-- An ant that is born in a tick is dated after it: its parent was not of a later generation than
the ticks before. -/
theorem begets (h : x.Dated founders time) (hxy : x.Begets y) (hid : (founders : Int) ≤ y.id) :
    y.Dated founders (time + 1) := by
  obtain ⟨age, generation, -, hgeneration, hle, -, -⟩ := h
  obtain ⟨g, hg, hg'⟩ := hxy.generation
  obtain rfl : (generation : Int) = g := Value.int.inj (hgeneration.symm.trans hg)
  exact ⟨0, generation + 1, hxy.age, hg', by omega, fun hlt => (Int.not_lt.2 hid hlt).elim,
    fun _ => ⟨by omega, by omega⟩⟩

end Ant.Dated

/-- An ant that persists stays senior to those that persist. -/
theorem Ant.Senior.persists {x' y' : Ant} (h : x.Senior y) (hx : x.Persists x')
    (hy : y.Persists y') : x'.Senior y' := by
  intro hlt
  obtain ⟨p, q, hp, hq, hle⟩ := h (hx.id ▸ hy.id ▸ hlt)
  obtain ⟨g, hg, hg'⟩ := hx.age
  obtain ⟨k, hk, hk'⟩ := hy.age
  obtain rfl : (p : Int) = g := Value.int.inj (hp.symm.trans hg)
  obtain rfl : (q : Int) = k := Value.int.inj (hq.symm.trans hk)
  exact ⟨p + 1, q + 1, hg', hk', Nat.succ_le_succ hle⟩

/-- Every dated ant is senior to one that is new. -/
theorem Ant.Dated.senior (h : x.Dated founders time) (hy : y.age = .int 0) : x.Senior y := by
  obtain ⟨age, generation, hage, -⟩ := h
  exact fun _ => ⟨age, 0, hage, hy, Nat.zero_le age⟩

namespace Board

/-- Founders are dated before the first tick. -/
theorem Founded.dated (h : b.Founded c n) : b.Dated b.arena.size := by
  have hnew : ∀ y ∈ b.arena.ants, y.age = .int 0 ∧ y.generation = .int 0 := fun y hy =>
    ⟨(h.founder y hy).1, (h.founder y hy).2.1⟩
  refine ⟨Int.le_of_eq h.nextId.symm, fun y hy => ?_, fun x hx y hy _ => ?_⟩
  · have hlt := (h.mem_ids_iff.1 (Arena.mem_ids_of_mem hy)).2
    rw [h.nextId] at hlt
    rw [h.ticks]
    exact ⟨0, 0, (hnew y hy).1, (hnew y hy).2, Nat.le_refl 0, fun _ => ⟨rfl, rfl⟩,
      fun hle => (Int.not_lt.2 hle hlt).elim⟩
  · exact ⟨0, 0, (hnew x hx).1, (hnew y hy).1, Nat.le_refl 0⟩

/-- A tick keeps ants dated. -/
theorem Dated.tick (hb : b.WellFormed) (htick : b.tick = .ok b') (h : b.Dated founders) :
    b'.Dated founders := by
  have hdated : ∀ y ∈ b'.arena.ants, y.Dated founders b'.ticks := by
    intro y hy
    rw [(hb.frame_of_tick htick).2]
    rcases hb.succession htick hy with ⟨x, hx, hpersists⟩ | ⟨hnew, x, hx, hbegets⟩
    · exact (h.dated x hx).persists hpersists
    · exact (h.dated x hx).begets hbegets (Int.le_trans h.founders_le hnew)
  refine ⟨?_, hdated, ?_⟩
  · obtain ⟨s, hs⟩ := Scan.exists_completes hb
    have hnext := (hb.books hs htick).nextId
    have hle := h.founders_le
    omega
  · intro x' hx' y' hy'
    rcases hb.succession htick hy' with ⟨y, hy, hpersists⟩ | ⟨-, y, -, hbegets⟩
    · rcases hb.succession htick hx' with ⟨x, hx, hpersists'⟩ | ⟨hnew, -⟩
      · exact (h.senior x hx y hy).persists hpersists' hpersists
      · -- a newborn has a greater id than one that was there before
        intro hlt
        have hid := hb.peopled.id_lt _ (Arena.mem_ids_of_mem hy)
        rw [hpersists.id] at hlt
        omega
    · exact (hdated x' hx').senior hbegets.age

end Board

/-- On a board that is generated and then ticked, the founders have the ids below their number.  At
any time an ant is dated: its age and its generation are not more than the time together, a founder
is of generation zero and as old as the board, and any other ant is of a later generation and
younger.  An ant with a greater id is never older. -/
theorem lineage_clock {memory : Memory} {w k : Int} {config : Option Config}
    {random : Option Random.Stream}
    {b : Board} (checked : ∀ c, config = some c → c.Integral ∧ c.check = .ok c)
    (generate : Board.generate memory (.int w) (.int k) config random = .ok b) :
    (∀ id, id ∈ b.arena.ids ↔ 0 ≤ id ∧ id < b.arena.size) ∧
    (∀ n b', b.ticksFrom n = .ok b' → b'.ticks = n ∧
      (∀ y ∈ b'.arena.ants, y.Dated b.arena.size b'.ticks) ∧
      ∀ x ∈ b'.arena.ants, ∀ y ∈ b'.arena.ants, x.Senior y) ∧
    ∀ n : Nat, b.nextId + n * b.size ≤ idLimit → ∃ b', b.ticksFrom n = .ok b' := by
  have hfounded := (Board.founded_of_generate checked generate).2
  have hb := hfounded.wellFormed
  refine ⟨fun id => ?_, ?_, hb.exists_ticksFrom⟩
  · rw [hfounded.mem_ids_iff, hfounded.nextId]
  · intro n b' h
    have hdated := hb.ticksFrom_induct (P := Board.Dated b.arena.size) hfounded.dated
      (fun hb htick hd => hd.tick hb htick) h
    refine ⟨?_, hdated.dated, hdated.senior⟩
    rw [hb.ticks_of_ticksFrom h, hfounded.ticks, Nat.zero_add]

/-! ### A nursery

Two founders on a rectangle of eight cells, who can split several times with what they start
with. -/

/-- The configuration of the rectangle. -/
def nurseryConfig : Config :=
  ⟨fun
    | .width => .int 4
    | .height => .int 2
    | .geneLength => .int 2
    | .splitEnergy => .int 10
    | .foodGrowthChance => .int 0
    | .spareCell => .bool false
    | f => f.defaultValue⟩

/-- The configuration passes its checks. -/
theorem checked_nurseryConfig :
    ∀ c, some nurseryConfig = some c → c.Integral ∧ c.check = .ok c := by
  rintro c ⟨⟩
  exact ⟨⟨⟨_, rfl⟩, ⟨_, rfl⟩, ⟨_, rfl⟩, ⟨_, rfl⟩, ⟨_, rfl⟩, ⟨_, rfl⟩, ⟨_, rfl⟩, ⟨_, rfl⟩⟩, rfl⟩

/-- A computation with a board and what it is after some ticks gives a value only if there are
both. -/
theorem exists_run_of_eq_some {α ε : Type} {f : Board → Board → α} {v : α} {r : Except ε Board}
    (h : (r.toOption.bind fun b => (b.ticksFrom n).toOption.map (f b)) = some v) :
    ∃ b b', r = .ok b ∧ b.ticksFrom n = .ok b' ∧ f b b' = v := by
  obtain ⟨b, hb, hrest⟩ := Option.bind_eq_some_iff.1 h
  obtain ⟨b', hb', hv⟩ := Option.map_eq_some_iff.1 hrest
  exact ⟨b, b', toOption_eq_some_iff.1 hb, toOption_eq_some_iff.1 hb', hv⟩

/-- After three ticks the founders are of age three, and the last of the five others is a
great-grandchild that was born just now. -/
theorem nursery_lineage :
    (∀ c, some nurseryConfig = some c → c.Integral ∧ c.check = .ok c) ∧ ∃ b b',
      Board.generate .unbounded (.int 4) (.int 2) (some nurseryConfig) (some (.ofSeed 2)) = .ok b ∧
      b.arena.size = 2 ∧ b.ticksFrom 3 = .ok b' ∧
      b'.arena.ants.map (fun y => (y.id, y.age, y.generation)) =
        [(0, .int 3, .int 0), (1, .int 3, .int 0), (2, .int 2, .int 1), (3, .int 2, .int 1),
          (4, .int 1, .int 2), (5, .int 1, .int 2), (6, .int 0, .int 3)] ∧
      b'.ticks = 3 ∧ (∀ y ∈ b'.arena.ants, y.Dated 2 3) ∧
      ∀ x ∈ b'.arena.ants, ∀ y ∈ b'.arena.ants, x.Senior y := by
  have hlater : ((Board.generate .unbounded (.int 4) (.int 2) (some nurseryConfig)
      (some (.ofSeed 2))).toOption.bind fun b => (b.ticksFrom 3).toOption.map fun b' =>
        (b.arena.size, b'.arena.ants.map fun y => (y.id, y.age, y.generation))) =
      some (2, [(0, .int 3, .int 0), (1, .int 3, .int 0), (2, .int 2, .int 1), (3, .int 2, .int 1),
        (4, .int 1, .int 2), (5, .int 1, .int 2), (6, .int 0, .int 3)]) := by
    decide +kernel
  obtain ⟨b, b', hgenerate, hrun, hvalues⟩ := exists_run_of_eq_some hlater
  rw [Prod.mk.injEq] at hvalues
  obtain ⟨hticks, hdated, hsenior⟩ :=
    (lineage_clock checked_nurseryConfig hgenerate).2.1 3 b' hrun
  rw [hvalues.1, hticks] at hdated
  exact ⟨checked_nurseryConfig, b, b', hgenerate, hvalues.1, hrun, hvalues.2, hticks, hdated,
    hsenior⟩

end Formicary
