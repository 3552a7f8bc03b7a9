import Formicary.Proofs.Reachable
import Mathlib.Algebra.Ring.Nat

/-!
# The population ledger

Ants come into the arena by births and leave it when a change puts them out of their cell.  Over a
commit the books balance id by id (`Commit.perm_departures`): the ids before it together with those
of the newborns are the ids after it together with those of the ants that have left.  The counters
of a tick are the lengths of these lists, each departure counting as a death or as overwritten, so
the size of the population can be reckoned from the counters alone.
-/

namespace Formicary

/-- The changes of a queue that put ants out of their cells, with the ids of the ants, where `f`
tells what the cells hold before. -/
def departures (f : Nat → Content) : List Change → List (Change × Int)
  | [] => []
  | x :: q => ((x.evicts? f).map fun id => (x, id)).toList ++ departures (x.write f) q

/-- Whether an ant departs by its own death. -/
def dies (d : Change × Int) : Bool := d.1.isDeathOf d.2

namespace Board

/-- The counters of a tick that others come before, if it completes. -/
def tallyAfter (b : Board) (n : Nat) : Tally :=
  ((b.ticksFrom (n + 1)).toOption.map Board.lastTally).getD {}

/-- The sum of a counter over ticks in a row. -/
def total (b : Board) (counter : Tally → Nat) (n : Nat) : Nat :=
  ((List.range n).map fun k => counter (b.tallyAfter k)).sum

/-- The sums of all counters over ticks in a row. -/
def tallied (b : Board) (n : Nat) : Tally where
  foodGrown := b.total Tally.foodGrown n
  foodEaten := b.total Tally.foodEaten n
  moves := b.total Tally.moves n
  attacks := b.total Tally.attacks n
  hits := b.total Tally.hits n
  births := b.total Tally.births n
  deaths := b.total Tally.deaths n
  overwritten := b.total Tally.overwritten n
  mutations := b.total Tally.mutations n

end Board

namespace Commit

variable {c : Commit} {x : Change} {q : List Change}

/-- An ant that is put out was in the arena. -/
theorem mem_ids_of_evicts? (h : c.board.WellFormed) (hin : x.Within c.board.size) {id : Int}
    (hid : x.evicts? c.board.content = some id) : id ∈ c.board.arena.ids := by
  have hcell : c.board.content x.cell = .ant id := by
    cases x with
    | swap target source => cases hid
    | growFood n => exact Content.ant?_eq_some_iff.1 hid
    | removeFood n => exact Content.ant?_eq_some_iff.1 hid
    | born n child => exact Content.ant?_eq_some_iff.1 hid
    | death n own => exact Content.ant?_eq_some_iff.1 hid
  exact h.peopled.mem_ids hin.1 hcell

/-- An arena whose ids differ, and what is left of it without one of its ants. -/
theorem perm_without {r : Arena} (hr : r.ids.Nodup) {o : Option Int}
    (ho : ∀ id, o = some id → id ∈ r.ids) : r.ids.Perm ((r.without o).ids ++ o.toList) := by
  cases o with
  | none => simp
  | some id =>
    have herase : (r.without (some id)).ids = r.ids.erase id := by
      rw [hr.erase_eq_filter]
      exact Arena.ids_erase r id
    rw [herase]
    exact (List.perm_cons_erase (ho id rfl)).trans (List.perm_append_singleton id _).symm

/-- Over one change the books balance. -/
theorem perm_evicts? (h : c.board.WellFormed) (hp : Pending c.board (x :: q)) :
    (c.board.arena.ids ++ x.child?.toList.map Ant.id).Perm
      ((c.applied x).board.arena.ids ++ (x.evicts? c.board.content).toList) := by
  have hperm := perm_without (o := x.evicts? c.board.content) h.peopled.ids_nodup fun _ hid =>
    mem_ids_of_evicts? h (hp.within x List.mem_cons_self) hid
  rw [ids_applied hp]
  refine List.perm_iff_count.2 fun id => ?_
  have hcount := hperm.count_eq id
  simp only [List.count_append] at hcount ⊢
  omega

/-- Over a commit the books balance. -/
theorem perm_departures (h : c.board.WellFormed) (hp : Pending c.board q) :
    (c.board.arena.ids ++ (newborns q).map Ant.id).Perm
      ((q.foldl applied c).board.arena.ids ++ (departures c.board.content q).map Prod.snd) := by
  induction q generalizing c with
  | nil => exact List.Perm.refl _
  | cons x q ih =>
    have hstep := perm_evicts? h hp
    have hrest := ih (wellFormed_applied h hp) (pending_applied hp)
    rw [content_applied h.displays (hp.within x List.mem_cons_self)] at hrest
    have hids : (((x.evicts? c.board.content).map fun id => (x, id)).toList.map Prod.snd) =
        (x.evicts? c.board.content).toList := by
      cases x.evicts? c.board.content with
      | none => rfl
      | some id => rfl
    rw [newborns_cons, List.map_append, List.foldl_cons, departures, List.map_append, hids]
    refine List.perm_iff_count.2 fun id => ?_
    have hcount := hstep.count_eq id
    have hcount' := hrest.count_eq id
    simp only [List.count_append] at hcount hcount' ⊢
    omega

/-- Every newborn and every departure is counted once, a departure as a death or as overwritten. -/
theorem tally_foldl (h : c.board.WellFormed) (hp : Pending c.board q) :
    (q.foldl applied c).tally.births = c.tally.births + (newborns q).length ∧
      (q.foldl applied c).tally.deaths =
        c.tally.deaths + (departures c.board.content q).countP dies ∧
      (q.foldl applied c).tally.overwritten =
        c.tally.overwritten + (departures c.board.content q).countP (!dies ·) := by
  induction q generalizing c with
  | nil => exact ⟨rfl, rfl, rfl⟩
  | cons x q ih =>
    obtain ⟨hbirths, hdeaths, hoverwritten⟩ := ih (wellFormed_applied h hp) (pending_applied hp)
    obtain ⟨hbirths', hdeaths', hoverwritten'⟩ := tally_applied c x
    rw [content_applied h.displays (hp.within x List.mem_cons_self)] at hdeaths hoverwritten
    have hcount : ∀ p : Change × Int → Bool,
        ((x.evicts? c.board.content).map fun id => (x, id)).toList.countP p =
          (x.evicts? c.board.content).toList.countP fun id => p (x, id) := by
      intro p
      cases x.evicts? c.board.content with
      | none => rfl
      | some id => rfl
    rw [newborns_cons, List.length_append, List.foldl_cons, departures, List.countP_append,
      List.countP_append, hcount, hcount, hbirths, hdeaths, hoverwritten, hbirths', hdeaths',
      hoverwritten']
    exact ⟨Nat.add_assoc _ _ _, Nat.add_assoc _ _ _, Nat.add_assoc _ _ _⟩

end Commit

/-! ### The books of a tick -/

/-- The books of a tick that leads from `b` over the scan `s` to `b'`. -/
structure Books (b : Board) (s : Scan) (b' : Board) : Prop where
  nodup : (b.arena.ids ++ (newborns s.queue.toList).map Ant.id).Nodup
  perm : (b.arena.ids ++ (newborns s.queue.toList).map Ant.id).Perm
    (b'.arena.ids ++ (departures b.content s.queue.toList).map Prod.snd)
  births : b'.lastTally.births = (newborns s.queue.toList).length
  deaths : b'.lastTally.deaths = (departures b.content s.queue.toList).countP dies
  overwritten : b'.lastTally.overwritten = (departures b.content s.queue.toList).countP (!dies ·)
  nextId : b'.nextId = b.nextId + ((newborns s.queue.toList).length : Int)

/-- The size of the population after a tick. -/
theorem Books.size_eq {b b' : Board} {s : Scan} (h : Books b s b') :
    b'.arena.size + b'.lastTally.deaths + b'.lastTally.overwritten =
      b.arena.size + b'.lastTally.births := by
  have hlength := h.perm.length_eq
  have hcount := List.length_eq_countP_add_countP dies (l := departures b.content s.queue.toList)
  have hnot : (fun d => decide ¬ dies d = true) = (!dies ·) := by
    funext d
    simp
  rw [hnot] at hcount
  simp only [List.length_append, List.length_map, Arena.ids] at hlength
  rw [h.births, h.deaths, h.overwritten, Arena.size, Arena.size]
  omega

namespace Board

variable {b b' : Board} {s : Scan}

/-- Every tick keeps its books. -/
theorem WellFormed.books (hb : b.WellFormed) (hs : Scan.Completes b s) (h : b.tick = .ok b') :
    Books b s b' := by
  have hstage := hs.stage
  have hs₀ := hstage.wellFormed hb
  have hp := hstage.pending hb
  obtain rfl := hb.eq_completed hs h
  have hperm := Commit.perm_departures (c := ⟨s.board, s.tally⟩) hs₀ hp
  obtain ⟨hbirths, hdeaths, hoverwritten⟩ :=
    Commit.tally_foldl (c := ⟨s.board, s.tally⟩) hs₀ hp
  rw [hstage.frozen.ids, hstage.frozen.content] at hperm
  rw [hstage.frozen.content] at hdeaths hoverwritten
  obtain ⟨eaten, attacks, hits, mutations, htally⟩ := hstage.counts
  simp only [htally, Nat.zero_add] at hbirths hdeaths hoverwritten
  refine ⟨?_, hperm, ?_, ?_, ?_, ?_⟩
  · refine List.nodup_append.2 ⟨hb.peopled.ids_nodup, hp.nodup, ?_⟩
    intro id hid id' hid' heq
    obtain ⟨a, ha, rfl⟩ := List.mem_map.1 hid'
    refine hp.unused a ha ?_
    rw [hstage.frozen.ids, ← heq]
    exact hid
  · rw [← hbirths, ← htally]
    rfl
  · rw [← hdeaths, ← htally]
    rfl
  · rw [← hoverwritten, ← htally]
    rfl
  · rw [← hstage.nextId]
    exact Commit.nextId_foldl ⟨s.board, s.tally⟩ s.queue.toList

/-- A tick keeps the number of cells, and gives out at most one id for every cell. -/
theorem WellFormed.size_of_tick (hb : b.WellFormed) (h : b.tick = .ok b') :
    b'.size = b.size ∧ b'.nextId ≤ b.nextId + b.size := by
  obtain ⟨s, hs⟩ := Scan.exists_completes hb
  obtain rfl := hb.eq_completed hs h
  have hsize : s.committed.completed.size = s.board.size :=
    Commit.size_foldl ⟨s.board, s.tally⟩ s.queue.toList
  have hnext : s.committed.completed.nextId = s.board.nextId :=
    Commit.nextId_foldl ⟨s.board, s.tally⟩ s.queue.toList
  have hbirths := hs.stage.births_le
  rw [hsize, hnext, hs.stage.nextId, hs.stage.frozen.size]
  exact ⟨rfl, by omega⟩

/-- Some ticks and some more are as many ticks in a row. -/
theorem ticksFrom_add (b : Board) (m n : Nat) :
    b.ticksFrom (m + n) = b.ticksFrom m >>= fun x => x.ticksFrom n := by
  induction m generalizing b with
  | zero =>
    rw [Nat.zero_add]
    rfl
  | succ m ih =>
    rw [Nat.succ_add, ticksFrom, ticksFrom]
    cases b.tick with
    | error e => rfl
    | ok b₁ => exact ih b₁

/-- Ticks keep a board well formed. -/
theorem WellFormed.ticksFrom (hb : b.WellFormed) {n : Nat} (h : b.ticksFrom n = .ok b') :
    b'.WellFormed := by
  induction n generalizing b with
  | zero =>
    cases h
    exact hb
  | succ n ih =>
    obtain ⟨b₁, htick, hrest⟩ := exists_of_bind_eq_ok h
    exact ih (hb.tick htick) hrest

/-- Ticks complete as long as there is an id left for every cell and tick. -/
theorem WellFormed.exists_ticksFrom (hb : b.WellFormed) (n : Nat)
    (hroom : b.nextId + n * b.size ≤ idLimit) : ∃ b', b.ticksFrom n = .ok b' := by
  induction n generalizing b with
  | zero => exact ⟨b, rfl⟩
  | succ n ih =>
    rw [Int.natCast_add, Int.add_mul, Int.natCast_one, Int.one_mul] at hroom
    have hnonneg : (0 : Int) ≤ n * b.size :=
      Int.mul_nonneg (Int.natCast_nonneg n) (Int.natCast_nonneg b.size)
    obtain ⟨b₁, htick⟩ := hb.exists_tick (by omega)
    obtain ⟨hsize, hnext⟩ := hb.size_of_tick htick
    obtain ⟨b', hrest⟩ := ih (hb.tick htick) (by rw [hsize]; omega)
    exact ⟨b', by rw [Board.ticksFrom, htick]; exact hrest⟩

/-- The last of several ticks comes after the others. -/
theorem ticksFrom_succ (b : Board) (n : Nat) :
    b.ticksFrom (n + 1) = b.ticksFrom n >>= Board.tick := by
  rw [ticksFrom_add]
  refine congrArg (b.ticksFrom n >>= ·) (funext fun x => ?_)
  unfold ticksFrom
  cases x.tick <;> rfl

/-- One more tick adds its counter. -/
theorem total_succ {n : Nat} (h : b.ticksFrom (n + 1) = .ok b') (counter : Tally → Nat) :
    b.total counter (n + 1) = b.total counter n + counter b'.lastTally := by
  have hlast : b.tallyAfter n = b'.lastTally := by
    unfold tallyAfter
    rw [h]
    rfl
  unfold total
  rw [List.range_succ, List.map_append, List.sum_append, List.map_singleton, List.sum_singleton,
    hlast]

/-- The size of the population and the next id after several ticks, by the counters of the ticks. -/
theorem WellFormed.reckon (hb : b.WellFormed) {n : Nat} (h : b.ticksFrom n = .ok b') :
    b'.arena.size + b.total Tally.deaths n + b.total Tally.overwritten n =
        b.arena.size + b.total Tally.births n ∧
      b'.nextId = b.nextId + b.total Tally.births n := by
  induction n generalizing b' with
  | zero =>
    cases h
    exact ⟨rfl, (Int.add_zero _).symm⟩
  | succ n ih =>
    have hlast := h
    rw [ticksFrom_succ] at hlast
    obtain ⟨b₁, hrest, htick⟩ := exists_of_bind_eq_ok hlast
    have hb₁ := hb.ticksFrom hrest
    obtain ⟨s, hs⟩ := Scan.exists_completes hb₁
    have hbooks := hb₁.books hs htick
    obtain ⟨hsize, hnext⟩ := ih hrest
    have hsize₁ := hbooks.size_eq
    have hnext₁ := hbooks.nextId
    rw [← hbooks.births] at hnext₁
    rw [total_succ h, total_succ h, total_succ h]
    exact ⟨by omega, by omega⟩

end Board

/-- The population after any number of ticks is what the counters of the ticks say, and so is the
next id.  In each of the ticks every ant that leaves and every newborn is counted exactly once.  The
board at the start need only be well formed, as reachable ones are (`Reachable.wellFormed`). -/
theorem population_ledger {b : Board} (hb : b.WellFormed) (n : Nat) :
    (∀ b', b.ticksFrom n = .ok b' →
      (b'.arena.size : Int) = b.arena.size + b.total Tally.births n - b.total Tally.deaths n -
          b.total Tally.overwritten n ∧
        b'.nextId = b.nextId + b.total Tally.births n ∧
        ∀ s b'', Scan.run b' = .ok s → b'.tick = .ok b'' → Books b' s b'') ∧
      (b.nextId + n * b.size ≤ idLimit → ∃ b', b.ticksFrom n = .ok b') := by
  constructor
  · intro b' h
    obtain ⟨hsize, hnext⟩ := hb.reckon h
    refine ⟨by omega, hnext, ?_⟩
    intro s b'' hrun htick
    have hb' := hb.ticksFrom h
    exact hb'.books (Scan.completes_of_run hb' hrun) htick
  · exact hb.exists_ticksFrom n

/-- The crowd after two ticks: of four ants one has died, one was overwritten, and one was born. -/
theorem crowd_ledger :
    crowd.WellFormed ∧ crowd.nextId + (2 : Nat) * crowd.size ≤ idLimit ∧
      crowd.total Tally.births 2 = 1 ∧ crowd.total Tally.deaths 2 = 1 ∧
      crowd.total Tally.overwritten 2 = 1 ∧
      ∃ b', crowd.ticksFrom 2 = .ok b' ∧ (b'.arena.size : Int) = 4 + 1 - 1 - 1 ∧
        b'.nextId = 4 + 1 := by
  have hroom : crowd.nextId + (2 : Nat) * crowd.size ≤ idLimit := by decide +kernel
  have hbirths : crowd.total Tally.births 2 = 1 := by decide +kernel
  have hdeaths : crowd.total Tally.deaths 2 = 1 := by decide +kernel
  have hoverwritten : crowd.total Tally.overwritten 2 = 1 := by decide +kernel
  have hsize : crowd.arena.size = 4 := by decide +kernel
  have hnext : crowd.nextId = 4 := by decide +kernel
  obtain ⟨hledger, hexists⟩ := population_ledger wellFormed_crowd 2
  obtain ⟨b', hrun⟩ := hexists hroom
  obtain ⟨hcount, hid, -⟩ := hledger b' hrun
  rw [hbirths, hdeaths, hoverwritten, hsize] at hcount
  rw [hbirths, hnext] at hid
  exact ⟨wellFormed_crowd, hroom, hbirths, hdeaths, hoverwritten, b', hrun, hcount, hid⟩

end Formicary
