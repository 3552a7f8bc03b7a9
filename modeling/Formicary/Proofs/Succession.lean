import Formicary.Proofs.Damage
import Formicary.Proofs.Contributions

/-!
# Who is there after a tick

An ant that is in the arena after a tick either was there at the start and is a step older
(`Ant.Persists`), or was born in the tick to an ant that was there at the start (`Ant.Begets`).
There is no other way in.  In both cases the team and the length of the tape are those of an ant of
the start, and the generation is the same or the next.

What is true of the ants of a board and passed on in both ways is therefore true after any number of
ticks; `Board.WellFormed.ticksFrom_induct` is the induction that says so.
-/

namespace Formicary

/-- What becomes of an ant in a tick: it is a step older, and may have another energy, direction,
sensor and program, but has as many instructions as it had. -/
structure Ant.Persists (x y : Ant) : Prop where
  id : y.id = x.id
  team : y.team = x.team
  length : y.gene.length = x.gene.length
  generation : y.generation = x.generation
  age : ∃ g, x.age = .int g ∧ y.age = .int (g + 1)

/-- What an ant passes on to a child: its team, the length of its tape and the next generation. -/
structure Ant.Begets (x y : Ant) : Prop where
  team : y.team = x.team
  length : y.gene.length = x.gene.length
  generation : ∃ g, x.generation = .int g ∧ y.generation = .int (g + 1)
  age : y.age = .int 0

variable {b b' : Board} {s s' : Scan} {n cell : Nat} {a a' x y z : Ant} {e : Account}

/-- Energies have nothing to do with what becomes of an ant. -/
theorem Ant.Persists.withEnergy (h : x.Persists y) (v w : Value) :
    ({ x with energy := v } : Ant).Persists { y with energy := w } :=
  ⟨h.id, h.team, h.length, h.generation, h.age⟩

namespace Scan

/-! ### In a turn -/

/-- Settling a request keeps the length of the tape. -/
theorem Settled.length_eq {request : Option Request} (h : Settled s cell a request s' a') :
    a'.gene.length = a.gene.length := by
  cases h with
  | moved => rfl
  | blocked => rfl
  | fed => rfl
  | unfed => rfl
  | hit => rfl
  | missed => rfl
  | idled => exact Gene.length_mutate _ _

/-- In its own turn an ant becomes a step older. -/
theorem Tells.persists (hsound : e.met.Sound) (h : Tells s e s') : e.met.Persists e.parted := by
  obtain ⟨-, -, hsettled, -, hdivided, -, -⟩ := h
  obtain ⟨age, direction, pointer, hframe⟩ := Ant.execute_frame e.met
  obtain ⟨g, hg⟩ := hsound.age
  have hparted : e.parted = { e.met.execute.1 with
      energy := e.parted.energy, sensor := e.settled.sensor, gene := e.settled.gene } := by
    rw [hdivided.eq_frame, hsettled.eq_frame]
  have hlength : e.met.execute.1.gene.length = e.met.gene.length := by
    rw [hframe]
    rfl
  refine ⟨?_, ?_, ?_, ?_, g, hg, ?_⟩
  · rw [hparted, hframe]
  · rw [hparted, hframe]
  · rw [hparted, ← hlength]
    exact hsettled.length_eq
  · rw [hparted, hframe]
  · rw [hparted]
    exact Ant.age_execute_int hg

/-! ### In a scan -/

/-- When an ant has had its turn it loses at most energy until the end of the scan. -/
theorem Completes.find?_parted (hb : b.WellFormed) (hs : Completes b s) (he : e ∈ b.journal) :
    e.met.Persists e.parted ∧
      ∃ v, s.board.arena.find? e.met.id = some { e.parted with energy := v } := by
  have hall := hs.induct hb (P := fun n s J => ∀ e ∈ J, e.cell < n ∧
    b.content e.cell = .ant e.met.id ∧ e.met.Persists e.parted ∧
      ∃ v, s.board.arena.find? e.met.id = some { e.parted with energy := v })
    (fun _ he => (List.not_mem_nil he).elim) ?_
  · exact (hall e he).2.2
  intro n draw s s' o J hn hdraw hstage hcourse hentry ih
  have hpass : s'.board.arena = s.board.arena → ∀ e ∈ J, e.cell < n + 1 ∧
      b.content e.cell = .ant e.met.id ∧ e.met.Persists e.parted ∧
        ∃ v, s'.board.arena.find? e.met.id = some { e.parted with energy := v } := by
    intro harena e he
    obtain ⟨hlt, hrest⟩ := ih e he
    rw [harena]
    exact ⟨Nat.lt_succ_of_lt hlt, hrest⟩
  cases hentry with
  | grown =>
    rw [Option.toList_none, List.append_nil]
    exact hpass rfl
  | bare =>
    rw [Option.toList_none, List.append_nil]
    exact hpass rfl
  | stocked =>
    rw [Option.toList_none, List.append_nil]
    exact hpass rfl
  | acted hcell occupied found tells =>
    rename_i own
    intro e he
    rcases List.mem_append.1 he with he | he
    · -- the turn is that of another ant
      obtain ⟨hlt, hc, hpersists, v, hv⟩ := ih e he
      have hne : e.met.id ≠ own.met.id := by
        intro hid
        rw [hid] at hc
        exact Nat.ne_of_lt hlt (hb.eq_of_content hc occupied)
      obtain ⟨w, hw⟩ := tells.turn.find?_other hne hv
      exact ⟨Nat.lt_succ_of_lt hlt, hc, hpersists, w, hw⟩
    · obtain rfl := List.mem_singleton.1 he
      have hself := Tells.find?_self (s := { s with visited := e.met.id :: s.visited }) found tells
      exact ⟨by omega, hcell ▸ occupied,
        tells.persists (hstage.sound _ (Arena.mem_of_find? found)), e.parted.energy, hself⟩

/-- Every ant of the arena has an account. -/
theorem Completes.exists_account_of_mem (hb : b.WellFormed) (hs : Completes b s)
    (hx : x ∈ b.arena.ants) :
    ∃ e ∈ b.journal, b.standing? e.cell = some x ∧ e.met = { x with energy := e.met.energy } := by
  have hid : x.id ∈ b.journal.map fun e => e.met.id := by
    rw [hs.journal_ids hb, hb.perm_residents.mem_iff]
    exact Arena.mem_ids_of_mem hx
  obtain ⟨e, he, hmet⟩ := List.mem_map.1 hid
  obtain ⟨x', hstanding, hframe, -⟩ := hs.standing_of_mem hb e he
  have hmem := hb.mem_ants_iff.2 ⟨e.cell, Board.lt_size_of_content_ne (by
    rw [(Board.standing?_eq_some_iff.1 hstanding).1]
    exact Content.noConfusion), hstanding⟩
  have hsame : x'.id = x.id := by
    rw [← hmet, hframe]
  obtain rfl : x' = x := List.inj_on_of_nodup_map hb.peopled.ids_nodup hmem hx hsame
  exact ⟨e, he, hstanding, hframe⟩

/-- What the scan has made of an ant of the arena: its account tells, and afterwards it has lost at
most energy. -/
theorem Completes.exists_parted (hb : b.WellFormed) (hs : Completes b s) (hx : x ∈ b.arena.ants) :
    ∃ e ∈ b.journal, b.standing? e.cell = some x ∧ x.Persists e.parted ∧
      ∃ v, s.board.arena.find? x.id = some { e.parted with energy := v } := by
  obtain ⟨e, he, hstanding, hmet⟩ := hs.exists_account_of_mem hb hx
  obtain ⟨hpersists, v, hv⟩ := hs.find?_parted hb he
  have hid : e.met.id = x.id := by
    rw [hmet]
  rw [hmet] at hpersists
  refine ⟨e, he, hstanding, hpersists.withEnergy x.energy e.parted.energy, v, ?_⟩
  rw [← hid]
  exact hv

/-- An ant that is born in a scan is the child of an ant that stood next to an empty cell. -/
theorem Completes.exists_parent_of_newborn (hb : b.WellFormed) (hs : Completes b s)
    (hy : y ∈ newborns s.queue.toList) :
    ∃ e ∈ b.journal, 0 < e.cell ∧ b.content (e.cell - 1) = .empty ∧
      .born (e.cell - 1) y ∈ s.queue.toList ∧ e.Bears y := by
  obtain ⟨n, hborn⟩ := mem_newborns.1 hy
  obtain ⟨before, later, hq⟩ := List.append_of_mem hborn
  obtain ⟨e, he, hcell, hbears, -⟩ := hs.exists_parent hb hq
  obtain rfl : e.cell - 1 = n := by omega
  exact ⟨e, he, by omega, (hs.stage.suits _ hborn).2.1, hborn, hbears⟩

end Scan

/-- A child gets from the account of its parent what an ant passes on. -/
theorem Account.Bears.begets (h : e.Bears y) (hpersists : x.Persists e.parted)
    (hmet : e.met.generation = x.generation) : x.Begets y := by
  obtain ⟨-, hframe, g, hg, hnext⟩ := h
  refine ⟨?_, ?_, ⟨g, hmet ▸ hg, hnext⟩, ?_⟩
  · rw [hframe]
    exact hpersists.team
  · rw [hframe]
    exact hpersists.length
  · rw [hframe]

namespace Board

/-! ### In a tick -/

/-- An ant that is there after a tick has persisted or is the child of an ant of the start. -/
theorem WellFormed.succession (hb : b.WellFormed) (htick : b.tick = .ok b')
    (hy : y ∈ b'.arena.ants) :
    (∃ x ∈ b.arena.ants, x.Persists y) ∨ b.nextId ≤ y.id ∧ ∃ x ∈ b.arena.ants, x.Begets y := by
  obtain ⟨s, hs⟩ := Scan.exists_completes hb
  obtain rfl := hb.eq_completed hs htick
  rcases Commit.mem_ants_foldl (c := ⟨s.board, s.tally⟩) (hs.stage.pending hb) hy with hold | hnew
  · have hid : y.id ∈ b.arena.ids := by
      rw [← hs.stage.frozen.ids]
      exact Arena.mem_ids_of_mem hold
    obtain ⟨x, hx, hxid⟩ := List.mem_map.1 hid
    obtain ⟨e, -, -, hpersists, v, hv⟩ := hs.exists_parted hb hx
    have hfind := Arena.find?_of_mem (hs.stage.wellFormed hb).peopled.ids_nodup hold
    rw [← hxid, hv, Option.some.injEq] at hfind
    refine Or.inl ⟨x, hx, ?_⟩
    rw [← hfind]
    exact hpersists.withEnergy x.energy v
  · refine Or.inr ⟨(hs.stage.id_of_newborn hnew).1, ?_⟩
    obtain ⟨e, he, -, -, -, hbears⟩ := hs.exists_parent_of_newborn hb hnew
    obtain ⟨x, hstanding, hmet, -⟩ := hs.standing_of_mem hb e he
    have hx := Arena.mem_of_find? (standing?_eq_some_iff.1 hstanding).2
    have hpersists := (hs.find?_parted hb he).1
    rw [hmet] at hpersists
    exact ⟨x, hx, hbears.begets (hpersists.withEnergy x.energy e.parted.energy) (by rw [hmet])⟩

/-! ### In a run -/

/-- A commit leaves the configuration and the clock alone, whatever it applies. -/
theorem frame_committed (c : Commit) (q : List Change) :
    (q.foldl Commit.applied c).board.config = c.board.config ∧
      (q.foldl Commit.applied c).board.ticks = c.board.ticks := by
  induction q generalizing c with
  | nil => exact ⟨rfl, rfl⟩
  | cons x q ih =>
    have hone : (c.applied x).board.config = c.board.config ∧
        (c.applied x).board.ticks = c.board.ticks := by
      cases x <;> exact ⟨rfl, rfl⟩
    rw [List.foldl_cons, (ih (c.applied x)).1, (ih (c.applied x)).2]
    exact hone

/-- A tick keeps the configuration and moves the clock on by one. -/
theorem WellFormed.frame_of_tick (hb : b.WellFormed) (htick : b.tick = .ok b') :
    b'.config = b.config ∧ b'.ticks = b.ticks + 1 := by
  obtain ⟨s, hs⟩ := Scan.exists_completes hb
  obtain rfl := hb.eq_completed hs htick
  have hticks : s.board.ticks = b.ticks := by rw [hs.stage.frozen.eq_frame]
  obtain ⟨hconfig, hclock⟩ := frame_committed ⟨s.board, s.tally⟩ s.queue.toList
  refine ⟨hconfig.trans hs.stage.frozen.config, ?_⟩
  rw [← hticks]
  exact congrArg (· + 1) hclock

/-- What holds of a well-formed board and is kept by its ticks holds after any number of them. -/
theorem WellFormed.ticksFrom_induct {P : Board → Prop} (hb : b.WellFormed) (hstart : P b)
    (hstep : ∀ {b b' : Board}, b.WellFormed → b.tick = .ok b' → P b → P b')
    (h : b.ticksFrom n = .ok b') : P b' := by
  induction n generalizing b with
  | zero =>
    cases h
    exact hstart
  | succ n ih =>
    obtain ⟨b₁, htick, hrest⟩ := exists_of_bind_eq_ok h
    exact ih (hb.tick htick) (hstep hb htick hstart) hrest

/-- The clock counts the ticks. -/
theorem WellFormed.ticks_of_ticksFrom (hb : b.WellFormed) (h : b.ticksFrom n = .ok b') :
    b'.ticks = b.ticks + n := by
  induction n generalizing b with
  | zero =>
    cases h
    rfl
  | succ n ih =>
    obtain ⟨b₁, htick, hrest⟩ := exists_of_bind_eq_ok h
    rw [ih (hb.tick htick) hrest, (hb.frame_of_tick htick).2, Nat.add_assoc, Nat.add_comm 1 n]

end Board

end Formicary
