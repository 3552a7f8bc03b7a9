import Formicary.Proofs.Contributions
import Formicary.Proofs.Outcome

/-!
# How far an ant gets in a tick

A move is proposed for the cell ahead if that cell is empty at the start of the tick.  When it is
committed another ant may have moved there in between, and then the two ants change places: the one
that came first ends up where the later one came from.  So after a tick an ant is on its own cell,
on the cell ahead of it, or on the cell of another ant that wanted the same cell.  In the last case
it may have got two cells away, as in `strait`.
-/

namespace Formicary

/-! ### Last writers -/

/-- What was last put on a cell was put there by a change. -/
theorem exists_puts_of_register {f : Nat → Content} {q : List Change} {n : Nat} {id : Int}
    (h : register f q n = .ant id) : ∃ c ∈ q, c.cell = n ∧ c.puts f = .ant id := by
  rw [register] at h
  cases hlast : (q.filter (·.cell == n)).getLast? with
  | none =>
    rw [hlast] at h
    cases h
  | some c =>
    rw [hlast] at h
    have hc := List.mem_of_getLast? hlast
    rw [List.mem_filter, beq_iff_eq] at hc
    exact ⟨c, hc.1, hc.2, h⟩

/-- An ant of the arena that was last put on a cell came there by its move. -/
theorem Scan.Completes.swap_mem_of_register {b : Board} {s : Scan} (hb : b.WellFormed)
    (hs : Scan.Completes b s) {q : List Change} (hq : ∀ c ∈ q, c ∈ s.queue.toList) {m n : Nat}
    {id : Int} (hm : b.content m = .ant id) (h : register b.content q n = .ant id) :
    .swap n m ∈ q := by
  have hmsize := Board.lt_size_of_content_ne (by rw [hm]; exact Content.noConfusion)
  obtain ⟨c, hc, rfl, hputs⟩ := exists_puts_of_register h
  have hsuits := hs.stage.suits c (hq c hc)
  cases c with
  | growFood cell => cases hputs
  | removeFood cell => cases hputs
  | death cell own => cases hputs
  | born cell child =>
    -- the id of a newborn is not in use
    have hle := (hs.stage.id_of_newborn (mem_newborns.2 ⟨cell, hq _ hc⟩)).1
    have hlt := hb.peopled.id_lt id (hb.peopled.mem_ids hmsize hm)
    have hid : child.id = id := Content.ant.inj hputs
    omega
  | swap target source =>
    have hsource : b.content source = .ant id := hputs
    rwa [hb.peopled.eq_of_content hsuits.1 hmsize hsource hm] at hc

/-! ### Cells after a tick -/

/-- An ant that is there before and after a tick is on the cell where it was, or on an empty cell
that it wanted, or on the cell of another ant that wanted the same empty cell.  The board need only
be well formed, as reachable ones are (`Reachable.wellFormed`). -/
theorem cell_after_tick {b : Board} (hb : b.WellFormed) :
    (∀ b', b.tick = .ok b' → ∀ x ∈ b.arena.ants, x.id ∈ b'.arena.ids →
      ∃ m n, b.indexOfAnt? x.id = some m ∧ b'.indexOfAnt? x.id = some n ∧
        (n = m ∨ b.Wants x n ∨ ∃ y ∈ b.arena.ants, y.id ≠ x.id ∧ b.indexOfAnt? y.id = some n ∧
          ∃ target, b.Wants x target ∧ b.Wants y target)) ∧
      (b.nextId + b.size ≤ idLimit → ∃ b', b.tick = .ok b') := by
  refine ⟨fun b' htick x hx hleft => ?_, hb.exists_tick⟩
  obtain ⟨s, hs⟩ := Scan.exists_completes hb
  have hb' := hb.tick htick
  obtain ⟨m, hm, hxm⟩ := hb.mem_ants_iff.1 hx
  obtain ⟨n, hn, hxn⟩ := (hb'.peopled.mem_ids_iff x.id).1 hleft
  have hcm := (Board.standing?_eq_some_iff.1 hxm).1
  -- a move of this ant is one that it wanted
  have hwants : ∀ target, .swap target m ∈ s.queue.toList → b.Wants x target := by
    intro target hmem
    obtain ⟨x', hx', hw⟩ := hs.exists_wants hb hmem
    rwa [Option.some.inj (hxm.symm.trans hx')]
  refine ⟨m, n, hb.indexOfAnt?_eq hcm, hb'.indexOfAnt?_eq hxn, ?_⟩
  obtain ⟨-, hcommit, hb'c⟩ := hb.commit_of_tick hs htick
  have houtcome := hb.outcome_of_commit hs (List.append_nil _).symm hcommit n
  have hafter : b'.content = s.committed.board.content := by
    rw [hb'c]
    rfl
  rw [← hafter, hxn] at houtcome
  cases hcn : b.content n with
  | food =>
    have hfood := houtcome.food hcn
    split at hfood <;> cases hfood
  | empty =>
    refine Or.inr (Or.inl (hwants n ?_))
    exact hs.swap_mem_of_register hb (fun c hc => hc) hcm (houtcome.empty hcn).symm
  | ant id =>
    by_cases hdeath : .death n id ∈ s.queue.toList
    · cases houtcome.dead id hcn hdeath
    · by_cases hstay : ∀ d, .swap d n ∉ s.queue.toList
      · have hid : x.id = id := Content.ant.inj (houtcome.stayed id hcn hdeath hstay)
        have hnsize := Board.lt_size_of_content_ne (by rw [hcn]; exact Content.noConfusion)
        exact Or.inl (hb.peopled.eq_of_content hnsize hm (hid ▸ hcn) hcm)
      · -- the ant of this cell has moved, to a cell that the other had come to before
        obtain ⟨target, hswap⟩ := not_forall_not.1 hstay
        obtain ⟨before, later, hq⟩ := List.append_of_mem hswap
        have hregister := (houtcome.moved id hcn hdeath target before later hq).symm
        have hmem : .swap target m ∈ before := by
          refine hs.swap_mem_of_register hb (fun c hc => ?_) hcm hregister
          rw [hq]
          exact List.mem_append_left _ hc
        by_cases hmn : n = m
        · exact Or.inl hmn
        · obtain ⟨y, hy, hwy⟩ := hs.exists_wants hb hswap
          obtain ⟨hcy, hfind⟩ := Board.standing?_eq_some_iff.1 hy
          have hne : y.id ≠ x.id := by
            intro hid
            have hnsize := Board.lt_size_of_content_ne (by rw [hcn]; exact Content.noConfusion)
            exact hmn (hb.peopled.eq_of_content hnsize hm hcy (hid ▸ hcm))
          refine Or.inr (Or.inr ⟨y, Arena.mem_of_find? hfind, hne, hb.indexOfAnt?_eq hcy, target,
            hwants target ?_, hwy⟩)
          rw [hq]
          exact List.mem_append_left _ hmem

/-! ### A strait -/

/-- The configuration of a row of three cells on which nothing grows. -/
def straitConfig : Config :=
  ⟨fun
    | .width => .int 3
    | .height => .int 1
    | .foodGrowthChance => .int 0
    | .spareCell => .bool false
    | f => f.defaultValue⟩

/-- The row of three cells is built from its configuration. -/
theorem reachable_straitRow :
    Reachable (.blank straitConfig (.ofConfig straitConfig) 3 1 3 (.ofSeed 0)) := by
  have hbuild : Board.build .unbounded (.int 3) (.int 1) (some straitConfig) (some (.ofSeed 0)) =
      .ok (.blank straitConfig (.ofConfig straitConfig) 3 1 3 (.ofSeed 0)) := rfl
  exact .of_config ⟨⟨_, rfl⟩, ⟨_, rfl⟩, ⟨_, rfl⟩, ⟨_, rfl⟩, ⟨_, rfl⟩, ⟨_, rfl⟩, ⟨_, rfl⟩, ⟨_, rfl⟩⟩
    rfl hbuild

/-- Two ants that want the cell between them. -/
def strait : Board :=
  ((Board.blank straitConfig (.ofConfig straitConfig) 3 1 3 (.ofSeed 0)).enter 0
    (simpleton 0 .blue .move 50 .east)).enter 2 (simpleton 1 .blue .move 50 .west)

/-- The strait is put together by two ants entering. -/
theorem reachable_strait : Reachable strait :=
  .enter_simpleton (.enter_simpleton reachable_straitRow)

/-- The strait is in order. -/
theorem wellFormed_strait : strait.WellFormed :=
  reachable_strait.wellFormed (by decide +kernel)

/-- After a tick of the strait the ant from its first cell is on its last. -/
theorem exists_tick_strait :
    ∃ b', strait.tick = .ok b' ∧ 0 ∈ b'.arena.ids ∧ strait.indexOfAnt? 0 = some 0 ∧
      b'.indexOfAnt? 0 = some 2 := by
  obtain ⟨b', htick⟩ := wellFormed_strait.exists_tick (by decide +kernel)
  have hleft : (strait.tick.toOption.all fun b => decide (0 ∈ b.arena.ids)) = true := by
    decide +kernel
  have hafter : strait.tick.toOption.bind (·.indexOfAnt? 0) = some 2 := by decide +kernel
  rw [htick] at hleft hafter
  exact ⟨b', htick, of_decide_eq_true hleft, by decide +kernel, hafter⟩

/-- The ant that comes first through the strait is carried on to the cell of the other. -/
theorem strait_carries :
    strait.WellFormed ∧ strait.nextId + strait.size ≤ idLimit ∧
      ∃ b', strait.tick = .ok b' ∧ ∃ x ∈ strait.arena.ants, x.id ∈ b'.arena.ids ∧
        strait.indexOfAnt? x.id = some 0 ∧ b'.indexOfAnt? x.id = some 2 ∧
        ∃ y ∈ strait.arena.ants, y.id ≠ x.id ∧ strait.indexOfAnt? y.id = some 2 ∧
          ∃ target, strait.Wants x target ∧ strait.Wants y target := by
  have hroom : strait.nextId + strait.size ≤ idLimit := by decide +kernel
  have hx : simpleton 0 .blue .move 50 .east ∈ strait.arena.ants := by decide +kernel
  have hahead : strait.ahead? (simpleton 0 .blue .move 50 .east) = some 1 := by decide +kernel
  obtain ⟨b', htick, hleft, hbefore, hafter⟩ := exists_tick_strait
  obtain ⟨m, n, hm, hn, hcases⟩ := (cell_after_tick wellFormed_strait).1 b' htick _ hx hleft
  obtain rfl : m = 0 := Option.some.inj (hm.symm.trans hbefore)
  obtain rfl : n = 2 := Option.some.inj (hn.symm.trans hafter)
  rcases hcases with hstay | ⟨-, hwant, -⟩ | hcarried
  · cases hstay
  · rw [hahead] at hwant
    cases hwant
  · exact ⟨wellFormed_strait, hroom, b', htick, _, hx, hleft, hm, hn, hcarried⟩

/-- It is not so that an ant is on its own cell or on the cell ahead of it after a tick. -/
theorem carried_past_cell_ahead :
    ¬ ∀ b b' : Board, Reachable b → b.nextId ≤ idLimit → b.tick = .ok b' →
      ∀ x ∈ b.arena.ants, x.id ∈ b'.arena.ids →
        ∃ m n, b.indexOfAnt? x.id = some m ∧ b'.indexOfAnt? x.id = some n ∧
          (n = m ∨ b.shape.ahead? m x.direction = some (n : Int)) := by
  intro h
  have hx : simpleton 0 .blue .move 50 .east ∈ strait.arena.ants := by decide +kernel
  have hahead : strait.shape.ahead? 0 .east = some 1 := by decide +kernel
  obtain ⟨b', htick, hleft, hbefore, hafter⟩ := exists_tick_strait
  obtain ⟨m, n, hm, hn, hcases⟩ :=
    h strait b' reachable_strait (by decide +kernel) htick _ hx hleft
  obtain rfl : m = 0 := Option.some.inj (hm.symm.trans hbefore)
  obtain rfl : n = 2 := Option.some.inj (hn.symm.trans hafter)
  rcases hcases with hstay | hstep
  · cases hstay
  · cases hstep.symm.trans hahead

end Formicary
