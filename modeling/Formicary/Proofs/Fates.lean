import Formicary.Proofs.Damage
import Formicary.Proofs.Moves

/-!
# The fates of ants in a tick

An ant that does not move in a tick is safe where it stands: nothing but its own death takes it from
its cell, and that is proposed if it has no energy when its turn ends.  So it is there after the
tick, or there is food in its place.  The deaths that are counted are these, and every other ant
that leaves the arena has moved, or has come into it in the same tick.

An ant that is there after a tick without energy has therefore moved or come into the arena in that
tick, or it was struck after its turn, when it was too late for a death to be proposed.
-/

namespace Formicary

/-- Whether a scan has proposed a move for the ant on a cell. -/
def Scan.moves (s : Scan) (n : Nat) : Bool := s.queue.toList.any fun c => c.source? == some n

/-- Whether the ant of an account dies on its cell: it does not move and has no energy when its turn
ends. -/
def Account.perishes (s : Scan) (e : Account) : Bool :=
  !s.moves e.cell && decide (e.parted.worth ≤ 0)

variable {b b' : Board} {s : Scan} {n : Nat} {id : Int} {e e' : Account} {x y : Ant}
  {f : Nat → Content} {q : List Change} {cost meal divisor limit : Int}

/-- A scan has proposed a move for the ant on a cell if there is one in its queue. -/
theorem Scan.moves_iff : s.moves n = true ↔ ∃ target, .swap target n ∈ s.queue.toList := by
  rw [moves, List.any_eq_true]
  constructor
  · rintro ⟨c, hc, hsource⟩
    rw [beq_iff_eq] at hsource
    cases c with
    | swap target source =>
      cases hsource
      exact ⟨target, hc⟩
    | growFood cell => cases hsource
    | removeFood cell => cases hsource
    | born cell child => cases hsource
    | death cell own => cases hsource
  · rintro ⟨target, hc⟩
    exact ⟨_, hc, beq_self_eq_true _⟩

/-- An ant that does not move and has no energy dies. -/
theorem Account.perishes_of_rest (hrest : s.moves e.cell = false) (hspent : e.parted.worth ≤ 0) :
    e.perishes s = true := by
  rw [perishes, hrest, decide_eq_true hspent]
  rfl

/-! ### Who leaves -/

/-- The departures of a queue, by where they are in it. -/
theorem mem_departures {d : Change × Int} :
    d ∈ departures f q ↔ ∃ before later, q = before ++ d.1 :: later ∧
      d.1.evicts? (before.foldl Change.write f) = some d.2 := by
  induction q generalizing f with
  | nil => simp [departures]
  | cons c q ih =>
    rw [departures, List.mem_append, ih]
    constructor
    · rintro (hfirst | ⟨before, later, rfl, hevicts⟩)
      · obtain ⟨id, hid, rfl⟩ := Option.map_eq_some_iff.1 (Option.mem_toList.1 hfirst)
        exact ⟨[], q, rfl, hid⟩
      · exact ⟨c :: before, later, rfl, hevicts⟩
    · rintro ⟨before, later, hq, hevicts⟩
      cases before with
      | nil =>
        obtain ⟨rfl, rfl⟩ := List.cons.inj hq
        exact Or.inl (Option.mem_toList.2 (Option.map_eq_some_iff.2 ⟨d.2, hevicts, rfl⟩))
      | cons c' before =>
        obtain ⟨rfl, rfl⟩ := List.cons.inj hq
        exact Or.inr ⟨before, later, rfl, hevicts⟩

namespace Scan

/-- The death of the ant of an account is proposed if it has no energy when its turn ends. -/
theorem Completes.death_mem_of_mem (hb : b.WellFormed) (hs : Completes b s)
    (he : e ∈ b.journal) :
    .death e.cell e.met.id ∈ s.queue.toList ↔ e.parted.worth ≤ 0 := by
  rw [hs.death_mem_iff hb]
  constructor
  · rintro ⟨e', he', hcell, -, hspent⟩
    rwa [hs.eq_of_cell hb he he' hcell]
  · intro hspent
    exact ⟨e, he, rfl, rfl, hspent⟩

/-- No move is proposed for an ant that rests. -/
theorem swap_notMem_of_moves_eq_false (h : s.moves n = false) (target : Nat) :
    .swap target n ∉ s.queue.toList := by
  intro hmem
  rw [moves_iff.2 ⟨target, hmem⟩] at h
  cases h

/-! ### Deaths -/

/-- An ant that is still on its cell when its death is committed has not moved. -/
theorem Completes.moves_eq_false (hb : b.WellFormed) (hs : Completes b s) (he : e ∈ b.journal)
    {before later : List Change} (hq : s.queue.toList = before ++ .death e.cell e.met.id :: later)
    (hstays : before.foldl Change.write b.content e.cell = .ant e.met.id) :
    s.moves e.cell = false := by
  have hcontent := hs.content_of_mem hb he
  have houtcome := hs.outcome_before hq e.cell
  rw [hstays] at houtcome
  have horder := hs.stage.order
  rw [hq] at horder
  rw [← Bool.not_eq_true, moves_iff]
  rintro ⟨target, hswap⟩
  rw [hq, List.mem_append, List.mem_cons] at hswap
  rcases hswap with hswap | hswap | hswap
  · -- if it moves before, it leaves, unless it has moved there already
    have hdeath : .death e.cell e.met.id ∉ before := fun hmem => by
      cases houtcome.dead _ hcontent hmem
    obtain ⟨earlier, rest, hbefore⟩ := List.append_of_mem hswap
    have hregister := houtcome.moved _ hcontent hdeath target earlier rest hbefore
    have hmem : .swap target e.cell ∈ earlier := by
      refine hs.swap_mem_of_register hb (fun c hc => ?_) hcontent hregister.symm
      rw [hq, hbefore]
      exact List.mem_append_left _ (List.mem_append_left _ hc)
    rw [hbefore] at horder
    exact (List.pairwise_append.1 (List.pairwise_append.1 horder).1).2.2 _ hmem _
      List.mem_cons_self e.cell rfl rfl
  · cases hswap
  · -- nobody moves after its death
    have hlater := (List.pairwise_cons.1 (List.pairwise_append.1 horder).2.1).1 _ hswap
    exact hlater e.cell rfl rfl

/-- The ants that depart by their own deaths are those that die on their cells. -/
theorem Completes.dies_iff (hb : b.WellFormed) (hs : Completes b s) :
    id ∈ ((departures b.content s.queue.toList).filter dies).map Prod.snd ↔
      id ∈ (b.journal.filter (·.perishes s)).map fun e => e.met.id := by
  rw [List.mem_map, List.mem_map]
  constructor
  · rintro ⟨⟨c, id⟩, hd, rfl⟩
    obtain ⟨hd, hdies⟩ := List.mem_filter.1 hd
    obtain ⟨before, later, hq, hevicts⟩ := mem_departures.1 hd
    cases c with
    | growFood cell => cases hdies
    | removeFood cell => cases hdies
    | swap target source => cases hdies
    | born cell child => cases hdies
    | death n own =>
      obtain rfl : own = id := beq_iff_eq.1 hdies
      have hmem : .death n own ∈ s.queue.toList := by
        rw [hq]
        exact List.mem_append_cons_self
      obtain ⟨e, he, rfl, rfl, hspent⟩ := (hs.death_mem_iff hb).1 hmem
      have hrest := hs.moves_eq_false hb he hq (Content.ant?_eq_some_iff.1 hevicts)
      refine ⟨e, List.mem_filter.2 ⟨he, ?_⟩, rfl⟩
      rw [Account.perishes, hrest, decide_eq_true hspent]
      rfl
  · rintro ⟨e, he, rfl⟩
    obtain ⟨he, hperishes⟩ := List.mem_filter.1 he
    rw [Account.perishes, Bool.and_eq_true, Bool.not_eq_true', decide_eq_true_eq] at hperishes
    obtain ⟨hrest, hspent⟩ := hperishes
    have hmem := (hs.death_mem_of_mem hb he).2 hspent
    obtain ⟨before, later, hq, hfirst⟩ := List.eq_append_cons_of_mem hmem
    have hstays := (hs.outcome_before hq e.cell).stayed e.met.id (hs.content_of_mem hb he) hfirst
      fun target hswap => swap_notMem_of_moves_eq_false hrest target (by
        rw [hq]
        exact List.mem_append_left _ hswap)
    refine ⟨(.death e.cell e.met.id, e.met.id), List.mem_filter.2 ⟨mem_departures.2
      ⟨before, later, hq, ?_⟩, beq_self_eq_true _⟩, rfl⟩
    exact Content.ant?_eq_some_iff.2 hstays

end Scan

namespace Books

/-- Nobody departs twice. -/
theorem nodup_departures (h : Books b s b') :
    ((departures b.content s.queue.toList).map Prod.snd).Nodup :=
  (List.nodup_append.1 (h.perm.nodup_iff.1 h.nodup)).2.1

/-- Who departs is not there after the tick. -/
theorem notMem_of_departs (h : Books b s b')
    (hid : id ∈ (departures b.content s.queue.toList).map Prod.snd) : id ∉ b'.arena.ids :=
  fun hleft => (List.nodup_append.1 (h.perm.nodup_iff.1 h.nodup)).2.2 id hleft id hid rfl

/-- Who departs does so by its own death or otherwise. -/
theorem perm_departures (b : Board) (s : Scan) :
    ((departures b.content s.queue.toList).map Prod.snd).Perm
      (((departures b.content s.queue.toList).filter dies).map Prod.snd ++
        ((departures b.content s.queue.toList).filter (!dies ·)).map Prod.snd) := by
  rw [← List.map_append]
  exact (List.filter_append_perm dies _).symm.map Prod.snd

/-- Those that depart by their own deaths are those that die on their cells. -/
theorem perm_dies (h : Books b s b') (hb : b.WellFormed) (hs : Scan.Completes b s) :
    (((departures b.content s.queue.toList).filter dies).map Prod.snd).Perm
      ((b.journal.filter (·.perishes s)).map fun e => e.met.id) := by
  refine (List.perm_ext_iff_of_nodup ?_ ?_).2 fun id => hs.dies_iff hb
  · exact h.nodup_departures.sublist (List.filter_sublist.map Prod.snd)
  · exact (hs.nodup_journal hb).sublist (List.filter_sublist.map _)

/-- As many deaths are counted as ants die on their cells. -/
theorem deaths_eq (h : Books b s b') (hb : b.WellFormed) (hs : Scan.Completes b s) :
    b'.lastTally.deaths = b.journal.countP (·.perishes s) := by
  have hlength := (h.perm_dies hb hs).length_eq
  rw [List.length_map, List.length_map, ← List.countP_eq_length_filter,
    ← List.countP_eq_length_filter] at hlength
  rw [h.deaths, hlength]

end Books

/-- Where damage has been done to an ant it was struck. -/
theorem Board.exists_of_toll_pos {J : List Account} (h : 0 < b.toll divisor x J) :
    ∃ e ∈ J, b.strikes e.met x = true ∧ 0 < e.damage divisor := by
  induction J using List.reverseRecOn with
  | nil => exact (Int.lt_irrefl 0 h).elim
  | append_singleton J e ih =>
    by_cases hbefore : 0 < b.toll divisor x J
    · obtain ⟨e', he', hstruck⟩ := ih hbefore
      exact ⟨e', List.mem_append_left _ he', hstruck⟩
    · refine ⟨e, List.mem_append_right _ (List.mem_singleton_self e), ?_⟩
      rw [toll_concat] at h
      split at h
      · next hstrikes => exact ⟨hstrikes, by omega⟩
      · omega

namespace Board.WellFormed

/-- An ant that rests is where it was after the tick, or it has died and there is food in its
place. -/
theorem of_rest (hb : b.WellFormed) (hs : Scan.Completes b s) (htick : b.tick = .ok b')
    (he : e ∈ b.journal) (hrest : s.moves e.cell = false) :
    b'.content e.cell = if 0 < e.parted.worth then .ant e.met.id else .food := by
  have hcontent := hs.content_of_mem hb he
  obtain ⟨-, hcommit, rfl⟩ := hb.commit_of_tick hs htick
  have houtcome := hb.outcome_of_commit hs (List.append_nil _).symm hcommit e.cell
  change s.committed.board.content e.cell = _
  split
  · next hrich =>
    refine houtcome.stayed _ hcontent ?_ (Scan.swap_notMem_of_moves_eq_false hrest)
    rw [hs.death_mem_of_mem hb he]
    omega
  · next hspent =>
    refine houtcome.dead _ hcontent ((hs.death_mem_of_mem hb he).2 ?_)
    omega

/-- An ant that perishes is not there after the tick. -/
theorem notMem_of_perishes (hb : b.WellFormed) (hs : Scan.Completes b s) (htick : b.tick = .ok b')
    (he : e ∈ b.journal) (hperishes : e.perishes s = true) : e.met.id ∉ b'.arena.ids := by
  have hbooks := hb.books hs htick
  refine hbooks.notMem_of_departs ?_
  have hdies := (hbooks.perm_dies hb hs).symm.subset
    (List.mem_map_of_mem (List.mem_filter.2 ⟨he, hperishes⟩))
  exact (List.filter_sublist.map Prod.snd).subset hdies

/-- An ant that rests with energy is there after the tick, where it was. -/
theorem stays_of_rest (hb : b.WellFormed) (hs : Scan.Completes b s) (htick : b.tick = .ok b')
    (he : e ∈ b.journal) (hrest : s.moves e.cell = false) (hrich : 0 < e.parted.worth) :
    e.met.id ∈ b'.arena.ids ∧ b'.indexOfAnt? e.met.id = some e.cell := by
  have hb' := hb.tick htick
  have hcontent := hb.of_rest hs htick he hrest
  rw [if_pos hrich] at hcontent
  have hn := lt_size_of_content_ne (by rw [hcontent]; exact Content.noConfusion)
  exact ⟨hb'.peopled.mem_ids hn hcontent, hb'.indexOfAnt?_eq hcontent⟩

/-- An ant that rests without energy is gone after the tick, and there is food in its place. -/
theorem dies_of_rest (hb : b.WellFormed) (hs : Scan.Completes b s) (htick : b.tick = .ok b')
    (he : e ∈ b.journal) (hrest : s.moves e.cell = false) (hspent : e.parted.worth ≤ 0) :
    e.met.id ∉ b'.arena.ids ∧ b'.kinds[e.cell]? = some .food := by
  have hcontent := hb.of_rest hs htick he hrest
  rw [if_neg (Int.not_lt.2 hspent)] at hcontent
  have hn := lt_size_of_content_ne (by rw [hcontent]; exact Content.noConfusion)
  refine ⟨hb.notMem_of_perishes hs htick he (Account.perishes_of_rest hrest hspent), ?_⟩
  rw [(hb.tick htick).displays.kind e.cell hn, hcontent]
  rfl

/-- Who departs otherwise than by its own death has moved or is a newborn. -/
theorem moves_of_departs (hb : b.WellFormed) (hs : Scan.Completes b s) (htick : b.tick = .ok b')
    (hid : id ∈ ((departures b.content s.queue.toList).filter (!dies ·)).map Prod.snd) :
    (∃ e ∈ b.journal, e.met.id = id ∧ s.moves e.cell = true) ∨
      id ∈ (newborns s.queue.toList).map Ant.id := by
  have hbooks := hb.books hs htick
  have hdeparts := (List.filter_sublist.map Prod.snd).subset hid
  rcases List.mem_append.1 (hbooks.perm.symm.subset (List.mem_append_right _ hdeparts)) with
    hold | hnew
  · rw [← hb.perm_residents.mem_iff, ← hs.journal_ids hb] at hold
    obtain ⟨e, he, rfl⟩ := List.mem_map.1 hold
    refine Or.inl ⟨e, he, rfl, ?_⟩
    rw [← Bool.not_eq_false]
    intro hrest
    by_cases hrich : 0 < e.parted.worth
    · -- an ant that rests with energy is still there
      exact hbooks.notMem_of_departs hdeparts (hb.stays_of_rest hs htick he hrest hrich).1
    · -- an ant that rests without energy departs by its own death
      have hperishes := Account.perishes_of_rest hrest (Int.not_lt.1 hrich)
      have hdies := (hbooks.perm_dies hb hs).symm.subset
        (List.mem_map_of_mem (List.mem_filter.2 ⟨he, hperishes⟩))
      have hnodup := (Books.perm_departures b s).nodup_iff.1 hbooks.nodup_departures
      exact (List.nodup_append.1 hnodup).2.2 _ hdies _ hid rfl
  · exact Or.inr hnew

/-- An ant that is there after a tick without energy, and was there before it, has moved or has been
struck after its turn. -/
theorem moves_or_struck (hb : b.WellFormed) (hs : Scan.Completes b s) (htick : b.tick = .ok b')
    (hprices : b.Prices cost meal divisor limit) (hx : x ∈ b.arena.ants)
    (hy : y ∈ b'.arena.ants) (hid : y.id = x.id) (hspent : y.worth ≤ 0) :
    ∃ e ∈ b.journal, e.met.id = x.id ∧ (s.moves e.cell = true ∨
      ∃ f ∈ b.journal, e.cell < f.cell ∧ b.strikes f.met e.met = true ∧ 0 < f.damage divisor) := by
  obtain ⟨n, hn, hxn⟩ := hb.mem_ants_iff.1 hx
  obtain ⟨e, he, rfl, hfair, z, hz, hworth⟩ := (hs.reckons hb hprices).acted hn hxn
  obtain rfl : y = z := (hb.kept_of_tick hs htick hx hz).2 y (List.mem_append_left _ hy) hid
  have hmet : e.met.id = x.id := by rw [hfair.met]
  refine ⟨e, he, hmet, ?_⟩
  cases hmoves : s.moves e.cell with
  | true => exact Or.inl rfl
  | false =>
    have hrich : 0 < e.parted.worth := by
      by_contra hle
      have hperishes := Account.perishes_of_rest hmoves (Int.not_lt.1 hle)
      refine hb.notMem_of_perishes hs htick he hperishes ?_
      rw [hmet, ← hid]
      exact Arena.mem_ids_of_mem hy
    have htoll : 0 < b.toll divisor x (b.journal.filter (e.cell < ·.cell)) := by omega
    obtain ⟨f, hf, hstrikes, hdamage⟩ := Board.exists_of_toll_pos htoll
    obtain ⟨hf, hlater⟩ := List.mem_filter.1 hf
    refine Or.inr ⟨f, hf, of_decide_eq_true hlater, ?_, hdamage⟩
    rw [hfair.met]
    exact hstrikes

end Board.WellFormed

/-! ### All fates -/

/-- The fates of the ants of a tick.  An ant that rests is on its cell afterwards if it has energy
when its turn ends, and otherwise it is gone and there is food in its place.  The ants that go in
this way are the deaths that are counted, and whoever else goes is counted as overwritten and has
moved or is a newborn.  An ant without energy after the tick is a newborn, or has moved, or was
struck by an ant on a higher cell.  The board need only be well formed, as reachable ones are
(`Reachable.wellFormed`). -/
theorem fates_of_tick {b : Board} (hb : b.WellFormed) :
    ∃ cost meal divisor limit s, b.Prices cost meal divisor limit ∧ Scan.run b = .ok s ∧
      (b.journal.map fun e => e.met.id).Perm b.arena.ids ∧
      (∀ b', b.tick = .ok b' →
        (∀ e ∈ b.journal, e.parted.energy = .int e.parted.worth ∧
          b.indexOfAnt? e.met.id = some e.cell ∧
          (s.moves e.cell = false →
            (0 < e.parted.worth →
              e.met.id ∈ b'.arena.ids ∧ b'.indexOfAnt? e.met.id = some e.cell) ∧
            (e.parted.worth ≤ 0 →
              e.met.id ∉ b'.arena.ids ∧ b'.kinds[e.cell]? = some .food))) ∧
        b'.lastTally.deaths = b.journal.countP (·.perishes s) ∧
        (∃ overwritten : List Int, overwritten.length = b'.lastTally.overwritten ∧
          (b.arena.ids ++ (newborns s.queue.toList).map Ant.id).Perm (b'.arena.ids ++
            ((b.journal.filter (·.perishes s)).map (fun e => e.met.id) ++ overwritten)) ∧
          ∀ id ∈ overwritten, (∃ e ∈ b.journal, e.met.id = id ∧ s.moves e.cell = true) ∨
            id ∈ (newborns s.queue.toList).map Ant.id) ∧
        ∀ y ∈ b'.arena.ants, y.worth ≤ 0 → y.id ∈ (newborns s.queue.toList).map Ant.id ∨
          ∃ e ∈ b.journal, e.met.id = y.id ∧ (s.moves e.cell = true ∨
            ∃ f ∈ b.journal, e.cell < f.cell ∧ b.strikes f.met e.met = true ∧
              0 < f.damage divisor)) ∧
      (b.nextId + b.size ≤ idLimit → ∃ b', b.tick = .ok b') := by
  obtain ⟨cost, meal, divisor, limit, hprices⟩ := hb.exists_prices
  obtain ⟨s, hs⟩ := Scan.exists_completes hb
  refine ⟨cost, meal, divisor, limit, s, hprices, hs.run_eq, ?_, ?_, hb.exists_tick⟩
  · rw [hs.journal_ids hb]
    exact hb.perm_residents
  · intro b' htick
    have hbooks := hb.books hs htick
    refine ⟨?_, hbooks.deaths_eq hb hs, ?_, ?_⟩
    · intro e he
      obtain ⟨x, hx, hmet, henergy⟩ := hs.standing_of_mem hb e he
      exact ⟨henergy, hb.indexOfAnt?_eq (hs.content_of_mem hb he), fun hrest =>
        ⟨hb.stays_of_rest hs htick he hrest, hb.dies_of_rest hs htick he hrest⟩⟩
    · refine ⟨((departures b.content s.queue.toList).filter (!dies ·)).map Prod.snd, ?_, ?_,
        fun id hid => hb.moves_of_departs hs htick hid⟩
      · rw [List.length_map, ← List.countP_eq_length_filter, hbooks.overwritten]
      · refine hbooks.perm.trans (List.Perm.append_left _ ?_)
        exact (Books.perm_departures b s).trans ((hbooks.perm_dies hb hs).append_right _)
    · intro y hy hspent
      rcases List.mem_append.1 (hbooks.perm.symm.subset
        (List.mem_append_left _ (Arena.mem_ids_of_mem hy))) with hold | hnew
      · obtain ⟨x, hx, hid⟩ := List.mem_map.1 hold
        rw [← hid]
        exact Or.inr (hb.moves_or_struck hs htick hprices hx hy hid.symm hspent)
      · exact Or.inl hnew

/-- In the crowd an ant that rests with energy stays where it is, and one that has spent its last
energy on an attack is the only death. -/
theorem crowd_fates :
    crowd.WellFormed ∧ crowd.nextId + crowd.size ≤ idLimit ∧ ∃ b', crowd.tick = .ok b' ∧
      b'.indexOfAnt? 2 = some 4 ∧ 3 ∉ b'.arena.ids ∧ b'.kinds[5]? = some .food ∧
      b'.lastTally.deaths = 1 := by
  have hroom : crowd.nextId + crowd.size ≤ idLimit := by decide +kernel
  obtain ⟨cost, meal, divisor, limit, s, -, hrun, -, hfates, hexists⟩ :=
    fates_of_tick wellFormed_crowd
  obtain ⟨b', htick⟩ := hexists hroom
  obtain ⟨hrest, hdeaths, -⟩ := hfates b' htick
  have hscan : (Scan.run crowd).toOption.map (fun s =>
      (s.moves 4, s.moves 5, crowd.journal.countP (·.perishes s))) = some (false, false, 1) := by
    decide +kernel
  have hstaying : ∃ e ∈ crowd.journal, e.cell = 4 ∧ e.met.id = 2 ∧ 0 < e.parted.worth := by
    decide +kernel
  have hdying : ∃ e ∈ crowd.journal, e.cell = 5 ∧ e.met.id = 3 ∧ e.parted.worth ≤ 0 := by
    decide +kernel
  rw [hrun] at hscan
  simp only [Except.toOption, Option.map_some, Option.some.injEq, Prod.mk.injEq] at hscan
  obtain ⟨hmoves₄, hmoves₅, hcount⟩ := hscan
  obtain ⟨e, he, hcell, hid, hrich⟩ := hstaying
  obtain ⟨e', he', hcell', hid', hspent⟩ := hdying
  have hstays := ((hrest e he).2.2 (hcell ▸ hmoves₄)).1 hrich
  have hdies := ((hrest e' he').2.2 (hcell' ▸ hmoves₅)).2 hspent
  rw [hcell, hid] at hstays
  rw [hcell', hid'] at hdies
  exact ⟨wellFormed_crowd, hroom, b', htick, hstays.2, hdies.1, hdies.2, hdeaths.trans hcount⟩

end Formicary
