import Formicary.Proofs.Moves

/-!
# Births and parents

An ant that splits has its child put on the cell before its own, which is empty at the start of the
tick.  When the birth is committed that cell may have been taken, and then the ant on it is put out.
It may even be the parent: an ant that moves to the cell where its child is to be born is there when
the birth comes, and no other parent is (`Scan.Completes.parent_iff`).  In `lone` an only ant puts
itself out in this way.
-/

namespace Formicary

namespace Scan

variable {b : Board} {s : Scan} {before later : List Change} {n : Nat} {child : Ant} {c : Commit}
  {e : Account}

/-- When a birth is committed the parent is on the cell of the birth if it wanted to move there, and
not otherwise. -/
theorem Completes.parent_iff (hb : b.WellFormed) (hs : Completes b s)
    (hq : s.queue.toList = before ++ .born n child :: later)
    (hrun : Commit.run s.board s.tally before = .ok c) :
    ∃ e ∈ b.journal, e.cell = n + 1 ∧ e.Bears child ∧
      (c.board.content n = .ant e.met.id ↔ b.Wants e.met n) := by
  obtain ⟨e, he, hcell, hbears, hmove⟩ := hs.exists_parent hb hq
  have hcontent := hs.content_of_mem hb he
  have hempty : b.content n = .empty := by
    refine (hs.stage.suits (.born n child) ?_).2.1
    rw [hq]
    exact List.mem_append_cons_self
  refine ⟨e, he, hcell, hbears, ?_⟩
  rw [(hb.outcome_of_commit hs hq hrun n).empty hempty]
  constructor
  · intro hregister
    have hbefore : ∀ c ∈ before, c ∈ s.queue.toList := fun c hc => by
      rw [hq]
      exact List.mem_append_left _ hc
    have hswap := hbefore _ (hs.swap_mem_of_register hb hbefore hcontent hregister)
    obtain ⟨e', he', hcell', hw⟩ := (hs.swap_mem_iff hb).1 hswap
    rwa [hs.eq_of_cell hb he he' hcell']
  · intro hw
    obtain ⟨earlier, rfl⟩ := hmove n hw
    rw [register_concat]
    exact (if_pos rfl).trans hcontent

/-- The commit of a birth puts out the parent if it wanted to move to the cell of the birth, and not
otherwise. -/
theorem Completes.puts_out_parent_iff (hb : b.WellFormed) (hs : Completes b s)
    (hq : s.queue.toList = before ++ .born n child :: later)
    (hrun : Commit.run s.board s.tally before = .ok c) {c' : Commit}
    (happly : c.apply (.born n child) = .ok c') :
    ∃ e ∈ b.journal, e.cell = n + 1 ∧ e.Bears child ∧
      (e.met.id ∈ c.board.arena.ids ∧ e.met.id ∉ c'.board.arena.ids ↔ b.Wants e.met n) := by
  obtain ⟨e, he, hcell, hbears, hiff⟩ := hs.parent_iff hb hq hrun
  obtain ⟨hc, hp⟩ := hb.pending_of_commit hs hq hrun
  refine ⟨e, he, hcell, hbears, ?_⟩
  rw [Commit.evicts?_iff hc hp happly, ← hiff]
  change _ ∧ (c.board.content n).ant? = some e.met.id ↔ _
  rw [Content.ant?_eq_some_iff, and_iff_right_iff_imp]
  intro hant
  have hn := Board.lt_size_of_content_ne (by rw [hant]; exact Content.noConfusion)
  exact hc.peopled.mem_ids hn hant

end Scan

/-- A birth puts out its own parent if the parent wanted to move to the cell of the birth, and not
otherwise: not if the parent stays, and not if it moves elsewhere.  There is a birth for every ant
that splits, for the cell before its own.  The board need only be well formed, as reachable ones are
(`Reachable.wellFormed`). -/
theorem birth_puts_out_parent_iff {b : Board} (hb : b.WellFormed) :
    ∃ s, Scan.run b = .ok s ∧
      (∀ e ∈ b.journal, e.split = true → ∃ child, e.Bears child ∧
        .born (e.cell - 1) child ∈ s.queue.toList) ∧
      (∀ before later n child c c', s.queue.toList = before ++ .born n child :: later →
        Commit.run s.board s.tally before = .ok c → c.apply (.born n child) = .ok c' →
        ∃ e ∈ b.journal, e.cell = n + 1 ∧ e.Bears child ∧
          (e.met.id ∈ c.board.arena.ids ∧ e.met.id ∉ c'.board.arena.ids ↔ b.Wants e.met n)) ∧
      (s.board.nextId ≤ idLimit → ∀ before later x, s.queue.toList = before ++ x :: later →
        ∃ c c', Commit.run s.board s.tally before = .ok c ∧ c.apply x = .ok c') := by
  obtain ⟨s, hs⟩ := Scan.exists_completes hb
  refine ⟨s, hs.run_eq, ?_, ?_, ?_⟩
  · intro e he hsplit
    exact (hs.exists_birth hb he hsplit).2
  · intro before later n child c c' hq hrun happly
    exact hs.puts_out_parent_iff hb hq hrun happly
  · intro hids before later x hq
    exact hb.exists_commit hs hids hq

/-! ### An only ant

An ant on the middle of a row of three cells moves west and splits, and its child is to be born
where it moves. -/

/-- The row with its ant. -/
def lone : Board :=
  (Board.blank straitConfig (.ofConfig straitConfig) 3 1 3 (.ofSeed 0)).enter 1
    (simpleton 0 .blue .move 200 .west)

/-- The row is put together by one ant entering. -/
theorem reachable_lone : Reachable lone := .enter_simpleton reachable_straitRow

/-- The row is in order. -/
theorem wellFormed_lone : lone.WellFormed :=
  reachable_lone.wellFormed (by decide +kernel)

/-- The ant splits, and it wants to move to the first cell. -/
theorem journal_lone :
    (lone.journal.map fun e => (e.cell, e.met.id, e.split)) = [(1, 0, true)] ∧
      ∀ e ∈ lone.journal, lone.Wants e.met 0 := by
  simp only [Board.Wants]
  decide +kernel

/-- The birth is committed on the row. -/
theorem exists_commit_lone :
    ∃ s before later child c c', Scan.Completes lone s ∧
      s.queue.toList = before ++ .born 0 child :: later ∧
      Commit.run s.board s.tally before = .ok c ∧ c.apply (.born 0 child) = .ok c' := by
  obtain ⟨s, hs⟩ := Scan.exists_completes wellFormed_lone
  have hids : ((Scan.run lone).toOption.all fun s => decide (s.board.nextId ≤ idLimit)) = true := by
    decide +kernel
  rw [hs.run_eq] at hids
  obtain ⟨e, he, hentry⟩ := List.mem_map.1 (journal_lone.1.symm ▸ List.mem_singleton_self _)
  rw [Prod.mk.injEq, Prod.mk.injEq] at hentry
  obtain ⟨-, child, -, hborn⟩ := hs.exists_birth wellFormed_lone he hentry.2.2
  rw [hentry.1] at hborn
  obtain ⟨before, later, hq⟩ := List.append_of_mem hborn
  obtain ⟨c, c', hrun, happly⟩ := wellFormed_lone.exists_commit hs (of_decide_eq_true hids) hq
  exact ⟨s, before, later, child, c, c', hs, hq, hrun, happly⟩

/-- The ant is put out by the birth of its child. -/
theorem lone_put_out :
    lone.WellFormed ∧ ∃ s before later child c c', Scan.run lone = .ok s ∧
      s.queue.toList = before ++ .born 0 child :: later ∧
      Commit.run s.board s.tally before = .ok c ∧ c.apply (.born 0 child) = .ok c' ∧
      ∃ e ∈ lone.journal, e.Bears child ∧ e.met.id ∈ c.board.arena.ids ∧
        e.met.id ∉ c'.board.arena.ids := by
  obtain ⟨s, before, later, child, c, c', hs, hq, hbefore, happly⟩ := exists_commit_lone
  obtain ⟨s', hrun, -, hparent, -⟩ := birth_puts_out_parent_iff wellFormed_lone
  obtain rfl : s = s' := Except.ok.inj (hs.run_eq.symm.trans hrun)
  obtain ⟨e, he, -, hbears, hiff⟩ := hparent before later 0 child c c' hq hbefore happly
  obtain ⟨hin, hout⟩ := hiff.2 (journal_lone.2 e he)
  exact ⟨wellFormed_lone, s, before, later, child, c, c', hrun, hq, hbefore, happly, e, he, hbears,
    hin, hout⟩

/-- It is not so that a birth never puts out its own parent. -/
theorem parent_put_out :
    ¬ ∀ (b : Board) (s : Scan) (before later : List Change) (child : Ant) (e : Account)
      (c c' : Commit), Reachable b → b.nextId ≤ idLimit → Scan.run b = .ok s → e ∈ b.journal →
      e.Bears child → s.queue.toList = before ++ .born (e.cell - 1) child :: later →
      Commit.run s.board s.tally before = .ok c → c.apply (.born (e.cell - 1) child) = .ok c' →
      e.met.id ∈ c.board.arena.ids → e.met.id ∈ c'.board.arena.ids := by
  intro h
  obtain ⟨s, before, later, child, c, c', hs, hq, hbefore, happly⟩ := exists_commit_lone
  obtain ⟨e, he, hcell, hbears, hiff⟩ := hs.puts_out_parent_iff wellFormed_lone hq hbefore happly
  obtain ⟨hin, hout⟩ := hiff.2 (journal_lone.2 e he)
  have hspawn : e.cell - 1 = 0 := by omega
  exact hout (h lone s before later child e c c' reachable_lone (by decide +kernel) hs.run_eq he
    hbears (hspawn.symm ▸ hq) hbefore (hspawn.symm ▸ happly) hin)

end Formicary
