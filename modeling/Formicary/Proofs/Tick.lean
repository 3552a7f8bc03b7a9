import Formicary.Proofs.Commit
import Formicary.Proofs.Stage

/-!
# Ticks of well-formed boards

The queue that a scan leaves can be committed: its newborns have ids that were not in use at the
start of the tick.  So a tick of a well-formed board completes and leaves a well-formed board, and
the one thing that can stop it is an id too large for an occupant entry
(`Board.WellFormed.tick_cases`).
-/

namespace Formicary

variable {b b' : Board} {s : Scan}

namespace Scan

/-- The newborns of a scan have ids that were given out during it. -/
theorem Stage.id_of_newborn {n : Nat} (h : Stage b n s) {a : Ant}
    (ha : a ∈ newborns s.queue.toList) : b.nextId ≤ a.id ∧ a.id < s.board.nextId := by
  have hmem : a.id ∈ consecutive b.nextId (newborns s.queue.toList).length := by
    rw [← h.numbered]
    exact List.mem_map_of_mem ha
  rw [h.nextId]
  exact mem_consecutive.1 hmem

/-- The queue of a completed scan can be committed. -/
theorem Stage.pending (hb : b.WellFormed) (h : Stage b b.size s) :
    Pending s.board s.queue.toList := by
  have hid : ∀ a ∈ newborns s.queue.toList, b.nextId ≤ a.id ∧ a.id < s.board.nextId :=
    fun _ ha => h.id_of_newborn ha
  refine ⟨?_, ?_, ?_, ?_, ?_, ?_⟩
  · intro c hc
    rw [h.frozen.size]
    exact (h.suits c hc).within
  · intro a ha
    obtain ⟨cell, hborn⟩ := mem_newborns.1 ha
    exact (h.suits _ hborn).2.2.1
  · intro a ha
    have h0 := hb.peopled.next_nonneg
    have hle := (hid a ha).1
    omega
  · intro a ha
    exact (hid a ha).2
  · -- the ids of the newborns have been given out during the scan
    intro a ha hused
    rw [h.frozen.ids] at hused
    have hlt := hb.peopled.id_lt _ hused
    have hle := (hid a ha).1
    omega
  · rw [h.numbered]
    exact nodup_consecutive _ _

/-- The commit of the queue of a scan, as far as nothing goes wrong. -/
def committed (s : Scan) : Commit := s.queue.toList.foldl Commit.applied ⟨s.board, s.tally⟩

end Scan

/-- The board that a commit hands over when its tick completes. -/
def Commit.completed (c : Commit) : Board :=
  { c.board with ticks := c.board.ticks + 1, lastTally := c.tally }

namespace Board

/-- A scan leaves the board well formed, and so does the commit of its queue. -/
theorem WellFormed.committed (hb : b.WellFormed) (h : Scan.Completes b s) :
    s.committed.board.WellFormed :=
  Commit.wellFormed_foldl (c := ⟨s.board, s.tally⟩) (h.stage.wellFormed hb) (h.stage.pending hb)

/-- A tick completes if the ids of the newborns fit occupant entries, and otherwise halts at one
that does not. -/
theorem WellFormed.tick_cases (hb : b.WellFormed) (h : Scan.Completes b s) :
    ((∀ a ∈ newborns s.queue.toList, a.id < idLimit) ∧
        Commit.run s.board s.tally s.queue.toList = .ok s.committed ∧
        b.tick = .ok s.committed.completed) ∨
      ∃ id halted, b.tick = .error ⟨halted, .wideId id⟩ ∧ idLimit ≤ id ∧ id < s.board.nextId ∧
        halted.nextId = s.board.nextId := by
  have hp := h.stage.pending hb
  have hcommit : b.tick = (Commit.run s.board s.tally s.queue.toList).mapError
      (fun halted => ⟨halted.state.board, halted.fault⟩) >>= fun c => .ok c.completed := by
    rw [tick, h.run_eq]
    rfl
  rcases Commit.run_eq (c := ⟨s.board, s.tally⟩) (h.stage.wellFormed hb) hp with
    ⟨hsmall, hok⟩ | ⟨a, ha, hle, halted, hnext, hhalt⟩
  · refine Or.inl ⟨hsmall, hok, ?_⟩
    rw [hcommit, hok]
    rfl
  · refine Or.inr ⟨a.id, halted.board, ?_, hle, hp.id_lt a ha, hnext⟩
    rw [hcommit, hhalt]
    rfl

/-- In a tick of a well-formed board that completes, the ids of the newborns fit and the whole queue
of the scan has been committed. -/
theorem WellFormed.commit_of_tick (hb : b.WellFormed) (hs : Scan.Completes b s)
    (h : b.tick = .ok b') :
    (∀ a ∈ newborns s.queue.toList, a.id < idLimit) ∧
      Commit.run s.board s.tally s.queue.toList = .ok s.committed ∧ b' = s.committed.completed := by
  rcases hb.tick_cases hs with ⟨hfits, hrun, hok⟩ | ⟨id, halted, hhalt, -⟩
  · exact ⟨hfits, hrun, Except.ok.inj (h.symm.trans hok)⟩
  · rw [h] at hhalt
    cases hhalt

/-- A tick of a well-formed board that completes hands over the commit of its scan. -/
theorem WellFormed.eq_completed (hb : b.WellFormed) (hs : Scan.Completes b s)
    (h : b.tick = .ok b') : b' = s.committed.completed :=
  (hb.commit_of_tick hs h).2.2

/-- The first changes of a queue, committed. -/
theorem WellFormed.eq_foldl_of_commit (hb : b.WellFormed) (hs : Scan.Completes b s)
    {before later : List Change} {c : Commit} (hq : s.queue.toList = before ++ later)
    (hrun : Commit.run s.board s.tally before = .ok c) :
    Pending s.board before ∧ c = before.foldl Commit.applied ⟨s.board, s.tally⟩ := by
  have hp := hs.stage.pending hb
  rw [hq] at hp
  have hbefore : Pending s.board before := Commit.pending_of_append (c := ⟨s.board, s.tally⟩) hp
  exact ⟨hbefore, Commit.eq_foldl_of_run (c := ⟨s.board, s.tally⟩) (hs.stage.wellFormed hb)
    hbefore hrun⟩

/-- The first changes of a queue leave a well-formed board, on which the rest can be committed. -/
theorem WellFormed.pending_of_commit (hb : b.WellFormed) (hs : Scan.Completes b s)
    {before later : List Change} {c : Commit} (hq : s.queue.toList = before ++ later)
    (hrun : Commit.run s.board s.tally before = .ok c) :
    c.board.WellFormed ∧ Pending c.board later := by
  obtain ⟨hbefore, rfl⟩ := hb.eq_foldl_of_commit hs hq hrun
  have hp := hs.stage.pending hb
  rw [hq] at hp
  exact ⟨Commit.wellFormed_foldl (c := ⟨s.board, s.tally⟩) (hs.stage.wellFormed hb) hbefore,
    Commit.pending_foldl (c := ⟨s.board, s.tally⟩) hp⟩

/-- If the ids that a scan has given out fit occupant entries, its queue can be committed up to any
change, and then the change can. -/
theorem WellFormed.exists_commit (hb : b.WellFormed) (hs : Scan.Completes b s)
    (hids : s.board.nextId ≤ idLimit) {before later : List Change} {x : Change}
    (hq : s.queue.toList = before ++ x :: later) :
    ∃ c c', Commit.run s.board s.tally before = .ok c ∧ c.apply x = .ok c' := by
  have hp := hs.stage.pending hb
  rw [hq] at hp
  have hbefore : Pending s.board before := Commit.pending_of_append (c := ⟨s.board, s.tally⟩) hp
  rcases Commit.run_eq (c := ⟨s.board, s.tally⟩) (hs.stage.wellFormed hb) hbefore with
    ⟨-, hrun⟩ | ⟨a, ha, hle, -⟩
  · obtain ⟨hc, hpending⟩ := hb.pending_of_commit hs hq hrun
    rcases Commit.apply_cases hc hpending with ⟨-, happly⟩ | ⟨child, hchild, hle, -⟩
    · exact ⟨_, _, hrun, happly⟩
    · have hlt := hp.id_lt child (by
        rw [newborns_append, newborns_cons, hchild]
        exact List.mem_append_right _ List.mem_cons_self)
      change child.id < s.board.nextId at hlt
      omega
  · have hlt := hbefore.id_lt a ha
    omega

/-- Well-formedness says nothing about the clock of a board and its counters. -/
theorem WellFormed.completed {c : Commit} (h : c.board.WellFormed) : c.completed.WellFormed :=
  ⟨h.width, h.height, h.width_pos, h.height_pos, h.size_eq, h.tuned, h.rules, h.chance,
    ⟨h.displays.occupants_size, h.displays.kind, h.displays.occupant⟩, h.peopled⟩

/-- A tick keeps a board well formed. -/
theorem WellFormed.tick (hb : b.WellFormed) (h : b.tick = .ok b') : b'.WellFormed := by
  obtain ⟨s, hs⟩ := Scan.exists_completes hb
  rw [hb.eq_completed hs h]
  exact (hb.committed hs).completed

/-- A tick completes if the ids left for occupant entries are as many as the cells. -/
theorem WellFormed.exists_tick (hb : b.WellFormed) (hroom : b.nextId + b.size ≤ idLimit) :
    ∃ b', b.tick = .ok b' := by
  obtain ⟨s, hs⟩ := Scan.exists_completes hb
  rcases hb.tick_cases hs with ⟨-, -, hok⟩ | ⟨id, halted, -, hle, hlt, -⟩
  · exact ⟨_, hok⟩
  · have hnext := hs.stage.nextId
    have hbirths := hs.stage.births_le
    omega

end Board

end Formicary
