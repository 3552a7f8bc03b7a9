import Formicary.Proofs.Succession

/-!
# Ids name ants for good

An id is given out once.  Whatever is done to a board, each id that is given out, to a new ant or to
a newborn, exceeds all that have been given out before and all under which ants have been placed
(`Board.pairwise_idEvents`); what carries the induction is that they are all below the next id.

So ticks can put an ant out but never bring its id back.  Below the next id of the start there are
only ants of the start, each with the team and the generation that it had
(`Board.WellFormed.known_or_new`).
-/

namespace Formicary

/-- What happens to ids from outside or by ticks: one is given out, or an ant is placed under it. -/
inductive IdEvent where
  | given (id : Int)
  | placed (id : Int)
  deriving DecidableEq

namespace IdEvent

/-- The id that an event is about. -/
def id : IdEvent → Int
  | .given id => id
  | .placed id => id

/-- An event may come before another: if the other gives out an id, then a greater one. -/
def Precedes (e e' : IdEvent) : Prop := ∀ id, e' = .given id → e.id < id

end IdEvent

/-- What an operation does to ids: it gives them out to new ants or to newborns, or places an ant.
Operations that are refused do nothing. -/
def Op.idEvents (b : Board) : Op → List IdEvent
  | .newAnt order =>
    match b.newAnt order with
    | .ok (a, _) => [.given a.id]
    | .error _ => []
  | .place index a =>
    match b.place index a with
    | .ok _ => [.placed a.id]
    | .error _ => []
  | .tick =>
    match Scan.run b with
    | .ok s => (newborns s.queue.toList).map fun a => .given a.id
    | .error _ => []
  | .placeFood _ => []
  | .clear _ => []

namespace Board

/-- The board after some operations. -/
def afterAll (b : Board) (ops : List Op) : Board := ops.foldl Op.after b

/-- What some operations do to ids, in order. -/
def idEvents (b : Board) : List Op → List IdEvent
  | [] => []
  | op :: ops => op.idEvents b ++ (op.after b).idEvents ops

variable {b b' : Board} {s : Scan} {op : Op} {ops : List Op} {n : Nat} {x y : Ant}

/-! ### One operation -/

/-- The ids of newborns rise. -/
theorem pairwise_given_newborns (hs : Scan.Completes b s) :
    ((newborns s.queue.toList).map fun a => IdEvent.given a.id).Pairwise IdEvent.Precedes := by
  have hrise : ((newborns s.queue.toList).map Ant.id).Pairwise (· < ·) := by
    rw [hs.stage.numbered, consecutive, List.pairwise_map]
    exact List.pairwise_lt_range.imp fun hlt => by omega
  rw [List.pairwise_map] at hrise ⊢
  refine hrise.imp fun hlt id hid => ?_
  cases hid
  exact hlt

/-- The next id after a tick, whether it halts or not. -/
theorem WellFormed.nextId_after_tick (hb : b.WellFormed) (hs : Scan.Completes b s) :
    (Op.tick.after b).nextId = s.board.nextId := by
  rcases hb.tick_cases hs with ⟨-, -, hok⟩ | ⟨id, halted, herror, -, -, hnext⟩
  · have hrun : Op.tick.run b = .ok s.committed.completed := hok
    rw [Op.after_of_ok hrun]
    exact Commit.nextId_foldl ⟨s.board, s.tally⟩ s.queue.toList
  · have hrun : Op.tick.run b = .error ⟨halted, .wideId id⟩ := herror
    rw [Op.after_of_error hrun]
    exact hnext

/-- What an operation does to ids: those that it gives out rise and have not been given out before,
and afterwards all are below the next id. -/
theorem WellFormed.idEvents_op (hb : b.WellFormed) (hop : op.Fits) :
    (op.idEvents b).Pairwise IdEvent.Precedes ∧
      (∀ e ∈ op.idEvents b, e.id < (op.after b).nextId) ∧
      ∀ id, .given id ∈ op.idEvents b → b.nextId ≤ id := by
  cases op with
  | newAnt order =>
    obtain ⟨r, ⟨team, gene, hmade, -⟩ | ⟨e, hfault⟩⟩ := Board.newAnt_cases b order
    · have hrun : (Op.newAnt order).run b = .ok { b with nextId := b.nextId + 1, random := r } := by
        rw [Op.run, hmade]
        rfl
      rw [Op.after_of_ok hrun]
      simp [Op.idEvents, hmade, IdEvent.id]
    · simp [Op.idEvents, hfault]
  | place index a =>
    have hplaced := hb.placed (a := a) index hop.2.1
    cases hplace : b.place index a with
    | error halted => simp [Op.idEvents, hplace]
    | ok b' =>
      rw [hplace] at hplaced
      have hrun : (Op.place index a).run b = .ok b' := hplace
      rw [Op.after_of_ok hrun]
      cases hplaced with
      | placed cell unused fits =>
        have hevents : (Op.place index a).idEvents b = [.placed a.id] := by
          simp only [Op.idEvents, hplace]
        rw [hevents]
        refine ⟨List.pairwise_singleton _ _, fun e he => ?_, fun id hid => ?_⟩
        · rw [List.mem_singleton.1 he]
          exact Int.lt_of_lt_of_le (Int.lt_succ a.id) (Int.le_max_right _ _)
        · cases List.mem_singleton.1 hid
  | placeFood index => simp [Op.idEvents]
  | clear index => simp [Op.idEvents]
  | tick =>
    obtain ⟨s, hs⟩ := Scan.exists_completes hb
    rw [hb.nextId_after_tick hs]
    simp only [Op.idEvents, hs.run_eq]
    refine ⟨pairwise_given_newborns hs, ?_, ?_⟩
    · intro e he
      obtain ⟨a, ha, rfl⟩ := List.mem_map.1 he
      exact (hs.stage.id_of_newborn ha).2
    · intro id hid
      obtain ⟨a, ha, heq⟩ := List.mem_map.1 hid
      cases heq
      exact (hs.stage.id_of_newborn ha).1

/-! ### Many operations -/

/-- The next id never falls. -/
theorem nextId_le_afterAll (b : Board) (ops : List Op) : b.nextId ≤ (b.afterAll ops).nextId := by
  induction ops generalizing b with
  | nil => exact Int.le_refl _
  | cons op ops ih => exact Int.le_trans (op.nextId_le_after b) (ih (op.after b))

/-- An id that is given out exceeds all that have been given out or placed before, and it is not
below the next id of the start. -/
theorem WellFormed.pairwise_idEvents (hb : b.WellFormed) (hops : ∀ op ∈ ops, op.Fits)
    (hids : (b.afterAll ops).nextId ≤ idLimit) :
    (b.idEvents ops).Pairwise IdEvent.Precedes ∧
      ∀ id, .given id ∈ b.idEvents ops → b.nextId ≤ id := by
  induction ops generalizing b with
  | nil => exact ⟨List.Pairwise.nil, fun _ hid => (List.not_mem_nil hid).elim⟩
  | cons op ops ih =>
    have hop := hops op List.mem_cons_self
    have hlater := Int.le_trans (nextId_le_afterAll (op.after b) ops) hids
    obtain ⟨hfirst, hbelow, hfresh⟩ := hb.idEvents_op hop
    obtain ⟨hrest, habove⟩ := ih (hb.after hop hlater)
      (fun op' hop' => hops op' (List.mem_cons_of_mem op hop')) hids
    refine ⟨List.pairwise_append.2 ⟨hfirst, hrest, ?_⟩, ?_⟩
    · rintro e he e' he' id rfl
      exact Int.lt_of_lt_of_le (hbelow e he) (habove id he')
    · intro id hid
      rcases List.mem_append.1 hid with hid | hid
      · exact hfresh id hid
      · exact Int.le_trans (op.nextId_le_after b) (habove id hid)

/-! ### Many ticks -/

/-- After any number of ticks an ant is one of the start, or its id has been given out since. -/
theorem WellFormed.known_or_new (hb : b.WellFormed) (h : b.ticksFrom n = .ok b') :
    b.nextId ≤ b'.nextId ∧ ∀ y ∈ b'.arena.ants,
      (∃ x ∈ b.arena.ants, x.id = y.id ∧ y.team = x.team ∧ y.generation = x.generation) ∨
        b.nextId ≤ y.id := by
  refine hb.ticksFrom_induct (P := fun b' => b.nextId ≤ b'.nextId ∧ ∀ y ∈ b'.arena.ants,
    (∃ x ∈ b.arena.ants, x.id = y.id ∧ y.team = x.team ∧ y.generation = x.generation) ∨
      b.nextId ≤ y.id) ⟨Int.le_refl _, fun y hy => Or.inl ⟨y, hy, rfl, rfl, rfl⟩⟩ ?_ h
  rintro b₁ b₂ hb₁ htick ⟨hle, hold⟩
  have hnext : b₁.nextId ≤ b₂.nextId := by
    obtain ⟨s, hs⟩ := Scan.exists_completes hb₁
    rw [(hb₁.books hs htick).nextId]
    omega
  refine ⟨Int.le_trans hle hnext, fun y hy => ?_⟩
  rcases hb₁.succession htick hy with ⟨x, hx, hpersists⟩ | ⟨hnew, -⟩
  · rw [hpersists.id, hpersists.team, hpersists.generation]
    exact hold x hx
  · exact Or.inr (Int.le_trans hle hnew)

end Board

/-- After any number of ticks an id names the ant that it named at the start, of the same team and
generation, or it has been given out since.  An id below the next one that names nobody never names
anybody again.  The next id never falls, and whatever is done to the board, every id that is given
out, to a new ant or to a newborn, exceeds all those that have been given out before and all those
under which ants have been placed.  The board at the start need only be well formed, as reachable
ones are (`Reachable.wellFormed`), and the ids of ants that are placed need only fit. -/
theorem ids_name_ants {b : Board} (hb : b.WellFormed) :
    (∀ n b', b.ticksFrom n = .ok b' → b.nextId ≤ b'.nextId ∧
      (∀ id y, b'.arena.find? id = some y →
        (∃ x, b.arena.find? id = some x ∧ y.team = x.team ∧ y.generation = x.generation) ∨
          b.nextId ≤ id) ∧
      ∀ id < b.nextId, id ∉ b.arena.ids → id ∉ b'.arena.ids) ∧
    (∀ n : Nat, b.nextId + n * b.size ≤ idLimit → ∃ b', b.ticksFrom n = .ok b') ∧
    ∀ ops : List Op, b.nextId ≤ (b.afterAll ops).nextId ∧
      ((∀ op ∈ ops, op.Fits) → (b.afterAll ops).nextId ≤ idLimit →
        (b.idEvents ops).Pairwise IdEvent.Precedes ∧
          ∀ id, .given id ∈ b.idEvents ops → b.nextId ≤ id) := by
  refine ⟨?_, hb.exists_ticksFrom, fun ops => ⟨b.nextId_le_afterAll ops, hb.pairwise_idEvents⟩⟩
  intro n b' h
  obtain ⟨hle, hold⟩ := hb.known_or_new h
  refine ⟨hle, ?_, ?_⟩
  · intro id y hy
    obtain rfl := Arena.id_of_find? hy
    refine (hold y (Arena.mem_of_find? hy)).imp_left ?_
    rintro ⟨x, hx, hid, hkin⟩
    exact ⟨x, hid ▸ Arena.find?_of_mem hb.peopled.ids_nodup hx, hkin⟩
  · intro id hlt hgone hback
    obtain ⟨y, hy, rfl⟩ := List.mem_map.1 hback
    rcases hold y hy with ⟨x, hx, hid, -⟩ | hnew
    · exact hgone (hid ▸ Arena.mem_ids_of_mem hx)
    · exact Int.not_lt.2 hnew hlt

/-- What is done to the crowd after its first tick: an ant is placed under an id that has been
skipped, another is made, and time passes. -/
def intrusion : List Op := [.place 1 (simpleton 9 .red .noop 100 .north), .newAnt {}, .tick]

/-- Two of the ants of the crowd are gone after the first tick and never come back.  The next ids
come after that of the intruder. -/
theorem crowd_ids :
    (Op.tick.after crowd).WellFormed ∧ (∀ op ∈ intrusion, op.Fits) ∧
      ((Op.tick.after crowd).afterAll intrusion).nextId ≤ idLimit ∧
      (Op.tick.after crowd).idEvents intrusion = [.placed 9, .given 10, .given 11] ∧
      ((Op.tick.after crowd).idEvents intrusion).Pairwise IdEvent.Precedes ∧
      ∃ b', (Op.tick.after crowd).ticksFrom 3 = .ok b' ∧ 0 ∉ b'.arena.ids ∧ 3 ∉ b'.arena.ids := by
  have hids : (Op.tick.after crowd).nextId ≤ idLimit := by decide +kernel
  have hb : (Op.tick.after crowd).WellFormed := wellFormed_crowd.after trivial hids
  have hops : ∀ op ∈ intrusion, op.Fits := by
    intro op hop
    rw [intrusion, List.mem_cons, List.mem_cons, List.mem_singleton] at hop
    rcases hop with rfl | rfl | rfl
    · exact ⟨sound_simpleton 9 .red rfl 100 .north, by decide, by decide⟩
    · trivial
    · trivial
  have hlast : ((Op.tick.after crowd).afterAll intrusion).nextId ≤ idLimit := by decide +kernel
  obtain ⟨hticks, hexists, hevents⟩ := ids_name_ants hb
  obtain ⟨b', hrun⟩ := hexists 3 (by decide +kernel)
  obtain ⟨-, -, hgone⟩ := hticks 3 b' hrun
  exact ⟨hb, hops, hlast, by decide +kernel, ((hevents intrusion).2 hops hlast).1, b', hrun,
    hgone 0 (by decide +kernel) (by decide +kernel),
    hgone 3 (by decide +kernel) (by decide +kernel)⟩

end Formicary
