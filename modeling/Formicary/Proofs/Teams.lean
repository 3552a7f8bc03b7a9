import Formicary.Board.Census
import Formicary.Proofs.Guise
import Formicary.Proofs.Counters
import Mathlib.Logic.Equiv.Basic

/-!
# Teams are labels

A scan asks one thing of the teams of two ants, whether they differ, and no permutation of the teams
changes the answer.  A child is of the team of its parent, and nothing else names a team.  So to
relabel the teams of a board and to let time pass commute: every step of a scan does
(`Scan.visit_relabel`), and with it the scan, the tick, and any number of ticks
(`ticks_relabel`).
-/

namespace Formicary

/-- The ant with its team relabelled. -/
def Ant.relabel (p : Equiv.Perm Team) (a : Ant) : Ant := { a with team := p a.team }

/-- The guise of ants with their teams relabelled. -/
def teams (p : Equiv.Perm Team) : Guise where
  ant := Ant.relabel p
  config := id
  rules := id
  id_ant _ := rfl
  rules_ofConfig _ := rfl

/-- The board with the teams of its ants relabelled. -/
def Board.relabel (p : Equiv.Perm Team) (b : Board) : Board :=
  { b with arena := ⟨b.arena.ants.map (Ant.relabel p)⟩ }

variable (p : Equiv.Perm Team)

/-! ### The turn of an ant -/

/-- An ant executes the same instruction whatever its team. -/
theorem Ant.execute_relabel (a : Ant) :
    (a.relabel p).execute = (a.execute.1.relabel p, a.execute.2) := by
  have hinterpret : ∀ (x : Ant) (i : Instruction),
      (x.relabel p).interpret i = ((x.interpret i).1.relabel p, (x.interpret i).2) := by
    intro x i
    have hsensor : (x.relabel p).sensor = x.sensor := rfl
    unfold Ant.interpret
    rw [hsensor]
    cases i.opcode <;> cases x.sensor.truthy <;> cases i.target <;> rfl
  have hage : (a.relabel p).age = a.age := rfl
  have hgene : (a.relabel p).gene = a.gene := rfl
  unfold Ant.execute
  rw [hage, hgene]
  cases a.age.grown (.int 1) with
  | error _ => rfl
  | ok age =>
    cases a.gene.cycle with
    | none => rfl
    | some c => exact hinterpret { a with age, gene := c.2 } c.1

/-- An ant pays whatever its team. -/
theorem Ant.consume_relabel (a : Ant) (v : Value) :
    (a.relabel p).consume v = (a.consume v).map (Ant.relabel p) := by
  have henergy : (a.relabel p).energy = a.energy := rfl
  unfold Ant.consume
  rw [henergy]
  cases a.energy.minus "-=" v <;> rfl

/-- An ant gains whatever its team. -/
theorem Ant.increase_relabel (a : Ant) (v : Value) :
    (a.relabel p).increase v = (a.increase v).map (Ant.relabel p) := by
  have henergy : (a.relabel p).energy = a.energy := rfl
  unfold Ant.increase
  rw [henergy]
  cases a.energy.grown v <;> rfl

/-- The halves of an ant are of its team. -/
theorem Ant.split_relabel (a : Ant) (childId : Int) :
    (a.relabel p).split childId =
      (a.split childId).map (Prod.map (Ant.relabel p) (Ant.relabel p)) := by
  have henergy : (a.relabel p).energy = a.energy := rfl
  have hgeneration : (a.relabel p).generation = a.generation := rfl
  unfold Ant.split
  rw [henergy, hgeneration]
  cases a.energy.floorDiv "//" (.int 2) with
  | error _ => rfl
  | ok e => cases a.generation.plus "+" (.int 1) <;> rfl

/-- Two teams differ under any labels. -/
theorem Team.hostile_relabel (t u : Team) : (p t).hostile (p u) = t.hostile u := by
  rw [Bool.eq_iff_iff, hostile_iff, hostile_iff, ne_eq, EmbeddingLike.apply_eq_iff_eq]

namespace Scan

/-- The scan with the teams of its ants relabelled. -/
def relabel (p : Equiv.Perm Team) (s : Scan) : Scan :=
  { s with board := s.board.relabel p, queue := s.queue.map (Change.under (teams p)) }

/-- A scan and an ant with their teams relabelled. -/
def relabelTurn (p : Equiv.Perm Team) (t : Scan × Ant) : Scan × Ant :=
  (t.1.relabel p, t.2.relabel p)

variable (s : Scan) (a : Ant) (cell : Nat)

/-- A proposal is made under any labels. -/
theorem propose_relabel (c : Change) :
    (s.relabel p).propose (c.under (teams p)) = (s.propose c).relabel p := by
  simp only [propose, relabel, Array.map_push]

/-- The entry of an ant is replaced under any labels. -/
theorem update_relabel : (s.relabel p).update (a.relabel p) = (s.update a).relabel p := by
  have hboard : (s.board.relabel p).update (a.relabel p) = (s.board.update a).relabel p :=
    Board.update_under (teams p) s.board a
  simp only [update, relabel, hboard]

/-- A scan that halts in the turn of an ant does so under any labels. -/
theorem halted_relabel {α β : Type} (f : α → β) (e : Fault) :
    Except.error ⟨(s.relabel p).update (a.relabel p), e⟩ =
      seen f (relabel p) (.error ⟨s.update a, e⟩) := by
  rw [update_relabel, seen_error]

/-- A reckoning halts under any labels if it does at all. -/
theorem reckon_relabel {α β : Type} (f : α → β) (r : Except Value.Misuse α) :
    (s.relabel p).reckon (a.relabel p) (r.map f) = seen f (relabel p) (s.reckon a r) := by
  cases r with
  | error m => exact halted_relabel p s a f (.misuse m)
  | ok x => rfl

/-- A reckoning that names no ant comes to the same under any labels. -/
theorem reckon_relabel_id {α : Type} (r : Except Value.Misuse α) :
    (s.relabel p).reckon (a.relabel p) r = seen id (relabel p) (s.reckon a r) := by
  rw [← reckon_relabel, Except.map_id, id]

/-- An ant pays for what it asks under any labels. -/
theorem pay_relabel :
    (s.relabel p).pay (a.relabel p) = seen (Ant.relabel p) (relabel p) (s.pay a) := by
  rw [pay, pay, Ant.consume_relabel]
  exact reckon_relabel p s a _ _

/-- A cell is of the same kind under any labels. -/
theorem filter_kindIs_relabel (ahead : Option Int) (k : CellKind) :
    ahead.filter ((s.relabel p).board.kindIs · k) = ahead.filter (s.board.kindIs · k) := rfl

/-- A move is settled under any labels. -/
theorem move_relabel (ahead : Option Int) :
    (s.relabel p).move cell (a.relabel p) ahead =
      seen (relabelTurn p) (relabel p) (s.move cell a ahead) := by
  unfold move
  rw [filter_kindIs_relabel]
  cases ahead.filter (s.board.kindIs · .empty) with
  | none => rfl
  | some target =>
    dsimp only
    rw [show (s.relabel p).propose (.swap target.toNat cell) = _ from
      propose_relabel p s (.swap target.toNat cell), pay_relabel]
    exact seen_bind fun _ => rfl

/-- A meal is settled under any labels. -/
theorem eat_relabel (ahead : Option Int) :
    (s.relabel p).eat (a.relabel p) ahead =
      seen (relabelTurn p) (relabel p) (s.eat a ahead) := by
  unfold eat
  rw [pay_relabel]
  refine seen_bind fun paid => ?_
  rw [filter_kindIs_relabel]
  cases ahead.filter (s.board.kindIs · .food) with
  | none => rfl
  | some target =>
    dsimp only
    rw [show (s.relabel p).propose (.removeFood target.toNat) = _ from
      propose_relabel p s (.removeFood target.toNat), Ant.increase_relabel, reckon_relabel]
    exact seen_bind fun _ => rfl

/-- What is left of an attack once it is paid for and counted. -/
def strike (s : Scan) (a : Ant) (ahead : Option Int) : Except (Halted Scan Fault) (Scan × Ant) :=
  match ahead.filter (s.board.kindIs · .ant) with
  | some target =>
    match s.board.tenant? target with
    | .error e => .error ⟨s.update a, e⟩
    | .ok defender =>
      if a.team.hostile defender.team then do
        let damage ← s.reckon a (a.damage s.board.rules.attackDivisor)
        let hurt ← s.reckon a (defender.consume damage)
        .ok ({ s.update hurt with tally := { s.tally with hits := s.tally.hits + 1 } }, a)
      else .ok (s, a)
  | none => .ok (s, a)

/-- An attack is paid for, counted and struck. -/
theorem attack_eq (ahead : Option Int) :
    s.attack a ahead = s.pay a >>= fun paid =>
      { s with tally := { s.tally with attacks := s.tally.attacks + 1 } }.strike paid ahead :=
  rfl

/-- An attack is struck under any labels. -/
theorem strike_relabel (ahead : Option Int) :
    (s.relabel p).strike (a.relabel p) ahead =
      seen (relabelTurn p) (relabel p) (s.strike a ahead) := by
  have htenant : ∀ target, (s.relabel p).board.tenant? target =
      (s.board.tenant? target).map (Ant.relabel p) :=
    Board.tenant?_under (teams p) s.board
  have hhostile : ∀ defender : Ant,
      (a.relabel p).team.hostile (defender.relabel p).team = a.team.hostile defender.team :=
    fun defender => Team.hostile_relabel p a.team defender.team
  unfold strike
  rw [filter_kindIs_relabel]
  cases ahead.filter (s.board.kindIs · .ant) with
  | none => rfl
  | some target =>
    dsimp only
    rw [htenant]
    cases s.board.tenant? target with
    | error e => exact halted_relabel p s a (relabelTurn p) e
    | ok defender =>
      dsimp only [Except.map]
      rw [hhostile]
      cases a.team.hostile defender.team with
      | false => rfl
      | true =>
        simp only [if_true]
        rw [reckon_relabel_id]
        refine seen_bind fun damage => ?_
        rw [Ant.consume_relabel, reckon_relabel]
        refine seen_bind fun hurt => ?_
        rw [update_relabel]
        rfl

/-- An attack is settled under any labels. -/
theorem attack_relabel (ahead : Option Int) :
    (s.relabel p).attack (a.relabel p) ahead =
      seen (relabelTurn p) (relabel p) (s.attack a ahead) := by
  rw [attack_eq, attack_eq, pay_relabel]
  exact seen_bind fun paid => strike_relabel p
    { s with tally := { s.tally with attacks := s.tally.attacks + 1 } } paid ahead

/-- A request is settled under any labels. -/
theorem perform_relabel (request : Option Request) :
    (s.relabel p).perform cell (a.relabel p) request =
      seen (relabelTurn p) (relabel p) (s.perform cell a request) := by
  have hahead : (s.relabel p).board.shape.ahead? cell (a.relabel p).direction =
      s.board.shape.ahead? cell a.direction := rfl
  unfold perform
  rw [hahead]
  cases request with
  | none => rfl
  | some r =>
    cases r with
    | move => exact move_relabel p s a cell _
    | eat => exact eat_relabel p s a _
    | attack => exact attack_relabel p s a _

/-- An ant divides under any labels. -/
theorem divide_relabel :
    (s.relabel p).divide cell (a.relabel p) =
      seen (relabelTurn p) (relabel p) (s.divide cell a) := by
  unfold divide
  rw [reckon_relabel_id]
  refine seen_bind fun rich => ?_
  have hkind : ∀ index k, (s.relabel p).board.kindIs index k = s.board.kindIs index k :=
    fun _ _ => rfl
  rw [id, hkind]
  split
  · have hfresh : (s.relabel p).board.freshId =
        (s.board.freshId.1, s.board.freshId.2.relabel p) := rfl
    rw [hfresh]
    dsimp only
    rw [Ant.split_relabel]
    rw [show ({ s.relabel p with board := s.board.freshId.2.relabel p } : Scan) =
      relabel p { s with board := s.board.freshId.2 } from rfl, reckon_relabel]
    refine seen_bind fun t => congrArg Except.ok (Prod.ext ?_ rfl)
    exact propose_relabel p _ (.born (cell - 1) t.2)
  · rfl

/-- An ant perishes under any labels. -/
theorem perish_relabel :
    (s.relabel p).perish cell (a.relabel p) = seen (relabel p) (relabel p) (s.perish cell a) := by
  unfold perish
  rw [reckon_relabel_id]
  refine seen_bind fun spent => ?_
  cases spent with
  | false => rfl
  | true => exact congrArg Except.ok (propose_relabel p s (.death cell a.id))

/-- An ant executes under any labels. -/
theorem act_relabel :
    (s.relabel p).act cell (a.relabel p) = seen (relabel p) (relabel p) (s.act cell a) := by
  unfold act
  rw [Ant.execute_relabel]
  obtain ⟨stepped, outcome⟩ := a.execute
  cases outcome with
  | error e => exact halted_relabel p s stepped (relabel p) (.step e)
  | ok request =>
    dsimp only
    rw [perform_relabel]
    refine seen_bind fun t => ?_
    dsimp only [relabelTurn]
    rw [divide_relabel]
    refine seen_bind fun t => ?_
    dsimp only [relabelTurn]
    rw [perish_relabel]
    exact seen_bind fun s => congrArg Except.ok (update_relabel p s t.2)

/-- A cell is visited under any labels. -/
theorem visit_relabel (draw : Nat) :
    (s.relabel p).visit cell draw = seen (relabel p) (relabel p) (s.visit cell draw) := by
  have hkinds : (s.relabel p).board.kinds = s.board.kinds := rfl
  have htenant : (s.relabel p).board.tenant? cell =
      (s.board.tenant? cell).map (Ant.relabel p) :=
    Board.tenant?_under (teams p) s.board cell
  have hchance : (s.relabel p).board.rules.growthChance = s.board.rules.growthChance := rfl
  have hvisited : (s.relabel p).visited = s.visited := rfl
  unfold visit
  rw [hkinds, htenant, hchance, hvisited]
  cases s.board.kinds[cell]? with
  | none => rfl
  | some k =>
    cases k with
    | empty =>
      cases grows s.board.rules.growthChance draw with
      | false => rfl
      | true => exact congrArg Except.ok (propose_relabel p s (.growFood cell))
    | food => rfl
    | ant | unknown =>
      cases s.board.tenant? cell with
      | error e => rfl
      | ok a =>
        have hid : (a.relabel p).id = a.id := rfl
        dsimp only [Except.map]
        rw [hid]
        split
        · rfl
        · exact act_relabel p { s with visited := a.id :: s.visited } a cell

/-- A scan starts under any labels. -/
theorem start_relabel (b : Board) : start (b.relabel p) = (start b).relabel p := by
  simp only [start, relabel, Array.map_empty]

/-- A scan runs under any labels. -/
theorem run_relabel (b : Board) : run (b.relabel p) = seen (relabel p) (relabel p) (run b) := by
  let visits (s : Scan) (c : Nat × Nat) := s.visit c.1 c.2
  have hsize : (b.relabel p).size = b.size := rfl
  have hrandom : (b.relabel p).random = b.random := rfl
  unfold run
  rw [hsize, hrandom]
  obtain ⟨draws, next⟩ := Random.Stream.draws Random.Stream.unit b.size b.random
  have hstart : start { b.relabel p with random := next } =
      (start { b with random := next }).relabel p := start_relabel p { b with random := next }
  change ((List.range b.size).zip draws).foldlM visits (start { b.relabel p with random := next })
    = _
  rw [hstart]
  exact seen_foldlM visits visits (fun s c => visit_relabel p s c.1 c.2) _ _

end Scan

/-! ### Ticks and populations -/

namespace Board

variable (b : Board)

/-- A tick passes under any labels. -/
theorem tick_relabel : (b.relabel p).tick = seen (relabel p) (relabel p) b.tick := by
  have hscan : ∀ s : Scan, (s.relabel p).board = relabel p s.board := fun _ => rfl
  have hcommit : ∀ c : Commit, (c.under (teams p)).board = relabel p c.board := fun _ => rfl
  unfold tick
  rw [Scan.run_relabel, seen_mapError _ _ hscan]
  refine seen_bind fun s => ?_
  have hrun : Commit.run (s.relabel p).board (s.relabel p).tally (s.relabel p).queue.toList =
      seen (Commit.under (teams p)) (Commit.under (teams p))
        (Commit.run s.board s.tally s.queue.toList) := by
    rw [Scan.relabel, Array.toList_map]
    exact Commit.run_under (teams p) s.board s.tally s.queue.toList
  rw [hrun, seen_mapError _ _ hcommit]
  exact seen_bind fun _ => rfl

/-- Any number of ticks pass under any labels. -/
theorem ticksFrom_relabel (n : Nat) :
    (b.relabel p).ticksFrom n = seen (relabel p) (relabel p) (b.ticksFrom n) := by
  induction n generalizing b with
  | zero => rfl
  | succ n ih =>
    rw [ticksFrom, ticksFrom, tick_relabel]
    exact seen_bind ih

/-- A team has the members that it had under its old label. -/
theorem populationOf_relabel (t : Team) :
    (b.relabel p).populationOf (p t) = b.populationOf t := by
  simp only [populationOf, relabel, List.countP_map, Function.comp_def, Ant.relabel]
  refine List.countP_congr fun a _ => ?_
  simp only [beq_iff_eq, EmbeddingLike.apply_eq_iff_eq]

end Board

/-- Teams are interchangeable labels.  To relabel the teams of a board and let time pass comes to
the same as to let time pass and relabel the teams of what has become of it, all else being equal:
cells, ants, random numbers and counters, and also what halts a tick and where.  A team then has
the members that it would have under its old label.  The board need only be well formed, as
reachable ones are (`Reachable.wellFormed`), for time to pass at all. -/
theorem ticks_relabel (p : Equiv.Perm Team) {b : Board} (hb : b.WellFormed) (n : Nat) :
    (∀ b', b.ticksFrom n = .ok b' →
      (b.relabel p).ticksFrom n = .ok (b'.relabel p) ∧
      ∀ t, (b'.relabel p).populationOf (p t) = b'.populationOf t) ∧
    (∀ b' e, b.ticksFrom n = .error ⟨b', e⟩ →
      (b.relabel p).ticksFrom n = .error ⟨b'.relabel p, e⟩) ∧
    (b.nextId + n * b.size ≤ idLimit → ∃ b', b.ticksFrom n = .ok b') := by
  have hticks := Board.ticksFrom_relabel p b n
  refine ⟨fun b' h => ⟨?_, b'.populationOf_relabel p⟩, fun b' e h => ?_, hb.exists_ticksFrom n⟩
  · rw [hticks, h, seen_ok]
  · rw [hticks, h, seen_error]

/-- Two ticks into the fray, after a hit, a death and three births, there are two blue ants; had the
blue ants been cyan, there would be two cyan ones. -/
theorem fray_relabelled :
    fray.WellFormed ∧ fray.nextId + 2 * fray.size ≤ idLimit ∧
    ∃ b', fray.ticksFrom 2 = .ok b' ∧ b'.arena.ids = [1, 2, 4, 5, 6] ∧ b'.populationOf .blue = 2 ∧
      (fray.relabel (Equiv.swap .blue .cyan)).ticksFrom 2 =
        .ok (b'.relabel (Equiv.swap .blue .cyan)) ∧
      (b'.relabel (Equiv.swap .blue .cyan)).populationOf .cyan = 2 := by
  have hroom : fray.nextId + 2 * fray.size ≤ idLimit := by decide +kernel
  have hlater : (fray.ticksFrom 2).toOption.map (fun b => (b.arena.ids, b.populationOf .blue)) =
      some ([1, 2, 4, 5, 6], 2) := by
    decide +kernel
  obtain ⟨hruns, -, hexists⟩ := ticks_relabel (Equiv.swap .blue .cyan) wellFormed_fray 2
  obtain ⟨b', hrun⟩ := hexists hroom
  rw [hrun] at hlater
  simp only [Except.toOption, Option.map_some, Option.some.injEq, Prod.mk.injEq] at hlater
  obtain ⟨hrelabelled, hpopulation⟩ := hruns b' hrun
  exact ⟨wellFormed_fray, hroom, b', hrun, hlater.1, hlater.2, hrelabelled,
    (hpopulation .blue).trans hlater.2⟩

end Formicary
