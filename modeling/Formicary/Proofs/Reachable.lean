import Formicary.Proofs.Build
import Formicary.Proofs.Consistency
import Formicary.Proofs.Ids
import Formicary.Proofs.Tick

/-!
# Reachable boards

A board is reachable if it is built or generated from a checked configuration of integers and then
put through operations in any order: ants are made and placed, food is put down, cells are cleared,
and ticks are run.  Operations that are refused are part of such a run.

Occupant entries hold ids below `idLimit`.  Since ids are never given back, a run that has stayed
below the limit has been below it all the time, and so a reachable board whose next id does not
exceed the limit is well formed (`Reachable.wellFormed`).
-/

namespace Formicary

/-- What is done to a board from outside. -/
inductive Op where
  | newAnt (order : Board.Order)
  | place (index : Int) (a : Ant)
  | placeFood (index : Int)
  | clear (index : Int)
  | tick

namespace Op

/-- The board that an operation leads to, or the one on which it halts. -/
def run (b : Board) : Op → Except (Halted Board Fault) Board
  | .newAnt order => (b.newAnt order).map (·.2)
  | .place index a => b.place index a
  | .placeFood index => b.placeFood index
  | .clear index => b.clear index
  | .tick => b.tick

/-- The board after an operation, whether it was refused or not. -/
def after (b : Board) (op : Op) : Board :=
  match op.run b with
  | .ok b' => b'
  | .error h => h.state

/-- Ants that are placed are sound and have an id that the board has given out. -/
def Allowed (b : Board) : Op → Prop
  | .place _ a => a.Sound ∧ 0 ≤ a.id ∧ a.id < b.nextId
  | _ => True

/-- Ants that are placed are sound and have an id that fits an occupant entry, given out or not. -/
def Fits : Op → Prop
  | .place _ a => a.Sound ∧ 0 ≤ a.id ∧ a.id < idLimit
  | _ => True

/-- As long as ids fit occupant entries, those that a board has given out do. -/
theorem Allowed.fits {b : Board} {op : Op} (h : op.Allowed b) (hids : b.nextId ≤ idLimit) :
    op.Fits := by
  cases op with
  | place index a => exact ⟨h.1, h.2.1, Int.lt_of_lt_of_le h.2.2 hids⟩
  | newAnt order => trivial
  | placeFood index => trivial
  | clear index => trivial
  | tick => trivial

/-- No operation gives ids back, whether it is refused or not. -/
theorem onward_run (b : Board) (op : Op) :
    Onward b.nextId Board.nextId Board.nextId (op.run b) := by
  cases op with
  | place index a => exact Board.onward_place b index a
  | placeFood index => exact Board.onward_vacate b index .food
  | clear index => exact Board.onward_vacate b index .empty
  | tick => exact Board.onward_tick b
  | newAnt order =>
    have hsucc : b.nextId ≤ b.nextId + 1 := Int.le_of_lt (Int.lt_succ _)
    obtain ⟨r, ⟨team, gene, hmade, -⟩ | ⟨e, hfault⟩⟩ := Board.newAnt_cases b order
    · rw [run, hmade]
      exact hsucc
    · rw [run, hfault]
      exact Int.le_refl b.nextId

/-- The board after an operation that goes through. -/
theorem after_of_ok {b b' : Board} {op : Op} (h : op.run b = .ok b') : op.after b = b' := by
  rw [after, h]

/-- The board after an operation that halts. -/
theorem after_of_error {b : Board} {op : Op} {halted : Halted Board Fault}
    (h : op.run b = .error halted) : op.after b = halted.state := by
  rw [after, h]

/-- The next id never falls. -/
theorem nextId_le_after (b : Board) (op : Op) : b.nextId ≤ (op.after b).nextId := by
  have honward := onward_run b op
  cases hrun : op.run b with
  | ok b' =>
    rw [hrun] at honward
    rw [after_of_ok hrun]
    exact honward
  | error halted =>
    rw [hrun] at honward
    rw [after_of_error hrun]
    exact honward

end Op

/-- An ant that a board makes may be placed from then on, if its gene is in order and its energy is
an integer. -/
theorem allowed_of_newAnt {b b' b'' : Board} {order : Board.Order} {a : Ant} (hb : b.WellFormed)
    (hmade : b.newAnt order = .ok (a, b')) (hlater : b'.nextId ≤ b''.nextId)
    (hgene : ∀ g, order.gene = some g → g.WellFormed)
    (henergy : ∀ v, order.energy = some v → ∃ e, v = .int e) (index : Int) :
    (Op.place index a).Allowed b'' := by
  obtain ⟨r, ⟨team, gene, hmade', horder⟩ | ⟨e, hfault⟩⟩ := Board.newAnt_cases b order
  · rw [hmade, Except.ok.injEq, Prod.mk.injEq] at hmade'
    obtain ⟨rfl, rfl⟩ := hmade'
    have hwf : gene.WellFormed := by
      rcases horder with hsome | ⟨-, hdrawn⟩
      · exact hgene gene hsome
      · exact hdrawn
    have hint : ∃ e, order.energy.getD b.rules.initialEnergy = .int e := by
      cases hv : order.energy with
      | none => exact hb.rules.initialEnergy
      | some v => exact henergy v hv
    obtain ⟨e, he⟩ := hint
    refine ⟨?_, hb.peopled.next_nonneg, Int.lt_of_lt_of_le (Int.lt_succ _) hlater⟩
    rw [he]
    exact Ant.sound_of_new hwf _ _ _ _
  · rw [hmade] at hfault
    cases hfault

/-- The boards that can be reached from a checked configuration of integers. -/
inductive Reachable : Board → Prop
  | built {memory : Memory} {w k : Int} {config : Option Config}
      {random : Option Random.Stream} {b : Board}
      (checked : ∀ c, config = some c → c.Integral ∧ c.check = .ok c)
      (build : Board.build memory (.int w) (.int k) config random = .ok b) : Reachable b
  | generated {memory : Memory} {w k : Int} {config : Option Config}
      {random : Option Random.Stream} {b : Board}
      (checked : ∀ c, config = some c → c.Integral ∧ c.check = .ok c)
      (generate : Board.generate memory (.int w) (.int k) config random = .ok b) : Reachable b
  | step {b : Board} (op : Op) (start : Reachable b) (allowed : op.Allowed b) :
      Reachable (op.after b)

/-- Ridding a cell of its ant keeps a board well formed, whether the index is refused or not. -/
theorem Board.WellFormed.after_vacate {b : Board} (hb : b.WellFormed) {op : Op} {index : Int}
    {c : Content} (hc : c.ant? = none) (hrun : op.run b = b.vacate index c.kind) :
    (op.after b).WellFormed := by
  rcases hb.vacate index hc with ⟨n, -, hok, hwritten⟩ | ⟨fault, hhalt⟩
  · rw [Op.after_of_ok (hrun.trans hok)]
    exact hwritten
  · rw [Op.after_of_error (hrun.trans hhalt)]
    exact hb

/-- An operation keeps a board well formed, as long as ids fit occupant entries. -/
theorem Board.WellFormed.after {b : Board} (hb : b.WellFormed) {op : Op} (hop : op.Fits)
    (hids : (op.after b).nextId ≤ idLimit) : (op.after b).WellFormed := by
  cases op with
  | newAnt order =>
    obtain ⟨r, ⟨team, gene, hmade, -⟩ | ⟨e, hfault⟩⟩ := Board.newAnt_cases b order
    · have hrun : (Op.newAnt order).run b = .ok { b with nextId := b.nextId + 1, random := r } := by
        rw [Op.run, hmade]
        rfl
      rw [Op.after_of_ok hrun]
      exact hb.skip (Int.le_of_lt (Int.lt_succ _)) r
    · have hrun : (Op.newAnt order).run b = .error ⟨{ b with random := r }, e⟩ := by
        rw [Op.run, hfault]
        rfl
      rw [Op.after_of_error hrun]
      exact hb.skip (Int.le_refl _) r
  | place index a =>
    obtain ⟨ha, h0, hlt⟩ := hop
    have hplaced := hb.placed (a := a) index h0
    cases hplace : b.place index a with
    | ok b' =>
      have hrun : (Op.place index a).run b = .ok b' := hplace
      rw [Op.after_of_ok hrun]
      exact hb.place ha h0 hplace
    | error halted =>
      have hrun : (Op.place index a).run b = .error halted := hplace
      rw [Op.after_of_error hrun]
      rw [hplace] at hplaced
      cases hplaced with
      | refused fault => exact hb
      | wide large => omega
  | placeFood index => exact hb.after_vacate (c := .food) rfl rfl
  | clear index => exact hb.after_vacate (c := .empty) rfl rfl
  | tick =>
    obtain ⟨s, hs⟩ := Scan.exists_completes hb
    rcases hb.tick_cases hs with ⟨-, -, htick⟩ | ⟨id, halted, htick, hle, hlt, hnext'⟩
    · have hrun : Op.tick.run b = .ok s.committed.completed := htick
      rw [Op.after_of_ok hrun]
      exact (hb.committed hs).completed
    · have hrun : Op.tick.run b = .error ⟨halted, .wideId id⟩ := htick
      rw [Op.after_of_error hrun] at hids
      dsimp only at hids
      omega

/-- A reachable board is well formed, as long as ids fit occupant entries. -/
theorem Reachable.wellFormed {b : Board} (h : Reachable b) (hids : b.nextId ≤ idLimit) :
    b.WellFormed := by
  induction h with
  | built checked build => exact Board.wellFormed_of_build checked build
  | generated checked generate => exact Board.wellFormed_of_generate checked generate
  | step op start allowed ih =>
    have hids' := Int.le_trans (op.nextId_le_after _) hids
    exact (ih hids').after (allowed.fits hids') hids

/-! ### A crowd

A row of six cells on which much happens at once.  Food grows on every empty cell.  Two ants face
the same empty cell and move there, a rich ant turns on the spot and splits, and a poor one spends
its last energy on an attack. -/

/-- The configuration of the row. -/
def crowdConfig : Config :=
  ⟨fun
    | .width => .int 6
    | .height => .int 1
    | .splitEnergy => .int 40
    | .foodGrowthChance => .int 1
    | .spareCell => .bool false
    | f => f.defaultValue⟩

/-- An ant with a single instruction. -/
def simpleton (id : Int) (team : Team) (op : Opcode) (energy : Int) (direction : Direction) : Ant :=
  { id, team, gene := ⟨[⟨op, none⟩], 0⟩, energy := .int energy, direction }

/-- The board after an ant has been made and put on a cell. -/
def Board.enter (b : Board) (n : Nat) (a : Ant) : Board :=
  Op.after (Op.after b (.newAnt
    { team := some a.team
      gene := some a.gene
      energy := some a.energy
      direction := a.direction })) (.place n a)

/-- The row without ants. -/
def emptyRow : Board :=
  .blank crowdConfig (.ofConfig crowdConfig) 6 1 6 (.ofSeed 0)

/-- The row with its ants. -/
def crowd : Board :=
  (((emptyRow.enter 0 (simpleton 0 .blue .move 5 .east)).enter 2
    (simpleton 1 .blue .move 5 .west)).enter 4 (simpleton 2 .blue .turnLeft 50 .west)).enter 5
      (simpleton 3 .red .attack 1 .west)

/-- A board that is built from a checked configuration of integers is reachable. -/
theorem Reachable.of_config {c : Config} (hint : c.Integral) (hcheck : c.check = .ok c)
    {memory : Memory} {w k : Int} {random : Option Random.Stream} {b : Board}
    (hbuild : Board.build memory (.int w) (.int k) (some c) random = .ok b) : Reachable b := by
  refine .built (fun c' hc' => ?_) hbuild
  cases hc'
  exact ⟨hint, hcheck⟩

/-- The row without ants is built from its configuration. -/
theorem reachable_emptyRow : Reachable emptyRow := by
  have hbuild : Board.build .unbounded (.int 6) (.int 1) (some crowdConfig) (some (.ofSeed 0)) =
      .ok emptyRow := rfl
  exact .of_config ⟨⟨_, rfl⟩, ⟨_, rfl⟩, ⟨_, rfl⟩, ⟨_, rfl⟩, ⟨_, rfl⟩, ⟨_, rfl⟩, ⟨_, rfl⟩, ⟨_, rfl⟩⟩
    rfl hbuild

/-- An ant with an instruction that needs no target is sound. -/
theorem sound_simpleton (id : Int) (team : Team) {op : Opcode} (hop : op.isJump = false)
    (energy : Int) (direction : Direction) : (simpleton id team op energy direction).Sound := by
  refine Ant.sound_of_new ⟨List.cons_ne_nil _ _, ?_, Int.le_refl 0, ?_⟩ _ _ _ _
  · intro i hi hjump
    rw [List.mem_singleton.1 hi, hop] at hjump
    cases hjump
  · exact Int.zero_lt_one

/-- A sound ant may be made with the next id and put on a cell. -/
theorem Reachable.enter {b : Board} (h : Reachable b) {n : Nat} {a : Ant} (ha : a.Sound)
    (h0 : 0 ≤ a.id) (hnext : b.nextId = a.id) : Reachable (b.enter n a) := by
  refine .step _ (.step _ h trivial) ⟨ha, h0, ?_⟩
  change a.id < b.nextId + 1
  omega

/-- An ant with an instruction that needs no target may be made with the next id and put on a cell;
the premises are computed. -/
theorem Reachable.enter_simpleton {b : Board} (h : Reachable b) {n : Nat} {id : Int} {team : Team}
    {op : Opcode} {energy : Int} {direction : Direction} (hop : op.isJump = false := by rfl)
    (h0 : 0 ≤ id := by decide) (hnext : b.nextId = id := by rfl) :
    Reachable (b.enter n (simpleton id team op energy direction)) :=
  h.enter (sound_simpleton id team hop energy direction) h0 hnext

/-- The crowd is put together by four ants entering. -/
theorem reachable_crowd : Reachable crowd :=
  .enter_simpleton (.enter_simpleton (.enter_simpleton (.enter_simpleton reachable_emptyRow)))

/-- The crowd is in order. -/
theorem wellFormed_crowd : crowd.WellFormed :=
  reachable_crowd.wellFormed (by decide +kernel)

/-! ### Agreement of cells and arena -/

/-- The cells and the arena of a reachable board agree, an audit of it finds nothing, and its ticks
complete: as long as ids fit occupant entries, and if a tick halts then because it gives out one
that does not. -/
theorem reachable_consistent {b : Board} (h : Reachable b) (hids : b.nextId ≤ idLimit) :
    b.Consistent ∧ b.audit = none ∧
      ((∃ b', b.tick = .ok b') ∨
        ∃ id halted, b.tick = .error ⟨halted, .wideId id⟩ ∧ idLimit ≤ id ∧ id < halted.nextId) ∧
      (b.nextId + b.size ≤ idLimit → ∃ b', b.tick = .ok b') := by
  have hb := h.wellFormed hids
  refine ⟨hb.consistent, hb.consistent.audit_eq_none, ?_, hb.exists_tick⟩
  obtain ⟨s, hs⟩ := Scan.exists_completes hb
  rcases hb.tick_cases hs with ⟨-, -, hrun⟩ | ⟨id, halted, hrun, hle, hlt, hnext⟩
  · exact Or.inl ⟨_, hrun⟩
  · exact Or.inr ⟨id, halted, hrun, hle, hnext ▸ hlt⟩

/-- The crowd after a tick, in which ants have died, been born and been overwritten. -/
theorem crowd_consistent_after_tick :
    Reachable (Op.tick.after crowd) ∧ (Op.tick.after crowd).nextId ≤ idLimit ∧
      (Op.tick.after crowd).Consistent ∧ (Op.tick.after crowd).audit = none ∧
      ∃ b', (Op.tick.after crowd).tick = .ok b' := by
  have hreach : Reachable (Op.tick.after crowd) := .step .tick reachable_crowd trivial
  have hids : (Op.tick.after crowd).nextId ≤ idLimit := by decide +kernel
  have hroom : (Op.tick.after crowd).nextId + (Op.tick.after crowd).size ≤ idLimit := by
    decide +kernel
  obtain ⟨hconsistent, haudit, -, htick⟩ := reachable_consistent hreach hids
  exact ⟨hreach, hids, hconsistent, haudit, htick hroom⟩

end Formicary
