import Formicary.Proofs.Geometry
import Formicary.Proofs.WellFormed

/-!
# The turn of an ant

On a well-formed board the turn of a sound ant in a scan never halts.  This file says what such a
turn can do, once and for all: `Scan.Settled` lists the outcomes of a request, `Scan.Divided` those
of splitting, and `Scan.Turn` puts a whole turn together.  Every fact about a scan is a case
analysis over these relations, and nothing after this file opens the definitions of a turn again.

The frame of a turn follows at the end: the cells stay as they are (`Scan.Turn.frozen`), every other
ant keeps all but its energy (`Scan.Turn.find?_other`), and at most one change of each sort is
proposed (`Scan.Turn.proposals`).
-/

namespace Formicary.Scan

variable {s s' : Scan} {cell : Nat} {a a' : Ant}

/-- An ant on a cell looks at another cell. -/
def Faces (s : Scan) (cell : Nat) (a : Ant) (target : Nat) : Prop :=
  s.board.shape.ahead? cell a.direction = some (target : Int)

/-- A request is settled by what the cell ahead holds. -/
theorem filter_ahead?_cases (hs : s.board.WellFormed) (cell : Nat) (a : Ant) (k : CellKind) :
    ((s.board.shape.ahead? cell a.direction).filter (s.board.kindIs · k) = none ∧
        ∀ target, s.Faces cell a target → (s.board.content target).kind ≠ k) ∨
      ∃ target : Nat, s.Faces cell a target ∧ (s.board.content target).kind = k ∧
        (s.board.shape.ahead? cell a.direction).filter (s.board.kindIs · k) =
          some (target : Int) := by
  cases hahead : s.board.shape.ahead? cell a.direction with
  | none =>
    refine Or.inl ⟨rfl, fun target hface => ?_⟩
    rw [Faces, hahead] at hface
    cases hface
  | some t =>
    obtain ⟨h0, hlt⟩ := Shape.ahead?_bounds hahead
    obtain ⟨target, rfl⟩ := Int.eq_ofNat_of_zero_le h0
    have hsize : target < s.board.size := Int.ofNat_lt.1 hlt
    have hkind := hs.kindIs_iff hsize k
    by_cases hk : (s.board.content target).kind = k
    · exact Or.inr ⟨target, hahead, hk, by rw [Option.filter_some, hkind.2 hk]; rfl⟩
    · refine Or.inl ⟨?_, fun target' hface => ?_⟩
      · rw [Option.filter_some, if_neg fun hk' => hk (hkind.1 hk')]
      · rw [Faces, hahead, Option.some.injEq, Int.natCast_inj] at hface
        exact hface ▸ hk

/-! ### Requests -/

/-- The outcomes of a request: the scan and the ant before it, the request, and the scan and the ant
after it. -/
inductive Settled (s : Scan) (cell : Nat) (a : Ant) : Option Request → Scan → Ant → Prop
  | moved {target : Nat} {e c : Int} (ahead : s.Faces cell a target)
      (free : s.board.content target = .empty) (energy : a.energy = .int e)
      (cost : s.board.rules.actionCost = .int c) :
      Settled s cell a (some .move) (s.propose (.swap target cell))
        { a with energy := .int (e - c), sensor := .bool (s.board.hasEmptyNeighbor target) }
  | blocked (obstacle : ∀ target, s.Faces cell a target → s.board.content target ≠ .empty) :
      Settled s cell a (some .move) s a
  | fed {target : Nat} {e c m : Int} (ahead : s.Faces cell a target)
      (food : s.board.content target = .food) (energy : a.energy = .int e)
      (cost : s.board.rules.actionCost = .int c) (meal : s.board.rules.foodEnergy = .int m) :
      Settled s cell a (some .eat)
        { s.propose (.removeFood target) with
          tally := { s.tally with foodEaten := s.tally.foodEaten + 1 } }
        { a with energy := .int (e - c + m) }
  | unfed {e c : Int} (nothing : ∀ target, s.Faces cell a target → s.board.content target ≠ .food)
      (energy : a.energy = .int e) (cost : s.board.rules.actionCost = .int c) :
      Settled s cell a (some .eat) s { a with energy := .int (e - c) }
  | hit {target : Nat} {defender : Ant} {e c f v : Int} (ahead : s.Faces cell a target)
      (occupied : s.board.content target = .ant defender.id)
      (found : s.board.arena.find? defender.id = some defender)
      (hostile : a.team.hostile defender.team = true) (energy : a.energy = .int e)
      (cost : s.board.rules.actionCost = .int c) (defence : defender.energy = .int f)
      (divisor : s.board.rules.attackDivisor = .int v) :
      Settled s cell a (some .attack)
        { s.update { defender with energy := .int (f - (e - c).tdiv v) } with
          tally := { s.tally with attacks := s.tally.attacks + 1, hits := s.tally.hits + 1 } }
        { a with energy := .int (e - c) }
  | missed {e c : Int}
      (peace : ∀ target defender, s.Faces cell a target →
        s.board.content target = .ant defender.id →
        s.board.arena.find? defender.id = some defender → a.team.hostile defender.team = false)
      (energy : a.energy = .int e) (cost : s.board.rules.actionCost = .int c) :
      Settled s cell a (some .attack)
        { s with tally := { s.tally with attacks := s.tally.attacks + 1 } }
        { a with energy := .int (e - c) }
  | idled : Settled s cell a none (s.idle a).1 (s.idle a).2

/-- Nothing halts a scan where energies can be reckoned with. -/
@[simp] theorem reckon_ok {α : Type} (s : Scan) (a : Ant) (x : α) :
    s.reckon a (.ok x) = .ok x := rfl

/-- An ant with an integer energy can pay. -/
theorem pay_eq {e c : Int} (he : a.energy = .int e) (hc : s.board.rules.actionCost = .int c) :
    s.pay a = .ok { a with energy := .int (e - c) } := by
  rw [pay, hc, Ant.consume_int he, reckon_ok]

/-- Moves are settled. -/
theorem exists_settled_move (hs : s.board.WellFormed) (ha : a.Sound) (cell : Nat) :
    ∃ s' a', s.move cell a (s.board.shape.ahead? cell a.direction) = .ok (s', a') ∧
      Settled s cell a (some .move) s' a' := by
  obtain ⟨e, he⟩ := ha.energy
  obtain ⟨c, hc⟩ := hs.rules.actionCost
  rcases filter_ahead?_cases hs cell a .empty with ⟨hnone, hother⟩ | ⟨target, hface, hkind, hsome⟩
  · refine ⟨s, a, by rw [move, hnone], .blocked fun target hface hc => ?_⟩
    exact hother target hface (Content.kind_eq_empty_iff.2 hc)
  · refine ⟨_, _, ?_, .moved hface (Content.kind_eq_empty_iff.1 hkind) he hc⟩
    simp only [move, hsome]
    rw [pay_eq he (by exact hc)]
    rfl

/-- Meals are settled. -/
theorem exists_settled_eat (hs : s.board.WellFormed) (ha : a.Sound) (cell : Nat) :
    ∃ s' a', s.eat a (s.board.shape.ahead? cell a.direction) = .ok (s', a') ∧
      Settled s cell a (some .eat) s' a' := by
  obtain ⟨e, he⟩ := ha.energy
  obtain ⟨c, hc⟩ := hs.rules.actionCost
  obtain ⟨m, hm⟩ := hs.rules.foodEnergy
  rcases filter_ahead?_cases hs cell a .food with ⟨hnone, hother⟩ | ⟨target, hface, hkind, hsome⟩
  · refine ⟨s, { a with energy := .int (e - c) }, ?_, .unfed (fun target hface hc => ?_) he hc⟩
    · rw [eat, pay_eq he hc]
      simp only [hnone]
      rfl
    · exact hother target hface (Content.kind_eq_food_iff.2 hc)
  · refine ⟨_, _, ?_, .fed hface (Content.kind_eq_food_iff.1 hkind) he hc hm⟩
    rw [eat, pay_eq he hc]
    simp only [hsome, reckon, propose, hm]
    rfl

/-- Attacks are settled. -/
theorem exists_settled_attack (hs : s.board.WellFormed) (ha : a.Sound) (cell : Nat) :
    ∃ s' a', s.attack a (s.board.shape.ahead? cell a.direction) = .ok (s', a') ∧
      Settled s cell a (some .attack) s' a' := by
  obtain ⟨e, he⟩ := ha.energy
  obtain ⟨c, hc⟩ := hs.rules.actionCost
  obtain ⟨v, hv, hpos⟩ := hs.rules.attackDivisor
  rcases filter_ahead?_cases hs cell a .ant with ⟨hnone, hother⟩ | ⟨target, hface, hkind, hsome⟩
  · refine ⟨_, _, ?_, .missed (fun target defender hface hd _ => ?_) he hc⟩
    · rw [attack, pay_eq he hc]
      simp only [hnone]
      rfl
    · exact absurd (Content.kind_eq_ant_iff.2 ⟨_, hd⟩) (hother target hface)
  · obtain ⟨id, hid⟩ := Content.kind_eq_ant_iff.1 hkind
    obtain ⟨defender, hfind, rfl, -, hsound⟩ := hs.exists_find? hid
    obtain ⟨f, hf⟩ := hsound.energy
    have htenant := hs.tenant?_eq hid hfind
    cases hhostile : a.team.hostile defender.team with
    | false =>
      refine ⟨_, _, ?_, .missed (fun target' defender' hface' hd hfind' => ?_) he hc⟩
      · rw [attack, pay_eq he hc]
        simp only [hsome, bind, Except.bind, htenant, hhostile]
        rfl
      · -- there is only one cell ahead, and only one ant on it
        rw [Faces, hface, Option.some.injEq, Int.natCast_inj] at hface'
        subst hface'
        rw [hid, Content.ant.injEq] at hd
        rw [← hd, hfind, Option.some.injEq] at hfind'
        exact hfind' ▸ hhostile
    | true =>
      refine ⟨_, _, ?_, .hit hface hid hfind hhostile he hc hf hv⟩
      have hdamage : ({ a with energy := .int (e - c) } : Ant).damage (.int v) =
          .ok (.int ((e - c).tdiv v)) := Ant.damage_int rfl hpos
      rw [attack, pay_eq he hc]
      simp only [hsome, bind, Except.bind, htenant, hhostile, if_true, hv, hdamage,
        Ant.consume_int hf, reckon_ok]
      rfl

/-- On a well-formed board every request of a sound ant is settled. -/
theorem exists_settled (hs : s.board.WellFormed) (ha : a.Sound) (cell : Nat)
    (request : Option Request) :
    ∃ s' a', s.perform cell a request = .ok (s', a') ∧ Settled s cell a request s' a' := by
  match request with
  | some .move => exact exists_settled_move hs ha cell
  | some .eat => exact exists_settled_eat hs ha cell
  | some .attack => exact exists_settled_attack hs ha cell
  | none => exact ⟨_, _, rfl, .idled⟩

/-- A settled request leaves the cells alone and every ant sound. -/
theorem Settled.frozen (hs : s.board.WellFormed) (ha : a.Sound) {request : Option Request}
    (h : Settled s cell a request s' a') :
    s.board.Frozen s'.board ∧ (∀ x ∈ s'.board.arena.ants, x.Sound) ∧ a'.Sound := by
  cases h with
  | moved => exact ⟨.refl _, hs.peopled.sound, ⟨ha.gene, ⟨_, rfl⟩, ⟨_, rfl⟩, ha.age, ha.generation⟩⟩
  | blocked => exact ⟨.refl _, hs.peopled.sound, ha⟩
  | fed => exact ⟨.refl _, hs.peopled.sound, ha.withEnergy _⟩
  | unfed => exact ⟨.refl _, hs.peopled.sound, ha.withEnergy _⟩
  | hit ahead occupied found =>
    refine ⟨.update _ _, ?_, ha.withEnergy _⟩
    intro x hx
    rcases Arena.mem_ants_update hx with rfl | hx
    · exact (hs.peopled.sound _ (Arena.mem_of_find? found)).withEnergy _
    · exact hs.peopled.sound x hx
  | missed => exact ⟨.refl _, hs.peopled.sound, ha.withEnergy _⟩
  | idled => exact ⟨⟨rfl, rfl, Int.le_refl _⟩, hs.peopled.sound, ha.mutate _⟩

/-! ### Splitting -/

/-- The outcomes of splitting: the scan and the ant before it, and the scan and the ant after it. -/
inductive Divided (s : Scan) (cell : Nat) (a : Ant) : Scan → Ant → Prop
  | split {e t g : Int} (energy : a.energy = .int e) (limit : s.board.rules.splitEnergy = .int t)
      (rich : t < e) (pos : 0 < cell) (free : s.board.content (cell - 1) = .empty)
      (generation : a.generation = .int g) :
      Divided s cell a
        (({ s with board := { s.board with nextId := s.board.nextId + 1 } } : Scan).propose
          (.born (cell - 1)
            { a with
              id := s.board.nextId
              energy := .int (e.fdiv 2)
              age := .int 0
              generation := .int (g + 1) }))
        { a with energy := .int (e.fdiv 2) }
  | whole {e t : Int} (energy : a.energy = .int e) (limit : s.board.rules.splitEnergy = .int t)
      (stays : t < e → 0 < cell → s.board.content (cell - 1) ≠ .empty) : Divided s cell a s a

/-- On a well-formed board it is settled whether a sound ant splits. -/
theorem exists_divided (hs : s.board.WellFormed) (ha : a.Sound) (hcell : cell < s.board.size) :
    ∃ s' a', s.divide cell a = .ok (s', a') ∧ Divided s cell a s' a' := by
  obtain ⟨e, he⟩ := ha.energy
  obtain ⟨g, hg⟩ := ha.generation
  obtain ⟨t, ht⟩ := hs.rules.splitEnergy
  have hrich : s.reckon a (a.energy.exceeds s.board.rules.splitEnergy) = .ok (decide (t < e)) := by
    rw [he, ht, Value.exceeds_int, reckon_ok]
  have hfree : 0 < cell →
      (s.board.kindIs ((cell : Int) - 1) .empty = true ↔ s.board.content (cell - 1) = .empty) := by
    intro hpos
    have hcast : (cell : Int) - 1 = ((cell - 1 : Nat) : Int) := by omega
    rw [hcast, hs.kindIs_iff (by omega), Content.kind_eq_empty_iff]
  by_cases h : t < e ∧ 0 < cell ∧ s.board.content (cell - 1) = .empty
  · obtain ⟨hlt, hpos, hc⟩ := h
    refine ⟨_, _, ?_, .split he ht hlt hpos hc hg⟩
    simp only [divide, hrich, bind, Except.bind, hlt, decide_true, hpos, (hfree hpos).2 hc,
      and_self, if_true, Ant.split_int he hg, reckon_ok]
    rfl
  · refine ⟨s, a, ?_, .whole he ht fun hlt hpos hc => h ⟨hlt, hpos, hc⟩⟩
    have hneg : ¬ (decide (t < e) = true ∧ 0 < cell ∧
        s.board.kindIs ((cell : Int) - 1) .empty = true) := by
      rintro ⟨hlt, hpos, hk⟩
      exact h ⟨of_decide_eq_true hlt, hpos, (hfree hpos).1 hk⟩
    simp only [divide, hrich, bind, Except.bind, if_neg hneg]

/-- Splitting leaves the cells and the arena alone. -/
theorem Divided.frozen (ha : a.Sound) (h : Divided s cell a s' a') :
    s.board.Frozen s'.board ∧ s'.board.arena = s.board.arena ∧ a'.Sound := by
  cases h with
  | split =>
    refine ⟨⟨rfl, rfl, ?_⟩, rfl, ha.withEnergy _⟩
    exact Int.le_of_lt (Int.lt_succ _)
  | whole => exact ⟨.refl _, rfl, ha⟩

/-! ### A whole turn -/

/-- A turn: the ant reads its tape, what it asks for is settled, it may split, and without energy it
is proposed for death. -/
inductive Turn (s : Scan) (cell : Nat) (a : Ant) : Scan → Prop
  | intro {i : Instruction} {s₁ s₂ : Scan} {a₁ a₂ : Ant} {e : Int}
      (read : a.gene.code[a.gene.pointer.toNat]? = some i)
      (settled : Settled s cell a.execute.1 i.opcode.request? s₁ a₁)
      (divided : Divided s₁ cell a₁ s₂ a₂) (energy : a₂.energy = .int e) :
      Turn s cell a ((if e ≤ 0 then s₂.propose (.death cell a₂.id) else s₂).update a₂)

/-- The parts of the turn of a sound ant on a well-formed board, each of which comes to an end. -/
theorem exists_parts (hs : s.board.WellFormed) (ha : a.Sound) (hcell : cell < s.board.size) :
    ∃ i s₁ a₁ s₂ a₂ e, a.gene.code[a.gene.pointer.toNat]? = some i ∧
      a.execute.2 = .ok i.opcode.request? ∧
      s.perform cell a.execute.1 i.opcode.request? = .ok (s₁, a₁) ∧
      Settled s cell a.execute.1 i.opcode.request? s₁ a₁ ∧
      s₁.divide cell a₁ = .ok (s₂, a₂) ∧ Divided s₁ cell a₁ s₂ a₂ ∧ a₂.energy = .int e ∧
      s.act cell a = .ok ((if e ≤ 0 then s₂.propose (.death cell a₂.id) else s₂).update a₂) := by
  obtain ⟨i, hread, hask, hsound⟩ := ha.execute
  obtain ⟨s₁, a₁, hperform, hsettled⟩ := exists_settled hs hsound cell i.opcode.request?
  obtain ⟨hfrozen, hants, ha₁⟩ := hsettled.frozen hs hsound
  have hs₁ : s₁.board.WellFormed := hfrozen.wellFormed hs hants
  obtain ⟨s₂, a₂, hdivide, hdivided⟩ := exists_divided hs₁ ha₁ (hfrozen.size.symm ▸ hcell)
  obtain ⟨e, he⟩ := (hdivided.frozen ha₁).2.2.energy
  refine ⟨i, s₁, a₁, s₂, a₂, e, hread, hask, hperform, hsettled, hdivide, hdivided, he, ?_⟩
  have hperish : s₂.perish cell a₂ =
      .ok (if e ≤ 0 then s₂.propose (.death cell a₂.id) else s₂) := by
    rw [perish, he, Value.isSpent_int, reckon_ok]
    by_cases hle : e ≤ 0
    · simp only [hle, decide_true]
      rfl
    · simp only [hle, decide_false]
      rfl
  simp only [act, hask, bind, Except.bind, hperform, hdivide, hperish]
  rfl

/-- The turn of a sound ant on a well-formed board comes to an end. -/
theorem exists_turn (hs : s.board.WellFormed) (ha : a.Sound) (hcell : cell < s.board.size) :
    ∃ s', s.act cell a = .ok s' ∧ Turn s cell a s' := by
  obtain ⟨i, s₁, a₁, s₂, a₂, e, hread, -, -, hsettled, -, hdivided, he, hact⟩ :=
    exists_parts hs ha hcell
  exact ⟨_, hact, .intro hread hsettled hdivided he⟩

/-! ### What a turn leaves alone -/

/-- A proposal changes the queue only. -/
theorem board_ite_propose (p : Prop) [Decidable p] (s : Scan) (c : Change) :
    (if p then s.propose c else s).board = s.board := by
  split <;> rfl

/-- A proposal counts nothing. -/
theorem tally_ite_propose (p : Prop) [Decidable p] (s : Scan) (c : Change) :
    (if p then s.propose c else s).tally = s.tally := by
  split <;> rfl

/-- A proposal writes nobody down as visited. -/
theorem visited_ite_propose (p : Prop) [Decidable p] (s : Scan) (c : Change) :
    (if p then s.propose c else s).visited = s.visited := by
  split <;> rfl

/-- A turn leaves the cells alone, keeps the ids of the arena and keeps every ant sound. -/
theorem Turn.frozen (hs : s.board.WellFormed) (ha : a.Sound) (h : Turn s cell a s') :
    s.board.Frozen s'.board ∧ ∀ x ∈ s'.board.arena.ants, x.Sound := by
  obtain ⟨-, hsettled, hdivided, -⟩ := h
  have hsound : a.execute.1.Sound := (ha.execute).choose_spec.2.2
  obtain ⟨hf₁, hants₁, ha₁⟩ := hsettled.frozen hs hsound
  obtain ⟨hf₂, harena, ha₂⟩ := hdivided.frozen ha₁
  refine ⟨(hf₁.trans hf₂).trans ?_, ?_⟩
  · rw [update, board_ite_propose]
    exact .update _ _
  · intro x hx
    rw [update, board_ite_propose] at hx
    rcases Arena.mem_ants_update hx with rfl | hx
    · exact ha₂
    · rw [harena] at hx
      exact hants₁ x hx

/-- Two tallies that differ at most in what a turn counts: food eaten, attacks, hits, mutations. -/
def Counts (t t' : Tally) : Prop :=
  ∃ foodEaten attacks hits mutations, t' = { t with foodEaten, attacks, hits, mutations }

/-- Settling a request counts nothing that is left to a commit. -/
theorem Settled.counts {request : Option Request} (h : Settled s cell a request s' a') :
    Counts s.tally s'.tally := by
  cases h <;> exact ⟨_, _, _, _, rfl⟩

/-- Settling a request writes nobody down as visited. -/
theorem Settled.visited {request : Option Request} (h : Settled s cell a request s' a') :
    s'.visited = s.visited := by
  cases h <;> rfl

/-- A turn counts nothing that is left to a commit. -/
theorem Turn.counts (h : Turn s cell a s') : Counts s.tally s'.tally := by
  obtain ⟨-, hsettled, hdivided, -⟩ := h
  rw [update, tally_ite_propose]
  have hcounts := hsettled.counts
  cases hdivided <;> exact hcounts

/-- Who has had a turn is not written during a turn. -/
theorem Turn.visited (h : Turn s cell a s') : s'.visited = s.visited := by
  obtain ⟨-, hsettled, hdivided, -⟩ := h
  rw [update, visited_ite_propose, ← hsettled.visited]
  cases hdivided <;> rfl

/-- The ant of a settled request changes at most its energy, its sensor and its gene. -/
theorem Settled.eq_frame {request : Option Request} (h : Settled s cell a request s' a') :
    a' = { a with energy := a'.energy, sensor := a'.sensor, gene := a'.gene } := by
  cases h <;> rfl

/-- An ant of the arena loses at most energy while a request is settled. -/
theorem Settled.find? {request : Option Request} (h : Settled s cell a request s' a') {id : Int}
    {x : Ant} (hx : s.board.arena.find? id = some x) :
    ∃ v, s'.board.arena.find? id = some { x with energy := v } := by
  cases h with
  | hit ahead occupied found =>
    rename_i defender e c f v _ _ _ _ _
    change ∃ w, (s.board.arena.update
      { defender with energy := .int (f - (e - c).tdiv v) }).find? id = _
    rw [Arena.find?_update]
    split_ifs with hid
    · have hxd : x = defender := by
        rw [hid] at hx
        exact Option.some.inj (hx.symm.trans found)
      exact ⟨_, by rw [hx, hxd]; rfl⟩
    · exact ⟨x.energy, hx⟩
  | moved => exact ⟨x.energy, hx⟩
  | blocked => exact ⟨x.energy, hx⟩
  | fed => exact ⟨x.energy, hx⟩
  | unfed => exact ⟨x.energy, hx⟩
  | missed => exact ⟨x.energy, hx⟩
  | idled => exact ⟨x.energy, hx⟩

/-- Splitting takes energy from an ant and nothing else. -/
theorem Divided.eq_frame (h : Divided s cell a s' a') : a' = { a with energy := a'.energy } := by
  cases h <;> rfl

/-- Splitting leaves the arena alone. -/
theorem Divided.arena_eq (h : Divided s cell a s' a') : s'.board.arena = s.board.arena := by
  cases h <;> rfl

/-- An ant keeps its id when it steps. -/
theorem id_execute (a : Ant) : a.execute.1.id = a.id := by
  obtain ⟨age, d, p, h⟩ := Ant.execute_frame a
  rw [h]

/-- A turn of one ant costs another at most energy. -/
theorem Turn.find?_other (h : Turn s cell a s') {id : Int} (hne : id ≠ a.id) {x : Ant}
    (hx : s.board.arena.find? id = some x) :
    ∃ v, s'.board.arena.find? id = some { x with energy := v } := by
  obtain ⟨-, hsettled, hdivided, -⟩ := h
  rename_i i s₁ s₂ a₁ a₂ e
  obtain ⟨v, hv⟩ := hsettled.find? hx
  have hid : a₂.id = a.id := by rw [hdivided.eq_frame, hsettled.eq_frame, id_execute]
  refine ⟨v, ?_⟩
  rw [update, board_ite_propose]
  change (s₂.board.arena.update a₂).find? id = _
  rw [Arena.find?_update, if_neg (hid ▸ hne), hdivided.arena_eq, hv]

/-- After its turn an ant is as its step left it, but for its energy, its sensor and its gene. -/
theorem Turn.find?_self (h : Turn s cell a s') (ha : s.board.arena.find? a.id = some a) :
    ∃ energy sensor gene, s'.board.arena.find? a.id =
      some { a.execute.1 with energy, sensor, gene } := by
  obtain ⟨-, hsettled, hdivided, -⟩ := h
  rename_i i s₁ s₂ a₁ a₂ e
  obtain ⟨v, hv⟩ := hsettled.find? ha
  have hframe : a₂ = { a.execute.1 with
      energy := a₂.energy, sensor := a₁.sensor, gene := a₁.gene } := by
    rw [hdivided.eq_frame, hsettled.eq_frame]
  have hid : a.id = a₂.id := by rw [hframe, id_execute]
  refine ⟨a₂.energy, a₁.sensor, a₁.gene, ?_⟩
  rw [update, board_ite_propose]
  change (s₂.board.arena.update a₂).find? a.id = _
  rw [Arena.find?_update, if_pos hid, hdivided.arena_eq, hv, Option.map_some, ← hframe]

/-! ### What a turn proposes -/

/-- What the turn of the ant `id` on a cell adds to the queue: a move or a meal, then a birth, then
a death, each at most once.  Moves and births are proposed for empty cells and meals for food; a
newborn takes the next id. -/
structure Proposals (s s' : Scan) (cell : Nat) (id : Int) (deed birth death : List Change) :
    Prop where
  queue : s'.queue.toList = s.queue.toList ++ (deed ++ birth ++ death)
  deed : deed = [] ∨
    (∃ target, deed = [.swap target cell] ∧ s.board.content target = .empty ∧
      target < s.board.size) ∨
    ∃ target, deed = [.removeFood target] ∧ s.board.content target = .food
  birth : (birth = [] ∧ s'.board.nextId = s.board.nextId) ∨
    ∃ child, birth = [.born (cell - 1) child] ∧ 0 < cell ∧
      s.board.content (cell - 1) = .empty ∧ child.Sound ∧ child.id = s.board.nextId ∧
      child.age = .int 0 ∧ s'.board.nextId = s.board.nextId + 1
  death : death = [] ∨ death = [.death cell id]

/-- The cell that an ant faces is on the board. -/
theorem Faces.lt_size {target : Nat} (h : s.Faces cell a target) : target < s.board.size :=
  Int.ofNat_lt.1 (Shape.ahead?_bounds h).2

/-- What settling a request adds to the queue, which is for the cell ahead. -/
theorem Settled.deed {request : Option Request} (h : Settled s cell a request s' a') :
    ∃ deed, s'.queue.toList = s.queue.toList ++ deed ∧ s'.board.nextId = s.board.nextId ∧
      (∀ c ∈ deed, s.Faces cell a c.cell) ∧
      (deed = [] ∨
        (∃ target, deed = [.swap target cell] ∧ s.board.content target = .empty ∧
          target < s.board.size) ∨
        ∃ target, deed = [.removeFood target] ∧ s.board.content target = .food) := by
  have hnone : ∀ c ∈ ([] : List Change), s.Faces cell a c.cell :=
    fun c hc => (List.not_mem_nil hc).elim
  have hone : ∀ {c : Change}, s.Faces cell a c.cell → ∀ c' ∈ [c], s.Faces cell a c'.cell :=
    fun hc c' hc' => List.mem_singleton.1 hc' ▸ hc
  cases h with
  | moved ahead free =>
    exact ⟨[_], Array.toList_push, rfl, hone ahead, Or.inr (Or.inl ⟨_, rfl, free, ahead.lt_size⟩)⟩
  | fed ahead food =>
    exact ⟨[_], Array.toList_push, rfl, hone ahead, Or.inr (Or.inr ⟨_, rfl, food⟩)⟩
  | blocked => exact ⟨[], (List.append_nil _).symm, rfl, hnone, Or.inl rfl⟩
  | unfed => exact ⟨[], (List.append_nil _).symm, rfl, hnone, Or.inl rfl⟩
  | hit => exact ⟨[], (List.append_nil _).symm, rfl, hnone, Or.inl rfl⟩
  | missed => exact ⟨[], (List.append_nil _).symm, rfl, hnone, Or.inl rfl⟩
  | idled => exact ⟨[], (List.append_nil _).symm, rfl, hnone, Or.inl rfl⟩

/-- Every turn makes its proposals in order, the first of them for the cell ahead. -/
theorem Turn.proposals (hs : s.board.WellFormed) (ha : a.Sound) (h : Turn s cell a s') :
    ∃ deed birth death, Proposals s s' cell a.id deed birth death ∧
      ∀ c ∈ deed, s.Faces cell a.execute.1 c.cell := by
  obtain ⟨-, hsettled, hdivided, -⟩ := h
  rename_i i s₁ s₂ a₁ a₂ e
  have hsound : a.execute.1.Sound := (ha.execute).choose_spec.2.2
  obtain ⟨hf₁, -, ha₁⟩ := hsettled.frozen hs hsound
  obtain ⟨deed, hq₁, hn₁, hahead, hdeed⟩ := hsettled.deed
  have hid : a₂.id = a.id := by rw [hdivided.eq_frame, hsettled.eq_frame, id_execute]
  obtain ⟨birth, hq₂, hbirth⟩ : ∃ birth, s₂.queue.toList = s₁.queue.toList ++ birth ∧
      ((birth = [] ∧ s₂.board.nextId = s₁.board.nextId) ∨
        ∃ child, birth = [.born (cell - 1) child] ∧ 0 < cell ∧
          s₁.board.content (cell - 1) = .empty ∧ child.Sound ∧ child.id = s₁.board.nextId ∧
          child.age = .int 0 ∧ s₂.board.nextId = s₁.board.nextId + 1) := by
    cases hdivided with
    | split energy limit rich pos free generation =>
      exact ⟨[_], Array.toList_push,
        Or.inr ⟨_, rfl, pos, free, ha₁.child _ _ _, rfl, rfl, rfl⟩⟩
    | whole => exact ⟨[], (List.append_nil _).symm, Or.inl ⟨rfl, rfl⟩⟩
  obtain ⟨death, hq₃, hdeath⟩ : ∃ death,
      (if e ≤ 0 then s₂.propose (.death cell a₂.id) else s₂).queue.toList =
        s₂.queue.toList ++ death ∧ (death = [] ∨ death = [.death cell a.id]) := by
    split
    · exact ⟨[_], Array.toList_push, Or.inr (by rw [hid])⟩
    · exact ⟨[], (List.append_nil _).symm, Or.inl rfl⟩
  refine ⟨deed, birth, death, ⟨?_, hdeed, ?_, hdeath⟩, hahead⟩
  · rw [update]
    change (if e ≤ 0 then s₂.propose (.death cell a₂.id) else s₂).queue.toList = _
    rw [hq₃, hq₂, hq₁, List.append_assoc, List.append_assoc, List.append_assoc]
  · have hnext : ((if e ≤ 0 then s₂.propose (.death cell a₂.id) else s₂).update a₂).board.nextId =
        s₂.board.nextId := by
      rw [update, board_ite_propose]
      rfl
    rw [hnext, ← hn₁, ← hf₁.content]
    exact hbirth

end Formicary.Scan
