import Formicary.Proofs.Counters

/-!
# Energy does not reach the programs

Energies, teams, generations and the tuning of a board decide who is hurt, who splits, who dies and
where food grows.  They have no part in what the programs of the ants do in a tick, nor in the
random numbers that are drawn for them: two boards that differ in nothing else (`Board.Alike`) scan
their cells in lockstep, as far as the programs can tell (`Scan.Visits.agree`).

What a program can tell is the `Mind` of its ant.  What settling a request does to a mind and to the
random numbers to come is a function of the cells, the mind and these numbers alone
(`Scan.Settled.reflect`), and nothing else in a turn does anything to them.
-/

namespace Formicary

/-- What the program of an ant consists of and what it can tell. -/
structure Mind where
  /-- The tape and the pointer. -/
  gene : Gene
  /-- The facing of the ant. -/
  direction : Direction
  /-- The sensor. -/
  sensor : Value
  /-- The number of steps since birth. -/
  age : Value
  deriving DecidableEq

/-- The mind of an ant. -/
def Ant.mind (a : Ant) : Mind := ⟨a.gene, a.direction, a.sensor, a.age⟩

namespace Board

/-- The mind of the ant with a given id. -/
def mindOf? (b : Board) (id : Int) : Option Mind := (b.arena.find? id).map Ant.mind

/-- What settling a request does to the mind of an ant on a cell and to the random numbers to come.
-/
def reflect (b : Board) (cell : Nat) (request : Option Request) (μ : Mind) (r : Random.Stream) :
    Mind × Random.Stream :=
  match request with
  | some .move =>
    match (b.shape.ahead? cell μ.direction).filter (b.kindIs · .empty) with
    | some target => ({ μ with sensor := .bool (b.hasEmptyNeighbor target) }, r)
    | none => (μ, r)
  | some .eat => (μ, r)
  | some .attack => (μ, r)
  | none => ({ μ with gene := (μ.gene.mutate r).2.1 }, (μ.gene.mutate r).2.2)

/-- Two boards with the same cells, random numbers and ants, the ants being of the same minds.
Nothing is said of their energies, teams and generations, of the ids to come and of the tuning. -/
structure Alike (b₁ b₂ : Board) : Prop where
  width : b₁.width = b₂.width
  height : b₁.height = b₂.height
  kinds : b₁.kinds = b₂.kinds
  occupants : b₁.occupants = b₂.occupants
  random : b₁.random = b₂.random
  minds : ∀ x ∈ b₁.arena.ants, ∀ y ∈ b₂.arena.ants, x.id = y.id → x.mind = y.mind

end Board

namespace Ant

variable {a a' : Ant}

/-- Ants of one mind interpret an instruction alike. -/
theorem mind_interpret (h : a.mind = a'.mind) (i : Instruction) :
    (a.interpret i).1.mind = (a'.interpret i).1.mind := by
  obtain ⟨id, team, gene, energy, direction, sensor, age, generation⟩ := a
  obtain ⟨id', team', gene', energy', direction', sensor', age', generation'⟩ := a'
  obtain ⟨rfl, rfl, rfl, rfl⟩ := Mind.mk.inj h
  obtain ⟨op, target⟩ := i
  cases op with
  | noop => rfl
  | move => rfl
  | turnLeft => rfl
  | turnRight => rfl
  | eat => rfl
  | attack => rfl
  | jumpIfSensorFalse =>
    simp only [interpret, taken]
    cases sensor.truthy <;> cases target <;> rfl
  | jumpIfSensorTrue =>
    simp only [interpret, taken]
    cases sensor.truthy <;> cases target <;> rfl

/-- Ants of one mind step alike. -/
theorem mind_execute (h : a.mind = a'.mind) : a.execute.1.mind = a'.execute.1.mind := by
  obtain ⟨id, team, gene, energy, direction, sensor, age, generation⟩ := a
  obtain ⟨id', team', gene', energy', direction', sensor', age', generation'⟩ := a'
  obtain ⟨rfl, rfl, rfl, rfl⟩ := Mind.mk.inj h
  unfold execute
  cases age.grown (.int 1) with
  | error cause => rfl
  | ok grown =>
    cases gene.cycle with
    | none => rfl
    | some c =>
      refine mind_interpret ?_ c.1
      rfl

end Ant

namespace Scan

variable {b b₁ b₂ : Board} {s s' s₁ s₂ s₁' s₂' : Scan} {n cell : Nat} {a a' a₁ a₂ : Ant}

/-! ### One turn -/

/-- What settling a request does to a mind and to the random numbers is told by the cells. -/
theorem Settled.reflect (hs : s.board.WellFormed) {request : Option Request}
    (h : Settled s cell a request s' a') :
    (a'.mind, s'.board.random) = s.board.reflect cell request a.mind s.board.random := by
  cases h with
  | @moved target _ _ ahead free =>
    have hempty := (hs.kindIs_iff ahead.lt_size .empty).2 (Content.kind_eq_empty_iff.2 free)
    have hahead : s.board.shape.ahead? cell a.mind.direction = some (target : Int) := ahead
    simp only [Board.reflect, hahead, Option.filter_some, hempty, if_true]
    rfl
  | blocked obstacle =>
    have hnone : (s.board.shape.ahead? cell a.mind.direction).filter (s.board.kindIs · .empty) =
        none := by
      rcases filter_ahead?_cases hs cell a .empty with ⟨hnone, -⟩ | ⟨target, hface, hkind, -⟩
      · exact hnone
      · exact (obstacle target hface (Content.kind_eq_empty_iff.1 hkind)).elim
    simp only [Board.reflect, hnone]
  | fed => rfl
  | unfed => rfl
  | hit => rfl
  | missed => rfl
  | idled => rfl

/-- Settling a request does nothing to the minds in the arena. -/
theorem Settled.mindOf?_eq (hs : s.board.WellFormed) (ha : a.Sound) {request : Option Request}
    (h : Settled s cell a request s' a') (id : Int) : s'.board.mindOf? id = s.board.mindOf? id := by
  unfold Board.mindOf?
  cases hx : s.board.arena.find? id with
  | none =>
    have hids := (h.frozen hs ha).1.ids
    rw [Arena.find?_eq_none_iff, ← hids, ← Arena.find?_eq_none_iff] at hx
    rw [hx]
  | some x =>
    obtain ⟨v, hv⟩ := h.find? hx
    rw [hv]
    rfl

/-- Over a turn one mind changes, and it and the random numbers become what the cells tell. -/
theorem Turn.reflect (hs : s.board.WellFormed) (ha : a.Sound)
    (hfind : s.board.arena.find? a.id = some a) (h : Turn s cell a s') :
    ∃ i, a.gene.code[a.gene.pointer.toNat]? = some i ∧
      s'.board.random =
        (s.board.reflect cell i.opcode.request? a.execute.1.mind s.board.random).2 ∧
      ∀ id, s'.board.mindOf? id =
        if id = a.id then
          some (s.board.reflect cell i.opcode.request? a.execute.1.mind s.board.random).1
        else s.board.mindOf? id := by
  obtain ⟨hread, hsettled, hdivided, henergy⟩ := h
  rename_i i s₁ s₂ a₁ a₂ e
  have hsound : a.execute.1.Sound := (ha.execute).choose_spec.2.2
  have hreflect := hsettled.reflect hs
  have hmind : a₂.mind = a₁.mind := by
    rw [hdivided.eq_frame]
    rfl
  have hid : a₂.id = a.id := by rw [hdivided.eq_frame, hsettled.eq_frame, id_execute]
  have hrandom : s₂.board.random = s₁.board.random := by
    cases hdivided <;> rfl
  change ∃ i, _ ∧ (s₂.close cell a₂ e).board.random = _ ∧
    ∀ id, (s₂.close cell a₂ e).board.mindOf? id = _
  rw [board_close]
  refine ⟨i, hread, hrandom.trans (congrArg Prod.snd hreflect), fun id => ?_⟩
  change ((s₂.board.arena.update a₂).find? id).map Ant.mind = _
  rw [Arena.find?_update, hid, hdivided.arena_eq]
  by_cases heq : id = a.id
  · obtain ⟨v, hv⟩ := hsettled.find? hfind
    rw [if_pos heq, if_pos heq, heq, hv, Option.map_some, Option.map_some, hmind, ← hreflect]
  · rw [if_neg heq, if_neg heq]
    exact hsettled.mindOf?_eq hs hsound id

/-! ### Two scans in lockstep -/

/-- Two scans that programs cannot tell apart: the same random numbers are to come, and the ants are
of the same minds. -/
structure Agree (s₁ s₂ : Scan) : Prop where
  random : s₁.board.random = s₂.board.random
  minds : ∀ id, s₁.board.mindOf? id = s₂.board.mindOf? id

/-- In scans that agree, the ants with one id are of one mind. -/
theorem Agree.mind_eq (h : Agree s₁ s₂) (hnodup₁ : s₁.board.arena.ids.Nodup)
    (hnodup₂ : s₂.board.arena.ids.Nodup) (hmem₁ : a₁ ∈ s₁.board.arena.ants)
    (hmem₂ : a₂ ∈ s₂.board.arena.ants) (hid : a₁.id = a₂.id) : a₁.mind = a₂.mind := by
  have hminds := h.minds a₁.id
  rw [Board.mindOf?, Board.mindOf?, Arena.find?_of_mem hnodup₁ hmem₁, hid,
    Arena.find?_of_mem hnodup₂ hmem₂] at hminds
  exact Option.some.inj hminds

/-- Cells of the same kinds are of the same kinds wherever they are looked at. -/
theorem kindIs_congr (hkinds : b₁.kinds = b₂.kinds) : b₁.kindIs = b₂.kindIs := by
  funext m k
  rw [Board.kindIs, Board.kindIs, hkinds]

/-- What settling a request does to minds is a matter of the shape of the board and of the kinds of
its cells. -/
theorem reflect_congr (hshape : b₁.shape = b₂.shape) (hkinds : b₁.kinds = b₂.kinds) :
    b₁.reflect = b₂.reflect := by
  have hneighbor : b₁.hasEmptyNeighbor = b₂.hasEmptyNeighbor := by
    funext m
    rw [Board.hasEmptyNeighbor, Board.hasEmptyNeighbor, hshape, kindIs_congr hkinds]
  funext cell request μ r
  simp only [Board.reflect, hshape, kindIs_congr hkinds, hneighbor]

/-- Two turns of ants of one mind keep scans in agreement. -/
theorem Agree.turn (h : Agree s₁ s₂) (hs₁ : s₁.board.WellFormed) (hs₂ : s₂.board.WellFormed)
    (ha₁ : a₁.Sound) (ha₂ : a₂.Sound) (hid : a₁.id = a₂.id)
    (hfind₁ : s₁.board.arena.find? a₁.id = some a₁)
    (hfind₂ : s₂.board.arena.find? a₂.id = some a₂)
    (hreflect : s₁.board.reflect = s₂.board.reflect)
    (hturn₁ : Turn s₁ cell a₁ s₁') (hturn₂ : Turn s₂ cell a₂ s₂') : Agree s₁' s₂' := by
  have hmind : a₁.mind = a₂.mind :=
    h.mind_eq hs₁.peopled.ids_nodup hs₂.peopled.ids_nodup (Arena.mem_of_find? hfind₁)
      (Arena.mem_of_find? hfind₂) hid
  have hgene : a₁.gene = a₂.gene := congrArg Mind.gene hmind
  obtain ⟨i₁, hread₁, hrandom₁, hminds₁⟩ := hturn₁.reflect hs₁ ha₁ hfind₁
  obtain ⟨i₂, hread₂, hrandom₂, hminds₂⟩ := hturn₂.reflect hs₂ ha₂ hfind₂
  obtain rfl : i₁ = i₂ := by
    rw [hgene] at hread₁
    exact Option.some.inj (hread₁.symm.trans hread₂)
  rw [hreflect, Ant.mind_execute hmind, h.random] at hrandom₁ hminds₁
  refine ⟨hrandom₁.trans hrandom₂.symm, fun id => ?_⟩
  rw [hminds₁, hminds₂, hid, h.minds id]

/-- A visit of a cell without an ant does nothing to the board. -/
theorem Visit.board_eq {draw : Nat} (h : Visit s n draw s') (hc : (s.board.content n).ant? = none) :
    s'.board = s.board := by
  cases h with
  | grown => rfl
  | bare => rfl
  | stocked => rfl
  | acted occupied =>
    rw [occupied] at hc
    cases hc

/-- The visit of a cell with an ant is the turn of the ant. -/
theorem Visit.exists_turn {draw : Nat} {id : Int} (h : Visit s n draw s')
    (hc : s.board.content n = .ant id) :
    ∃ a, a.id = id ∧ s.board.arena.find? a.id = some a ∧
      Turn { s with visited := a.id :: s.visited } n a s' := by
  cases h with
  | grown free => exact absurd (free.symm.trans hc) Content.noConfusion
  | bare free => exact absurd (free.symm.trans hc) Content.noConfusion
  | stocked food => exact absurd (food.symm.trans hc) Content.noConfusion
  | acted occupied found turn =>
    exact ⟨_, Content.ant.inj (occupied.symm.trans hc), found, turn⟩

/-- Two visits of one cell keep scans of boards with the same cells in agreement. -/
theorem Agree.visit {draw : Nat} (h : Agree s₁ s₂) (hb₁ : b₁.WellFormed) (hb₂ : b₂.WellFormed)
    (hcontent : b₁.content = b₂.content) (hreflect : b₁.reflect = b₂.reflect)
    (hstage₁ : Stage b₁ n s₁) (hstage₂ : Stage b₂ n s₂) (hvisit₁ : Visit s₁ n draw s₁')
    (hvisit₂ : Visit s₂ n draw s₂') : Agree s₁' s₂' := by
  have hc₁ := hstage₁.frozen.content
  have hc₂ := hstage₂.frozen.content
  cases hant : (b₁.content n).ant? with
  | none =>
    have hboard₁ := hvisit₁.board_eq (by rw [hc₁, hant])
    have hboard₂ := hvisit₂.board_eq (by rw [hc₂, ← hcontent, hant])
    exact ⟨by rw [hboard₁, hboard₂, h.random], fun id => by rw [hboard₁, hboard₂, h.minds]⟩
  | some id =>
    have hc := Content.ant?_eq_some_iff.1 hant
    obtain ⟨a₁, hid₁, hfind₁, hturn₁⟩ := hvisit₁.exists_turn (by rw [hc₁, hc])
    obtain ⟨a₂, hid₂, hfind₂, hturn₂⟩ := hvisit₂.exists_turn (by rw [hc₂, ← hcontent, hc])
    have hreflect' : s₁.board.reflect = s₂.board.reflect := by
      rw [reflect_congr hstage₁.frozen.shape hstage₁.frozen.kinds, hreflect,
        reflect_congr hstage₂.frozen.shape hstage₂.frozen.kinds]
    have hagree : Agree { s₁ with visited := a₁.id :: s₁.visited }
        { s₂ with visited := a₂.id :: s₂.visited } := ⟨h.random, h.minds⟩
    exact hagree.turn (hstage₁.wellFormed hb₁) (hstage₂.wellFormed hb₂)
      (hstage₁.sound a₁ (Arena.mem_of_find? hfind₁)) (hstage₂.sound a₂ (Arena.mem_of_find? hfind₂))
      (hid₁.trans hid₂.symm) hfind₁ hfind₂ hreflect' hturn₁ hturn₂

/-- Visits of the same cells with the same draws keep scans in agreement. -/
theorem Visits.agree {draws : List Nat} (hb₁ : b₁.WellFormed) (hb₂ : b₂.WellFormed)
    (hcontent : b₁.content = b₂.content) (hreflect : b₁.reflect = b₂.reflect)
    (h₁ : Visits b₁ n s₁ draws s₁') (h₂ : Visits b₂ n s₂ draws s₂') (h : Agree s₁ s₂) :
    Agree s₁' s₂' := by
  induction h₁ generalizing s₂ with
  | done =>
    cases h₂ with
    | done => exact h
  | next stage₁ lt_size₁ ran₁ visit₁ rest₁ ih =>
    cases h₂ with
    | next stage₂ lt_size₂ ran₂ visit₂ rest₂ =>
      exact ih rest₂ (h.visit hb₁ hb₂ hcontent hreflect stage₁ stage₂ visit₁ visit₂)

end Scan

/-! ### Alike boards -/

namespace Board.Alike

variable {b₁ b₂ : Board} {s₁ s₂ : Scan} {n : Nat} {x y : Ant}

/-- Alike boards have as many cells. -/
theorem size (h : Alike b₁ b₂) : b₁.size = b₂.size := by
  rw [Board.size, Board.size, h.kinds]

/-- Alike boards have one shape. -/
theorem shape (h : Alike b₁ b₂) : b₁.shape = b₂.shape := by
  rw [Board.shape, Board.shape, h.width, h.height, h.size]

/-- The cells of alike boards hold the same. -/
theorem content (h : Alike b₁ b₂) : b₁.content = b₂.content := by
  funext m
  rw [Board.content, Board.content, h.kinds, h.occupants]

/-- The same ants are in the arenas of alike boards. -/
theorem mem_ids_iff (h : Alike b₁ b₂) (hb₁ : b₁.WellFormed) (hb₂ : b₂.WellFormed) (id : Int) :
    id ∈ b₁.arena.ids ↔ id ∈ b₂.arena.ids := by
  rw [hb₁.peopled.mem_ids_iff, hb₂.peopled.mem_ids_iff, h.size, h.content]

/-- The ants of alike boards are of the same minds. -/
theorem mindOf?_eq (h : Alike b₁ b₂) (hb₁ : b₁.WellFormed) (hb₂ : b₂.WellFormed) (id : Int) :
    b₁.mindOf? id = b₂.mindOf? id := by
  have hids := h.mem_ids_iff hb₁ hb₂ id
  unfold mindOf?
  cases hx : b₁.arena.find? id with
  | none =>
    rw [Arena.find?_eq_none_iff, hids, ← Arena.find?_eq_none_iff] at hx
    rw [hx]
  | some x =>
    obtain rfl := Arena.id_of_find? hx
    have hmem := hids.1 (Arena.mem_ids_of_mem (Arena.mem_of_find? hx))
    obtain ⟨y, hy⟩ := Option.isSome_iff_exists.1 (Arena.has_iff.2 hmem)
    rw [hy, Option.map_some, Option.map_some, h.minds x (Arena.mem_of_find? hx) y
      (Arena.mem_of_find? hy) (Arena.id_of_find? hy).symm]

/-- Before the first visit the scans of alike boards agree. -/
theorem agree_opening (h : Alike b₁ b₂) (hb₁ : b₁.WellFormed) (hb₂ : b₂.WellFormed) :
    Scan.Agree (Scan.opening b₁) (Scan.opening b₂) := by
  refine ⟨?_, fun id => ?_⟩
  · change (Scan.growthDraws b₁).2 = (Scan.growthDraws b₂).2
    rw [Scan.growthDraws, Scan.growthDraws, h.size, h.random]
  · exact h.mindOf?_eq hb₁ hb₂ id

/-- The scans of alike boards agree. -/
theorem agree (h : Alike b₁ b₂) (hb₁ : b₁.WellFormed) (hb₂ : b₂.WellFormed)
    (hs₁ : Scan.Completes b₁ s₁) (hs₂ : Scan.Completes b₂ s₂) : Scan.Agree s₁ s₂ := by
  have hdraws : (Scan.growthDraws b₁).1 = (Scan.growthDraws b₂).1 := by
    rw [Scan.growthDraws, Scan.growthDraws, h.size, h.random]
  rw [Scan.Completes, hdraws] at hs₁
  exact Scan.Visits.agree hb₁ hb₂ h.content (Scan.reflect_congr h.shape h.kinds) hs₁ hs₂
    (h.agree_opening hb₁ hb₂)

/-- Ants of one mind and with one id are about to do the same on alike boards, but for hits. -/
theorem does_eq (h : Alike b₁ b₂) (hid : x.id = y.id) (hmind : x.mind = y.mind) {d : Deed}
    (hd : d ≠ .hit) : b₁.does x d = b₂.does y d := by
  have hgene : x.gene = y.gene := congrArg Mind.gene hmind
  have hdirection : x.direction = y.direction := congrArg Mind.direction hmind
  have hopcode : x.opcode? = y.opcode? := by rw [Ant.opcode?, Ant.opcode?, hgene]
  have hahead : b₁.ahead? x = b₂.ahead? y := by
    rw [Board.ahead?, Board.ahead?, Board.indexOfAnt?, Board.indexOfAnt?, h.occupants, h.shape,
      hid, hdirection]
  have hfaces : ∀ k, b₁.faces x k = b₂.faces y k := by
    intro k
    rw [Board.faces, Board.faces, hahead, Scan.kindIs_congr h.kinds]
  have hsettles : ∀ request, b₁.settles x request d = b₂.settles y request d := by
    intro request
    cases d with
    | hit => exact (hd rfl).elim
    | attack => rfl
    | mutation => rfl
    | meal => rw [Board.settles, Board.settles, hfaces]
    | move => rw [Board.settles, Board.settles, hfaces]
  simp only [Board.does, hopcode, hsettles]

/-- Ticks of alike boards count the same, but for hits. -/
theorem of_tick (h : Alike b₁ b₂) (hb₁ : b₁.WellFormed) (hb₂ : b₂.WellFormed) {b₁' b₂' : Board}
    (htick₁ : b₁.tick = .ok b₁') (htick₂ : b₂.tick = .ok b₂') {d : Deed} (hd : d ≠ .hit) :
    b₁'.lastTally.of d = b₂'.lastTally.of d := by
  rw [hb₁.of_tick htick₁, hb₂.of_tick htick₂, hb₁.countP_ants, hb₂.countP_ants, h.size]
  refine List.countP_congr fun m hm => ?_
  cases hant : (b₁.content m).ant? with
  | none =>
    have hant' : (b₂.content m).ant? = none := by rw [← h.content, hant]
    rw [standing?, standing?, hant, hant']
    rfl
  | some id =>
    have hc₁ := Content.ant?_eq_some_iff.1 hant
    have hc₂ : b₂.content m = .ant id := by rw [← h.content, hc₁]
    obtain ⟨x, hx, hxid, hxmem, -⟩ := hb₁.exists_find? hc₁
    obtain ⟨y, hy, hyid, hymem, -⟩ := hb₂.exists_find? hc₂
    have hid : x.id = y.id := hxid.trans hyid.symm
    have hsx : b₁.standing? m = some x := standing?_eq_some_iff.2 ⟨hxid ▸ hc₁, hxid ▸ hx⟩
    have hsy : b₂.standing? m = some y := standing?_eq_some_iff.2 ⟨hyid ▸ hc₂, hyid ▸ hy⟩
    rw [hsx, hsy, Option.any_some, Option.any_some, h.does_eq hid (h.minds x hxmem y hymem hid) hd]

end Board.Alike

/-! ### After the commit -/

/-- Whatever part of the queue of a scan is committed, the random numbers to come and the ants that
were there at the start of the tick are as the scan left them. -/
def Board.Lasting (b : Board) (s : Scan) : Prop :=
  ∀ before later c, s.queue.toList = before ++ later →
    Commit.run s.board s.tally before = .ok c →
    c.board.random = s.board.random ∧
      ∀ x ∈ c.board.arena.ants, x.id ∈ b.arena.ids → x ∈ s.board.arena.ants

/-- A commit draws nothing. -/
theorem Commit.random_foldl (c : Commit) (q : List Change) :
    (q.foldl applied c).board.random = c.board.random := by
  induction q generalizing c with
  | nil => rfl
  | cons x q ih =>
    rw [List.foldl_cons, ih]
    cases x <;> rfl

/-- What a scan leaves lasts. -/
theorem Scan.Completes.lasting {b : Board} {s : Scan} (hb : b.WellFormed)
    (hs : Scan.Completes b s) : b.Lasting s := by
  intro before later c hq hrun
  obtain ⟨hbefore, rfl⟩ := hb.eq_foldl_of_commit hs hq hrun
  refine ⟨Commit.random_foldl ⟨s.board, s.tally⟩ before, fun x hx hid => ?_⟩
  rcases Commit.mem_ants_foldl (c := ⟨s.board, s.tally⟩) hbefore hx with hmem | hborn
  · exact hmem
  · have hnew : x ∈ newborns s.queue.toList := by
      rw [hq, newborns_append]
      exact List.mem_append_left _ hborn
    exact ((hs.newborn hb hnew).1 hid).elim

/-! ### Another fray

The ants of the fray with other energies, in other teams and under other rules: nothing grows,
nobody splits, nobody is hit, and nobody is put out. -/

/-- The configuration of the other row. -/
def meleeConfig : Config :=
  ⟨fun
    | .width => .int 6
    | .height => .int 1
    | .geneLength => .int 3
    | .initialEnergy => .int 8
    | .foodEnergy => .int 2
    | .splitEnergy => .int 1000
    | .actionCost => .int 7
    | .attackDivisor => .int 3
    | .foodGrowthChance => .int 0
    | .spareCell => .bool false
    | f => f.defaultValue⟩

/-- The other row without ants. -/
def meleeRow : Board :=
  .blank meleeConfig (.ofConfig meleeConfig) 6 1 6 (.ofSeed 0)

/-- The other fray. -/
def melee : Board :=
  (((Op.placeFood 3).after ((meleeRow.enter 0 (simpleton 0 .cyan .move 70 .east)).enter 2
    (simpleton 1 .cyan .eat 50 .east))).enter 4 (simpleton 2 .yellow .attack 90 .east)).enter 5
      (simpleton 3 .yellow .turnLeft 60 .west)

/-- The other row is built from its configuration. -/
theorem reachable_meleeRow : Reachable meleeRow := by
  have hbuild : Board.build .unbounded (.int 6) (.int 1) (some meleeConfig) (some (.ofSeed 0)) =
      .ok meleeRow := rfl
  exact .of_config ⟨⟨_, rfl⟩, ⟨_, rfl⟩, ⟨_, rfl⟩, ⟨_, rfl⟩, ⟨_, rfl⟩, ⟨_, rfl⟩, ⟨_, rfl⟩, ⟨_, rfl⟩⟩
    rfl hbuild

/-- The other fray is put together like the first. -/
theorem reachable_melee : Reachable melee := by
  have hpair : Reachable ((meleeRow.enter 0 (simpleton 0 .cyan .move 70 .east)).enter 2
      (simpleton 1 .cyan .eat 50 .east)) :=
    .enter_simpleton (.enter_simpleton reachable_meleeRow)
  exact .enter_simpleton (.enter_simpleton (.step (.placeFood 3) hpair trivial))

/-- The other fray is in order. -/
theorem wellFormed_melee : melee.WellFormed :=
  reachable_melee.wellFormed (by decide +kernel)

/-- The two frays differ in what does not reach the programs. -/
theorem alike_fray_melee : fray.Alike melee where
  width := rfl
  height := rfl
  kinds := by decide +kernel
  occupants := by decide +kernel
  random := by decide +kernel
  minds := by decide +kernel

/-! ### Two ticks -/

/-- The energies, teams and generations of ants, the ids to come and the tuning do not reach the
programs: after scans of boards that differ in nothing else the same random numbers are to come, and
every ant that was there at the start is of one mind on both, which lasts until it is put out or the
tick is over.  The ticks count the same moves, attacks, meals and mutations.  The boards need only
be well formed, as reachable ones are (`Reachable.wellFormed`). -/
theorem minds_of_alike {b₁ b₂ : Board} (hb₁ : b₁.WellFormed) (hb₂ : b₂.WellFormed)
    (h : b₁.Alike b₂) :
    ∃ s₁ s₂, Scan.run b₁ = .ok s₁ ∧ Scan.run b₂ = .ok s₂ ∧ b₁.Lasting s₁ ∧ b₂.Lasting s₂ ∧
      s₁.board.random = s₂.board.random ∧ b₁.arena.ids.Perm b₂.arena.ids ∧
      s₁.board.arena.ids = b₁.arena.ids ∧ s₂.board.arena.ids = b₂.arena.ids ∧
      (∀ x ∈ s₁.board.arena.ants, ∀ y ∈ s₂.board.arena.ants, x.id = y.id →
        x.gene = y.gene ∧ x.direction = y.direction ∧ x.sensor = y.sensor ∧ x.age = y.age) ∧
      (∀ b₁' b₂', b₁.tick = .ok b₁' → b₂.tick = .ok b₂' →
        b₁'.random = b₂'.random ∧
        (∀ x ∈ b₁'.arena.ants, ∀ y ∈ b₂'.arena.ants, x.id = y.id → x.id ∈ b₁.arena.ids →
          x.gene = y.gene ∧ x.direction = y.direction ∧ x.sensor = y.sensor ∧ x.age = y.age) ∧
        b₁'.lastTally.moves = b₂'.lastTally.moves ∧
        b₁'.lastTally.attacks = b₂'.lastTally.attacks ∧
        b₁'.lastTally.foodEaten = b₂'.lastTally.foodEaten ∧
        b₁'.lastTally.mutations = b₂'.lastTally.mutations) ∧
      (b₁.nextId + b₁.size ≤ idLimit → ∃ b₁', b₁.tick = .ok b₁') ∧
      (b₂.nextId + b₂.size ≤ idLimit → ∃ b₂', b₂.tick = .ok b₂') := by
  obtain ⟨s₁, hs₁⟩ := Scan.exists_completes hb₁
  obtain ⟨s₂, hs₂⟩ := Scan.exists_completes hb₂
  have hagree := h.agree hb₁ hb₂ hs₁ hs₂
  have hids₁ := hs₁.stage.frozen.ids
  have hids₂ := hs₂.stage.frozen.ids
  have hlasting₁ := hs₁.lasting hb₁
  have hlasting₂ := hs₂.lasting hb₂
  have hmind : ∀ x ∈ s₁.board.arena.ants, ∀ y ∈ s₂.board.arena.ants, x.id = y.id →
      x.gene = y.gene ∧ x.direction = y.direction ∧ x.sensor = y.sensor ∧ x.age = y.age := by
    intro x hx y hy hid
    exact Mind.mk.inj (hagree.mind_eq (hids₁ ▸ hb₁.peopled.ids_nodup)
      (hids₂ ▸ hb₂.peopled.ids_nodup) hx hy hid)
  refine ⟨s₁, s₂, hs₁.run_eq, hs₂.run_eq, hlasting₁, hlasting₂, hagree.random, ?_, hids₁, hids₂,
    hmind, ?_, hb₁.exists_tick, hb₂.exists_tick⟩
  · exact (List.perm_ext_iff_of_nodup hb₁.peopled.ids_nodup hb₂.peopled.ids_nodup).2
      (h.mem_ids_iff hb₁ hb₂)
  · intro b₁' b₂' htick₁ htick₂
    have hof : ∀ d, d ≠ .hit → b₁'.lastTally.of d = b₂'.lastTally.of d := fun d hd =>
      h.of_tick hb₁ hb₂ htick₁ htick₂ hd
    obtain ⟨-, hcommit₁, rfl⟩ := hb₁.commit_of_tick hs₁ htick₁
    obtain ⟨-, hcommit₂, rfl⟩ := hb₂.commit_of_tick hs₂ htick₂
    obtain ⟨hrandom₁, hkept₁⟩ := hlasting₁ _ [] _ (List.append_nil _).symm hcommit₁
    obtain ⟨hrandom₂, hkept₂⟩ := hlasting₂ _ [] _ (List.append_nil _).symm hcommit₂
    refine ⟨?_, ?_, hof .move Deed.noConfusion, hof .attack Deed.noConfusion,
      hof .meal Deed.noConfusion, hof .mutation Deed.noConfusion⟩
    · exact hrandom₁.trans (hagree.random.trans hrandom₂.symm)
    · intro x hx y hy hid hold
      exact hmind x (hkept₁ x hx hold) y
        (hkept₂ y hy ((h.mem_ids_iff hb₁ hb₂ y.id).1 (hid ▸ hold))) hid

/-- The two frays end differently, but the fourth ant, which mutates, has the same gene after both,
and the same random numbers are to come. -/
theorem fray_melee_minds :
    fray.WellFormed ∧ melee.WellFormed ∧ fray.Alike melee ∧
      fray.nextId + fray.size ≤ idLimit ∧ melee.nextId + melee.size ≤ idLimit ∧
      ∃ s₁ s₂ b₁' b₂', Scan.run fray = .ok s₁ ∧ Scan.run melee = .ok s₂ ∧
        fray.tick = .ok b₁' ∧ melee.tick = .ok b₂' ∧ b₁'.arena.ids = [1, 2, 4] ∧
        b₂'.arena.ids = [0, 1, 2, 3] ∧ b₁'.random = b₂'.random ∧
        b₁'.lastTally.mutations = b₂'.lastTally.mutations ∧
        ∀ x ∈ s₁.board.arena.ants, ∀ y ∈ s₂.board.arena.ants, x.id = y.id → x.gene = y.gene := by
  have hroom₁ : fray.nextId + fray.size ≤ idLimit := by decide +kernel
  have hroom₂ : melee.nextId + melee.size ≤ idLimit := by decide +kernel
  obtain ⟨s₁, s₂, hrun₁, hrun₂, -, -, -, -, -, -, hminds, hticks, hexists₁, hexists₂⟩ :=
    minds_of_alike wellFormed_fray wellFormed_melee alike_fray_melee
  obtain ⟨b₁', htick₁⟩ := hexists₁ hroom₁
  obtain ⟨b₂', htick₂⟩ := hexists₂ hroom₂
  obtain ⟨hrandom, -, -, -, -, hmutations⟩ := hticks b₁' b₂' htick₁ htick₂
  have hids₁ : fray.tick.toOption.map (·.arena.ids) = some [1, 2, 4] := by decide +kernel
  have hids₂ : melee.tick.toOption.map (·.arena.ids) = some [0, 1, 2, 3] := by decide +kernel
  rw [htick₁] at hids₁
  rw [htick₂] at hids₂
  exact ⟨wellFormed_fray, wellFormed_melee, alike_fray_melee, hroom₁, hroom₂, s₁, s₂, b₁', b₂',
    hrun₁, hrun₂, htick₁, htick₂, Option.some.inj hids₁, Option.some.inj hids₂, hrandom,
    hmutations, fun x hx y hy hid => (hminds x hx y hy hid).1⟩

end Formicary
