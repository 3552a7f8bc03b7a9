import Formicary.Proofs.Journal
import Mathlib.Algebra.Order.Field.Rat
import Mathlib.Data.List.Induction
import Mathlib.Tactic.NormNum

/-!
# What a tick counts

While a scan runs ants are hurt, split and die, and afterwards some are overwritten.  None of this
shows in the counters of what was done.  They count the ants that were about to do it when the tick
began, and the cells that were about to grow food.

The counters are dealt with together: `Scan.done` counts the deeds of one sort.  Whether an ant is
about to do a deed is a matter of its tape, its cell and its facing, and for hits of the team ahead
(`Board.does`).  A scan changes none of these before the turn of the ant (`Scan.Course.does_eq`), so
one deed is counted for each ant that is about to do it (`Scan.Completes.done_eq`).
-/

namespace Formicary

/-- What an ant can do in its turn that is counted. -/
inductive Deed where
  | attack
  | hit
  | meal
  | move
  | mutation

/-- Whether a request of an ant comes to a deed. -/
def Board.settles (b : Board) (a : Ant) (request : Option Request) : Deed → Bool
  | .attack => request == some .attack
  | .hit => request == some .attack && b.facesFoe a
  | .meal => request == some .eat && b.faces a .food
  | .move => request == some .move && b.faces a .empty
  | .mutation => request == none

/-- Whether an ant is about to do a deed. -/
def Board.does (b : Board) (a : Ant) (d : Deed) : Bool :=
  a.opcode?.any fun op => b.settles a op.request? d

/-- Whether a change is a move. -/
def Change.isSwap : Change → Bool
  | .swap _ _ => true
  | _ => false

/-- Whether a change is the growth of food. -/
def Change.isGrowth : Change → Bool
  | .growFood _ => true
  | _ => false

/-- The counter of a deed. -/
def Tally.of (t : Tally) : Deed → Nat
  | .attack => t.attacks
  | .hit => t.hits
  | .meal => t.foodEaten
  | .move => t.moves
  | .mutation => t.mutations

/-- The number of deeds of a sort in a scan, where moves are those proposed. -/
def Scan.done (s : Scan) : Deed → Nat
  | .move => s.queue.toList.countP Change.isSwap
  | d => s.tally.of d

/-- The number of cells for which a scan has proposed food. -/
def Scan.growths (s : Scan) : Nat := s.queue.toList.countP Change.isGrowth

/-- Whether food is about to grow on a cell: it is empty and the unit drawn for it is below the
growth chance. -/
def Board.sprouts (b : Board) (n : Nat) : Bool :=
  b.kindIs n .empty && (Scan.growthDraws b).1[n]?.any (Scan.grows b.rules.growthChance)

/-- At the end of a list one more is counted if the property holds of it. -/
theorem countP_concat {α : Type} (p : α → Bool) (l : List α) (x : α) :
    (l ++ [x]).countP p = l.countP p + (p x).toNat := by
  rw [List.countP_append, List.countP_singleton]
  cases p x <;> rfl

namespace Scan

variable {b : Board} {s s' : Scan} {n cell : Nat} {a a' x : Ant} {e : Account}

/-! ### One turn -/

/-- One more change is counted as growth if it is that. -/
theorem growths_propose (s : Scan) (c : Change) :
    (s.propose c).growths = s.growths + c.isGrowth.toNat := by
  rw [growths, propose, Array.toList_push, countP_concat]
  rfl

/-- A proposal other than a move is no deed. -/
theorem done_propose {c : Change} (hc : c.isSwap = false) (s : Scan) (d : Deed) :
    (s.propose c).done d = s.done d := by
  cases d with
  | move =>
    change (s.queue.push c).toList.countP _ = s.queue.toList.countP _
    rw [Array.toList_push, countP_concat, hc]
    rfl
  | attack => rfl
  | hit => rfl
  | meal => rfl
  | mutation => rfl

/-- An ant that looks at a cell faces the kind of that cell. -/
theorem Faces.faces_eq (hs : s.board.WellFormed) (hc : s.board.content cell = .ant a.id)
    {target : Nat} (h : s.Faces cell a target) {k : CellKind}
    (hk : (s.board.content target).kind = k) : s.board.faces a k = true :=
  (hs.faces_iff hc k).2 ⟨target, h, hk⟩

/-- An ant does not face a kind of cell that the cell ahead of it is not of. -/
theorem faces_eq_false (hs : s.board.WellFormed) (hc : s.board.content cell = .ant a.id)
    {k : CellKind} (h : ∀ target, s.Faces cell a target → (s.board.content target).kind ≠ k) :
    s.board.faces a k = false := by
  rw [← Bool.not_eq_true, hs.faces_iff hc]
  rintro ⟨target, ahead, hkind⟩
  exact h target ahead hkind

/-- A settled request is counted as the deed that it comes to. -/
theorem Settled.done_eq (hs : s.board.WellFormed) (hc : s.board.content cell = .ant a.id)
    {request : Option Request} (h : Settled s cell a request s' a') (d : Deed) :
    s'.done d = s.done d + (s.board.settles a request d).toNat := by
  cases h with
  | moved ahead free =>
    have hfaces : s.board.faces a .empty = true :=
      ahead.faces_eq hs hc (by rw [free]; rfl)
    cases d <;> simp [done, Tally.of, Board.settles, hfaces, propose, Change.isSwap]
  | blocked obstacle =>
    have hfaces : s.board.faces a .empty = false := faces_eq_false hs hc fun target ahead hkind =>
      obstacle target ahead (Content.kind_eq_empty_iff.1 hkind)
    cases d <;> simp [done, Tally.of, Board.settles, hfaces]
  | fed ahead food =>
    have hfaces : s.board.faces a .food = true :=
      ahead.faces_eq hs hc (by rw [food]; rfl)
    cases d <;> simp [done, Tally.of, Board.settles, hfaces, propose, Change.isSwap]
  | unfed nothing =>
    have hfaces : s.board.faces a .food = false := faces_eq_false hs hc fun target ahead hkind =>
      nothing target ahead (Content.kind_eq_food_iff.1 hkind)
    cases d <;> simp [done, Tally.of, Board.settles, hfaces]
  | hit ahead occupied found hostile =>
    have hfoe : s.board.facesFoe a = true :=
      (hs.facesFoe_iff hc).2
        ⟨_, _, ahead, Board.standing?_eq_some_iff.2 ⟨occupied, found⟩, hostile⟩
    cases d <;> simp [done, Tally.of, Board.settles, hfoe, update]
  | missed peace =>
    have hfoe : s.board.facesFoe a = false := by
      rw [← Bool.not_eq_true, hs.facesFoe_iff hc]
      rintro ⟨target, defender, hahead, hstands, hhostile⟩
      obtain ⟨hid, hfind⟩ := Board.standing?_eq_some_iff.1 hstands
      rw [peace target defender hahead hid hfind] at hhostile
      cases hhostile
    cases d <;> simp [done, Tally.of, Board.settles, hfoe]
  | idled => cases d <;> simp [done, Tally.of, Board.settles, idle]

/-- Settling a request grows nothing. -/
theorem Settled.growths_eq {request : Option Request} (h : Settled s cell a request s' a') :
    s'.growths = s.growths := by
  cases h with
  | moved => exact growths_propose s _
  | fed => exact growths_propose s _
  | blocked => rfl
  | unfed => rfl
  | hit => rfl
  | missed => rfl
  | idled => rfl

/-- Splitting is no deed and grows nothing. -/
theorem Divided.done_eq (h : Divided s cell a s' a') :
    (∀ d, s'.done d = s.done d) ∧ s'.growths = s.growths := by
  cases h with
  | split => exact ⟨fun d => done_propose rfl _ d, growths_propose _ _⟩
  | whole => exact ⟨fun _ => rfl, rfl⟩

/-- The end of a turn is no deed and grows nothing. -/
theorem done_close (s : Scan) (cell : Nat) (a : Ant) (v : Int) :
    (∀ d, (s.close cell a v).done d = s.done d) ∧ (s.close cell a v).growths = s.growths := by
  rw [close]
  split
  · exact ⟨fun d => done_propose rfl s d, growths_propose s _⟩
  · exact ⟨fun _ => rfl, rfl⟩

/-- What a request of an ant comes to is told by its cell, its facing and its team. -/
theorem settles_congr {a₁ a₂ : Ant} (b : Board) (hid : a₁.id = a₂.id) (hteam : a₁.team = a₂.team)
    {request : Option Request} (hdirection : request ≠ none → a₁.direction = a₂.direction)
    (d : Deed) : b.settles a₁ request d = b.settles a₂ request d := by
  cases request with
  | none => cases d <;> rfl
  | some r =>
    have hahead : b.ahead? a₁ = b.ahead? a₂ := by
      rw [Board.ahead?, Board.ahead?, hid, hdirection (Option.some_ne_none r)]
    have hfaces : ∀ k, b.faces a₁ k = b.faces a₂ k := fun k => by
      rw [Board.faces, Board.faces, hahead]
    have hfoe : b.facesFoe a₁ = b.facesFoe a₂ := by
      rw [Board.facesFoe, Board.facesFoe, hahead, hteam]
    cases d <;> simp only [Board.settles, hfaces, hfoe]

/-- What an ant is about to do is what its request comes to. -/
theorem does_eq_settles (h : a.Sound) (b : Board) {i : Instruction}
    (hread : a.gene.code[a.gene.pointer.toNat]? = some i) (d : Deed) :
    b.does a d = b.settles a.execute.1 i.opcode.request? d := by
  obtain ⟨age, direction, pointer, hframe⟩ := Ant.execute_frame a
  rw [settles_congr _ (id_execute _) (by rw [hframe]) (h.direction_execute hread), Board.does,
    h.opcode?_eq hread, Option.any_some]

/-- Over its turn one deed of an ant is counted if it was about to do it. -/
theorem Tells.done_eq (hs : s.board.WellFormed) (hsound : e.met.Sound)
    (hc : s.board.content e.cell = .ant e.met.id) (h : Tells s e s') (d : Deed) :
    s'.done d = s.done d + (s.board.does e.met d).toNat := by
  obtain ⟨hread, -, hsettled, -, hdivided, -, -⟩ := h
  rename_i i s₁ s₂ v
  calc (s₂.close e.cell e.parted v).done d
      = s₁.done d := by rw [(done_close _ _ _ _).1, hdivided.done_eq.1]
    _ = s.done d + (s.board.settles e.met.execute.1 i.opcode.request? d).toNat :=
      hsettled.done_eq hs (by rw [id_execute]; exact hc) d
    _ = s.done d + (s.board.does e.met d).toNat := by rw [does_eq_settles hsound _ hread]

/-- Nothing grows in a turn. -/
theorem Tells.growths_eq (h : Tells s e s') : s'.growths = s.growths := by
  obtain ⟨-, -, hsettled, -, hdivided, -, -⟩ := h
  rw [(done_close _ _ _ _).2, hdivided.done_eq.2, hsettled.growths_eq]

/-! ### A whole scan -/

/-- Until its turn an ant is about to do what it was about to do at the start, whatever has happened
to its energy and to others. -/
theorem Course.does_eq (hb : b.WellFormed) (hstage : Stage b n s) (h : Course b n s)
    (hx : b.standing? n = some x) (v : Value) (d : Deed) :
    s.board.does { x with energy := v } d = b.does x d := by
  have hs := hstage.wellFormed hb
  have hcontent := hstage.frozen.content
  have hc := (Board.standing?_eq_some_iff.1 hx).1
  have hcs : s.board.content n = .ant x.id := by rw [hcontent, hc]
  have hfaces : ∀ k, s.board.faces { x with energy := v } k = b.faces x k := by
    intro k
    rw [Bool.eq_iff_iff, hb.faces_iff hc, hs.faces_iff (a := { x with energy := v }) hcs,
      hcontent, hstage.frozen.shape]
  have hfoe : s.board.facesFoe { x with energy := v } = b.facesFoe x := by
    rw [Bool.eq_iff_iff, hb.facesFoe_iff hc, hs.facesFoe_iff (a := { x with energy := v }) hcs,
      hstage.frozen.shape]
    -- the ant ahead may have been hurt, but it is of the team that it was of
    constructor
    · rintro ⟨target, y, hahead, hy, hhostile⟩
      obtain ⟨hcy, hfind⟩ := Board.standing?_eq_some_iff.1 hy
      rw [hcontent] at hcy
      obtain ⟨z, hz, hid, -, -⟩ := hb.exists_find? hcy
      rw [← hid] at hcy hz
      obtain ⟨y', hy', hteam, -⟩ := h.kin hz
      obtain rfl : y' = y := Option.some.inj (hy'.symm.trans (hid ▸ hfind))
      exact ⟨target, z, hahead, Board.standing?_eq_some_iff.2 ⟨hcy, hz⟩, hteam ▸ hhostile⟩
    · rintro ⟨target, z, hahead, hz, hhostile⟩
      obtain ⟨hcz, hfind⟩ := Board.standing?_eq_some_iff.1 hz
      obtain ⟨y, hy, hteam, -⟩ := h.kin hfind
      have hid := Arena.id_of_find? hy
      refine ⟨target, y, hahead, Board.standing?_eq_some_iff.2 ⟨?_, hid.symm ▸ hy⟩, ?_⟩
      · rw [hcontent, hcz, hid]
      · rw [hteam]
        exact hhostile
  have hsettles : ∀ request, s.board.settles { x with energy := v } request d =
      b.settles x request d := fun request => by
    cases d <;> simp only [Board.settles, hfaces, hfoe]
  simp only [Board.does, hsettles]
  rfl

/-- What starts at zero and grows in the turn of an ant by one or not at all, as a property of the
ant at the start of the tick has it, counts the ants with the property in the end. -/
theorem Completes.eq_countP (hb : b.WellFormed) (hs : Completes b s)
    {f : Scan → List Account → Nat} {p : Ant → Bool} (hstart : f (opening b) [] = 0)
    (hgrow : ∀ s J m, f (s.propose (.growFood m)) J = f s J)
    (hturn : ∀ {n : Nat} {s s' : Scan} {e : Account} {x : Ant} (J : List Account), Stage b n s →
      Course b n s → b.standing? n = some x → e.cell = n →
      e.met = { x with energy := e.met.energy } → s.board.arena.find? e.met.id = some e.met →
      Tells { s with visited := e.met.id :: s.visited } e s' →
      f s' (J ++ [e]) = f s J + (p x).toNat) :
    f s b.journal = b.arena.ants.countP p := by
  have hnobody : ∀ {n : Nat}, (b.content n).ant? = none →
      (List.range (n + 1)).countP (fun m => (b.standing? m).any p) =
        (List.range n).countP fun m => (b.standing? m).any p := by
    intro n hn
    rw [List.range_succ, countP_concat, Board.standing?, hn]
    rfl
  rw [hb.countP_ants]
  refine hs.induct hb (P := fun n s J =>
    f s J = (List.range n).countP fun m => (b.standing? m).any p) hstart ?_
  intro n draw s s' o J hn hdraw hstage hcourse hentry ih
  cases hentry with
  | grown free =>
    rw [Option.toList_none, List.append_nil, hgrow, ih, hnobody (by rw [free]; rfl)]
  | bare free => rw [Option.toList_none, List.append_nil, ih, hnobody (by rw [free]; rfl)]
  | stocked food => rw [Option.toList_none, List.append_nil, ih, hnobody (by rw [food]; rfl)]
  | acted hcell occupied found tells =>
    obtain ⟨x, hx, hmet⟩ := hcourse.exists_standing hb occupied found
    rw [Option.toList_some, hturn J hstage hcourse hx hcell hmet found tells, ih, List.range_succ,
      countP_concat, hx, Option.any_some]

/-- Over a scan one deed is counted for every ant that was about to do it. -/
theorem Completes.done_eq (hb : b.WellFormed) (hs : Completes b s) (d : Deed) :
    s.done d = b.arena.ants.countP (b.does · d) := by
  refine hs.eq_countP hb (f := fun s _ => s.done d) (by cases d <;> rfl)
    (fun s _ _ => done_propose rfl s d) ?_
  intro n s s' e x J hstage hcourse hx hcell hmet found tells
  have hcs : s.board.content e.cell = .ant e.met.id := by
    rw [hcell, hstage.frozen.content, (Board.standing?_eq_some_iff.1 hx).1, hmet]
  calc s'.done d
      = s.done d + (s.board.does e.met d).toNat :=
        tells.done_eq (s := { s with visited := e.met.id :: s.visited }) (hstage.wellFormed hb)
          (hstage.sound _ (Arena.mem_of_find? found)) hcs d
    _ = s.done d + (b.does x d).toNat := by
      rw [hmet, hcourse.does_eq hb hstage hx e.met.energy d]

/-- Over a scan food is proposed once for every cell on which it was about to grow. -/
theorem Completes.growths_eq (hb : b.WellFormed) (hs : Completes b s) :
    s.growths = (List.range b.size).countP b.sprouts := by
  refine hs.induct hb (P := fun n s _ => s.growths = (List.range n).countP b.sprouts) rfl ?_
  intro n draw s s' o J hn hdraw hstage hcourse hentry ih
  have hkind := hb.kindIs_iff hn .empty
  have hsprouts : b.sprouts n = (b.kindIs n .empty && grows b.rules.growthChance draw) := by
    rw [Board.sprouts, hdraw, Option.any_some]
  rw [List.range_succ, countP_concat, hsprouts, ← ih]
  cases hentry with
  | grown free grows =>
    rw [growths_propose, grows, hkind.2 (by rw [free]; rfl)]
    rfl
  | bare free stays => rw [stays, Bool.and_false]; rfl
  | stocked food =>
    have hno : b.kindIs n .empty = false := by
      rw [← Bool.not_eq_true, hkind, food]
      exact CellKind.noConfusion
    rw [hno, Bool.false_and]
    rfl
  | acted hcell occupied found tells =>
    have hno : b.kindIs n .empty = false := by
      rw [← Bool.not_eq_true, hkind, occupied]
      exact CellKind.noConfusion
    rw [tells.growths_eq, hno, Bool.false_and]
    rfl

end Scan

/-! ### The commit -/

namespace Commit

/-- A commit counts the moves and the growth of its queue and leaves what a scan has counted. -/
theorem deeds_foldl (c : Commit) (q : List Change) :
    (q.foldl applied c).tally.moves = c.tally.moves + q.countP Change.isSwap ∧
      (q.foldl applied c).tally.foodGrown = c.tally.foodGrown + q.countP Change.isGrowth ∧
      (q.foldl applied c).tally.attacks = c.tally.attacks ∧
      (q.foldl applied c).tally.hits = c.tally.hits ∧
      (q.foldl applied c).tally.foodEaten = c.tally.foodEaten ∧
      (q.foldl applied c).tally.mutations = c.tally.mutations := by
  induction q using List.reverseRecOn with
  | nil => exact ⟨rfl, rfl, rfl, rfl, rfl, rfl⟩
  | append_singleton q x ih =>
    rw [List.foldl_concat, countP_concat, countP_concat, ← Nat.add_assoc, ← Nat.add_assoc]
    obtain ⟨hmoves, hgrown, hattacks, hhits, heaten, hmutations⟩ := ih
    rw [← hmoves, ← hgrown, ← hattacks, ← hhits, ← heaten, ← hmutations]
    cases x <;> simp [applied, countEvicted_eq, Change.isSwap, Change.isGrowth]

end Commit

/-! ### The counters of a tick -/

/-- A cell grows food if the unit drawn for it is below the growth chance. -/
theorem Scan.grows_eq (chance : Rat) (draw : Nat) :
    Scan.grows chance draw = decide ((draw : Rat) / Random.Stream.unitCount < chance) := by
  have hunit : (0 : Rat) < Random.Stream.unitCount := by norm_num [Random.Stream.unitCount]
  have hden : (0 : Rat) < chance.den := by exact_mod_cast chance.den_pos
  have hchance : chance = chance.num / chance.den := (Rat.num_div_den chance).symm
  rw [Scan.grows, decide_eq_decide]
  conv_rhs => rw [hchance, div_lt_div_iff₀ hunit hden]
  exact_mod_cast Iff.rfl

/-- What is counted as done before a commit is counted as done after it. -/
theorem Scan.of_committed (s : Scan) (hmoves : s.tally.moves = 0) (d : Deed) :
    s.committed.tally.of d = s.done d := by
  obtain ⟨hm, -, hattacks, hhits, heaten, hmutations⟩ :=
    Commit.deeds_foldl ⟨s.board, s.tally⟩ s.queue.toList
  cases d with
  | attack => exact hattacks
  | hit => exact hhits
  | meal => exact heaten
  | mutation => exact hmutations
  | move =>
    rw [hmoves, Nat.zero_add] at hm
    exact hm

/-- A tick counts one deed for every ant that was about to do it. -/
theorem Board.WellFormed.of_tick {b b' : Board} (hb : b.WellFormed) (h : b.tick = .ok b')
    (d : Deed) : b'.lastTally.of d = b.arena.ants.countP (b.does · d) := by
  obtain ⟨s, hs⟩ := Scan.exists_completes hb
  obtain rfl := hb.eq_completed hs h
  obtain ⟨eaten, attacks, hits, mutations, htally⟩ := hs.stage.counts
  exact (s.of_committed (by rw [htally]) d).trans (hs.done_eq hb d)

/-- A tick counts the cells on which food was about to grow. -/
theorem Board.WellFormed.foodGrown_tick {b b' : Board} (hb : b.WellFormed)
    (h : b.tick = .ok b') : b'.lastTally.foodGrown = (List.range b.size).countP b.sprouts := by
  obtain ⟨s, hs⟩ := Scan.exists_completes hb
  obtain rfl := hb.eq_completed hs h
  obtain ⟨eaten, attacks, hits, mutations, htally⟩ := hs.stage.counts
  have hgrown := (Commit.deeds_foldl ⟨s.board, s.tally⟩ s.queue.toList).2.1
  rw [htally, Nat.zero_add, ← htally] at hgrown
  exact hgrown.trans (hs.growths_eq hb)

/-- Who is about to do a deed, told by opcodes. -/
theorem Board.does_eq (b : Board) (a : Ant) (d : Deed) :
    b.does a d = match d with
      | .attack => a.opcode? == some .attack
      | .hit => a.opcode? == some .attack && b.facesFoe a
      | .meal => a.opcode? == some .eat && b.faces a .food
      | .move => a.opcode? == some .move && b.faces a .empty
      | .mutation => a.opcode?.any
          [.noop, .turnLeft, .turnRight, .jumpIfSensorFalse, .jumpIfSensorTrue].contains := by
  rw [does]
  cases a.opcode? with
  | none => cases d <;> rfl
  | some op => cases op <;> cases d <;> rfl

/-! ### A fray

A row of six cells on which everything is counted.  An ant moves to a cell where food grows, and
where another ant, which has eaten, puts its child; a third ant hits the fourth, which does not
survive it. -/

/-- The fray. -/
def fray : Board :=
  (((Op.placeFood 3).after ((emptyRow.enter 0 (simpleton 0 .blue .move 5 .east)).enter 2
    (simpleton 1 .red .eat 50 .east))).enter 4 (simpleton 2 .blue .attack 46 .east)).enter 5
      (simpleton 3 .red .turnLeft 3 .west)

/-- The fray is put together by four ants entering and food being put down. -/
theorem reachable_fray : Reachable fray := by
  have hpair : Reachable ((emptyRow.enter 0 (simpleton 0 .blue .move 5 .east)).enter 2
      (simpleton 1 .red .eat 50 .east)) :=
    .enter_simpleton (.enter_simpleton reachable_emptyRow)
  exact .enter_simpleton (.enter_simpleton (.step (.placeFood 3) hpair trivial))

/-- The fray is in order. -/
theorem wellFormed_fray : fray.WellFormed :=
  reachable_fray.wellFormed (by decide +kernel)

/-! ### All counters -/

/-- The counters of a tick are functions of the cells, the ants and the draws at its start, however
the ants interfere with each other: each counts the ants with a certain opcode at their pointer and,
where it matters, a certain thing ahead, or the empty cells whose draw is below the configured
growth chance.  The board need only be well formed, as reachable ones are
(`Reachable.wellFormed`). -/
theorem counters_of_tick {b : Board} (hb : b.WellFormed) :
    ∃ chance, (b.config.value .foodGrowthChance).quantity? = some (.exact chance) ∧
    (∀ b', b.tick = .ok b' →
      b'.lastTally.attacks = b.arena.ants.countP (fun a => a.opcode? == some .attack) ∧
      b'.lastTally.hits =
        b.arena.ants.countP (fun a => a.opcode? == some .attack && b.facesFoe a) ∧
      b'.lastTally.foodEaten =
        b.arena.ants.countP (fun a => a.opcode? == some .eat && b.faces a .food) ∧
      b'.lastTally.moves =
        b.arena.ants.countP (fun a => a.opcode? == some .move && b.faces a .empty) ∧
      b'.lastTally.mutations = b.arena.ants.countP (fun a => a.opcode?.any
        [.noop, .turnLeft, .turnRight, .jumpIfSensorFalse, .jumpIfSensorTrue].contains) ∧
      b'.lastTally.foodGrown = (List.range b.size).countP (fun n : Nat => b.kindIs n .empty &&
        (Scan.growthDraws b).1[n]?.any fun draw : Nat =>
          decide ((draw : Rat) / Random.Stream.unitCount < chance))) ∧
      (b.nextId + b.size ≤ idLimit → ∃ b', b.tick = .ok b') := by
  obtain ⟨chance, hchance⟩ := hb.chance
  refine ⟨chance, hchance, fun b' htick => ?_, hb.exists_tick⟩
  have hof := hb.of_tick htick
  simp only [Board.does_eq] at hof
  refine ⟨hof .attack, hof .hit, hof .meal, hof .move, hof .mutation, ?_⟩
  rw [hb.foodGrown_tick htick]
  congr 1
  funext n
  rw [Board.sprouts, hb.growthChance_eq hchance, funext (Scan.grows_eq chance)]

/-- In the fray everything is counted once. -/
theorem fray_counters :
    fray.WellFormed ∧ fray.nextId + fray.size ≤ idLimit ∧ ∃ b', fray.tick = .ok b' ∧
      b'.lastTally.attacks = 1 ∧ b'.lastTally.hits = 1 ∧ b'.lastTally.foodEaten = 1 ∧
      b'.lastTally.moves = 1 ∧ b'.lastTally.mutations = 1 ∧ b'.lastTally.foodGrown = 1 := by
  have hroom : fray.nextId + fray.size ≤ idLimit := by decide +kernel
  obtain ⟨chance, hchance, hcounters, hexists⟩ := counters_of_tick wellFormed_fray
  obtain rfl : chance = 1 := by
    rw [show fray.config.value .foodGrowthChance = .int 1 from rfl] at hchance
    cases hchance
    rfl
  obtain ⟨b', htick⟩ := hexists hroom
  obtain ⟨hattacks, hhits, heaten, hmoves, hmutations, hgrown⟩ := hcounters b' htick
  refine ⟨wellFormed_fray, hroom, b', htick, hattacks.trans ?_, hhits.trans ?_, heaten.trans ?_,
    hmoves.trans ?_, hmutations.trans ?_, hgrown.trans ?_⟩
  all_goals decide +kernel

end Formicary
