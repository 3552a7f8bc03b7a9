import Formicary.Proofs.Energy

/-!
# Who proposed what

A queue consists of what the visits of a scan have put into it, one after the other: growth for an
empty cell, and for an ant its move or its meal, then its birth, then its death.  Which of these an
ant proposes can be read off its account (`Account.Contributes`), every account has what it
contributes in one piece of the queue, and there is nothing else in the queue
(`Scan.Completes.assembled`).
-/

namespace Formicary

/-- An ant is about to move to an empty cell. -/
def Board.Wants (b : Board) (x : Ant) (target : Nat) : Prop :=
  x.opcode? = some .move ∧ b.ahead? x = some (target : Int) ∧ b.content target = .empty

/-- An ant is the child of the ant of an account: it is what that ant is when its turn ends, but new
and of the next generation. -/
structure Account.Bears (e : Account) (child : Ant) : Prop where
  split : e.split = true
  eq_frame : child =
    { e.parted with id := child.id, age := .int 0, generation := child.generation }
  generation : ∃ g, e.met.generation = .int g ∧ child.generation = .int (g + 1)

/-- What an account contributes to the queue if its ant dies. -/
def Account.death (e : Account) : List Change :=
  if e.parted.worth ≤ 0 then [.death e.cell e.met.id] else []

/-- What an account contributes to the queue before that: a move if its ant wants to move, or else
perhaps a meal, and a birth if it splits. -/
structure Account.Contributes (b : Board) (e : Account) (deed birth : List Change) : Prop where
  deed : (∃ target, b.Wants e.met target ∧ deed = [.swap target e.cell]) ∨
    (∀ target, ¬ b.Wants e.met target) ∧ (deed = [] ∨ ∃ target, deed = [.removeFood target])
  birth : (∃ child, e.Bears child ∧ 0 < e.cell ∧ birth = [.born (e.cell - 1) child]) ∨
    e.split = false ∧ birth = []

variable {b b' : Board} {s s' : Scan} {n cell target : Nat} {a a' x : Ant} {e e' : Account}
  {deed birth : List Change} {c : Change}

/-- Who wants to move where is a matter of cells, opcodes and directions. -/
theorem Board.Frozen.wants_iff (h : b.Frozen b') (x : Ant) (target : Nat) :
    b'.Wants x target ↔ b.Wants x target := by
  have hahead : b'.ahead? x = b.ahead? x := by
    rw [h.eq_frame]
    rfl
  rw [Board.Wants, Board.Wants, hahead, h.content]

/-- An ant wants to move to one cell at most. -/
theorem Board.Wants.eq {m : Nat} (hn : b.Wants x n) (hm : b.Wants x m) : n = m :=
  Int.ofNat.inj (Option.some.inj (hn.2.1.symm.trans hm.2.1))

/-! ### One account -/

/-- What a death contributes. -/
theorem Account.mem_death_iff : c ∈ e.death ↔ c = .death e.cell e.met.id ∧ e.parted.worth ≤ 0 := by
  rw [Account.death]
  split
  · next hle => simp [hle]
  · next hle => simp [hle]

/-- An account contributes a move if its ant wants to move. -/
theorem Account.Contributes.swap_mem_iff (h : e.Contributes b deed birth) {source : Nat} :
    .swap target source ∈ deed ++ birth ++ e.death ↔
      source = e.cell ∧ b.Wants e.met target := by
  have hbirth : .swap target source ∉ birth := by
    rcases h.birth with ⟨child, -, -, rfl⟩ | ⟨-, rfl⟩ <;> simp
  have hdeath : .swap target source ∉ e.death := by
    rw [mem_death_iff]
    simp
  have hdeed : .swap target source ∈ deed ↔ source = e.cell ∧ b.Wants e.met target := by
    rcases h.deed with ⟨target', hw, rfl⟩ | ⟨hnone, rfl | ⟨target', rfl⟩⟩
    · rw [List.mem_singleton, Change.swap.injEq, and_comm]
      refine and_congr_right fun _ => ⟨?_, fun hw' => hw'.eq hw⟩
      rintro rfl
      exact hw
    · simp [hnone]
    · simp [hnone]
  rw [List.mem_append, List.mem_append, hdeed]
  simp only [hbirth, hdeath, or_false]

/-- An account contributes a death if its ant has no energy when its turn ends. -/
theorem Account.Contributes.death_mem_iff (h : e.Contributes b deed birth) {id : Int} :
    .death n id ∈ deed ++ birth ++ e.death ↔
      n = e.cell ∧ id = e.met.id ∧ e.parted.worth ≤ 0 := by
  have hdeed : .death n id ∉ deed := by
    rcases h.deed with ⟨target', hw, rfl⟩ | ⟨-, rfl | ⟨target', rfl⟩⟩ <;> simp
  have hbirth : .death n id ∉ birth := by
    rcases h.birth with ⟨child, -, -, rfl⟩ | ⟨-, rfl⟩ <;> simp
  rw [List.mem_append, List.mem_append, mem_death_iff, Change.death.injEq, and_assoc]
  simp only [hdeed, hbirth, false_or]

/-- A birth that an account contributes is that of a child, for the cell before that of its ant. -/
theorem Account.Contributes.of_born_mem (h : e.Contributes b deed birth) {child : Ant}
    (hmem : .born n child ∈ deed ++ birth ++ e.death) :
    e.cell = n + 1 ∧ e.Bears child ∧ birth = [.born n child] := by
  have hdeed : .born n child ∉ deed := by
    rcases h.deed with ⟨target', hw, rfl⟩ | ⟨-, rfl | ⟨target', rfl⟩⟩ <;> simp
  have hdeath : .born n child ∉ e.death := by
    rw [mem_death_iff]
    simp
  rw [List.mem_append, List.mem_append] at hmem
  have hbirth := (hmem.resolve_right hdeath).resolve_left hdeed
  rcases h.birth with ⟨child', hbears, hpos, rfl⟩ | ⟨-, rfl⟩
  · rw [List.mem_singleton, Change.born.injEq] at hbirth
    obtain ⟨rfl, rfl⟩ := hbirth
    exact ⟨by omega, hbears, rfl⟩
  · cases hbirth

namespace Scan

/-! ### One turn -/

/-- What settling a request adds to the queue. -/
theorem Settled.deed_cases {request : Option Request} (h : Settled s cell a request s' a') :
    ∃ deed, s'.queue.toList = s.queue.toList ++ deed ∧
      ((∃ target, request = some .move ∧ s.Faces cell a target ∧
          s.board.content target = .empty ∧ deed = [.swap target cell]) ∨
        (request = some .move → ∀ target, s.Faces cell a target →
          s.board.content target ≠ .empty) ∧
        (deed = [] ∨ ∃ target, deed = [.removeFood target])) := by
  have hnot : ∀ {r : Request}, r ≠ .move → some r = some Request.move →
      ∀ target, s.Faces cell a target → s.board.content target ≠ .empty :=
    fun hr heq => (hr (Option.some.inj heq)).elim
  cases h with
  | moved ahead free => exact ⟨[_], Array.toList_push, Or.inl ⟨_, rfl, ahead, free, rfl⟩⟩
  | blocked obstacle =>
    exact ⟨[], (List.append_nil _).symm, Or.inr ⟨fun _ => obstacle, Or.inl rfl⟩⟩
  | fed => exact ⟨[_], Array.toList_push, Or.inr ⟨hnot nofun, Or.inr ⟨_, rfl⟩⟩⟩
  | unfed => exact ⟨[], (List.append_nil _).symm, Or.inr ⟨hnot nofun, Or.inl rfl⟩⟩
  | hit => exact ⟨[], (List.append_nil _).symm, Or.inr ⟨hnot nofun, Or.inl rfl⟩⟩
  | missed => exact ⟨[], (List.append_nil _).symm, Or.inr ⟨hnot nofun, Or.inl rfl⟩⟩
  | idled => exact ⟨[], (List.append_nil _).symm, Or.inr ⟨nofun, Or.inl rfl⟩⟩

/-- What splitting adds to the queue. -/
theorem Divided.birth_cases (h : Divided s cell a s' a') :
    (∃ child g, s'.queue.toList = s.queue.toList ++ [.born (cell - 1) child] ∧ 0 < cell ∧
        s.queue.size < s'.queue.size ∧ a.generation = .int g ∧
        child = { a' with id := child.id, age := .int 0, generation := .int (g + 1) }) ∨
      s'.queue.toList = s.queue.toList ∧ ¬ s.queue.size < s'.queue.size := by
  cases h with
  | split _ _ _ pos _ generation =>
    refine Or.inl ⟨_, _, Array.toList_push, pos, ?_, generation, rfl⟩
    simp [propose]
  | whole => exact Or.inr ⟨rfl, Nat.lt_irrefl _⟩

/-- A turn adds to the queue what its account contributes. -/
theorem Tells.contributes (hs : s.board.WellFormed) (hsound : e.met.Sound)
    (hc : s.board.content e.cell = .ant e.met.id) (h : Tells s e s') :
    ∃ deed birth, s'.queue.toList = s.queue.toList ++ (deed ++ birth ++ e.death) ∧
      e.Contributes s.board deed birth := by
  obtain ⟨hread, -, hsettled, -, hdivided, hsplit, hv⟩ := h
  rename_i i s₁ s₂ v
  obtain ⟨age, direction, pointer, hframe⟩ := Ant.execute_frame e.met
  have hid : e.parted.id = e.met.id := by rw [hdivided.eq_frame, hsettled.eq_frame, id_execute]
  obtain ⟨deed, hdeed, hcases⟩ := hsettled.deed_cases
  have hdeath : (if v ≤ 0 then [Change.death e.cell e.parted.id] else []) = e.death := by
    rw [Account.death, e.parted.worth_of_int hv, hid]
  -- the request is a move if that is the opcode, and then the ant has not turned
  have hwants : ∀ target, s.board.Wants e.met target ↔ i.opcode.request? = some .move ∧
      s.Faces e.cell e.met.execute.1 target ∧ s.board.content target = .empty := by
    intro target
    rw [Board.Wants, hsound.opcode?_eq hread, hs.ahead?_eq hc, Option.some.injEq,
      Opcode.request?_eq_some_iff]
    refine and_congr_right fun hmove => ?_
    have hask : i.opcode.request? ≠ none := by
      rw [hmove]
      exact Option.some_ne_none _
    rw [Faces, hsound.direction_execute hread hask]
  have hgeneration : e.settled.generation = e.met.generation := by
    rw [hsettled.eq_frame, hframe]
  have hmove : (∃ target, s.board.Wants e.met target ∧ deed = [.swap target e.cell]) ∨
      (∀ target, ¬ s.board.Wants e.met target) ∧
        (deed = [] ∨ ∃ target, deed = [.removeFood target]) := by
    rcases hcases with ⟨target, hask, hface, hfree, rfl⟩ | ⟨hnone, hrest⟩
    · exact Or.inl ⟨target, (hwants target).2 ⟨hask, hface, hfree⟩, rfl⟩
    · refine Or.inr ⟨fun target hw => ?_, hrest⟩
      obtain ⟨hask, hface, hfree⟩ := (hwants target).1 hw
      exact hnone hask target hface hfree
  rcases hdivided.birth_cases with ⟨child, g, hbirth, hpos, hsize, hg, hchild⟩ | ⟨hbirth, hsize⟩
  · refine ⟨deed, [.born (e.cell - 1) child], ?_, hmove, Or.inl ⟨child, ⟨?_, ?_, ?_⟩, hpos, rfl⟩⟩
    · rw [queue_close, hbirth, hdeed, hdeath, List.append_assoc, List.append_assoc,
        List.append_assoc]
    · rw [hsplit]
      exact decide_eq_true hsize
    · rw [hchild]
    · exact ⟨g, hgeneration.symm.trans hg, by rw [hchild]⟩
  · refine ⟨deed, [], ?_, hmove, Or.inr ⟨?_, rfl⟩⟩
    · rw [queue_close, hbirth, hdeed, hdeath, List.append_nil, List.append_assoc]
    · rw [hsplit]
      exact decide_eq_false hsize

end Scan

/-! ### Assembling a queue -/

/-- What an account contributes to a queue is there in one piece. -/
def Account.Enters (b : Board) (e : Account) (q deed birth : List Change) : Prop :=
  e.Contributes b deed birth ∧ (deed ++ birth ++ e.death) <:+: q

/-- A queue consists of what some accounts contribute, and of growth. -/
structure Assembled (b : Board) (q : List Change) (J : List Account) : Prop where
  source : ∀ c ∈ q, c.isGrowth = true ∨
    ∃ e ∈ J, ∃ deed birth, e.Enters b q deed birth ∧ c ∈ deed ++ birth ++ e.death
  enters : ∀ e ∈ J, ∃ deed birth, e.Enters b q deed birth

variable {p q : List Change} {J : List Account}

/-- What is in a queue is in it when more is added. -/
theorem Account.Enters.append (h : e.Enters b q deed birth) (p : List Change) :
    e.Enters b (q ++ p) deed birth :=
  ⟨h.1, h.2.trans (List.prefix_append q p).isInfix⟩

/-- Without accounts there is nothing in a queue. -/
theorem Assembled.nil (b : Board) : Assembled b [] [] :=
  ⟨fun _ hc => (List.not_mem_nil hc).elim, fun _ he => (List.not_mem_nil he).elim⟩

/-- Growth is added to a queue. -/
theorem Assembled.grow (h : Assembled b q J) (n : Nat) : Assembled b (q ++ [.growFood n]) J := by
  constructor
  · intro c hc
    rcases List.mem_append.1 hc with hc | hc
    · refine (h.source c hc).imp_right ?_
      rintro ⟨e, he, deed, birth, henters, hmem⟩
      exact ⟨e, he, deed, birth, henters.append _, hmem⟩
    · rw [List.mem_singleton.1 hc]
      exact Or.inl rfl
  · intro e he
    obtain ⟨deed, birth, henters⟩ := h.enters e he
    exact ⟨deed, birth, henters.append _⟩

/-- What an account contributes is added to a queue. -/
theorem Assembled.concat (h : Assembled b q J) (he : e.Contributes b deed birth) :
    Assembled b (q ++ (deed ++ birth ++ e.death)) (J ++ [e]) := by
  have hlast : e.Enters b (q ++ (deed ++ birth ++ e.death)) deed birth :=
    ⟨he, (List.suffix_append q _).isInfix⟩
  constructor
  · intro c hc
    rcases List.mem_append.1 hc with hc | hc
    · refine (h.source c hc).imp_right ?_
      rintro ⟨e', he', deed', birth', henters, hmem⟩
      exact ⟨e', List.mem_append_left _ he', deed', birth', henters.append _, hmem⟩
    · exact Or.inr
        ⟨e, List.mem_append_right _ (List.mem_singleton_self e), deed, birth, hlast, hc⟩
  · intro e' he'
    rcases List.mem_append.1 he' with he' | he'
    · obtain ⟨deed', birth', henters⟩ := h.enters e' he'
      exact ⟨deed', birth', henters.append _⟩
    · rw [List.mem_singleton.1 he']
      exact ⟨deed, birth, hlast⟩

/-- A change that is told by what an account is like is in a queue if there is such an account. -/
theorem Assembled.mem_iff (h : Assembled b q J) (hc : c.isGrowth = false) {P : Account → Prop}
    (hP : ∀ {e : Account} {deed birth : List Change}, e.Contributes b deed birth →
      (c ∈ deed ++ birth ++ e.death ↔ P e)) : c ∈ q ↔ ∃ e ∈ J, P e := by
  constructor
  · intro hmem
    rcases h.source c hmem with hgrowth | ⟨e, he, deed, birth, henters, hce⟩
    · rw [hc] at hgrowth
      cases hgrowth
    · exact ⟨e, he, (hP henters.1).1 hce⟩
  · rintro ⟨e, he, hPe⟩
    obtain ⟨deed, birth, henters⟩ := h.enters e he
    exact henters.2.subset ((hP henters.1).2 hPe)

namespace Scan

/-- The queue of a scan is assembled from its journal. -/
theorem Completes.assembled (hb : b.WellFormed) (hs : Completes b s) :
    Assembled b s.queue.toList b.journal := by
  refine hs.induct hb (P := fun _ s J => Assembled b s.queue.toList J) (.nil b) ?_
  intro n draw s s' o J hn hdraw hstage hcourse hentry ih
  cases hentry with
  | grown =>
    rw [Option.toList_none, List.append_nil, propose, Array.toList_push]
    exact ih.grow n
  | bare =>
    rw [Option.toList_none, List.append_nil]
    exact ih
  | stocked =>
    rw [Option.toList_none, List.append_nil]
    exact ih
  | acted hcell occupied found tells =>
    rename_i e
    have hc : s.board.content e.cell = .ant e.met.id := by
      rw [hcell, hstage.frozen.content, occupied]
    obtain ⟨deed, birth, hqueue, hmove, hbirth⟩ :=
      Tells.contributes (s := { s with visited := e.met.id :: s.visited }) (hstage.wellFormed hb)
        (hstage.sound _ (Arena.mem_of_find? found)) hc tells
    simp only [hstage.frozen.wants_iff] at hmove
    rw [hqueue]
    exact ih.concat ⟨hmove, hbirth⟩

/-! ### Accounts and cells -/

/-- The ants of a journal are those that stand on the cells at the start, but for their energy, and
they end their turns with energies that can be reckoned with. -/
theorem Completes.standing_of_mem (hb : b.WellFormed) (hs : Completes b s) :
    ∀ e ∈ b.journal, ∃ x, b.standing? e.cell = some x ∧
      e.met = { x with energy := e.met.energy } ∧ e.parted.energy = .int e.parted.worth := by
  refine hs.induct hb (P := fun _ _ J => ∀ e ∈ J, ∃ x, b.standing? e.cell = some x ∧
    e.met = { x with energy := e.met.energy } ∧ e.parted.energy = .int e.parted.worth)
    (fun _ he => (List.not_mem_nil he).elim) ?_
  intro n draw s s' o J hn hdraw hstage hcourse hentry ih
  cases hentry with
  | grown => rwa [Option.toList_none, List.append_nil]
  | bare => rwa [Option.toList_none, List.append_nil]
  | stocked => rwa [Option.toList_none, List.append_nil]
  | acted hcell occupied found tells =>
    intro e he
    rcases List.mem_append.1 he with he | he
    · exact ih e he
    · obtain ⟨x, hx, hmet⟩ := hcourse.exists_standing hb occupied found
      obtain ⟨-, -, -, -, -, -, henergy⟩ := tells
      rw [List.mem_singleton.1 he, hcell, Ant.worth_of_int henergy]
      exact ⟨x, hx, hmet, henergy⟩

/-- The accounts of a journal are of different ants. -/
theorem Completes.nodup_journal (hb : b.WellFormed) (hs : Completes b s) :
    (b.journal.map fun e => e.met.id).Nodup := by
  rw [hs.journal_ids hb]
  exact hb.lodged.nodup_residents b.size

/-- There is one account for every cell. -/
theorem Completes.eq_of_cell (hb : b.WellFormed) (hs : Completes b s) (he : e ∈ b.journal)
    (he' : e' ∈ b.journal) (hcell : e.cell = e'.cell) : e = e' := by
  obtain ⟨x, hx, hmet, -⟩ := hs.standing_of_mem hb e he
  obtain ⟨x', hx', hmet', -⟩ := hs.standing_of_mem hb e' he'
  rw [← hcell, hx, Option.some.injEq] at hx'
  subst hx'
  exact List.inj_on_of_nodup_map (hs.nodup_journal hb) he he' (by rw [hmet, hmet'])

/-- The ant of an account is on the cell of the account at the start. -/
theorem Completes.content_of_mem (hb : b.WellFormed) (hs : Completes b s) (he : e ∈ b.journal) :
    b.content e.cell = .ant e.met.id := by
  obtain ⟨x, hx, hmet, -⟩ := hs.standing_of_mem hb e he
  rw [(Board.standing?_eq_some_iff.1 hx).1, hmet]

/-! ### What is in a queue -/

/-- The moves in a queue are those of the ants that want to move. -/
theorem Completes.swap_mem_iff (hb : b.WellFormed) (hs : Completes b s) {source : Nat} :
    .swap target source ∈ s.queue.toList ↔
      ∃ e ∈ b.journal, source = e.cell ∧ b.Wants e.met target :=
  (hs.assembled hb).mem_iff rfl fun h => h.swap_mem_iff

/-- The deaths in a queue are those of the ants that have no energy when their turns end. -/
theorem Completes.death_mem_iff (hb : b.WellFormed) (hs : Completes b s) {id : Int} :
    .death n id ∈ s.queue.toList ↔
      ∃ e ∈ b.journal, n = e.cell ∧ id = e.met.id ∧ e.parted.worth ≤ 0 :=
  (hs.assembled hb).mem_iff rfl fun h => h.death_mem_iff

/-- Moves are proposed for ants that want to move. -/
theorem Completes.exists_wants (hb : b.WellFormed) (hs : Completes b s) {source : Nat}
    (hmem : .swap target source ∈ s.queue.toList) :
    ∃ x, b.standing? source = some x ∧ b.Wants x target := by
  obtain ⟨e, he, rfl, hw⟩ := (hs.swap_mem_iff hb).1 hmem
  obtain ⟨x, hx, hmet, -⟩ := hs.standing_of_mem hb e he
  rw [hmet] at hw
  exact ⟨x, hx, hw⟩

/-- A birth in a queue is that of a child of the ant that stands on the next cell.  If that ant
wants to move, its move comes immediately before the birth. -/
theorem Completes.exists_parent (hb : b.WellFormed) (hs : Completes b s)
    {before later : List Change} {child : Ant}
    (hq : s.queue.toList = before ++ .born n child :: later) :
    ∃ e ∈ b.journal, e.cell = n + 1 ∧ e.Bears child ∧ ∀ target, b.Wants e.met target →
      ∃ earlier, before = earlier ++ [.swap target e.cell] := by
  have hmem : .born n child ∈ s.queue.toList := by
    rw [hq]
    exact List.mem_append_cons_self
  rcases (hs.assembled hb).source _ hmem with hgrowth | ⟨e, he, deed, birth, henters, hce⟩
  · cases hgrowth
  · obtain ⟨hcell, hbears, rfl⟩ := henters.1.of_born_mem hce
    refine ⟨e, he, hcell, hbears, fun target hw => ?_⟩
    obtain ⟨earlier, rest, hpiece⟩ := henters.2
    -- nobody is born twice, so the birth is the one in this piece
    have hnodup : (newborns s.queue.toList).Nodup := by
      refine List.Nodup.of_map Ant.id ?_
      rw [hs.stage.numbered]
      exact nodup_consecutive _ _
    rw [hq, newborns_append, newborns_cons] at hnodup
    obtain ⟨-, hlater, hbefore⟩ := List.nodup_append.1 hnodup
    have hnot : .born n child ∉ before ∧ .born n child ∉ later := by
      constructor
      · intro hmem
        exact hbefore child (mem_newborns.2 ⟨n, hmem⟩) child List.mem_cons_self rfl
      · intro hmem
        exact (List.nodup_cons.1 hlater).1 (mem_newborns.2 ⟨n, hmem⟩)
    have hsame : before ++ .born n child :: later =
        (earlier ++ deed) ++ .born n child :: (e.death ++ rest) := by
      rw [← hq, ← hpiece]
      simp only [List.append_assoc, List.cons_append, List.nil_append]
    obtain ⟨rfl, -, -⟩ := (List.append_cons_inj_of_notMem hnot.1 hnot.2).1 hsame
    rcases henters.1.deed with ⟨target', hw', rfl⟩ | ⟨hnone, -⟩
    · exact ⟨earlier, by rw [hw.eq hw']⟩
    · exact (hnone target hw).elim

/-- Every ant that splits has a birth in the queue, for the cell before its own. -/
theorem Completes.exists_birth (hb : b.WellFormed) (hs : Completes b s) (he : e ∈ b.journal)
    (hsplit : e.split = true) : 0 < e.cell ∧
      ∃ child, e.Bears child ∧ .born (e.cell - 1) child ∈ s.queue.toList := by
  obtain ⟨deed, birth, hcontributes, hpiece⟩ := (hs.assembled hb).enters e he
  rcases hcontributes.birth with ⟨child, hbears, hpos, rfl⟩ | ⟨hwhole, -⟩
  · refine ⟨hpos, child, hbears, hpiece.subset ?_⟩
    exact List.mem_append_left _ (List.mem_append_right _ (List.mem_singleton_self _))
  · rw [hsplit] at hwhole
    cases hwhole

end Scan

end Formicary
