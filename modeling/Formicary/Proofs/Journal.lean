import Formicary.Proofs.Schedule
import Formicary.Proofs.Standing

/-!
# The journal of a scan

A scan hands over a board, a queue and a tally, but not what became of each ant on its turn.
`Board.journal` keeps that, one `Account` for every ant that executes, and is computed by the
operations of the scan themselves.

Every fact about a whole scan follows from one induction, `Scan.Completes.induct`: what holds before
the first visit, and is kept by whatever a visit can come to (`Scan.Entry`), holds in the end, of
the scan and of its journal.  The induction offers at each visit that the ants still waiting are as
they were at the start of the tick, but for their energy (`Scan.Course`).
-/

namespace Formicary

/-- What the turn of an ant came to. -/
structure Account where
  /-- The cell of the ant. -/
  cell : Nat
  /-- The ant as the scan met it. -/
  met : Ant
  /-- What it asked for. -/
  request : Option Request
  /-- The ant when that was settled. -/
  settled : Ant
  /-- Whether it hit another ant. -/
  hit : Bool
  /-- Whether it split. -/
  split : Bool
  /-- The ant at the end of its turn. -/
  parted : Ant

namespace Scan

/-- What the turn of an ant comes to, if nothing halts it. -/
def account? (s : Scan) (cell : Nat) (a : Ant) : Option Account := do
  let request ← a.execute.2.toOption
  let (s₁, settled) ← (s.perform cell a.execute.1 request).toOption
  let (s₂, parted) ← (s₁.divide cell settled).toOption
  let hit := decide (s.tally.hits < s₁.tally.hits)
  let split := decide (s₁.queue.size < s₂.queue.size)
  some { cell, met := a, request, settled, hit, split, parted }

/-- What the visit of a cell adds to the journal. -/
def note? (s : Scan) (cell : Nat) : Option Account :=
  match s.encounter? cell with
  | some (.executed n a) => account? { s with visited := a.id :: s.visited } n a
  | _ => none

/-- The journal of the visits of some cells, given the units drawn for their growth. -/
def journal (s : Scan) : List (Nat × Nat) → List Account
  | [] => []
  | p :: rest =>
    (s.note? p.1).toList ++
      match s.visit p.1 p.2 with
      | .ok s' => journal s' rest
      | .error _ => []

end Scan

/-- The journal of the scan of a board. -/
def Board.journal (b : Board) : List Account :=
  Scan.journal (Scan.opening b) ((List.range b.size).zip (Scan.growthDraws b).1)

namespace Scan

variable {b : Board} {s s' : Scan} {n cell draw : Nat} {a : Ant} {e : Account}

/-! ### The end of a turn -/

/-- The end of the turn of an ant with the energy `v`: without energy it is proposed for death, and
in any case its entry is written. -/
def close (s : Scan) (cell : Nat) (a : Ant) (v : Int) : Scan :=
  (if v ≤ 0 then s.propose (.death cell a.id) else s).update a

/-- What the end of a turn proposes. -/
theorem queue_close (s : Scan) (cell : Nat) (a : Ant) (v : Int) :
    (s.close cell a v).queue.toList =
      s.queue.toList ++ if v ≤ 0 then [.death cell a.id] else [] := by
  rw [close]
  split
  · exact Array.toList_push
  · exact (List.append_nil _).symm

/-- The end of a turn is not counted. -/
@[simp] theorem tally_close (s : Scan) (cell : Nat) (a : Ant) (v : Int) :
    (s.close cell a v).tally = s.tally :=
  tally_ite_propose (v ≤ 0) s _

/-- The end of a turn writes the entry of the ant. -/
@[simp] theorem board_close (s : Scan) (cell : Nat) (a : Ant) (v : Int) :
    (s.close cell a v).board = s.board.update a :=
  congrArg (·.update a) (board_ite_propose (v ≤ 0) s _)

/-! ### One turn and its account -/

/-- An account tells of a turn that leads from one scan to another. -/
inductive Tells (s : Scan) (e : Account) : Scan → Prop
  | intro {i : Instruction} {s₁ s₂ : Scan} {v : Int}
      (read : e.met.gene.code[e.met.gene.pointer.toNat]? = some i)
      (request : e.request = i.opcode.request?)
      (settled : Settled s e.cell e.met.execute.1 i.opcode.request? s₁ e.settled)
      (hit : e.hit = decide (s.tally.hits < s₁.tally.hits))
      (divided : Divided s₁ e.cell e.settled s₂ e.parted)
      (split : e.split = decide (s₁.queue.size < s₂.queue.size))
      (energy : e.parted.energy = .int v) : Tells s e (s₂.close e.cell e.parted v)

/-- What an account tells of is a turn. -/
theorem Tells.turn (h : Tells s e s') : Turn s e.cell e.met s' := by
  obtain ⟨hread, -, hsettled, -, hdivided, -, henergy⟩ := h
  exact .intro hread hsettled hdivided henergy

/-- The turn of a sound ant on a well-formed board is told by its account. -/
theorem exists_account (hs : s.board.WellFormed) (ha : a.Sound) (hcell : cell < s.board.size) :
    ∃ e s', s.account? cell a = some e ∧ e.cell = cell ∧ e.met = a ∧ s.act cell a = .ok s' ∧
      Tells s e s' := by
  obtain ⟨i, s₁, a₁, s₂, a₂, v, hread, hask, hperform, hsettled, hdivide, hdivided, hv, hact⟩ :=
    exists_parts hs ha hcell
  let e : Account :=
    { cell, met := a, request := i.opcode.request?, settled := a₁
      hit := decide (s.tally.hits < s₁.tally.hits)
      split := decide (s₁.queue.size < s₂.queue.size), parted := a₂ }
  refine ⟨e, _, ?_, rfl, rfl, hact, .intro hread rfl hsettled rfl hdivided rfl hv⟩
  simp only [account?, hask, Except.toOption, hperform, hdivide, Option.bind_eq_bind,
    Option.bind_some]
  rfl

/-! ### One visit and its entry -/

/-- What a visit of a cell can come to, together with what it adds to the journal. -/
inductive Entry (b : Board) (s : Scan) (cell draw : Nat) : Option Account → Scan → Prop
  | grown (free : b.content cell = .empty) (grows : grows b.rules.growthChance draw = true) :
      Entry b s cell draw none (s.propose (.growFood cell))
  | bare (free : b.content cell = .empty) (stays : Scan.grows b.rules.growthChance draw = false) :
      Entry b s cell draw none s
  | stocked (food : b.content cell = .food) : Entry b s cell draw none s
  | acted {e : Account} {s' : Scan} (cell_eq : e.cell = cell)
      (occupied : b.content cell = .ant e.met.id)
      (found : s.board.arena.find? e.met.id = some e.met)
      (tells : Tells { s with visited := e.met.id :: s.visited } e s') :
      Entry b s cell draw (some e) s'

/-- At a stage of a scan, the next visit adds its entry to the journal. -/
theorem Stage.entry (hb : b.WellFormed) (h : Stage b n s) (hn : n < b.size)
    (hrun : s.visit n draw = .ok s') (hvisit : Visit s n draw s') :
    Entry b s n draw (s.note? n) s' := by
  have hs := h.wellFormed hb
  obtain ⟨o, hencounter, hid⟩ := h.encounter?_eq hb hn
  rw [← h.frozen.content] at hid
  have hnobody : (s.board.content n).ant? = none → s.note? n = none := fun hnone => by
    rw [hnone, Option.map_eq_none_iff] at hid
    rw [note?, hencounter, hid]
    rfl
  cases hvisit with
  | grown free grows =>
    rw [hnobody (by rw [free]; rfl)]
    exact .grown (h.frozen.content ▸ free) (h.frozen.rules ▸ grows)
  | bare free stays =>
    rw [hnobody (by rw [free]; rfl)]
    exact .bare (h.frozen.content ▸ free) (h.frozen.rules ▸ stays)
  | stocked food =>
    rw [hnobody (by rw [food]; rfl)]
    exact .stocked (h.frozen.content ▸ food)
  | acted occupied found turn =>
    rename_i x
    obtain ⟨a, rfl, -⟩ := Option.map_eq_some_iff.1 (hid.trans (by rw [occupied]; rfl))
    obtain ⟨-, hact⟩ := visit_of_executed hencounter draw
    -- the ant that is met is the one that is found
    obtain ⟨-, a', -, -, -, htenant, heq⟩ := exists_of_encounter? hencounter
    have hxa : x = a' := Except.ok.inj ((hs.tenant?_eq occupied found).symm.trans htenant)
    have haa : a = a' := by
      split at heq
      · cases heq
      · cases heq
        rfl
    obtain rfl : x = a := hxa.trans haa.symm
    obtain ⟨e, s'', haccount, hcell, hmet, hact', htells⟩ :=
      exists_account (s := { s with visited := x.id :: s.visited }) hs
        (h.sound x (Arena.mem_of_find? found)) (h.frozen.size.symm ▸ hn)
    obtain rfl : s'' = s' := Except.ok.inj (hact'.symm.trans (hact.symm.trans hrun))
    rw [note?, hencounter]
    simp only [Option.map_some, haccount]
    subst hmet
    exact .acted hcell (h.frozen.content ▸ occupied) found htells

/-! ### The course of a scan -/

/-- When the first `n` cells have been visited, the ants on the others are as they were at the start
but for their energy, and everyone is of the team and generation that they were of. -/
structure Course (b : Board) (n : Nat) (s : Scan) : Prop where
  waiting : ∀ {m : Nat} {x : Ant}, n ≤ m → b.content m = .ant x.id →
    b.arena.find? x.id = some x → ∃ v, s.board.arena.find? x.id = some { x with energy := v }
  kin : ∀ {id : Int} {x : Ant}, b.arena.find? id = some x →
    ∃ y, s.board.arena.find? id = some y ∧ y.team = x.team ∧ y.generation = x.generation

/-- Before the first visit everything is as it was. -/
theorem Course.opening (b : Board) : Course b 0 (opening b) :=
  ⟨fun {_ x} _ _ hx => ⟨x.energy, hx⟩, fun {_ x} hx => ⟨x, hx, rfl, rfl⟩⟩

/-- A visit leads from the course of a scan to the course of a scan. -/
theorem Course.visit (hb : b.WellFormed) (h : Course b n s) {o : Option Account}
    (hentry : Entry b s n draw o s') : Course b (n + 1) s' := by
  cases hentry with
  | grown => exact ⟨fun hm => h.waiting (Nat.le_of_succ_le hm), h.kin⟩
  | bare => exact ⟨fun hm => h.waiting (Nat.le_of_succ_le hm), h.kin⟩
  | stocked => exact ⟨fun hm => h.waiting (Nat.le_of_succ_le hm), h.kin⟩
  | acted hcell occupied found tells =>
    rename_i e
    have hturn := tells.turn
    constructor
    · intro m x hm hx hfind
      have hne : x.id ≠ e.met.id := by
        intro hid
        rw [hid] at hx
        have := hb.eq_of_content hx occupied
        omega
      obtain ⟨v, hv⟩ := h.waiting (Nat.le_of_succ_le hm) hx hfind
      obtain ⟨w, hw⟩ := hturn.find?_other hne hv
      exact ⟨w, hw⟩
    · intro id x hx
      obtain ⟨y, hy, hteam, hgeneration⟩ := h.kin hx
      by_cases hid : id = e.met.id
      · subst hid
        obtain rfl : y = e.met := Option.some.inj (hy.symm.trans found)
        obtain ⟨energy, sensor, gene, hself⟩ := hturn.find?_self hy
        obtain ⟨age, d, p, hframe⟩ := Ant.execute_frame e.met
        exact ⟨_, hself, by rw [hframe]; exact hteam, by rw [hframe]; exact hgeneration⟩
      · obtain ⟨v, hv⟩ := hturn.find?_other hid hy
        exact ⟨_, hv, hteam, hgeneration⟩

/-- The ant that a visit meets is the one that stood on the cell at the start, but for its
energy. -/
theorem Course.exists_standing (hb : b.WellFormed) (h : Course b n s)
    (hc : b.content n = .ant a.id) (hfind : s.board.arena.find? a.id = some a) :
    ∃ x, b.standing? n = some x ∧ a = { x with energy := a.energy } := by
  obtain ⟨x, hx, hid, -, -⟩ := hb.exists_find? hc
  rw [← hid] at hc hx hfind
  obtain ⟨v, hv⟩ := h.waiting (Nat.le_refl n) hc hx
  obtain rfl : a = { x with energy := v } := Option.some.inj (hfind.symm.trans hv)
  exact ⟨x, Board.standing?_eq_some_iff.2 ⟨hc, hx⟩, rfl⟩

/-! ### A whole scan -/

/-- What holds before some visits and is kept by each of them holds after them. -/
theorem Visits.induct (hb : b.WellFormed) {units draws : List Nat}
    {P : Nat → Scan → List Account → Prop}
    (hstep : ∀ {n draw : Nat} {s s' : Scan} {o : Option Account} {J : List Account}, n < b.size →
      units[n]? = some draw → Stage b n s → Course b n s → Entry b s n draw o s' → P n s J →
      P (n + 1) s' (J ++ o.toList))
    (h : Visits b n s draws s') (hunits : ∀ k draw, draws[k]? = some draw →
      units[n + k]? = some draw)
    (hcourse : Course b n s) {J : List Account} (hP : P n s J) :
    P (n + draws.length) s' (J ++ s.journal ((List.range' n draws.length).zip draws)) := by
  induction h generalizing J with
  | done => simpa [journal] using hP
  | next stage lt_size ran visit rest ih =>
    rename_i n draw s s₁ s' draws
    have hentry := stage.entry hb lt_size ran visit
    have hnext := hstep lt_size (hunits 0 draw rfl) stage hcourse hentry hP
    have hrest := ih (fun k d hd => by
      have hk := hunits (k + 1) d (by simpa using hd)
      rwa [Nat.add_comm k 1, ← Nat.add_assoc] at hk) (hcourse.visit hb hentry) hnext
    rw [List.length_cons, List.range'_succ, List.zip_cons_cons, journal]
    simp only [ran]
    rw [Nat.add_comm draws.length 1, ← Nat.add_assoc, ← List.append_assoc]
    exact hrest

/-- What holds before a scan and is kept by each of its visits holds after the scan. -/
theorem Completes.induct (hb : b.WellFormed) (hs : Completes b s)
    {P : Nat → Scan → List Account → Prop} (hstart : P 0 (opening b) [])
    (hstep : ∀ {n draw : Nat} {s s' : Scan} {o : Option Account} {J : List Account}, n < b.size →
      (growthDraws b).1[n]? = some draw → Stage b n s → Course b n s → Entry b s n draw o s' →
      P n s J → P (n + 1) s' (J ++ o.toList)) : P b.size s b.journal := by
  have h := Visits.induct hb hstep hs (fun k draw hk => by rwa [Nat.zero_add]) (.opening b) hstart
  rwa [length_growthDraws, Nat.zero_add, List.nil_append, ← List.range_eq_range'] at h

end Scan

end Formicary
