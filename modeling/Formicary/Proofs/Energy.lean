import Formicary.Proofs.Counters
import Mathlib.Algebra.BigOperators.Group.List.Basic
import Mathlib.Tactic.LinearCombination
import Mathlib.Tactic.Ring

/-!
# The energy ledger

Ants pay for what they ask, gain energy by meals, lose it to attackers and halve it when they split,
which loses the odd unit.  Nothing else happens to energy.  Every turn balances
(`Scan.Tells.energy`), and so does the whole scan (`Scan.Completes.energy`), whatever the sign of
the energies and whether an ant is hit before its turn or after.

A commit changes no ant.  The ants after it and those that it has put out are the ants before it and
the newborns, in another order (`Commit.perm_evicted`).
-/

namespace Formicary

/-- The energy of an ant, if it is an integer. -/
def Ant.worth (a : Ant) : Int := a.energy.integer?.getD 0

/-- The energies of some ants added up. -/
def totalEnergy (ants : List Ant) : Int := (ants.map Ant.worth).sum

/-- What ants have paid in a scan for moves and attacks, less what they have gained by meals. -/
def Scan.outlay (s : Scan) (cost meal : Int) : Int :=
  cost * (s.done .move + s.done .attack) - meal * s.done .meal

/-- What a turn takes from the energies besides: the price of a bite, whether there was food or not,
the damage that was done, and the unit that an odd energy loses when it is halved. -/
def Account.loss (cost divisor : Int) (e : Account) : Int :=
  (if e.request = some .eat then cost else 0) +
    (if e.hit then e.settled.worth.tdiv divisor else 0) +
    if e.split ∧ e.settled.worth % 2 = 1 then 1 else 0

/-! ### Totals -/

/-- The worth of an ant with an integer energy. -/
theorem Ant.worth_of_int {a : Ant} {v : Int} (h : a.energy = .int v) : a.worth = v := by
  rw [worth, h]
  rfl

/-- The total of no ants. -/
@[simp] theorem totalEnergy_nil : totalEnergy [] = 0 := rfl

/-- The total of an ant and others. -/
@[simp] theorem totalEnergy_cons (a : Ant) (ants : List Ant) :
    totalEnergy (a :: ants) = a.worth + totalEnergy ants := by
  rw [totalEnergy, List.map_cons, List.sum_cons]
  rfl

/-- The total of some ants and others. -/
@[simp] theorem totalEnergy_append (ants others : List Ant) :
    totalEnergy (ants ++ others) = totalEnergy ants + totalEnergy others := by
  rw [totalEnergy, List.map_append, List.sum_append]
  rfl

/-- The total does not depend on the order. -/
theorem totalEnergy_eq_of_perm {ants others : List Ant} (h : ants.Perm others) :
    totalEnergy ants = totalEnergy others :=
  (h.map Ant.worth).sum_eq

/-- When the entry of an ant is written the total changes by the difference. -/
theorem Arena.totalEnergy_update {r : Arena} {a y : Ant} (h : r.find? a.id = some y) :
    totalEnergy (r.update a).ants = totalEnergy r.ants - y.worth + a.worth := by
  obtain ⟨ants⟩ := r
  simp only [find?, update] at h ⊢
  induction ants with
  | nil => cases h
  | cons x rest ih =>
    by_cases hx : x.id = a.id
    · rw [List.find?_cons_of_pos (by simpa using hx), Option.some.injEq] at h
      rw [replace, if_pos hx, totalEnergy_cons, totalEnergy_cons, h]
      omega
    · rw [List.find?_cons_of_neg (by simpa using hx)] at h
      rw [replace, if_neg hx, totalEnergy_cons, totalEnergy_cons, ih h]
      omega

namespace Scan

variable {b : Board} {s s' : Scan} {n cell : Nat} {a a' y : Ant} {e : Account}
  {cost meal divisor : Int}

/-! ### One turn -/

/-- A settled request balances, where `y` is the entry that the arena has for the ant. -/
theorem Settled.energy (hcost : s.board.rules.actionCost = .int cost)
    (hmeal : s.board.rules.foodEnergy = .int meal)
    (hdivisor : s.board.rules.attackDivisor = .int divisor)
    (hy : s.board.arena.find? a.id = some y) (hteam : y.team = a.team)
    {request : Option Request} (h : Settled s cell a request s' a') :
    s'.board.arena.find? a.id = some y ∧
      totalEnergy s'.board.arena.ants + a'.worth + s'.outlay cost meal =
        totalEnergy s.board.arena.ants + a.worth + s.outlay cost meal -
          (if request = some .eat then cost else 0) -
          (if s.tally.hits < s'.tally.hits then a'.worth.tdiv divisor else 0) := by
  cases h with
  | @moved target e c _ _ energy price =>
    obtain rfl : c = cost := Value.int.inj (price.symm.trans hcost)
    refine ⟨hy, ?_⟩
    simp [outlay, done, propose, Tally.of, Change.isSwap, Ant.worth, energy, Value.integer?]
    ring
  | blocked => exact ⟨hy, by simp [outlay]⟩
  | @fed target e c m _ _ energy price gain =>
    obtain rfl : c = cost := Value.int.inj (price.symm.trans hcost)
    obtain rfl : m = meal := Value.int.inj (gain.symm.trans hmeal)
    refine ⟨hy, ?_⟩
    simp [outlay, done, propose, Tally.of, Change.isSwap, Ant.worth, energy, Value.integer?]
    ring
  | @unfed e c _ energy price =>
    obtain rfl : c = cost := Value.int.inj (price.symm.trans hcost)
    refine ⟨hy, ?_⟩
    simp [outlay, Ant.worth, energy, Value.integer?]
    ring
  | @missed e c _ energy price =>
    obtain rfl : c = cost := Value.int.inj (price.symm.trans hcost)
    refine ⟨hy, ?_⟩
    simp [outlay, done, Tally.of, Ant.worth, energy, Value.integer?]
    ring
  | idled => exact ⟨hy, by simp [outlay, idle, done, Tally.of, Ant.worth, Ant.mutate]⟩
  | @hit target defender e c f v _ _ found hostile energy price defence quotient =>
    obtain rfl : c = cost := Value.int.inj (price.symm.trans hcost)
    obtain rfl : v = divisor := Value.int.inj (quotient.symm.trans hdivisor)
    -- nobody hits itself, because it is of its own team
    have hne : a.id ≠ defender.id := by
      intro hid
      rw [hid, found, Option.some.injEq] at hy
      rw [Team.hostile_iff, hy] at hostile
      exact hostile hteam.symm
    have hfind : (s.board.arena.update { defender with
        energy := .int (f - (e - c).tdiv v) }).find? a.id = some y := by
      rw [Arena.find?_update, if_neg hne, hy]
    refine ⟨hfind, ?_⟩
    have htotal := Arena.totalEnergy_update (r := s.board.arena)
      (a := { defender with energy := .int (f - (e - c).tdiv v) }) found
    simp [outlay, update, Board.update, done, Tally.of, Ant.worth, energy, defence,
      Value.integer?] at htotal ⊢
    rw [htotal]
    ring

/-- Settling a request brings nobody. -/
theorem Settled.newborns_eq {request : Option Request} (h : Settled s cell a request s' a') :
    newborns s'.queue.toList = newborns s.queue.toList := by
  obtain ⟨deed, hqueue, -, -, rfl | ⟨target, rfl, -⟩ | ⟨target, rfl, -⟩⟩ := h.deed
  · rw [hqueue, List.append_nil]
  · rw [hqueue, newborns_append]
    exact List.append_nil _
  · rw [hqueue, newborns_append]
    exact List.append_nil _

/-- The end of a turn brings nobody. -/
theorem newborns_close (s : Scan) (cell : Nat) (a : Ant) (v : Int) :
    newborns (s.close cell a v).queue.toList = newborns s.queue.toList := by
  rw [queue_close, newborns_append]
  split
  · exact List.append_nil _
  · exact List.append_nil _

/-- A proposal brings the child of a birth. -/
theorem newborns_propose (s : Scan) (c : Change) :
    newborns (s.propose c).queue.toList = newborns s.queue.toList ++ c.child?.toList := by
  rw [propose, Array.toList_push, newborns_append, newborns_cons, newborns_nil, List.append_nil]

/-- An integer is twice its half rounded down, and one more if it is odd. -/
theorem fdiv_two_add_fdiv_two (e : Int) :
    e.fdiv 2 + e.fdiv 2 = e - if e % 2 = 1 then 1 else 0 := by
  rw [Int.fdiv_eq_ediv_of_nonneg e (by decide)]
  split <;> omega

/-- Splitting balances: if there is a child it has the energy of its parent, and the two have what
was there but for an odd unit. -/
theorem Divided.energy (h : Divided s cell a s' a') :
    totalEnergy (newborns s'.queue.toList) + a'.worth =
      totalEnergy (newborns s.queue.toList) + a.worth -
        if s.queue.size < s'.queue.size ∧ a.worth % 2 = 1 then 1 else 0 := by
  cases h with
  | whole => simp
  | @split e t g energy =>
    have hhalf : ({ a with energy := .int (e.fdiv 2) } : Ant).worth = e.fdiv 2 := rfl
    have hchild : ∀ id next : Int, ({ a with
      id, energy := .int (e.fdiv 2), age := .int 0, generation := .int next } : Ant).worth =
        e.fdiv 2 := fun _ _ => rfl
    have hsize : s.queue.size < (s.queue.push (.born (cell - 1) { a with
        id := s.board.nextId
        energy := .int (e.fdiv 2)
        age := .int 0
        generation := .int (g + 1) })).size := by
      rw [Array.size_push]
      exact Nat.lt_succ_self _
    rw [newborns_propose, Change.child?, Option.toList_some, totalEnergy_append, totalEnergy_cons,
      totalEnergy_nil, hhalf, hchild, a.worth_of_int energy, Int.add_zero, Int.add_assoc,
      fdiv_two_add_fdiv_two, ← Int.add_sub_assoc]
    simp only [propose, hsize, true_and]

/-- Whether there is a child is seen from the length of the queue. -/
theorem Divided.length_newborns (h : Divided s cell a s' a') :
    (newborns s'.queue.toList).length =
      (newborns s.queue.toList).length + (decide (s.queue.size < s'.queue.size)).toNat := by
  cases h with
  | whole => simp
  | split =>
    rw [newborns_propose, List.length_append]
    simp [propose, Change.child?]

/-- A turn balances. -/
theorem Tells.energy (hcost : s.board.rules.actionCost = .int cost)
    (hmeal : s.board.rules.foodEnergy = .int meal)
    (hdivisor : s.board.rules.attackDivisor = .int divisor)
    (hfind : s.board.arena.find? e.met.id = some e.met) (h : Tells s e s') :
    totalEnergy s'.board.arena.ants + totalEnergy (newborns s'.queue.toList) +
        s'.outlay cost meal =
      totalEnergy s.board.arena.ants + totalEnergy (newborns s.queue.toList) +
        s.outlay cost meal - e.loss cost divisor := by
  obtain ⟨hread, hrequest, hsettled, hhit, hdivided, hsplit, -⟩ := h
  rename_i i s₁ s₂ v
  obtain ⟨age, direction, pointer, hframe⟩ := Ant.execute_frame e.met
  have hid : e.met.execute.1.id = e.met.id := id_execute e.met
  obtain ⟨hentry, hpaid⟩ := hsettled.energy hcost hmeal hdivisor (y := e.met) (by rw [hid, hfind])
    (by rw [hframe])
  have hborn := hdivided.energy
  have hworth : e.met.execute.1.worth = e.met.worth := by rw [hframe]; rfl
  have hparted : e.parted.id = e.met.execute.1.id := by
    rw [hdivided.eq_frame, hsettled.eq_frame]
  have hwritten := Arena.totalEnergy_update (r := s₂.board.arena) (a := e.parted) (y := e.met)
    (by rw [hdivided.arena_eq, hparted, hentry])
  have houtlay : (s₂.close e.cell e.parted v).outlay cost meal = s₁.outlay cost meal := by
    simp only [outlay, (done_close _ _ _ _).1, hdivided.done_eq.1]
  rw [newborns_close, board_close, houtlay, Account.loss, hrequest, hhit, hsplit]
  change totalEnergy (s₂.board.arena.update e.parted).ants + _ + _ = _
  rw [hsettled.newborns_eq] at hborn
  simp only [decide_eq_true_eq]
  rw [hwritten, hdivided.arena_eq]
  omega

/-! ### A whole scan -/

/-- A scan balances. -/
theorem Completes.energy (hb : b.WellFormed) (hs : Completes b s)
    (hcost : b.rules.actionCost = .int cost) (hmeal : b.rules.foodEnergy = .int meal)
    (hdivisor : b.rules.attackDivisor = .int divisor) :
    totalEnergy s.board.arena.ants + totalEnergy (newborns s.queue.toList) + s.outlay cost meal =
      totalEnergy b.arena.ants - (b.journal.map (Account.loss cost divisor)).sum := by
  refine hs.induct hb (P := fun _ s J =>
    totalEnergy s.board.arena.ants + totalEnergy (newborns s.queue.toList) + s.outlay cost meal =
      totalEnergy b.arena.ants - (J.map (Account.loss cost divisor)).sum) ?_ ?_
  · have houtlay : (opening b).outlay cost meal = 0 := by
      simp [outlay, done, opening, start, Tally.of]
    rw [houtlay]
    simp [opening, start]
  · intro n draw s s' o J hn hdraw hstage hcourse hentry ih
    rw [List.map_append, List.sum_append]
    cases hentry with
    | grown =>
      have houtlay : (s.propose (.growFood n)).outlay cost meal = s.outlay cost meal := by
        simp only [outlay, done_propose (c := .growFood n) rfl]
      rw [newborns_propose, houtlay]
      simpa [Change.child?, propose] using ih
    | bare => simpa using ih
    | stocked => simpa using ih
    | acted hcell occupied found tells =>
      rename_i e
      have hrules := hstage.frozen.rules
      have hturn := tells.energy (s := { s with visited := e.met.id :: s.visited })
        (hrules ▸ hcost) (hrules ▸ hmeal) (hrules ▸ hdivisor) found
      change _ = totalEnergy s.board.arena.ants + totalEnergy (newborns s.queue.toList) +
        s.outlay cost meal - _ at hturn
      rw [hturn, ih]
      simp
      omega

/-- What the turns take besides, sorted by what it is for. -/
theorem sum_loss (cost divisor : Int) (J : List Account) :
    (J.map (Account.loss cost divisor)).sum =
      cost * J.countP (·.request == some .eat) +
        ((J.filter (·.hit)).map fun e => e.settled.worth.tdiv divisor).sum +
        J.countP fun e => e.split && e.settled.worth % 2 == 1 := by
  induction J with
  | nil => simp
  | cons e J ih =>
    have hfilter : (((e :: J).filter (·.hit)).map fun e => e.settled.worth.tdiv divisor).sum =
        (if e.hit then e.settled.worth.tdiv divisor else 0) +
          ((J.filter (·.hit)).map fun e => e.settled.worth.tdiv divisor).sum := by
      rw [List.filter_cons]
      split
      · rw [List.map_cons, List.sum_cons]
      · rw [Int.zero_add]
    rw [List.map_cons, List.sum_cons, ih, Account.loss, hfilter, List.countP_cons, List.countP_cons]
    simp only [Bool.and_eq_true, beq_iff_eq]
    push_cast
    split_ifs <;> ring

/-- In the journal each ant asks for what its opcode asks for. -/
theorem Completes.countP_request (hb : b.WellFormed) (hs : Completes b s)
    (p : Option Request → Bool) :
    b.journal.countP (fun e => p e.request) =
      b.arena.ants.countP fun a => a.opcode?.any (p ·.request?) := by
  refine hs.eq_countP hb (f := fun _ J => J.countP fun e => p e.request) rfl (fun _ _ _ => rfl) ?_
  intro n s s' e x J hstage hcourse hx hcell hmet found tells
  obtain ⟨hread, hrequest, -⟩ := tells
  have hopcode := (hstage.sound _ (Arena.mem_of_find? found)).opcode?_eq hread
  have hx' : x.opcode? = e.met.opcode? := by
    rw [hmet]
    rfl
  rw [countP_concat, hrequest, hx', hopcode, Option.any_some]

/-- A settled request counts at most one hit. -/
theorem Settled.hits_eq {request : Option Request} (h : Settled s cell a request s' a') :
    s'.tally.hits = s.tally.hits + (decide (s.tally.hits < s'.tally.hits)).toNat := by
  cases h with
  | hit => simp
  | moved => simp [propose]
  | fed => simp
  | blocked => simp
  | unfed => simp
  | missed => simp
  | idled => simp [idle]

/-- In the journal as many ants hit another as the scan counts hits, and as many split as there are
newborns. -/
theorem Completes.countP_journal (hb : b.WellFormed) (hs : Completes b s) :
    b.journal.countP (·.hit) = s.tally.hits ∧
      b.journal.countP (·.split) = (newborns s.queue.toList).length := by
  refine hs.induct hb (P := fun _ s J => J.countP (·.hit) = s.tally.hits ∧
    J.countP (·.split) = (newborns s.queue.toList).length) ⟨rfl, rfl⟩ ?_
  intro n draw s s' o J hn hdraw hstage hcourse hentry ih
  cases hentry with
  | grown =>
    rw [newborns_propose]
    simpa [Change.child?, propose] using ih
  | bare => simpa using ih
  | stocked => simpa using ih
  | acted hcell occupied found tells =>
    obtain ⟨-, -, hsettled, hhit, hdivided, hsplit, -⟩ := tells
    rename_i s₁ s₂ v
    have htally : s₂.tally.hits = s₁.tally.hits := hdivided.done_eq.1 .hit
    rw [Option.toList_some, countP_concat, countP_concat, ih.1, ih.2, hhit, hsplit, tally_close,
      newborns_close, hdivided.length_newborns, hsettled.newborns_eq, htally]
    exact ⟨hsettled.hits_eq.symm, rfl⟩

/-- The journal has one account for every ant, in the order of the cells. -/
theorem Completes.journal_ids (hb : b.WellFormed) (hs : Completes b s) :
    (b.journal.map fun e => e.met.id) = b.residents b.size := by
  refine hs.induct hb (P := fun n _ J => (J.map fun e => e.met.id) = b.residents n) rfl ?_
  intro n draw s s' o J hn hdraw hstage hcourse hentry ih
  rw [List.map_append, ih, Board.residents_succ]
  cases hentry with
  | grown free => rw [free]; rfl
  | bare free => rw [free]; rfl
  | stocked food => rw [food]; rfl
  | acted hcell occupied => rw [occupied]; rfl

end Scan

/-! ### The commit -/

/-- The ants of an arena that are left when one leaves. -/
theorem Arena.ants_without (r : Arena) (o : Option Int) :
    (r.without o).ants = r.ants.filter fun a => o != some a.id := by
  cases o with
  | none => exact (List.filter_eq_self.2 fun _ _ => rfl).symm
  | some gone =>
    refine List.filter_congr fun a _ => ?_
    rw [Bool.eq_iff_iff, bne_iff_ne, bne_iff_ne, ne_eq, ne_eq, Option.some.injEq, eq_comm]

namespace Commit

variable {c : Commit} {x : Change} {q : List Change}

/-- The ants that the changes of a queue put out of the arena, as far as they are applied: those
that are there before a change and not after it. -/
def evicted (c : Commit) : List Change → List Ant
  | [] => []
  | x :: q =>
    match c.apply x with
    | .ok c' => (c.board.arena.ants.filter fun a => !c'.board.arena.has a.id) ++ evicted c' q
    | .error _ => []

/-- Over one change no ant is changed. -/
theorem perm_applied (hp : Pending c.board (x :: q)) :
    (c.board.arena.ants ++ x.child?.toList).Perm ((c.applied x).board.arena.ants ++
      c.board.arena.ants.filter fun a => !(c.applied x).board.arena.has a.id) := by
  have hnew : ∀ child, x.child? = some child → child.id ∉ c.board.arena.ids := fun child hc =>
    hp.unused child (by rw [newborns_cons, hc]; exact List.mem_cons_self)
  have hstay : ∀ a ∈ c.board.arena.ants, (c.applied x).board.arena.has a.id =
      (x.evicts? c.board.content != some a.id) := by
    intro a ha
    have hid := Arena.mem_ids_of_mem ha
    rw [Bool.eq_iff_iff, Arena.has_iff, bne_iff_ne, ids_applied hp, List.mem_append,
      Arena.mem_ids_without]
    constructor
    · rintro (⟨-, hne⟩ | hborn)
      · exact hne
      · obtain ⟨child, hchild, hid'⟩ := List.mem_map.1 hborn
        exact (hnew child (Option.mem_toList.1 hchild) (hid' ▸ hid)).elim
    · exact fun hne => Or.inl ⟨hid, hne⟩
  rw [ants_applied hnew, Arena.ants_without,
    List.filter_congr fun a ha => congrArg (!·) (hstay a ha)]
  have hparts := List.filter_append_perm
    (fun a => x.evicts? c.board.content != some a.id) c.board.arena.ants
  refine List.perm_iff_count.2 fun a => ?_
  have hcount := hparts.count_eq a
  simp only [List.count_append] at hcount ⊢
  omega

/-- Over a commit no ant is changed: the ants before it and the newborns are the ants after it and
those that were put out. -/
theorem perm_evicted (h : c.board.WellFormed) (hp : Pending c.board q)
    (hfits : ∀ a ∈ newborns q, a.id < idLimit) :
    (c.board.arena.ants ++ newborns q).Perm
      ((q.foldl applied c).board.arena.ants ++ c.evicted q) := by
  induction q generalizing c with
  | nil => exact List.Perm.refl _
  | cons x q ih =>
    have hfirst : c.apply x = .ok (c.applied x) := by
      rcases apply_cases h hp with ⟨-, hok⟩ | ⟨child, hchild, hle, -⟩
      · exact hok
      · have hlt := hfits child (by rw [newborns_cons, hchild]; exact List.mem_cons_self)
        omega
    have hrest := ih (wellFormed_applied h hp) (pending_applied hp) fun a ha =>
      hfits a (by rw [newborns_cons]; exact List.mem_append_right _ ha)
    have hstep := perm_applied hp
    rw [List.foldl_cons, evicted, hfirst, newborns_cons]
    refine List.perm_iff_count.2 fun a => ?_
    have hcount := hstep.count_eq a
    have hcount' := hrest.count_eq a
    simp only [List.count_append] at hcount hcount' ⊢
    omega

end Commit

/-! ### A whole tick -/

/-- The energy of a sound ant is what it is worth. -/
theorem Ant.Sound.energy_eq {a : Ant} (h : a.Sound) : a.energy = .int a.worth := by
  obtain ⟨v, hv⟩ := h.energy
  rw [worth_of_int hv, hv]

/-- The energies of a tick balance.  The ants after the scan, together with the newborns, have what
the ants had at the start, less the cost of every move, attack and bite, plus what was eaten, less
the damage done and a unit for every odd energy that was halved.  The commit changes no ant, so the
tick leaves that less the energies of those that it puts out.  The board need only be well formed,
as reachable ones are (`Reachable.wellFormed`). -/
theorem energy_ledger {b : Board} (hb : b.WellFormed) :
    ∃ cost meal divisor s, b.config.value .actionCost = .int cost ∧
      b.config.value .foodEnergy = .int meal ∧ b.config.value .attackDivisor = .int divisor ∧
      Scan.run b = .ok s ∧
      (∀ a ∈ b.arena.ants ++ s.board.arena.ants ++ newborns s.queue.toList,
        a.energy = .int a.worth) ∧
      (b.journal.map fun e => e.met.id).Perm b.arena.ids ∧
      (∀ b', b.tick = .ok b' →
        totalEnergy s.board.arena.ants + totalEnergy (newborns s.queue.toList) =
            totalEnergy b.arena.ants -
              cost * (b'.lastTally.moves + b'.lastTally.attacks +
                b.arena.ants.countP (·.opcode? == some .eat)) +
              meal * b'.lastTally.foodEaten -
              ((b.journal.filter (·.hit)).map fun e => e.settled.worth.tdiv divisor).sum -
              b.journal.countP (fun e => e.split && e.settled.worth % 2 == 1) ∧
          b.journal.countP (·.hit) = b'.lastTally.hits ∧
          b.journal.countP (·.split) = b'.lastTally.births ∧
          (s.board.arena.ants ++ newborns s.queue.toList).Perm
            (b'.arena.ants ++ Commit.evicted ⟨s.board, s.tally⟩ s.queue.toList) ∧
          totalEnergy b'.arena.ants =
            totalEnergy s.board.arena.ants + totalEnergy (newborns s.queue.toList) -
              totalEnergy (Commit.evicted ⟨s.board, s.tally⟩ s.queue.toList)) ∧
      (b.nextId + b.size ≤ idLimit → ∃ b', b.tick = .ok b') := by
  obtain ⟨cost, hcost⟩ := hb.rules.actionCost
  obtain ⟨meal, hmeal⟩ := hb.rules.foodEnergy
  obtain ⟨divisor, hdivisor, -⟩ := hb.rules.attackDivisor
  obtain ⟨s, hs⟩ := Scan.exists_completes hb
  have hp := hs.stage.pending hb
  have htuned : b.config.value .actionCost = .int cost ∧ b.config.value .foodEnergy = .int meal ∧
      b.config.value .attackDivisor = .int divisor := by
    rw [hb.tuned] at hcost hmeal hdivisor
    exact ⟨hcost, hmeal, hdivisor⟩
  refine ⟨cost, meal, divisor, s, htuned.1, htuned.2.1, htuned.2.2, hs.run_eq, ?_, ?_, ?_,
    hb.exists_tick⟩
  · intro a ha
    rw [List.mem_append, List.mem_append] at ha
    rcases ha with (ha | ha) | ha
    · exact (hb.peopled.sound a ha).energy_eq
    · exact (hs.stage.sound a ha).energy_eq
    · exact (hp.sound a ha).energy_eq
  · rw [hs.journal_ids hb]
    exact hb.perm_residents
  · intro b' htick
    obtain ⟨hfits, -, hb'⟩ := hb.commit_of_tick hs htick
    have hperm : (s.board.arena.ants ++ newborns s.queue.toList).Perm
        (b'.arena.ants ++ Commit.evicted ⟨s.board, s.tally⟩ s.queue.toList) := by
      rw [hb']
      exact Commit.perm_evicted (c := ⟨s.board, s.tally⟩) (hs.stage.wellFormed hb) hp hfits
    have hdone : ∀ d, s.done d = b'.lastTally.of d := fun d => by
      rw [hb.of_tick htick, hs.done_eq hb]
    have hbites : b.journal.countP (·.request == some .eat) =
        b.arena.ants.countP (·.opcode? == some .eat) := by
      rw [hs.countP_request hb (· == some .eat)]
      congr 1
      funext a
      cases a.opcode? with
      | none => rfl
      | some op => cases op <;> rfl
    obtain ⟨hhits, hsplits⟩ := hs.countP_journal hb
    have henergy := hs.energy hb hcost hmeal hdivisor
    rw [Scan.sum_loss, Scan.outlay, hdone, hdone, hdone, hbites] at henergy
    simp only [Tally.of] at henergy
    refine ⟨?_, hhits.trans (hdone .hit), hsplits.trans (hb.books hs htick).births.symm, hperm, ?_⟩
    · linear_combination henergy
    · have htotal := totalEnergy_eq_of_perm hperm
      rw [totalEnergy_append, totalEnergy_append] at htotal
      omega

/-- In the fray the ants have 104 units of energy.  Each of them but one pays a unit for what it
asks, 150 are gained by eating, the attack takes 4, and one is lost when 199 are halved.  A commit
that puts out ants with energies 4 and -1 leaves 243. -/
theorem fray_energies :
    fray.WellFormed ∧ fray.nextId + fray.size ≤ idLimit ∧ ∃ s b', Scan.run fray = .ok s ∧
      fray.tick = .ok b' ∧
      totalEnergy s.board.arena.ants + totalEnergy (newborns s.queue.toList) =
        104 - 1 * (1 + 1 + 1) + 150 * 1 - 4 - 1 ∧
      totalEnergy b'.arena.ants = 246 - (4 + -1) := by
  have hroom : fray.nextId + fray.size ≤ idLimit := by decide +kernel
  obtain ⟨cost, meal, divisor, s, hcost, hmeal, hdivisor, hrun, -, -, hledger, hexists⟩ :=
    energy_ledger wellFormed_fray
  obtain ⟨b', htick⟩ := hexists hroom
  obtain ⟨henergy, -, -, -, hleft⟩ := hledger b' htick
  obtain rfl : cost = 1 := Value.int.inj (hcost.symm.trans rfl)
  obtain rfl : meal = 150 := Value.int.inj (hmeal.symm.trans rfl)
  obtain rfl : divisor = 10 := Value.int.inj (hdivisor.symm.trans rfl)
  have hstart : totalEnergy fray.arena.ants = 104 := by decide +kernel
  have hbites : fray.arena.ants.countP (·.opcode? == some .eat) = 1 := by decide +kernel
  have hdamage : ((fray.journal.filter (·.hit)).map fun e => e.settled.worth.tdiv 10).sum = 4 := by
    decide +kernel
  have hodd : fray.journal.countP (fun e => e.split && e.settled.worth % 2 == 1) = 1 := by
    decide +kernel
  have htally : fray.tick.toOption.map (fun b =>
      (b.lastTally.moves, b.lastTally.attacks, b.lastTally.foodEaten)) = some (1, 1, 1) := by
    decide +kernel
  have hgone : (Scan.run fray).toOption.map (fun s =>
      totalEnergy (Commit.evicted ⟨s.board, s.tally⟩ s.queue.toList)) = some (4 + -1) := by
    decide +kernel
  rw [htick] at htally
  rw [hrun] at hgone
  simp only [Except.toOption, Option.map_some, Option.some.injEq, Prod.mk.injEq] at htally hgone
  obtain ⟨hmoves, hattacks, heaten⟩ := htally
  rw [hstart, hbites, hdamage, hodd, hmoves, hattacks, heaten] at henergy
  rw [hgone, henergy] at hleft
  exact ⟨wellFormed_fray, hroom, s, b', hrun, htick, henergy, hleft⟩

end Formicary
