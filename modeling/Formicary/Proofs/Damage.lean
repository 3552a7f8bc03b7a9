import Formicary.Proofs.Energy

/-!
# What becomes of the energy of one ant

Only hostile ants that attack the cell of an ant take energy from it, and otherwise its energy
changes in its own turn alone.  So what an ant has after a tick can be reckoned from the journal:
from the accounts of the ants that strike it, those of lower cells before its turn and those of
higher cells after it, and from its own account in between.  A commit changes no energy, not even of
the ants that it puts out.

What carries the induction over a scan is `Scan.Reckons`: when some cells have been visited, the
ants on the others have lost the damage done so far, and the ants on those cells have had their
turns and have lost the damage done since.
-/

namespace Formicary

/-- The numbers in the configuration of a board that energies are reckoned with. -/
structure Board.Prices (b : Board) (cost meal divisor limit : Int) : Prop where
  cost_eq : b.config.value .actionCost = .int cost
  meal_eq : b.config.value .foodEnergy = .int meal
  divisor_eq : b.config.value .attackDivisor = .int divisor
  divisor_pos : 0 < divisor
  limit_eq : b.config.value .splitEnergy = .int limit

/-- Whether an ant strikes another in its turn: it attacks the cell on which the other stands, and
they are of different teams. -/
def Board.strikes (b : Board) (y x : Ant) : Bool :=
  y.opcode? == some .attack && y.team.hostile x.team &&
    (b.indexOfAnt? x.id).any fun n : Nat => b.ahead? y == some (n : Int)

/-- The damage that an ant does if it strikes another. -/
def Account.damage (divisor : Int) (e : Account) : Int := e.settled.worth.tdiv divisor

/-- The damage that is done to an ant in some turns. -/
def Board.toll (b : Board) (divisor : Int) (x : Ant) (J : List Account) : Int :=
  ((J.filter fun e => b.strikes e.met x).map (Account.damage divisor)).sum

/-- What an ant pays in its turn: it pays for a bite and for an attack, and for a move that is
made. -/
def Board.fee (b : Board) (cost : Int) (x : Ant) : Int :=
  if x.opcode? = some .eat ∨ x.opcode? = some .attack ∨ b.does x .move = true then cost else 0

/-- What an ant gains in its turn by a meal. -/
def Board.gain (b : Board) (meal : Int) (x : Ant) : Int :=
  if b.does x .meal = true then meal else 0

/-- The account of an ant that has lost something before its turn.  It pays and gains by its own
deeds, and it gives half of what it then has to a child if that is more than the limit and the cell
before its own is empty. -/
structure Account.Fair (b : Board) (cost meal limit : Int) (x : Ant) (lost : Int) (e : Account) :
    Prop where
  cell : b.indexOfAnt? x.id = some e.cell
  met : e.met = { x with energy := .int (x.worth - lost) }
  settled : e.settled.worth = e.met.worth - b.fee cost x + b.gain meal x
  split : e.split = true ↔
    limit < e.settled.worth ∧ 0 < e.cell ∧ b.content (e.cell - 1) = .empty
  parted : e.parted.worth = if e.split then e.settled.worth.fdiv 2 else e.settled.worth

variable {b b' : Board} {s s' : Scan} {m n cell target : Nat} {a a' x y : Ant} {e : Account}
  {cost meal divisor limit : Int} {J : List Account}

/-! ### Prices -/

/-- On a well-formed board energies can be reckoned with. -/
theorem Board.WellFormed.exists_prices (hb : b.WellFormed) :
    ∃ cost meal divisor limit, b.Prices cost meal divisor limit := by
  have hrules : (Rules.ofConfig b.config).Integral := hb.tuned ▸ hb.rules
  obtain ⟨cost, hcost⟩ := hrules.actionCost
  obtain ⟨meal, hmeal⟩ := hrules.foodEnergy
  obtain ⟨divisor, hdivisor, hpos⟩ := hrules.attackDivisor
  obtain ⟨limit, hlimit⟩ := hrules.splitEnergy
  exact ⟨cost, meal, divisor, limit, hcost, hmeal, hdivisor, hpos, hlimit⟩

/-- The rules of a well-formed board go by its prices. -/
theorem Board.Prices.rules (h : b.Prices cost meal divisor limit) (hb : b.WellFormed) :
    b.rules.actionCost = .int cost ∧ b.rules.foodEnergy = .int meal ∧
      b.rules.attackDivisor = .int divisor ∧ b.rules.splitEnergy = .int limit := by
  rw [hb.tuned]
  exact ⟨h.cost_eq, h.meal_eq, h.divisor_eq, h.limit_eq⟩

/-- Prices stay what they are while only ants change. -/
theorem Board.Prices.frozen (h : b.Prices cost meal divisor limit) (hf : b.Frozen b') :
    b'.Prices cost meal divisor limit := by
  obtain ⟨hcost, hmeal, hdivisor, hpos, hlimit⟩ := h
  rw [← hf.config] at hcost hmeal hdivisor hlimit
  exact ⟨hcost, hmeal, hdivisor, hpos, hlimit⟩

/-! ### Strikes -/

/-- Nobody is struck by no turns. -/
@[simp] theorem Board.toll_nil (b : Board) (divisor : Int) (x : Ant) : b.toll divisor x [] = 0 :=
  rfl

/-- One more turn does damage to an ant if it strikes it. -/
theorem Board.toll_concat (b : Board) (divisor : Int) (x : Ant) (J : List Account) (e : Account) :
    b.toll divisor x (J ++ [e]) =
      b.toll divisor x J + if b.strikes e.met x then e.damage divisor else 0 := by
  rw [toll, List.filter_append, List.map_append, List.sum_append, List.filter_singleton, toll]
  cases b.strikes e.met x <;> simp

/-- Who strikes whom is a matter of cells, teams, opcodes and directions. -/
theorem Board.Frozen.strikes_eq (h : b.Frozen b') (y x : Ant) : b'.strikes y x = b.strikes y x := by
  rw [h.eq_frame]
  rfl

/-- An ant strikes another if it attacks, the cell ahead of it is that of the other, and they are of
different teams. -/
theorem Board.WellFormed.strikes_iff (h : b.WellFormed) (hy : b.content cell = .ant y.id)
    (hx : b.content m = .ant x.id) :
    b.strikes y x = true ↔ y.opcode? = some .attack ∧ y.team.hostile x.team = true ∧
      b.shape.ahead? cell y.direction = some (m : Int) := by
  rw [strikes, h.indexOfAnt?_eq hx, h.ahead?_eq hy]
  simp only [Bool.and_eq_true, beq_iff_eq, Option.any_some, and_assoc]

namespace Scan

/-! ### One request -/

/-- An ant that is attacked by one of another team loses the damage. -/
theorem Settled.struck (hdivisor : s.board.rules.attackDivisor = .int divisor)
    (h : Settled s cell a (some .attack) s' a') (ahead : s.Faces cell a target)
    (hx : s.board.standing? target = some x) (hostile : a.team.hostile x.team = true) :
    s'.board.arena.find? x.id =
      some { x with energy := .int (x.worth - a'.worth.tdiv divisor) } := by
  obtain ⟨hc, hfind⟩ := Board.standing?_eq_some_iff.1 hx
  cases h with
  | missed peace =>
    rw [peace target x ahead hc hfind] at hostile
    cases hostile
  | @hit target' d e c f v ahead' occupied found _ energy _ defence quotient =>
    -- there is one cell ahead, and one ant on it
    obtain rfl : target' = target := Int.ofNat.inj (Option.some.inj (ahead'.symm.trans ahead))
    have hid : d.id = x.id := Content.ant.inj (occupied.symm.trans hc)
    obtain rfl : d = x := Option.some.inj ((hid ▸ found).symm.trans hfind)
    obtain rfl : v = divisor := Value.int.inj (quotient.symm.trans hdivisor)
    change (s.board.arena.update { d with energy := .int (f - (e - c).tdiv v) }).find? d.id = _
    rw [Arena.find?_update, if_pos rfl, found, d.worth_of_int defence]
    rfl

/-- An ant that is not attacked by one of another team keeps its energy. -/
theorem Settled.spared {request : Option Request} (h : Settled s cell a request s' a')
    (hfind : s.board.arena.find? x.id = some x)
    (hpeace : request = some .attack → ∀ target, s.Faces cell a target →
      s.board.content target = .ant x.id → a.team.hostile x.team = false) :
    s'.board.arena.find? x.id = some x := by
  cases h with
  | @hit target d e c f v ahead occupied found hostile _ _ _ _ =>
    have hne : x.id ≠ d.id := by
      intro hid
      obtain rfl : x = d := Option.some.inj (hfind.symm.trans (hid ▸ found))
      rw [hpeace rfl target ahead occupied] at hostile
      cases hostile
    change (s.board.arena.update { d with energy := .int (f - (e - c).tdiv v) }).find? x.id = _
    rw [Arena.find?_update, if_neg hne, hfind]
  | moved => exact hfind
  | blocked => exact hfind
  | fed => exact hfind
  | unfed => exact hfind
  | missed => exact hfind
  | idled => exact hfind

/-- What an ant has when its request has been settled. -/
theorem Settled.worth_eq (hs : s.board.WellFormed)
    (hcost : s.board.rules.actionCost = .int cost) (hmeal : s.board.rules.foodEnergy = .int meal)
    (hc : s.board.content cell = .ant a.id) {request : Option Request}
    (h : Settled s cell a request s' a') :
    a'.worth = a.worth -
        (if request = some .eat ∨ request = some .attack ∨ s.board.settles a request .move = true
          then cost else 0) +
      if s.board.settles a request .meal = true then meal else 0 := by
  cases h with
  | @moved target e c ahead free energy price =>
    obtain rfl : c = cost := Value.int.inj (price.symm.trans hcost)
    have hfaces : s.board.faces a .empty = true :=
      ahead.faces_eq hs hc (by rw [free]; rfl)
    simp [Board.settles, hfaces, Ant.worth, energy, Value.integer?]
  | blocked obstacle =>
    have hfaces : s.board.faces a .empty = false := faces_eq_false hs hc fun target ahead hkind =>
      obstacle target ahead (Content.kind_eq_empty_iff.1 hkind)
    simp [Board.settles, hfaces]
  | @fed target e c m ahead food energy price gain =>
    obtain rfl : c = cost := Value.int.inj (price.symm.trans hcost)
    obtain rfl : m = meal := Value.int.inj (gain.symm.trans hmeal)
    have hfaces : s.board.faces a .food = true :=
      ahead.faces_eq hs hc (by rw [food]; rfl)
    simp [Board.settles, hfaces, Ant.worth, energy, Value.integer?]
  | @unfed e c nothing energy price =>
    obtain rfl : c = cost := Value.int.inj (price.symm.trans hcost)
    have hfaces : s.board.faces a .food = false := faces_eq_false hs hc fun target ahead hkind =>
      nothing target ahead (Content.kind_eq_food_iff.1 hkind)
    simp [Board.settles, hfaces, Ant.worth, energy, Value.integer?]
  | @hit target d e c f v _ _ _ _ energy price _ _ =>
    obtain rfl : c = cost := Value.int.inj (price.symm.trans hcost)
    simp [Board.settles, Ant.worth, energy, Value.integer?]
  | @missed e c _ energy price =>
    obtain rfl : c = cost := Value.int.inj (price.symm.trans hcost)
    simp [Board.settles, Ant.worth, energy, Value.integer?]
  | idled => simp [Board.settles, idle, Ant.worth, Ant.mutate]

/-! ### Splitting -/

/-- A proposal makes the queue longer by one. -/
theorem size_propose (s : Scan) (c : Change) : (s.propose c).queue.size = s.queue.size + 1 :=
  Array.size_push _

/-- Whether an ant splits, and what it has afterwards. -/
theorem Divided.split_iff (hlimit : s.board.rules.splitEnergy = .int limit)
    (h : Divided s cell a s' a') :
    (s.queue.size < s'.queue.size ↔
        limit < a.worth ∧ 0 < cell ∧ s.board.content (cell - 1) = .empty) ∧
      a'.worth = if s.queue.size < s'.queue.size then a.worth.fdiv 2 else a.worth := by
  cases h with
  | @split e t g energy bound rich pos free _ =>
    obtain rfl : t = limit := Value.int.inj (bound.symm.trans hlimit)
    have hgrown : s.queue.size < s.queue.size + 1 := Nat.lt_succ_self _
    rw [size_propose, a.worth_of_int energy]
    exact ⟨iff_of_true hgrown ⟨rich, pos, free⟩, (if_pos hgrown).symm⟩
  | @whole e t energy bound stays =>
    obtain rfl : t = limit := Value.int.inj (bound.symm.trans hlimit)
    constructor
    · refine iff_of_false (Nat.lt_irrefl _) ?_
      rintro ⟨rich, pos, free⟩
      exact stays (by rwa [a.worth_of_int energy] at rich) pos free
    · rw [if_neg (Nat.lt_irrefl _)]

/-! ### One turn -/

/-- What an ant has when the request of its turn has been settled. -/
theorem Tells.worth_settled (hs : s.board.WellFormed)
    (hp : s.board.Prices cost meal divisor limit) (hsound : e.met.Sound)
    (hc : s.board.content e.cell = .ant e.met.id) (h : Tells s e s') :
    e.settled.worth = e.met.worth - s.board.fee cost e.met + s.board.gain meal e.met := by
  obtain ⟨hread, -, hsettled, -, -, -, -⟩ := h
  rename_i i s₁ s₂ v
  obtain ⟨age, direction, pointer, hframe⟩ := Ant.execute_frame e.met
  have hworth : e.met.execute.1.worth = e.met.worth := by
    rw [hframe]
    rfl
  obtain ⟨hcost, hmeal, -, -⟩ := hp.rules hs
  have hpaid := hsettled.worth_eq hs hcost hmeal (by rw [id_execute]; exact hc)
  rw [hpaid, hworth, Board.fee, Board.gain, does_eq_settles hsound _ hread,
    does_eq_settles hsound _ hread, hsound.opcode?_eq hread]
  simp only [Option.some.injEq, Opcode.request?_eq_some_iff, Request.opcode]

/-- What an ant has when its turn ends. -/
theorem Tells.worth_parted (hs : s.board.WellFormed)
    (hp : s.board.Prices cost meal divisor limit) (hsound : e.met.Sound) (h : Tells s e s') :
    (e.split = true ↔
        limit < e.settled.worth ∧ 0 < e.cell ∧ s.board.content (e.cell - 1) = .empty) ∧
      e.parted.worth = if e.split then e.settled.worth.fdiv 2 else e.settled.worth := by
  obtain ⟨-, -, hsettled, -, hdivided, hsplit, -⟩ := h
  obtain ⟨hfrozen, -⟩ := hsettled.frozen hs (hsound.execute).choose_spec.2.2
  obtain ⟨-, -, -, hlimit⟩ := hp.rules hs
  obtain ⟨hiff, hworth⟩ := hdivided.split_iff (hfrozen.rules ▸ hlimit)
  rw [hfrozen.content] at hiff
  simp only [hsplit, decide_eq_true_eq]
  exact ⟨hiff, hworth⟩

/-- After its turn an ant is in the arena as its account says. -/
theorem Tells.find?_self (hfind : s.board.arena.find? e.met.id = some e.met) (h : Tells s e s') :
    s'.board.arena.find? e.met.id = some e.parted := by
  obtain ⟨-, -, hsettled, -, hdivided, -, -⟩ := h
  rename_i i s₁ s₂ v
  obtain ⟨w, hw⟩ := hsettled.find? hfind
  have hid : e.met.id = e.parted.id := by rw [hdivided.eq_frame, hsettled.eq_frame, id_execute]
  rw [board_close]
  change (s₂.board.arena.update e.parted).find? e.met.id = _
  rw [Arena.find?_update, if_pos hid, hdivided.arena_eq, hw, Option.map_some]

/-- In the turn of an ant another one loses the damage if it is struck, and nothing otherwise. -/
theorem Tells.find?_other (hs : s.board.WellFormed)
    (hp : s.board.Prices cost meal divisor limit) (hsound : e.met.Sound)
    (hc : s.board.content e.cell = .ant e.met.id) (hx : s.board.standing? m = some x)
    (hne : x.id ≠ e.met.id) (h : Tells s e s') :
    s'.board.arena.find? x.id = some { x with
      energy := .int (x.worth - if s.board.strikes e.met x then e.damage divisor else 0) } := by
  obtain ⟨hread, -, hsettled, -, hdivided, -, -⟩ := h
  rename_i i s₁ s₂ v
  obtain ⟨hcx, hfind⟩ := Board.standing?_eq_some_iff.1 hx
  have hxsound := hs.peopled.sound x (Arena.mem_of_find? hfind)
  have hid : e.parted.id = e.met.id := by rw [hdivided.eq_frame, hsettled.eq_frame, id_execute]
  obtain ⟨age, direction, pointer, hframe⟩ := Ant.execute_frame e.met
  have hteam : e.met.execute.1.team = e.met.team := by rw [hframe]
  have hafter : s₁.board.arena.find? x.id = some { x with
      energy := .int (x.worth - if s.board.strikes e.met x then e.damage divisor else 0) } := by
    have hiff := hs.strikes_iff hc hcx
    rw [hsound.opcode?_eq hread, Option.some.injEq] at hiff
    split
    · next hstrikes =>
      obtain ⟨hattack, hhostile, hahead⟩ := hiff.1 hstrikes
      have hask : i.opcode.request? = some .attack := by rw [hattack]; rfl
      rw [hask] at hsettled
      obtain ⟨-, -, hdivisor, -⟩ := hp.rules hs
      refine hsettled.struck hdivisor ?_ hx (hteam ▸ hhostile)
      rw [Faces, hsound.direction_execute hread (by rw [hask]; exact Option.some_ne_none _)]
      exact hahead
    · next hstrikes =>
      rw [Int.sub_zero, ← hxsound.energy_eq]
      refine hsettled.spared hfind fun hask target ahead htarget => ?_
      rw [hteam, ← Bool.not_eq_true]
      intro hhostile
      have hasks : i.opcode.request? ≠ none := by
        rw [hask]
        exact Option.some_ne_none _
      rw [Faces, hsound.direction_execute hread hasks] at ahead
      obtain rfl : target = m := hs.eq_of_content htarget hcx
      exact hstrikes (hiff.2 ⟨Opcode.request?_eq_some_iff.1 hask, hhostile, ahead⟩)
  rw [board_close]
  change (s₂.board.arena.update e.parted).find? x.id = _
  rw [Arena.find?_update, if_neg (hid ▸ hne), hdivided.arena_eq, hafter]

/-! ### A whole scan -/

/-- Until its turn an ant is about to pay and to gain what it was about to at the start. -/
theorem Course.prices_eq (hb : b.WellFormed) (hstage : Stage b n s) (h : Course b n s)
    (hx : b.standing? n = some x) (v : Value) (cost meal : Int) :
    s.board.fee cost { x with energy := v } = b.fee cost x ∧
      s.board.gain meal { x with energy := v } = b.gain meal x := by
  rw [Board.fee, Board.gain, h.does_eq hb hstage hx, h.does_eq hb hstage hx]
  exact ⟨rfl, rfl⟩

/-- In the turn of an ant every other one loses what it takes from it. -/
theorem Course.find?_other (hb : b.WellFormed) (hprices : b.Prices cost meal divisor limit)
    (hstage : Stage b n s) (h : Course b n s) (hcell : e.cell = n)
    (occupied : b.content n = .ant e.met.id) (found : s.board.arena.find? e.met.id = some e.met)
    (tells : Tells { s with visited := e.met.id :: s.visited } e s') (hne : m ≠ n)
    (hx : b.standing? m = some x) (hy : s.board.arena.find? x.id = some y) :
    s'.board.arena.find? x.id = some { y with
      energy := .int (y.worth - if b.strikes e.met x then e.damage divisor else 0) } := by
  obtain ⟨hcx, hfind⟩ := Board.standing?_eq_some_iff.1 hx
  have hid : y.id = x.id := Arena.id_of_find? hy
  have hteam : y.team = x.team := by
    obtain ⟨z, hz, hteam, -⟩ := h.kin hfind
    rwa [Option.some.inj (hz.symm.trans hy)] at hteam
  have hstrikes : s.board.strikes e.met y = b.strikes e.met x := by
    rw [hstage.frozen.strikes_eq, Board.strikes, Board.strikes, hid, hteam]
  have hc : s.board.content e.cell = .ant e.met.id := by
    rw [hcell, hstage.frozen.content, occupied]
  have hstands : s.board.standing? m = some y := by
    rw [Board.standing?_eq_some_iff, hstage.frozen.content, hid]
    exact ⟨hcx, hy⟩
  have hother : y.id ≠ e.met.id := by
    intro heq
    rw [hid] at heq
    exact hne (hb.eq_of_content (heq ▸ hcx) occupied)
  have hfound := Tells.find?_other (s := { s with visited := e.met.id :: s.visited })
    (hstage.wellFormed hb) (hprices.frozen hstage.frozen)
    (hstage.sound _ (Arena.mem_of_find? found)) hc hstands hother tells
  rw [← hid, hfound]
  simp only [hstrikes]

/-- The account of an ant that has lost something before its turn is fair. -/
theorem Course.fair (hb : b.WellFormed) (hprices : b.Prices cost meal divisor limit)
    (hstage : Stage b n s) (h : Course b n s) (hcell : e.cell = n)
    (found : s.board.arena.find? e.met.id = some e.met)
    (tells : Tells { s with visited := e.met.id :: s.visited } e s')
    (hx : b.standing? n = some x) {lost : Int}
    (hmet : e.met = { x with energy := .int (x.worth - lost) }) :
    e.Fair b cost meal limit x lost := by
  have hs := hstage.wellFormed hb
  have hp := hprices.frozen hstage.frozen
  have hsound := hstage.sound _ (Arena.mem_of_find? found)
  have hcx := (Board.standing?_eq_some_iff.1 hx).1
  have hc : s.board.content e.cell = .ant e.met.id := by
    rw [hcell, hstage.frozen.content, hcx, hmet]
  obtain ⟨hfee, hgain⟩ := h.prices_eq hb hstage hx (.int (x.worth - lost)) cost meal
  have hsettled := Tells.worth_settled (s := { s with visited := e.met.id :: s.visited })
    hs hp hsound hc tells
  obtain ⟨hsplit, hparted⟩ := Tells.worth_parted
    (s := { s with visited := e.met.id :: s.visited }) hs hp hsound tells
  refine ⟨?_, hmet, ?_, ?_, hparted⟩
  · rw [hcell]
    exact hb.indexOfAnt?_eq hcx
  · rw [← hfee, ← hgain, ← hmet]
    exact hsettled
  · rw [← hstage.frozen.content]
    exact hsplit

/-- The account of a cell is not among those of lower cells. -/
theorem filter_lower_concat {m : Nat} (h : m ≤ e.cell) :
    (J ++ [e]).filter (·.cell < m) = J.filter (·.cell < m) := by
  rw [List.filter_append, List.filter_singleton, decide_eq_false (Nat.not_lt.2 h)]
  exact List.append_nil _

/-- The account of a higher cell is the last of those of higher cells. -/
theorem filter_higher_concat {m : Nat} (h : m < e.cell) :
    (J ++ [e]).filter (m < ·.cell) = J.filter (m < ·.cell) ++ [e] := by
  rw [List.filter_append, List.filter_singleton, decide_eq_true h]
  rfl

/-- When the first `n` cells have been visited with certain accounts, the ants on the others have
lost the damage done so far.  The ants on these cells have accounts, which are fair, and have lost
the damage done since. -/
structure Reckons (b : Board) (cost meal divisor limit : Int) (n : Nat) (s : Scan)
    (J : List Account) : Prop where
  visited : ∀ e ∈ J, e.cell < n
  waiting : ∀ {m : Nat} {x : Ant}, n ≤ m → b.standing? m = some x →
    s.board.arena.find? x.id = some { x with energy := .int (x.worth - b.toll divisor x J) }
  acted : ∀ {m : Nat} {x : Ant}, m < n → b.standing? m = some x →
    ∃ e ∈ J, e.cell = m ∧
      e.Fair b cost meal limit x (b.toll divisor x (J.filter (·.cell < m))) ∧
      ∃ y, s.board.arena.find? x.id = some y ∧
        y.worth = e.parted.worth - b.toll divisor x (J.filter (m < ·.cell))

/-- Before the first visit every ant has what it had. -/
theorem Reckons.opening (hb : b.WellFormed) :
    Reckons b cost meal divisor limit 0 (opening b) [] := by
  refine ⟨fun _ he => (List.not_mem_nil he).elim, ?_, fun hm => (Nat.not_lt_zero _ hm).elim⟩
  intro m x _ hx
  have hfind := (Board.standing?_eq_some_iff.1 hx).2
  rw [Board.toll_nil, Int.sub_zero, ← (hb.peopled.sound x (Arena.mem_of_find? hfind)).energy_eq]
  exact hfind

/-- A visit of a cell without an ant leaves the reckoning as it is. -/
theorem Reckons.pass (h : Reckons b cost meal divisor limit n s J)
    (hnobody : (b.content n).ant? = none) (harena : s'.board.arena = s.board.arena) :
    Reckons b cost meal divisor limit (n + 1) s' J := by
  refine ⟨fun e he => Nat.lt_succ_of_lt (h.visited e he), ?_, ?_⟩
  · intro m x hm hx
    rw [harena]
    exact h.waiting (Nat.le_of_succ_le hm) hx
  · intro m x hm hx
    have hne : m ≠ n := by
      rintro rfl
      rw [Board.standing?, hnobody] at hx
      cases hx
    rw [harena]
    exact h.acted (by omega) hx

/-- The turn of an ant adds its account to the reckoning. -/
theorem Reckons.turn (hb : b.WellFormed) (hprices : b.Prices cost meal divisor limit)
    (hstage : Stage b n s) (hcourse : Course b n s) (h : Reckons b cost meal divisor limit n s J)
    (hcell : e.cell = n) (occupied : b.content n = .ant e.met.id)
    (found : s.board.arena.find? e.met.id = some e.met)
    (tells : Tells { s with visited := e.met.id :: s.visited } e s') :
    Reckons b cost meal divisor limit (n + 1) s' (J ++ [e]) := by
  refine ⟨?_, ?_, ?_⟩
  · intro e' he'
    rcases List.mem_append.1 he' with he' | he'
    · exact Nat.lt_succ_of_lt (h.visited e' he')
    · rw [List.mem_singleton.1 he', hcell]
      exact Nat.lt_succ_self n
  · intro m x hm hx
    rw [hcourse.find?_other hb hprices hstage hcell occupied found tells (by omega) hx
      (h.waiting (Nat.le_of_succ_le hm) hx), Board.toll_concat, ← Int.sub_sub]
    rfl
  · intro m x hm hx
    rcases Nat.lt_succ_iff_lt_or_eq.1 hm with hlt | rfl
    · -- the turn comes after that of the ant on the cell `m`
      obtain ⟨e', he', hcell', hfair, y, hy, hworth⟩ := h.acted hlt hx
      refine ⟨e', List.mem_append_left _ he', hcell', ?_, _,
        hcourse.find?_other hb hprices hstage hcell occupied found tells (Nat.ne_of_lt hlt) hx hy,
        ?_⟩
      · rw [filter_lower_concat (by omega)]
        exact hfair
      · rw [filter_higher_concat (by omega), Board.toll_concat, ← Int.sub_sub, ← hworth]
        rfl
    · -- the turn is that of the ant on the cell `m`
      have hwaiting := h.waiting (Nat.le_refl m) hx
      have hid : e.met.id = x.id := Content.ant.inj
        (occupied.symm.trans (Board.standing?_eq_some_iff.1 hx).1)
      have hfound := found
      rw [hid] at hfound
      have hmet := Option.some.inj (hfound.symm.trans hwaiting)
      have hbefore : (J ++ [e]).filter (·.cell < m) = J := by
        rw [filter_lower_concat (Nat.le_of_eq hcell.symm)]
        exact List.filter_eq_self.2 fun e' he' => decide_eq_true (h.visited e' he')
      have hafter : (J ++ [e]).filter (m < ·.cell) = [] := by
        refine List.filter_eq_nil_iff.2 fun e' he' => ?_
        rcases List.mem_append.1 he' with he' | he'
        · have := h.visited e' he'
          simpa using Nat.le_of_lt this
        · rw [List.mem_singleton.1 he', hcell]
          simp
      refine ⟨e, List.mem_append_right _ (List.mem_singleton_self e), hcell, ?_, e.parted, ?_, ?_⟩
      · rw [hbefore]
        exact hcourse.fair hb hprices hstage hcell found tells hx hmet
      · rw [← hid]
        exact Tells.find?_self (s := { s with visited := e.met.id :: s.visited }) found tells
      · rw [hafter, Board.toll_nil, Int.sub_zero]

/-- A whole scan can be reckoned from its journal. -/
theorem Completes.reckons (hb : b.WellFormed) (hs : Completes b s)
    (hprices : b.Prices cost meal divisor limit) :
    Reckons b cost meal divisor limit b.size s b.journal := by
  refine hs.induct hb (.opening hb) ?_
  intro n draw s s' o J hn hdraw hstage hcourse hentry ih
  cases hentry with
  | grown free =>
    rw [Option.toList_none, List.append_nil]
    exact ih.pass (by rw [free]; rfl) rfl
  | bare free =>
    rw [Option.toList_none, List.append_nil]
    exact ih.pass (by rw [free]; rfl) rfl
  | stocked food =>
    rw [Option.toList_none, List.append_nil]
    exact ih.pass (by rw [food]; rfl) rfl
  | acted hcell occupied found tells =>
    exact ih.turn hb hprices hstage hcourse hcell occupied found tells

end Scan

/-! ### A whole tick -/

/-- A commit keeps what an ant has: after a tick the ant is there or among those that were put out,
and in either case it is as the scan left it. -/
theorem Board.WellFormed.kept_of_tick (hb : b.WellFormed) (hs : Scan.Completes b s)
    (htick : b.tick = .ok b') (hx : x ∈ b.arena.ants) (hy : s.board.arena.find? x.id = some y) :
    y ∈ b'.arena.ants ++ Commit.evicted ⟨s.board, s.tally⟩ s.queue.toList ∧
      ∀ z ∈ b'.arena.ants ++ Commit.evicted ⟨s.board, s.tally⟩ s.queue.toList, z.id = x.id →
        z = y := by
  have hs₀ := hs.stage.wellFormed hb
  have hp := hs.stage.pending hb
  obtain ⟨hfits, -, rfl⟩ := hb.commit_of_tick hs htick
  have hperm : (s.board.arena.ants ++ newborns s.queue.toList).Perm
      (s.committed.completed.arena.ants ++
        Commit.evicted ⟨s.board, s.tally⟩ s.queue.toList) :=
    Commit.perm_evicted (c := ⟨s.board, s.tally⟩) hs₀ hp hfits
  constructor
  · exact hperm.subset (List.mem_append_left _ (Arena.mem_of_find? hy))
  · intro z hz hid
    rcases List.mem_append.1 (hperm.symm.subset hz) with hz | hz
    · have hfind := Arena.find?_of_mem hs₀.peopled.ids_nodup hz
      rw [hid, hy] at hfind
      exact (Option.some.inj hfind).symm
    · -- the ids of newborns are new
      have hle := (hs.stage.id_of_newborn hz).1
      have hlt := hb.peopled.id_lt _ (Arena.mem_ids_of_mem hx)
      omega

/-- What an ant has after a tick, whether it is still there or has been put out: what it had at the
start, less the damage done by those on lower cells that struck it, less what it paid and plus what
it gained in its own turn, less what it gave to its child, less the damage done by those on higher
cells.  Each damage is what the attacker has when it has paid, divided by the divisor and rounded
toward zero, and there is one account for every ant.  The board need only be well formed, as
reachable ones are (`Reachable.wellFormed`). -/
theorem energy_after_tick {b : Board} (hb : b.WellFormed) :
    ∃ cost meal divisor limit s, b.Prices cost meal divisor limit ∧ Scan.run b = .ok s ∧
      (b.journal.map fun e => e.met.id).Perm b.arena.ids ∧
      (∀ b', b.tick = .ok b' → ∀ x ∈ b.arena.ants, x.energy = .int x.worth ∧
        ∃ e ∈ b.journal,
          e.Fair b cost meal limit x
            (b.toll divisor x (b.journal.filter (·.cell < e.cell))) ∧
          (∃ y ∈ b'.arena.ants ++ Commit.evicted ⟨s.board, s.tally⟩ s.queue.toList,
            y.id = x.id) ∧
          ∀ y ∈ b'.arena.ants ++ Commit.evicted ⟨s.board, s.tally⟩ s.queue.toList, y.id = x.id →
            y.energy = .int (x.worth -
              b.toll divisor x (b.journal.filter (·.cell < e.cell)) -
              b.fee cost x + b.gain meal x -
              (if e.split then e.settled.worth - e.settled.worth.fdiv 2 else 0) -
              b.toll divisor x (b.journal.filter (e.cell < ·.cell)))) ∧
      (b.nextId + b.size ≤ idLimit → ∃ b', b.tick = .ok b') := by
  obtain ⟨cost, meal, divisor, limit, hprices⟩ := hb.exists_prices
  obtain ⟨s, hs⟩ := Scan.exists_completes hb
  refine ⟨cost, meal, divisor, limit, s, hprices, hs.run_eq, ?_, ?_, hb.exists_tick⟩
  · rw [hs.journal_ids hb]
    exact hb.perm_residents
  · intro b' htick x hx
    obtain ⟨n, hn, hxn⟩ := hb.mem_ants_iff.1 hx
    obtain ⟨e, he, rfl, hfair, y, hy, hworth⟩ := (hs.reckons hb hprices).acted hn hxn
    obtain ⟨hmem, hunique⟩ := hb.kept_of_tick hs htick hx hy
    refine ⟨(hb.peopled.sound x hx).energy_eq, e, he, hfair,
      ⟨y, hmem, Arena.id_of_find? hy⟩, ?_⟩
    intro z hz hid
    obtain rfl := hunique z hz hid
    rw [(hs.stage.sound z (Arena.mem_of_find? hy)).energy_eq, hworth, hfair.parted]
    have hmet : e.met.worth = x.worth - b.toll divisor x (b.journal.filter (·.cell < e.cell)) := by
      rw [hfair.met]
      rfl
    have hsettled := hfair.settled
    rw [hmet] at hsettled
    rw [← hsettled]
    congr 2
    split
    · omega
    · omega

/-! ### A crossfire

An ant on the middle of a square of nine cells is struck by one ant before its turn and by another
after it.  In between it bites at nothing and splits. -/

/-- The configuration of a square of nine cells on which nothing grows. -/
def squareConfig : Config :=
  ⟨fun
    | .width => .int 3
    | .height => .int 3
    | .foodGrowthChance => .int 0
    | .spareCell => .bool false
    | f => f.defaultValue⟩

/-- The crossfire. -/
def crossfire : Board :=
  (((Board.blank squareConfig (.ofConfig squareConfig) 3 3 9 (.ofSeed 0)).enter 4
    (simpleton 0 .blue .eat 300 .east)).enter 1 (simpleton 1 .red .attack 101 .south)).enter 7
      (simpleton 2 .red .attack 52 .north)

/-- The crossfire is put together by three ants entering. -/
theorem reachable_crossfire : Reachable crossfire := by
  have hbuild : Board.build .unbounded (.int 3) (.int 3) (some squareConfig) (some (.ofSeed 0)) =
      .ok (.blank squareConfig (.ofConfig squareConfig) 3 3 9 (.ofSeed 0)) := rfl
  have hempty := Reachable.of_config
    ⟨⟨_, rfl⟩, ⟨_, rfl⟩, ⟨_, rfl⟩, ⟨_, rfl⟩, ⟨_, rfl⟩, ⟨_, rfl⟩, ⟨_, rfl⟩, ⟨_, rfl⟩⟩ rfl hbuild
  exact .enter_simpleton (.enter_simpleton (.enter_simpleton hempty))

/-- The crossfire is in order. -/
theorem wellFormed_crossfire : crossfire.WellFormed :=
  reachable_crossfire.wellFormed (by decide +kernel)

/-- In the crossfire 300 units become 290, less one for the bite is 289, of which 144 are kept, and
then five more are lost. -/
theorem crossfire_energy :
    crossfire.WellFormed ∧ crossfire.nextId + crossfire.size ≤ idLimit ∧ ∃ s b',
      Scan.run crossfire = .ok s ∧ crossfire.tick = .ok b' ∧
      ∃ y ∈ b'.arena.ants ++ Commit.evicted ⟨s.board, s.tally⟩ s.queue.toList, y.id = 0 ∧
        y.energy = .int (300 - 10 - 1 + 0 - (289 - 144) - 5) := by
  have hroom : crossfire.nextId + crossfire.size ≤ idLimit := by decide +kernel
  have hx : simpleton 0 .blue .eat 300 .east ∈ crossfire.arena.ants := by decide +kernel
  obtain ⟨cost, meal, divisor, limit, s, hprices, hrun, -, henergy, hexists⟩ :=
    energy_after_tick wellFormed_crossfire
  obtain ⟨b', htick⟩ := hexists hroom
  obtain ⟨-, e, he, hfair, ⟨y, hy, hid⟩, hworth⟩ := henergy b' htick _ hx
  obtain rfl : cost = 1 := Value.int.inj (hprices.cost_eq.symm.trans rfl)
  obtain rfl : meal = 150 := Value.int.inj (hprices.meal_eq.symm.trans rfl)
  obtain rfl : divisor = 10 := Value.int.inj (hprices.divisor_eq.symm.trans rfl)
  obtain rfl : limit = 120 := Value.int.inj (hprices.limit_eq.symm.trans rfl)
  have hcell : e.cell = 4 := Option.some.inj (hfair.cell.symm.trans (by decide +kernel))
  have hown : ∀ e ∈ crossfire.journal, e.cell = 4 → e.split = true ∧ e.settled.worth = 289 := by
    decide +kernel
  obtain ⟨hsplit, hsettled⟩ := hown e he hcell
  have hbefore : crossfire.toll 10 (simpleton 0 .blue .eat 300 .east)
      (crossfire.journal.filter (·.cell < 4)) = 10 := by decide +kernel
  have hafter : crossfire.toll 10 (simpleton 0 .blue .eat 300 .east)
      (crossfire.journal.filter (4 < ·.cell)) = 5 := by decide +kernel
  have hfee : crossfire.fee 1 (simpleton 0 .blue .eat 300 .east) = 1 := by decide +kernel
  have hgain : crossfire.gain 150 (simpleton 0 .blue .eat 300 .east) = 0 := by decide +kernel
  have hleft := hworth y hy hid
  rw [hcell, hbefore, hafter, hfee, hgain, hsettled, if_pos hsplit] at hleft
  exact ⟨wellFormed_crossfire, hroom, s, b', hrun, htick, y, hy, hid, hleft⟩

end Formicary
