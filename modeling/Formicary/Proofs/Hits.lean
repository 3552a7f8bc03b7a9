import Formicary.Proofs.Damage
import Formicary.Proofs.Moves

/-!
# What a hit does to the energy of its target

The damage of a hit is what the attacker has when it has paid, divided by the divisor and rounded
toward zero.  An attacker may have been driven below zero before its turn, and then the damage may
be negative.  So a hit takes energy as long as the attacker is not in debt by as much as the
divisor, and from then on it gives energy to its target.  In `duel` this happens in the first tick.

To speak of what an ant has just before a hit, a scan is stopped after some of its visits
(`Scan.upTo`).
-/

namespace Formicary

namespace Scan

/-- The scan of a board after the visits of its first `n` cells. -/
def upTo (b : Board) (n : Nat) : Except (Halted Scan Fault) Scan :=
  (((List.range b.size).zip (growthDraws b).1).take n).foldlM (fun s p => s.visit p.1 p.2)
    (opening b)

end Scan

/-- The hit that is made on the visit of a cell, if there is one: the attacker and its target as
they are before it, and the target as it is after it. -/
def Board.hit? (b : Board) (n : Nat) : Option (Ant × Ant × Ant) := do
  let s ← (Scan.upTo b n).toOption
  let s' ← (Scan.upTo b (n + 1)).toOption
  guard (s.tally.hits < s'.tally.hits)
  let y ← s.board.standing? n
  let target ← s.board.ahead? y
  let x ← s.board.standing? target.toNat
  let x' ← s'.board.arena.find? x.id
  some (y, x, x')

namespace Scan

variable {b : Board} {s s' : Scan} {n cell draw target : Nat} {x y : Ant} {e : Account}
  {cost meal divisor limit : Int}

/-! ### Stopping a scan -/

/-- All the visits are a run of the scan. -/
theorem upTo_of_size_le (h : b.size ≤ n) : upTo b n = run b := by
  have hlength : ((List.range b.size).zip (growthDraws b).1).length = b.size := by
    rw [List.length_zip, List.length_range, length_growthDraws, Nat.min_self]
  rw [upTo, List.take_of_length_le (hlength.symm ▸ h)]
  rfl

/-- One more visit. -/
theorem upTo_succ (hn : n < b.size) (hdraw : (growthDraws b).1[n]? = some draw) :
    upTo b (n + 1) = upTo b n >>= fun s => s.visit n draw := by
  have hpair : ((List.range b.size).zip (growthDraws b).1)[n]? = some (n, draw) := by
    rw [List.getElem?_zip_eq_some]
    exact ⟨List.getElem?_range hn, hdraw⟩
  rw [upTo, List.take_add_one, hpair, Option.toList_some, List.foldlM_append]
  simp only [List.foldlM_cons, List.foldlM_nil, bind_pure]
  rfl

/-- On a well-formed board the visits come to an end wherever they are stopped. -/
theorem exists_upTo (hb : b.WellFormed) (hn : n ≤ b.size) :
    ∃ s, upTo b n = .ok s ∧ Stage b n s := by
  induction n with
  | zero => exact ⟨opening b, rfl, .start hb _⟩
  | succ n ih =>
    obtain ⟨s, hs, hstage⟩ := ih (Nat.le_of_succ_le hn)
    obtain ⟨draw, hdraw⟩ : ∃ draw, (growthDraws b).1[n]? = some draw :=
      ⟨_, List.getElem?_eq_getElem (by rwa [length_growthDraws])⟩
    obtain ⟨s', hran, hvisit⟩ := hstage.exists_visit hb hn draw
    refine ⟨s', ?_, hstage.visit hb hvisit⟩
    rw [upTo_succ hn hdraw, hs]
    exact hran

/-- Two successive stops of a scan, with what the visit in between comes to. -/
theorem exists_entry_upTo (hb : b.WellFormed) (hn : n < b.size) :
    ∃ s s' draw o, upTo b n = .ok s ∧ upTo b (n + 1) = .ok s' ∧ Stage b n s ∧
      Entry b s n draw o s' := by
  obtain ⟨s, hs, hstage⟩ := exists_upTo hb (Nat.le_of_lt hn)
  obtain ⟨draw, hdraw⟩ : ∃ draw, (growthDraws b).1[n]? = some draw :=
    ⟨_, List.getElem?_eq_getElem (by rwa [length_growthDraws])⟩
  obtain ⟨s', hran, hvisit⟩ := hstage.exists_visit hb hn draw
  refine ⟨s, s', draw, _, hs, ?_, hstage, hstage.entry hb hn hran hvisit⟩
  rw [upTo_succ hn hdraw, hs]
  exact hran

/-! ### One hit -/

/-- A turn counts a hit if its ant attacks and an ant of another team is ahead of it. -/
theorem Tells.hits_eq (hs : s.board.WellFormed) (hsound : e.met.Sound)
    (hc : s.board.content e.cell = .ant e.met.id) (h : Tells s e s') :
    s'.tally.hits = s.tally.hits +
      (e.met.opcode? == some .attack && s.board.facesFoe e.met).toNat := by
  have hdone := h.done_eq hs hsound hc .hit
  rw [Board.does_eq] at hdone
  exact hdone

/-- What an attacker has when it has paid. -/
theorem Tells.worth_of_attack (hs : s.board.WellFormed)
    (hp : s.board.Prices cost meal divisor limit) (hsound : e.met.Sound)
    (hc : s.board.content e.cell = .ant e.met.id) (h : Tells s e s')
    (hattack : e.met.opcode? = some .attack) : e.settled.worth = e.met.worth - cost := by
  have hgain : s.board.gain meal e.met = 0 := by
    rw [Board.gain, Board.does_eq, hattack]
    rfl
  rw [h.worth_settled hs hp hsound hc, hgain, Board.fee, if_pos (Or.inr (Or.inl hattack)),
    Int.add_zero]

/-- A hit is made by an ant that attacks, and there is an ant of another team ahead of it, which
loses the damage. -/
theorem Tells.exists_target (hs : s.board.WellFormed)
    (hp : s.board.Prices cost meal divisor limit) (hsound : e.met.Sound)
    (hc : s.board.content e.cell = .ant e.met.id)
    (hfind : s.board.arena.find? e.met.id = some e.met) (h : Tells s e s')
    (hhit : s'.tally.hits = s.tally.hits + 1) :
    ∃ (target : Nat) (x : Ant), s.board.ahead? e.met = some (target : Int) ∧
      s.board.standing? target = some x ∧ e.met.team.hostile x.team = true ∧
      s'.board.arena.find? x.id = some { x with
        energy := .int (x.worth - (e.met.worth - cost).tdiv divisor) } := by
  have hcount := h.hits_eq hs hsound hc
  rw [hhit, Nat.add_left_cancel_iff, eq_comm, Bool.toNat_eq_one, Bool.and_eq_true,
    beq_iff_eq] at hcount
  obtain ⟨hattack, hfoe⟩ := hcount
  obtain ⟨target, x, hahead, hx, hhostile⟩ := (hs.facesFoe_iff hc).1 hfoe
  obtain ⟨hcx, hfound⟩ := Board.standing?_eq_some_iff.1 hx
  -- nobody hits itself, because it is of its own team
  have hne : x.id ≠ e.met.id := by
    intro hid
    rw [hid, hfind, Option.some.injEq] at hfound
    rw [← hfound, Team.hostile_iff] at hhostile
    exact hhostile rfl
  refine ⟨target, x, by rw [hs.ahead?_eq hc, hahead], hx, hhostile, ?_⟩
  rw [h.find?_other hs hp hsound hc hx hne, if_pos ((hs.strikes_iff hc hcx).2
    ⟨hattack, hhostile, hahead⟩), Account.damage, h.worth_of_attack hs hp hsound hc hattack]

/-- A visit counts no hit or one, and if it counts one an ant of another team is ahead of the ant on
the cell and loses the damage. -/
theorem Stage.hits_cases (hb : b.WellFormed) (hprices : b.Prices cost meal divisor limit)
    (h : Stage b n s) {o : Option Account} (hentry : Entry b s n draw o s') :
    s'.tally.hits = s.tally.hits ∨ s'.tally.hits = s.tally.hits + 1 ∧
      ∃ (y x : Ant) (target : Nat), s.board.standing? n = some y ∧
        s.board.ahead? y = some (target : Int) ∧ s.board.standing? target = some x ∧
        y.team.hostile x.team = true ∧ s'.board.arena.find? x.id = some { x with
          energy := .int (x.worth - (y.worth - cost).tdiv divisor) } := by
  cases hentry with
  | grown => exact Or.inl rfl
  | bare => exact Or.inl rfl
  | stocked => exact Or.inl rfl
  | acted hcell occupied found tells =>
    rename_i e
    have hs := h.wellFormed hb
    have hsound := h.sound _ (Arena.mem_of_find? found)
    have hc : s.board.content n = .ant e.met.id := by rw [h.frozen.content, occupied]
    have hstands := Board.standing?_eq_some_iff.2 ⟨hc, found⟩
    rw [← hcell] at hc
    have hhits := Tells.hits_eq (s := { s with visited := e.met.id :: s.visited }) hs hsound hc
      tells
    cases hdeed : e.met.opcode? == some .attack && s.board.facesFoe e.met with
    | false => exact Or.inl (by rw [hhits, hdeed]; rfl)
    | true =>
      have hhit : s'.tally.hits = s.tally.hits + 1 := by
        rw [hhits, hdeed]
        rfl
      obtain ⟨target, x, hahead, hx, hhostile, hfound⟩ :=
        Tells.exists_target (s := { s with visited := e.met.id :: s.visited }) hs
          (hprices.frozen h.frozen) hsound hc found tells hhit
      exact Or.inr ⟨hhit, e.met, x, target, hstands, hahead, hx, hhostile, hfound⟩

end Scan

/-- A hit is counted on the visit of a cell, and made by the ant there on the ant ahead of it. -/
theorem Board.hit?_eq_some_iff {b : Board} {n : Nat} {y x x' : Ant} :
    b.hit? n = some (y, x, x') ↔ ∃ s s', Scan.upTo b n = .ok s ∧ Scan.upTo b (n + 1) = .ok s' ∧
      s.tally.hits < s'.tally.hits ∧ s.board.standing? n = some y ∧
      (∃ target, s.board.ahead? y = some target ∧ s.board.standing? target.toNat = some x) ∧
      s'.board.arena.find? x.id = some x' := by
  simp only [hit?, Option.bind_eq_bind, Option.bind_eq_some_iff, toOption_eq_some_iff,
    Option.guard_eq_some']
  constructor
  · rintro ⟨s, hs, s', hs', -, hlt, a, ha, target, hahead, d, hd, d', hd', heq⟩
    cases heq
    exact ⟨s, s', hs, hs', hlt, ha, ⟨target, hahead, hd⟩, hd'⟩
  · rintro ⟨s, s', hs, hs', hlt, hy, ⟨target, hahead, hx⟩, hx'⟩
    exact ⟨s, hs, s', hs', (), hlt, y, hy, target, hahead, x, hx, x', hx', rfl⟩

/-- Nobody hits after the last visit. -/
theorem Board.lt_size_of_hit? {b : Board} {n : Nat} {y x x' : Ant}
    (h : b.hit? n = some (y, x, x')) : n < b.size := by
  obtain ⟨s, s', hs, hs', hlt, -⟩ := Board.hit?_eq_some_iff.1 h
  by_contra hle
  rw [not_lt] at hle
  rw [Scan.upTo_of_size_le hle] at hs
  rw [Scan.upTo_of_size_le (Nat.le_succ_of_le hle), hs] at hs'
  rw [Except.ok.inj hs'] at hlt
  exact Nat.lt_irrefl _ hlt

/-- A quotient that is rounded toward zero is not negative as long as the dividend is not below zero
by as much as the divisor. -/
theorem tdiv_nonneg_iff {v d : Int} (hd : 0 < d) : 0 ≤ v.tdiv d ↔ -d < v := by
  by_cases hv : 0 ≤ v
  · exact iff_of_true (Int.tdiv_nonneg hv (Int.le_of_lt hd)) (by omega)
  · have hneg : v.tdiv d = -((-v) / d) := by
      rw [← Int.neg_neg v, Int.neg_tdiv, Int.neg_neg, Int.tdiv_eq_ediv_of_nonneg (by omega)]
    have hsmall : (-v) / d < 1 ↔ -v < 1 * d := Int.ediv_lt_iff_lt_mul hd
    rw [hneg]
    omega

namespace Board.WellFormed

variable {b : Board} {n : Nat} {y x x' : Ant} {cost meal divisor limit : Int}

/-- The hits that a scan counts are those that are made on its visits. -/
theorem hits_upTo_succ (hb : b.WellFormed) (hn : n < b.size) :
    ∃ s s', Scan.upTo b n = .ok s ∧ Scan.upTo b (n + 1) = .ok s' ∧
      s'.tally.hits = s.tally.hits + (b.hit? n).isSome.toNat := by
  obtain ⟨cost, meal, divisor, limit, hprices⟩ := hb.exists_prices
  obtain ⟨s, s', draw, o, hs, hs', hstage, hentry⟩ := Scan.exists_entry_upTo hb hn
  refine ⟨s, s', hs, hs', ?_⟩
  rcases hstage.hits_cases hb hprices hentry with
    hsame | ⟨hhit, y, x, target, hy, hahead, hx, -, hfound⟩
  · have hnone : b.hit? n = none := by
      rw [Option.eq_none_iff_forall_ne_some]
      rintro ⟨y, x, x'⟩ hhit
      obtain ⟨s₁, s₁', hs₁, hs₁', hlt, -⟩ := Board.hit?_eq_some_iff.1 hhit
      obtain rfl : s₁ = s := Except.ok.inj (hs₁.symm.trans hs)
      obtain rfl : s₁' = s' := Except.ok.inj (hs₁'.symm.trans hs')
      omega
    rw [hsame, hnone]
    rfl
  · have hsome := Board.hit?_eq_some_iff.2
      ⟨s, s', hs, hs', by omega, hy, ⟨target, hahead, hx⟩, hfound⟩
    rw [hhit, hsome]
    rfl

/-- A hit is made by an ant of one team on an ant of another, which loses the damage. -/
theorem worth_of_hit? (hb : b.WellFormed) (hprices : b.Prices cost meal divisor limit)
    (h : b.hit? n = some (y, x, x')) :
    y.team.hostile x.team = true ∧ y.energy = .int y.worth ∧ x.energy = .int x.worth ∧
      x'.energy = .int (x.worth - (y.worth - cost).tdiv divisor) := by
  obtain ⟨s, s', hs, hs', hhit, hy, ⟨target, hahead, hx⟩, hx'⟩ := Board.hit?_eq_some_iff.1 h
  obtain ⟨s₁, s₁', draw, o, hs₁, hs₁', hstage, hentry⟩ :=
    Scan.exists_entry_upTo hb (lt_size_of_hit? h)
  obtain rfl : s₁ = s := Except.ok.inj (hs₁.symm.trans hs)
  obtain rfl : s₁' = s' := Except.ok.inj (hs₁'.symm.trans hs')
  rcases hstage.hits_cases hb hprices hentry with
    hsame | ⟨-, y', d, target', hy', hahead', hd, hhostile, hfound⟩
  · omega
  · obtain rfl : y' = y := Option.some.inj (hy'.symm.trans hy)
    -- there is one ant ahead of the attacker
    obtain rfl : (target' : Int) = target := Option.some.inj (hahead'.symm.trans hahead)
    obtain rfl : d = x := Option.some.inj (hd.symm.trans hx)
    obtain rfl := Option.some.inj (hx'.symm.trans hfound)
    have hsound : ∀ {m : Nat} {a : Ant}, s₁.board.standing? m = some a → a.Sound :=
      fun ha => hstage.sound _ (Arena.mem_of_find? (Board.standing?_eq_some_iff.1 ha).2)
    exact ⟨hhostile, (hsound hy).energy_eq, (hsound hx).energy_eq, rfl⟩

end Board.WellFormed

/-! ### All hits -/

/-- A hit takes from its target what the attacker has when it has paid, divided by the divisor and
rounded toward zero.  So it leaves the target with no more than it had just if the attacker is then
above the negated divisor.  Every hit that a scan counts is made in this way.  The board need only
be well formed, as reachable ones are (`Reachable.wellFormed`). -/
theorem hit_lowers_iff {b : Board} (hb : b.WellFormed) :
    ∃ cost meal divisor limit, b.Prices cost meal divisor limit ∧
      (∃ s, Scan.run b = .ok s ∧ Scan.upTo b b.size = .ok s) ∧
      (∀ n < b.size, ∃ s s', Scan.upTo b n = .ok s ∧ Scan.upTo b (n + 1) = .ok s' ∧
        s'.tally.hits = s.tally.hits + (b.hit? n).isSome.toNat) ∧
      ∀ n y x x', b.hit? n = some (y, x, x') →
        y.team.hostile x.team = true ∧ y.energy = .int y.worth ∧ x.energy = .int x.worth ∧
        x'.energy = .int (x.worth - (y.worth - cost).tdiv divisor) ∧
        (x'.worth ≤ x.worth ↔ -divisor < y.worth - cost) := by
  obtain ⟨cost, meal, divisor, limit, hprices⟩ := hb.exists_prices
  obtain ⟨s₀, hs₀⟩ := Scan.exists_completes hb
  refine ⟨cost, meal, divisor, limit, hprices, ⟨s₀, hs₀.run_eq, ?_⟩, ?_, ?_⟩
  · rw [Scan.upTo_of_size_le (Nat.le_refl _), hs₀.run_eq]
  · exact fun n hn => hb.hits_upTo_succ hn
  · intro n y x x' hhit
    obtain ⟨hhostile, hy, hx, hx'⟩ := hb.worth_of_hit? hprices hhit
    refine ⟨hhostile, hy, hx, hx', ?_⟩
    have hworth : x'.worth = x.worth - (y.worth - cost).tdiv divisor := by
      rw [Ant.worth, hx']
      rfl
    rw [hworth, ← tdiv_nonneg_iff hprices.divisor_pos]
    omega

/-! ### A duel

Two ants attack each other.  The first strikes the second down below zero, and the second, which is
then in debt by more than the divisor, gives energy back. -/

/-- The duel. -/
def duel : Board :=
  ((Board.blank straitConfig (.ofConfig straitConfig) 3 1 3 (.ofSeed 0)).enter 0
    (simpleton 0 .blue .attack 200 .east)).enter 1 (simpleton 1 .red .attack 5 .west)

/-- The duel is put together by two ants entering. -/
theorem reachable_duel : Reachable duel :=
  .enter_simpleton (.enter_simpleton reachable_straitRow)

/-- The duel is in order. -/
theorem wellFormed_duel : duel.WellFormed :=
  reachable_duel.wellFormed (by decide +kernel)

/-- In the duel the first hit is made with 199 units and takes 19, the second is made with -15 and
gives one. -/
theorem hit?_duel :
    (duel.hit? 0).map (fun h => (h.1.worth, h.2.1.worth, h.2.2.worth)) = some (200, 5, -14) ∧
      (duel.hit? 1).map (fun h => (h.1.worth, h.2.1.worth, h.2.2.worth)) =
        some (-14, 199, 200) := by
  decide +kernel

/-- Of the two hits of the duel only the first takes energy from its target. -/
theorem duel_hits :
    duel.WellFormed ∧ ∃ cost meal divisor limit, duel.Prices cost meal divisor limit ∧
      (∃ y x x', duel.hit? 0 = some (y, x, x') ∧ -divisor < y.worth - cost ∧
        x'.worth ≤ x.worth) ∧
      ∃ y x x', duel.hit? 1 = some (y, x, x') ∧ ¬ -divisor < y.worth - cost ∧
        ¬ x'.worth ≤ x.worth := by
  obtain ⟨cost, meal, divisor, limit, hprices, -, -, hhits⟩ := hit_lowers_iff wellFormed_duel
  obtain rfl : cost = 1 := Value.int.inj (hprices.cost_eq.symm.trans rfl)
  obtain rfl : divisor = 10 := Value.int.inj (hprices.divisor_eq.symm.trans rfl)
  obtain ⟨hfirst, hsecond⟩ := hit?_duel
  obtain ⟨⟨y₀, x₀, x₀'⟩, hhit₀, hworth₀⟩ := Option.map_eq_some_iff.1 hfirst
  obtain ⟨⟨y₁, x₁, x₁'⟩, hhit₁, hworth₁⟩ := Option.map_eq_some_iff.1 hsecond
  simp only [Prod.mk.injEq] at hworth₀ hworth₁
  obtain ⟨-, -, -, -, hiff₀⟩ := hhits 0 y₀ x₀ x₀' hhit₀
  obtain ⟨-, -, -, -, hiff₁⟩ := hhits 1 y₁ x₁ x₁' hhit₁
  have habove : -10 < y₀.worth - 1 := by omega
  have hbelow : ¬ -10 < y₁.worth - 1 := by omega
  exact ⟨wellFormed_duel, 1, meal, 10, limit, hprices,
    ⟨y₀, x₀, x₀', hhit₀, habove, hiff₀.2 habove⟩, y₁, x₁, x₁', hhit₁, hbelow, mt hiff₁.1 hbelow⟩

/-- It is not so that a hit never raises the energy of its target, not even on boards that have been
set up with ants of positive energy, and where nobody is paid for acting or charged for eating. -/
theorem hit_may_raise :
    ¬ ∀ (b₀ b : Board) (n : Nat), Reachable b₀ → b₀.nextId ≤ idLimit → b₀.ticks = 0 →
      (∀ a ∈ b₀.arena.ants, 0 < a.worth) →
      (∀ cost meal divisor limit, b₀.Prices cost meal divisor limit → 0 ≤ cost ∧ 0 ≤ meal) →
      b₀.ticksFrom n = .ok b → ∀ m y x x', b.hit? m = some (y, x, x') → x'.worth ≤ x.worth := by
  intro h
  obtain ⟨⟨y, x, x'⟩, hhit, hworth⟩ := Option.map_eq_some_iff.1 hit?_duel.2
  simp only [Prod.mk.injEq] at hworth
  have hle := h duel duel 0 reachable_duel (by decide +kernel) rfl (by decide +kernel) ?_ rfl 1 y x
    x' hhit
  · omega
  · intro cost meal divisor limit hprices
    obtain rfl : cost = 1 := Value.int.inj (hprices.cost_eq.symm.trans rfl)
    obtain rfl : meal = 150 := Value.int.inj (hprices.meal_eq.symm.trans rfl)
    exact ⟨by decide, by decide⟩

end Formicary
