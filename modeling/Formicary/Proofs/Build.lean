import Formicary.Proofs.Setup

/-!
# Building boards

The checks of a configuration are made once, when it is read, and again when it is given another
size.  What they promise a board is that its width, height, gene length and attack divisor exceed
zero.  For a configuration whose amounts are integers a blank board is well formed, and so is a
populated one.
-/

namespace Formicary

/-- Integers are the same if they are equal. -/
theorem Value.same_int (m n : Int) : (Value.int m).same (.int n) = decide (m = n) := by
  simp [same, alike, quantity?, isUndefined]

namespace Config

/-- A configuration whose sizes and amounts are integers. -/
structure Integral (c : Config) : Prop where
  width : ∃ n, c.width = .int n
  height : ∃ n, c.height = .int n
  geneLength : ∃ n, c.value .geneLength = .int n
  initialEnergy : ∃ n, c.value .initialEnergy = .int n
  foodEnergy : ∃ n, c.value .foodEnergy = .int n
  splitEnergy : ∃ n, c.value .splitEnergy = .int n
  actionCost : ∃ n, c.value .actionCost = .int n
  attackDivisor : ∃ n, c.value .attackDivisor = .int n

variable {c c' : Config}

/-- An integer is at most zero or not. -/
theorem atMostZero_int (n : Int) : atMostZero (.int n) = .ok (decide (n ≤ 0)) := by
  have hle : (Quantity.ofInt n).le (.ofInt 0) = decide (n ≤ 0) := Quantity.le_ofInt n 0
  simp only [atMostZero, Value.quantity?, hle]

/-- A number that lies in `[0, 1]` is exact. -/
theorem exists_exact_of_inUnit {v : Value} (h : inUnit v = .ok true) :
    ∃ q, v.quantity? = some (.exact q) := by
  unfold inUnit at h
  cases hq : v.quantity? with
  | none =>
    rw [hq] at h
    cases h
  | some q =>
    rw [hq] at h
    cases q with
    | nan => cases h
    | infinite negative => cases negative <;> cases h
    | exact q => exact ⟨q, rfl⟩

/-- The growth chance of a configuration that passes its checks is exact. -/
theorem exists_chance_of_check (h : c.check = .ok c') :
    ∃ q, (c.value .foodGrowthChance).quantity? = some (.exact q) := by
  unfold check at h
  obtain ⟨-, h⟩ := of_guard_eq_ok false (by rintro _ ⟨⟩) h
  obtain ⟨-, h⟩ := of_guard_eq_ok false (by rintro _ ⟨⟩) h
  obtain ⟨-, h⟩ := of_guard_eq_ok false (by rintro _ ⟨⟩) h
  obtain ⟨-, h⟩ := of_guard_eq_ok false (by rintro _ ⟨⟩) h
  obtain ⟨hchance, -⟩ := of_guard_eq_ok true (by rintro _ ⟨⟩) h
  exact exists_exact_of_inUnit hchance

/-- The checks of a configuration of integers. -/
theorem check_eq_of_int {w k l v : Int} (hw : c.width = .int w) (hk : c.height = .int k)
    (hl : c.value .geneLength = .int l) (hv : c.value .attackDivisor = .int v) :
    c.check =
      if w ≤ 0 ∨ k ≤ 0 then .error (.tooSmall (.int w) (.int k))
      else if l ≤ 0 then .error (.geneLength (.int l))
      else if v ≤ 0 then .error (.attackDivisor (.int v))
      else inUnit (c.value .foodGrowthChance) >>= fun fits =>
        if fits then .ok c else .error (.growthChance (c.value .foodGrowthChance)) := by
  simp only [check, hw, hk, hl, hv, atMostZero_int, bind, Except.bind, pure, Except.pure]
  by_cases hw0 : w ≤ 0
  · simp [hw0, throw, throwThe, MonadExceptOf.throw]
  by_cases hk0 : k ≤ 0
  · simp [hw0, hk0, throw, throwThe, MonadExceptOf.throw]
  by_cases hl0 : l ≤ 0
  · simp [hw0, hk0, hl0, throw, throwThe, MonadExceptOf.throw]
  by_cases hv0 : v ≤ 0
  · simp [hw0, hk0, hl0, hv0, throw, throwThe, MonadExceptOf.throw]
  simp [hw0, hk0, hl0, hv0, throw, throwThe, MonadExceptOf.throw]

/-- A configuration of integers passes its checks if its sizes, its gene length and its attack
divisor exceed zero and its growth chance lies in `[0, 1]`, and only then. -/
theorem check_eq_ok_iff {w k l v : Int} (hw : c.width = .int w) (hk : c.height = .int k)
    (hl : c.value .geneLength = .int l) (hv : c.value .attackDivisor = .int v) :
    c.check = .ok c' ↔
      c' = c ∧ 0 < w ∧ 0 < k ∧ 0 < l ∧ 0 < v ∧ inUnit (c.value .foodGrowthChance) = .ok true := by
  rw [check_eq_of_int hw hk hl hv]
  constructor
  · intro h
    split_ifs at h with hsize hl0 hv0
    obtain ⟨fits, hfits, hrest⟩ := exists_of_bind_eq_ok h
    cases fits with
    | false => cases hrest
    | true =>
      cases hrest
      exact ⟨rfl, by omega, by omega, by omega, by omega, hfits⟩
  · rintro ⟨rfl, hw0, hk0, hl0, hv0, hfits⟩
    rw [if_neg (by omega), if_neg (by omega), if_neg (by omega), hfits]
    rfl

/-- What the checks of a configuration of integers promise. -/
theorem Integral.of_check (hc : c.Integral) (h : c.check = .ok c') :
    c' = c ∧ (∃ w, c.width = .int w ∧ 0 < w) ∧ (∃ k, c.height = .int k ∧ 0 < k) ∧
      ∃ v, c.value .attackDivisor = .int v ∧ 0 < v := by
  obtain ⟨w, hw⟩ := hc.width
  obtain ⟨k, hk⟩ := hc.height
  obtain ⟨l, hl⟩ := hc.geneLength
  obtain ⟨v, hv⟩ := hc.attackDivisor
  obtain ⟨rfl, hwpos, hkpos, -, hvpos, -⟩ := (check_eq_ok_iff hw hk hl hv).1 h
  exact ⟨rfl, ⟨w, hw, hwpos⟩, ⟨k, hk, hkpos⟩, ⟨v, hv, hvpos⟩⟩

/-- A configuration of integers keeps integers in another size. -/
theorem Integral.resize (hc : c.Integral) {w k : Int}
    (h : c.resize (.int w) (.int k) = .ok c') : c'.Integral ∧ c'.check = .ok c' := by
  unfold Config.resize at h
  generalize hresized : Config.mk _ = r at h
  have hint : r.Integral := by
    subst hresized
    exact ⟨⟨w, rfl⟩, ⟨k, rfl⟩, hc.geneLength, hc.initialEnergy, hc.foodEnergy, hc.splitEnergy,
      hc.actionCost, hc.attackDivisor⟩
  obtain ⟨rfl, -⟩ := hint.of_check h
  exact ⟨hint, h⟩

/-- A configuration of integers that passes its checks does so in any size above zero. -/
theorem Integral.exists_resize (hc : c.Integral) (hcheck : c.check = .ok c) {w k : Int} (hw : 0 < w)
    (hk : 0 < k) :
    ∃ c', c.resize (.int w) (.int k) = .ok c' ∧ c'.width = .int w ∧ c'.height = .int k ∧
      ∀ f, f ≠ .width → f ≠ .height → c'.value f = c.value f := by
  obtain ⟨w₀, hw₀⟩ := hc.width
  obtain ⟨k₀, hk₀⟩ := hc.height
  obtain ⟨l, hl⟩ := hc.geneLength
  obtain ⟨v, hv⟩ := hc.attackDivisor
  obtain ⟨-, -, -, hlpos, hvpos, hfits⟩ := (check_eq_ok_iff hw₀ hk₀ hl hv).1 hcheck
  unfold Config.resize
  generalize hresized : Config.mk _ = c'
  have hvalue : ∀ f, f ≠ .width → f ≠ .height → c'.value f = c.value f := by
    intro f hwidth hheight
    rw [← hresized]
    cases f with
    | width => exact absurd rfl hwidth
    | height => exact absurd rfl hheight
    | _ => rfl
  have hw' : c'.width = .int w := by rw [← hresized]; rfl
  have hk' : c'.height = .int k := by rw [← hresized]; rfl
  have hl' := (hvalue .geneLength (by decide) (by decide)).trans hl
  have hv' := (hvalue .attackDivisor (by decide) (by decide)).trans hv
  rw [← hvalue .foodGrowthChance (by decide) (by decide)] at hfits
  exact ⟨c', (check_eq_ok_iff hw' hk' hl' hv').2 ⟨rfl, hw, hk, hlpos, hvpos, hfits⟩, hw', hk',
    hvalue⟩

/-- The standard configuration is one of integers. -/
theorem integral_standard : standard.Integral :=
  ⟨⟨_, rfl⟩, ⟨_, rfl⟩, ⟨_, rfl⟩, ⟨_, rfl⟩, ⟨_, rfl⟩, ⟨_, rfl⟩, ⟨_, rfl⟩, ⟨_, rfl⟩⟩

/-- The configuration of a board is one of integers that passes its checks. -/
theorem integral_fitConfig {w k : Int} {config : Option Config}
    (hconfig : ∀ c₀, config = some c₀ → c₀.Integral ∧ c₀.check = .ok c₀)
    (h : Board.fitConfig (.int w) (.int k) config = .ok c) : c.Integral ∧ c.check = .ok c := by
  cases config with
  | none => exact integral_standard.resize h
  | some c₀ =>
    obtain ⟨hint, hcheck⟩ := hconfig c₀ rfl
    simp only [Board.fitConfig] at h
    split at h
    · cases h
      exact ⟨hint, hcheck⟩
    · exact hint.resize h

/-- A configuration of integers that passes its checks fits any size above zero, and only its sizes
change. -/
theorem Integral.exists_fitConfig (hc : c.Integral) (hcheck : c.check = .ok c) {w k : Int}
    (hw : 0 < w) (hk : 0 < k) :
    ∃ c', Board.fitConfig (.int w) (.int k) (some c) = .ok c' ∧ c'.width = .int w ∧
      c'.height = .int k ∧ ∀ f, f ≠ .width → f ≠ .height → c'.value f = c.value f := by
  unfold Board.fitConfig
  dsimp only
  split
  · rename_i hsame
    obtain ⟨w₀, hw₀⟩ := hc.width
    obtain ⟨k₀, hk₀⟩ := hc.height
    rw [hw₀, hk₀, Value.same_int, Value.same_int, Bool.and_eq_true, decide_eq_true_eq,
      decide_eq_true_eq] at hsame
    exact ⟨c, rfl, hsame.1 ▸ hw₀, hsame.2 ▸ hk₀, fun f _ _ => rfl⟩
  · exact hc.exists_resize hcheck hw hk

/-- The rules of a configuration of integers that passes its checks. -/
theorem Integral.rules (hc : c.Integral) (h : c.check = .ok c) : (Rules.ofConfig c).Integral :=
  ⟨hc.initialEnergy, hc.foodEnergy, hc.splitEnergy, hc.actionCost, (hc.of_check h).2.2.2⟩

end Config

namespace Board

variable {b : Board} {c : Config}

/-- A blank board has as many cells as it is to have. -/
theorem size_blank (c : Config) (rules : Rules) (w k n : Nat) (r : Random.Stream) :
    (blank c rules w k n r).size = n := Array.size_replicate

/-- A blank board shows empty cells. -/
theorem displays_blank (c : Config) (rules : Rules) (w k n : Nat) (r : Random.Stream) :
    (blank c rules w k n r).Displays fun _ => .empty := by
  refine ⟨?_, ?_, ?_⟩
  · rw [size_blank]
    exact Array.size_replicate
  · intro m hm
    rw [size_blank] at hm
    exact Array.getElem?_replicate.trans (if_pos hm)
  · intro m hm
    rw [size_blank] at hm
    exact Array.getElem?_replicate.trans (if_pos hm)

/-- On empty cells there are no ants. -/
theorem peopled_empty (size : Nat) : Peopled (fun _ => .empty) size .empty 0 where
  mem_ids_iff _ := ⟨fun hid => (List.not_mem_nil hid).elim, fun ⟨_, _, hc⟩ => nomatch hc⟩
  eq_of_content _ _ hc := nomatch hc
  ids_nodup := List.nodup_nil
  sound _ ha := (List.not_mem_nil ha).elim
  id_nonneg _ hid := (List.not_mem_nil hid).elim
  id_lt _ hid := (List.not_mem_nil hid).elim
  next_nonneg := Int.le_refl 0

/-- A blank board of positive sizes with rules of integers is well formed. -/
theorem wellFormed_blank_of_pos {w k n : Int} (hw : c.width = .int w) (hwpos : 0 < w)
    (hk : c.height = .int k) (hkpos : 0 < k) (hn : c.cells? = some n)
    (hrules : (Rules.ofConfig c).Integral)
    (hchance : ∃ q, (c.value .foodGrowthChance).quantity? = some (.exact q))
    (r : Random.Stream) :
    (blank c (Rules.ofConfig c) w.toNat k.toNat n.toNat r).WellFormed := by
  have hn' : n = w * k + c.spareCells := by
    simp only [Config.cells?, hw, hk, Value.integer?] at hn
    exact (Option.some.inj hn).symm
  obtain ⟨p, rfl⟩ := Int.eq_ofNat_of_zero_le (Int.le_of_lt hwpos)
  obtain ⟨q, rfl⟩ := Int.eq_ofNat_of_zero_le (Int.le_of_lt hkpos)
  have hcells : n.toNat = p * q + c.spareCells := by
    rw [hn']
    omega
  have hdisplays := displays_blank c (Rules.ofConfig c) p q n.toNat r
  have hcontent := hdisplays.content_eq_of_empty fun _ _ => rfl
  refine ⟨hw, hk, Int.natCast_pos.1 hwpos, Int.natCast_pos.1 hkpos,
    (size_blank ..).trans hcells, rfl, hrules, hchance, ?_, ?_⟩
  · rw [Int.toNat_natCast, Int.toNat_natCast, hcontent]
    exact hdisplays
  · rw [Int.toNat_natCast, Int.toNat_natCast, hcontent]
    exact peopled_empty _

/-- A blank board is well formed. -/
theorem wellFormed_blank (hc : c.Integral) (h : c.check = .ok c) {w k n : Int}
    (hw : c.width.integer? = some w) (hk : c.height.integer? = some k) (hn : c.cells? = some n)
    (r : Random.Stream) :
    (blank c (Rules.ofConfig c) w.toNat k.toNat n.toNat r).WellFormed := by
  obtain ⟨-, ⟨w', hw', hwpos⟩, ⟨k', hk', hkpos⟩, -⟩ := hc.of_check h
  rw [hw', Value.integer?, Option.some.injEq] at hw
  rw [hk', Value.integer?, Option.some.injEq] at hk
  subst hw hk
  exact wellFormed_blank_of_pos hw' hwpos hk' hkpos hn (hc.rules h)
    (Config.exists_chance_of_check h) r

/-- A board without a population is well formed. -/
theorem wellFormed_of_unpopulated (hc : c.Integral) (hcheck : c.check = .ok c)
    {memory : Memory} {r : Random.Stream} (h : unpopulated memory c r = .ok b) : b.WellFormed := by
  simp only [unpopulated] at h
  split at h
  · rename_i w k n hw hk hn
    split at h
    · cases h
    · cases h
      exact wellFormed_blank hc hcheck hw hk hn r
  · rename_i hnone
    -- a configuration of integers counts its cells
    obtain ⟨w, hw⟩ := hc.width
    obtain ⟨k, hk⟩ := hc.height
    have hcells : c.cells? = some (w * k + c.spareCells) := by
      simp only [Config.cells?, hw, hk, Value.integer?]
      rfl
    exact (hnone w k _ (by rw [hw]; rfl) (by rw [hk]; rfl) hcells).elim

/-- A board that is built is well formed. -/
theorem wellFormed_of_build {memory : Memory} {w k : Int} {config : Option Config}
    {random : Option Random.Stream}
    (hconfig : ∀ c₀, config = some c₀ → c₀.Integral ∧ c₀.check = .ok c₀)
    (h : build memory (.int w) (.int k) config random = .ok b) : b.WellFormed := by
  obtain ⟨c, hfit, hrest⟩ := exists_of_bind_eq_ok h
  obtain ⟨hint, hcheck⟩ := Config.integral_fitConfig hconfig (eq_ok_of_mapError_eq_ok hfit)
  cases random with
  | some r => exact wellFormed_of_unpopulated hint hcheck hrest
  | none =>
    obtain ⟨r, -, hr⟩ := exists_of_bind_eq_ok hrest
    exact wellFormed_of_unpopulated hint hcheck hr

/-- A board that is built and populated is well formed. -/
theorem wellFormed_of_generate {memory : Memory} {w k : Int} {config : Option Config}
    {random : Option Random.Stream}
    (hconfig : ∀ c₀, config = some c₀ → c₀.Integral ∧ c₀.check = .ok c₀)
    (h : generate memory (.int w) (.int k) config random = .ok b) : b.WellFormed := by
  obtain ⟨b₀, hbuild, hpopulate⟩ := exists_of_bind_eq_ok h
  have hb₀ := wellFormed_of_build hconfig hbuild
  exact hb₀.populate (eq_ok_of_mapError_eq_ok hpopulate)

end Board

end Formicary
