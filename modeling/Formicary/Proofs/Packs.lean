import Formicary.Proofs.Acceptance
import Formicary.Proofs.Dice
import Formicary.Proofs.Ledger

/-!
# Running accepted packs

The configuration of an accepted document makes a board exactly if its sizes are written as
integers, there is room for the cells, and, should the dice put an ant on the board, its gene length
is written as an integer too.  The schema takes a double without a fraction for an integer, a board
does not (`accepted_without_board`).  Whatever board is made is in order, and if no amount is
written as a double it stays so tick after tick (`accepted_pack_lives`).
-/

namespace Formicary

/-! ### Configurations that make boards -/

namespace Config

/-- The sizes are written as integers, and there is room for the cells. -/
structure Sized (c : Config) (memory : Memory) (w k n : Int) : Prop where
  width : c.width = .int w
  height : c.height = .int k
  cells : c.cells? = some n
  room : Crowding.of? memory n.toNat = none

variable {c : Config}

/-- A configuration that passes its checks does so in its own size. -/
theorem resize_self (h : c.check = .ok c) : c.resize c.width c.height = .ok c := by
  unfold resize
  generalize hresized : Config.mk _ = c'
  obtain rfl : c' = c := by
    subst hresized
    obtain ⟨value⟩ := c
    congr 1
    funext f
    cases f <;> rfl
  exact h

/-- A board of the size of its configuration keeps that configuration. -/
theorem fitConfig_self (h : c.check = .ok c) :
    Board.fitConfig c.width c.height (some c) = .ok c := by
  simp only [Board.fitConfig]
  split
  · rfl
  · exact resize_self h

end Config

/-- Cells that there is room for can be numbered by ids. -/
theorem le_idLimit_of_room {memory : Memory} {n : Nat} (h : Crowding.of? memory n = none) :
    (n : Int) ≤ idLimit := by
  have hfew := (Crowding.of?_eq_none_iff.1 h).1
  rw [idLimit]
  omega

namespace Board

variable {b : Board} {memory : Memory} {c : Config} {w k n : Int} {r : Random.Stream}

/-- A generated board is a board of the fitted configuration with dice thrown. -/
theorem generate_eq {c' : Config} {width height : Value}
    (hfit : fitConfig width height (some c) = .ok c') (r : Random.Stream) :
    generate memory width height (some c) (some r) =
      unpopulated memory c' r >>= fun b => b.populate.mapError .fault := by
  unfold generate build
  rw [hfit]
  rfl

/-- A board of a configuration that passes its checks is a blank one with dice thrown. -/
theorem ofConfig_eq (h : c.check = .ok c) (r : Random.Stream) :
    ofConfig memory c (some r) = unpopulated memory c r >>= fun b => b.populate.mapError .fault :=
  generate_eq (Config.fitConfig_self h) r

/-- The blank board of a configuration. -/
theorem unpopulated_eq (h : c.Sized memory w k n) (r : Random.Stream) :
    unpopulated memory c r = .ok (blank c (Rules.ofConfig c) w.toNat k.toNat n.toNat r) := by
  simp only [unpopulated, h.width, h.height, h.cells, Value.integer?, h.room]

/-- A configuration that conforms to the schema makes a blank board only if its sizes are written
as integers and there is room. -/
theorem sized_of_unpopulated (hc : Pack.Conforms c) (h : unpopulated memory c r = .ok b) :
    ∃ w k n, c.Sized memory w k n := by
  simp only [unpopulated] at h
  split at h
  · rename_i w k n hw hk hn
    split at h
    · cases h
    · rename_i hroom
      exact ⟨w, k, n, hc.eq_int (by simp [Pack.wholeFields]) hw,
        hc.eq_int (by simp [Pack.wholeFields]) hk, hn, hroom⟩
  · obtain ⟨_, -, hm⟩ := exists_of_bind_eq_ok h
    cases hm

/-- The sizes of a configuration that conforms to the schema are positive. -/
theorem sizes_pos (hc : Pack.Conforms c) (h : c.Sized memory w k n) : 0 < w ∧ 0 < k := by
  have hw : (Pack.atLeast .integer 1).accepts (.int w) = true := h.width ▸ hc .width
  have hk : (Pack.atLeast .integer 1).accepts (.int k) = true := h.height ▸ hc .height
  exact ⟨Pack.le_of_accepts hw, Pack.le_of_accepts hk⟩

/-- The blank board of a configuration that conforms to the schema is well formed, if its amounts
are integers. -/
theorem wellFormed_of_sized (hc : Pack.Conforms c) (hcheck : c.check = .ok c)
    (h : c.Sized memory w k n) (hrules : (Rules.ofConfig c).Integral) (r : Random.Stream) :
    (blank c (Rules.ofConfig c) w.toNat k.toNat n.toNat r).WellFormed := by
  obtain ⟨hw, hk⟩ := sizes_pos hc h
  exact wellFormed_blank_of_pos h.width hw h.height hk h.cells hrules
    (Config.exists_chance_of_check hcheck) r

/-- Without energies that board is well formed, whatever the amounts of the configuration are. -/
theorem wellFormed_frugal (hc : Pack.Conforms c) (hcheck : c.check = .ok c)
    (h : c.Sized memory w k n) (r : Random.Stream) :
    ((blank c (Rules.ofConfig c) w.toNat k.toNat n.toNat r).under .frugal).WellFormed := by
  obtain ⟨hw, hk⟩ := sizes_pos hc h
  have hchance := Config.exists_chance_of_check hcheck
  exact wellFormed_blank_of_pos (c := c.frugal) h.width hw h.height hk h.cells
    (Rules.integral_frugal (Rules.ofConfig c)) hchance r

/-- Dice are thrown on the blank board of a configuration that conforms to the schema, if there is a
gene length should one show an ant. -/
theorem exists_ofConfig (hc : Pack.Conforms c) (hcheck : c.check = .ok c) (h : c.Sized memory w k n)
    (hgene : antFace ∈ dice n.toNat r →
      ∃ l : Int, c.value .geneLength = .int l ∧ l ≤ 0x8000000000000000) :
    ∃ b, ofConfig memory c (some r) = .ok b := by
  have hsize := size_blank c (Rules.ofConfig c) w.toNat k.toNat n.toNat r
  have hid : (0 : Int) + n.toNat ≤ idLimit := by
    rw [Int.zero_add]
    exact le_idLimit_of_room h.room
  have hlength : antFace ∈ dice n.toNat r → ∃ l, (Rules.ofConfig c).geneLength = some l ∧
      0 < l ∧ l ≤ 0x8000000000000000 := by
    intro hant
    obtain ⟨l, hl, hle⟩ := hgene hant
    have haccepts : (Pack.atLeast .integer 1).accepts (.int l) = true := hl ▸ hc .geneLength
    have hpos := Pack.le_of_accepts haccepts
    refine ⟨l.toNat, ?_, by omega, by omega⟩
    rw [Rules.ofConfig, hl]
    rfl
  rw [← hsize] at hid hlength
  obtain ⟨b', hb'⟩ := (wellFormed_frugal hc hcheck h r).exists_populate hid hlength
  rw [populate_frugal] at hb'
  cases hrun : (blank c (Rules.ofConfig c) w.toNat k.toNat n.toNat r).populate with
  | ok b =>
    refine ⟨b, ?_⟩
    rw [ofConfig_eq hcheck, unpopulated_eq h]
    exact congrArg (Except.mapError BuildError.fault) hrun
  | error e =>
    rw [hrun] at hb'
    cases hb'

/-- A board of a configuration that conforms to the schema is in order, and the configuration has
what it takes. -/
theorem of_ofConfig (hc : Pack.Conforms c) (hcheck : c.check = .ok c)
    (hmade : ofConfig memory c (some r) = .ok b) :
    ∃ w k n, c.Sized memory w k n ∧
      (antFace ∈ dice n.toNat r → ∃ l, c.value .geneLength = .int l) ∧
      (blank c (Rules.ofConfig c) w.toNat k.toNat n.toNat r).populate = .ok b ∧
      b.audit = none := by
  rw [ofConfig_eq hcheck] at hmade
  obtain ⟨b₀, hblank, hdice⟩ := exists_of_bind_eq_ok hmade
  obtain ⟨w, k, n, h⟩ := sized_of_unpopulated hc hblank
  rw [unpopulated_eq h] at hblank
  cases hblank
  have hpopulate := eq_ok_of_mapError_eq_ok hdice
  have hb := wellFormed_frugal hc hcheck h r
  have hguise := populate_frugal (blank c (Rules.ofConfig c) w.toNat k.toNat n.toNat r)
  rw [hpopulate] at hguise
  refine ⟨w, k, n, h, fun hant => ?_, hpopulate, ?_⟩
  · rw [← size_blank c (Rules.ofConfig c) w.toNat k.toNat n.toNat r] at hant
    obtain ⟨l, hl⟩ := hb.geneLength_of_populate hguise hant
    have hlength : (c.value .geneLength).integer?.map Int.toNat = some l := hl
    obtain ⟨m, hm, -⟩ := Option.map_eq_some_iff.1 hlength
    exact ⟨m, hc.eq_int (by simp [Pack.wholeFields]) hm⟩
  · rw [← audit_frugal]
    exact (hb.populate hguise).consistent.audit_eq_none

end Board

namespace Pack

/-- The fields that are amounts to reckon with. -/
def amounts : List Config.Field :=
  [.initialEnergy, .foodEnergy, .splitEnergy, .actionCost, .attackDivisor]

/-- If no amount is written as a double, the rules are rules of integers. -/
theorem Conforms.rules {c : Config} (hc : Conforms c)
    (hfloat : ∀ f ∈ amounts, ∀ x, c.value f ≠ .float x) : (Rules.ofConfig c).Integral := by
  have hint : ∀ f ∈ amounts, ∃ n, c.value f = .int n := fun f hf =>
    hc.exists_int (by revert hf; cases f <;> simp [amounts, wholeFields]) (hfloat f hf)
  obtain ⟨v, hv⟩ := hint .attackDivisor (by simp [amounts])
  have hpos : (atLeast .integer 1).accepts (.int v) = true := hv ▸ hc .attackDivisor
  exact ⟨hint .initialEnergy (by simp [amounts]), hint .foodEnergy (by simp [amounts]),
    hint .splitEnergy (by simp [amounts]), hint .actionCost (by simp [amounts]),
    v, hv, le_of_accepts hpos⟩

end Pack

/-! ### Accepted packs -/

/-- An accepted pack makes a board if its sizes are written as integers and there is room for the
cells, and if, should the dice show an ant, its gene length is written as an integer.  Every board
that it makes is of this kind and in order.  If moreover no amount is written as a double then every
later tick is completed and leaves the board in order, as long as there is an id left for every cell
and tick.  The keys of the second section differ, as those of a mapping do. -/
theorem accepted_pack_lives {doc : List (Value × Value)} {c : Config}
    (h : Pack.schema.accepts (.mapping doc) = true)
    (hkeys : ∀ life, Value.find? doc Pack.lifeSection = some (.mapping life) →
      Value.DistinctKeys life)
    (hc : Pack.configOf (.mapping doc) = .ok c) (memory : Memory) (r : Random.Stream) :
    (∀ w k n, c.Sized memory w k n →
      (antFace ∈ Board.dice n.toNat r →
        ∃ l : Int, c.value .geneLength = .int l ∧ l ≤ 0x8000000000000000) →
      ∃ b, Board.ofConfig memory c (some r) = .ok b) ∧
    ∀ b, Board.ofConfig memory c (some r) = .ok b →
      (∃ w k n, c.Sized memory w k n ∧
        (antFace ∈ Board.dice n.toNat r → ∃ l, c.value .geneLength = .int l)) ∧
      b.audit = none ∧
      ((∀ f ∈ Pack.amounts, ∀ x, c.value f ≠ .float x) →
        ∀ n : Nat, b.nextId + n * b.size ≤ idLimit →
          ∃ b', b.ticksFrom n = .ok b' ∧ b'.audit = none) := by
  have hconforms := Pack.conforms_of_accepts h hkeys hc
  have hcheck := Pack.check_of_configOf hc
  refine ⟨fun w k n hsized hgene => Board.exists_ofConfig hconforms hcheck hsized hgene,
    fun b hmade => ?_⟩
  obtain ⟨w, k, n, hsized, hgene, hpopulate, haudit⟩ := Board.of_ofConfig hconforms hcheck hmade
  refine ⟨⟨w, k, n, hsized, hgene⟩, haudit, fun hfloat m hroom => ?_⟩
  have hb : b.WellFormed :=
    (Board.wellFormed_of_sized hconforms hcheck hsized (hconforms.rules hfloat) r).populate
      hpopulate
  obtain ⟨b', hb'⟩ := hb.exists_ticksFrom m hroom
  exact ⟨b', hb', (hb.ticksFrom hb').consistent.audit_eq_none⟩

/-- A document that writes all its numbers as integers. -/
def paddock : List (Value × Value) :=
  [(.text "grid", .mapping [(.text "width", .int 3), (.text "height", .int 2)]),
    (.text "lifecycle", .mapping [(.text "gene_length", .int 4), (.text "split_energy", .int 10)])]

/-- The document is accepted, there is an ant on the board that it makes, and the board lives on. -/
theorem paddock_lives :
    Pack.schema.accepts (.mapping paddock) = true ∧
      (∀ life, Value.find? paddock Pack.lifeSection = some (.mapping life) →
        Value.DistinctKeys life) ∧
      ∃ c b, Pack.configOf (.mapping paddock) = .ok c ∧
        Board.ofConfig .unbounded c (some (.ofSeed 2)) = .ok b ∧ b.arena.size = 1 ∧ b.audit = none ∧
        ∀ n : Nat, b.nextId + n * b.size ≤ idLimit →
          ∃ b', b.ticksFrom n = .ok b' ∧ b'.audit = none := by
  have haccepted : Pack.schema.accepts (.mapping paddock) = true := by decide +kernel
  have hkeys : ∀ life, Value.find? paddock Pack.lifeSection = some (.mapping life) →
      Value.DistinctKeys life := by
    intro life hlife
    cases hlife
    decide +kernel
  have hmade : ((Pack.configOf (.mapping paddock)).toOption.bind fun c =>
      (Board.ofConfig .unbounded c (some (.ofSeed 2))).toOption.map fun b =>
        (Pack.amounts.map c.value, b.arena.size)) =
      some ([.int 50, .int 150, .int 10, .int 1, .int 10], 1) := by
    decide +kernel
  obtain ⟨c, hc, hrest⟩ := Option.bind_eq_some_iff.1 hmade
  obtain ⟨b, hb, hvalues⟩ := Option.map_eq_some_iff.1 hrest
  rw [toOption_eq_some_iff] at hc hb
  rw [Prod.mk.injEq] at hvalues
  have hfloat : ∀ f ∈ Pack.amounts, ∀ x, c.value f ≠ .float x := by
    intro f hf x hx
    have hmem := List.mem_map_of_mem (f := c.value) hf
    rw [hvalues.1, hx] at hmem
    simp at hmem
  obtain ⟨-, haudit, hlives⟩ :=
    (accepted_pack_lives haccepted hkeys hc .unbounded (.ofSeed 2)).2 b hb
  exact ⟨haccepted, hkeys, c, b, hc, hb, hvalues.2, haudit, hlives hfloat⟩

/-- A document that writes its width as a double. -/
def unevenPaddock : List (Value × Value) :=
  [(.text "grid", .mapping [(.text "width", .float (Double.ofInt 3)), (.text "height", .int 2)])]

/-- Not every accepted document makes a board: the width may be a double without a fraction. -/
theorem accepted_without_board :
    ¬ ∀ (doc : List (Value × Value)) (c : Config) (memory : Memory) (r : Random.Stream),
      Pack.schema.accepts (.mapping doc) = true →
      (∀ life, Value.find? doc Pack.lifeSection = some (.mapping life) →
        Value.DistinctKeys life) →
      Pack.configOf (.mapping doc) = .ok c →
      ∃ b, Board.ofConfig memory c (some r) = .ok b ∧ b.audit = none ∧
        ∀ n, ∃ b', b.ticksFrom n = .ok b' := by
  intro hall
  have haccepted : Pack.schema.accepts (.mapping unevenPaddock) = true := by decide +kernel
  have hwidth : (Pack.configOf (.mapping unevenPaddock)).toOption.map Config.width =
      some (.float (Double.ofInt 3)) := by decide +kernel
  obtain ⟨c, hc, hfloat⟩ := Option.map_eq_some_iff.1 hwidth
  rw [toOption_eq_some_iff] at hc
  have hkeys : ∀ life, Value.find? unevenPaddock Pack.lifeSection = some (.mapping life) →
      Value.DistinctKeys life := fun _ hlife => by cases hlife
  obtain ⟨b, hb, -⟩ := hall unevenPaddock c .unbounded (.ofSeed 2) haccepted hkeys hc
  rw [Board.ofConfig_eq (Pack.check_of_configOf hc)] at hb
  obtain ⟨b₀, hblank, -⟩ := exists_of_bind_eq_ok hb
  have hconforms := Pack.conforms_of_accepts haccepted hkeys hc
  obtain ⟨w, k, n, hsized⟩ := Board.sized_of_unpopulated hconforms hblank
  cases hfloat.symm.trans hsized.width

end Formicary
