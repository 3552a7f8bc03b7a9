import Formicary.Proofs.Lineage
import Formicary.Proofs.Packs

/-!
# Populations by dice

Before anything else is drawn for a board, a die is thrown for each of its cells.  What the cells
hold in the end is a function of the faces alone (`layout`): ants, whose ids count them cell by
cell, food, or nothing.  It does not matter how many random numbers the ants take up that are drawn
on the way.

`Board.Dealt` is the invariant of the dice (`Board.Dealt.settle`), and `Board.PopulatedBy` is what
it comes to for a generated board.
-/

namespace Formicary

/-! ### The cells that dice make -/

/-- What a die puts on a cell, the next ant having the given id. -/
def deal (face : Nat) (id : Int) : Content :=
  if face = antFace then .ant id else if face = foodFace then .food else .empty

/-- What a cell holds for the faces of all dice.  An ant is numbered by the ants before it. -/
def layout (faces : List Nat) (n : Nat) : Content :=
  match faces[n]? with
  | some face => deal face ((faces.take n).count antFace)
  | none => .empty

/-- One die more adds one cell. -/
theorem layout_concat (faces : List Nat) (face : Nat) :
    layout (faces ++ [face]) =
      Function.update (layout faces) faces.length (deal face (faces.count antFace)) := by
  funext n
  unfold layout
  rcases Nat.lt_trichotomy n faces.length with hn | rfl | hn
  · rw [Function.update_of_ne (Nat.ne_of_lt hn), List.getElem?_append_left hn,
      List.take_append_of_le_length (Nat.le_of_lt hn)]
  · rw [Function.update_self, List.getElem?_concat_length, List.take_left]
  · rw [Function.update_of_ne (Nat.ne_of_gt hn), List.getElem?_eq_none (Nat.le_of_lt hn),
      List.getElem?_eq_none]
    rw [List.length_append]
    exact hn

/-- The ants that dice put on cells are numbered from the first cell on. -/
theorem layout_ants (faces : List Nat) :
    (List.range faces.length).filterMap (fun n => (layout faces n).ant?) =
      consecutive 0 (faces.count antFace) := by
  induction faces using List.reverseRecOn with
  | nil => rfl
  | append_singleton faces face ih =>
    -- the last die leaves the cells before its own as they were
    have hbefore : ∀ n ∈ List.range faces.length,
        (layout (faces ++ [face]) n).ant? = (layout faces n).ant? := fun n hn => by
      rw [layout_concat, Function.update_of_ne (Nat.ne_of_lt (List.mem_range.1 hn))]
    have hlast : layout (faces ++ [face]) faces.length = deal face (faces.count antFace) := by
      rw [layout_concat, Function.update_self]
    rw [List.length_append, List.length_singleton, List.range_succ, List.filterMap_append,
      List.filterMap_congr hbefore, ih, List.filterMap_cons, List.filterMap_nil, hlast,
      List.count_append]
    by_cases hant : face = antFace
    · rw [hant, List.count_singleton_self, consecutive_succ, Int.zero_add]
      rfl
    · have hnobody : (deal face (faces.count antFace)).ant? = none := by
        unfold deal
        rw [if_neg hant]
        split <;> rfl
      rw [hnobody, List.count_singleton, if_neg (by simpa using hant)]
      exact List.append_nil _

/-! ### Room for the cells -/

/-- The number of cells of a configuration that counts them. -/
theorem Config.Sized.cells_eq {c : Config} {memory : Memory} {w k n : Int}
    (h : c.Sized memory w k n) :
    n = w * k + c.spareCells := by
  have hcells := h.cells
  simp only [Config.cells?, h.width, h.height, Value.integer?, Option.bind_eq_bind,
    Option.bind_some, Option.some.injEq] at hcells
  exact hcells.symm

/-- The number of spare cells depends on a single field. -/
theorem Config.spareCells_congr {c c' : Config} (h : c'.value .spareCell = c.value .spareCell) :
    c'.spareCells = c.spareCells := by
  unfold Config.spareCells
  rw [h]

/-- A configuration counts its cells, if there is room for them. -/
theorem Config.sized_of_room {c : Config} {memory : Memory} {w k : Int} (hw : c.width = .int w)
    (hk : c.height = .int k) {n : Nat} (hn : (n : Int) = w * k + c.spareCells)
    (hroom : Crowding.of? memory n = none) : c.Sized memory w k n := by
  refine ⟨hw, hk, ?_, hroom⟩
  simp only [Config.cells?, hw, hk, Value.integer?, Option.bind_eq_bind, Option.bind_some, hn]

namespace Board

variable {b b' : Board} {memory : Memory} {c : Config} {faces : List Nat} {w k : Int}

/-! ### One die -/

/-- A die that is thrown for an empty cell deals it, the next ant having the next id, and brings a
drawn ant to the end of the arena if it shows one. -/
theorem WellFormed.deal (h : b.WellFormed) {n face : Nat} (hempty : b.content n = .empty)
    (hsettle : b.settle n face = .ok b') :
    ∃ newcomer : Option Ant, b'.content = Function.update b.content n (deal face b.nextId) ∧
      b'.rules = b.rules ∧ b'.arena.ants = b.arena.ants ++ newcomer.toList ∧
      newcomer.toList.length = [face].count antFace ∧
      ∀ a ∈ newcomer, a.Fresh b.rules.initialEnergy := by
  by_cases hant : face = antFace
  · subst hant
    obtain ⟨a, r, hn, -, hfresh, hid, -, rfl⟩ := h.settle_ant hsettle
    have hnew : a.id ∉ b.arena.ids := hid ▸ h.nextId_notMem
    have harena : (({ b with random := r } : Board).settled n a (b.nextId + 1)).arena =
        ⟨b.arena.ants ++ [a]⟩ := arena_settled_of_empty hempty hnew (b.nextId + 1)
    have hcontent : (({ b with random := r } : Board).settled n a (b.nextId + 1)).content =
        Function.update b.content n (.ant a.id) := content_written h.displays hn (.ant a.id)
    rw [hid] at hcontent
    refine ⟨some a, hcontent, rfl, congrArg Arena.ants harena, rfl, fun x hx => ?_⟩
    rw [← Option.mem_some.1 hx]
    exact hfresh
  · have hnobody : (none : Option Ant).toList.length = [face].count antFace := by
      rw [List.count_singleton, if_neg (by simpa using hant)]
      rfl
    by_cases hfood : face = foodFace
    · subst hfood
      obtain ⟨hn, rfl⟩ := h.settle_food hsettle
      have hants : (b.written n .food).arena.ants = b.arena.ants ++ [] := by
        rw [arena_written_of_empty hempty, List.append_nil]
      exact ⟨none, content_written h.displays hn .food, rfl, hants, hnobody, nofun⟩
    · rw [settle_other hant hfood] at hsettle
      cases hsettle
      refine ⟨none, ?_, rfl, (List.append_nil _).symm, hnobody, nofun⟩
      rw [Formicary.deal, if_neg hant, if_neg hfood, ← hempty, Function.update_eq_self]

/-! ### All dice -/

/-- A board of a configuration for whose first cells dice with the given faces have been thrown. -/
structure Dealt (c : Config) (faces : List Nat) (b : Board) : Prop where
  founded : b.Founded c faces.length
  content : b.content = layout faces
  size_eq : b.arena.size = faces.count antFace
  fresh : ∀ a ∈ b.arena.ants, a.Fresh b.rules.initialEnergy

/-- A die that is thrown for the next cell deals it. -/
theorem Dealt.settle {face : Nat} (h : b.Dealt c faces)
    (hsettle : b.settle faces.length face = .ok b') : b'.Dealt c (faces ++ [face]) := by
  have hb := h.founded.wellFormed
  have hempty : b.content faces.length = .empty := h.founded.blank _ (Nat.le_refl _)
  obtain ⟨newcomer, hcontent, hrules, hants, hcount, hfresh⟩ := hb.deal hempty hsettle
  refine ⟨?_, ?_, ?_, ?_⟩
  · rw [List.length_append]
    exact h.founded.throw (hb.thrown hsettle) (hb.settle hsettle)
  · rw [hcontent, h.content, h.founded.nextId, h.size_eq, layout_concat]
  · rw [Arena.size, hants, List.length_append, hcount, List.count_append, ← h.size_eq]
    rfl
  · rw [hants, hrules]
    intro a ha
    rcases List.mem_append.1 ha with ha | ha
    · exact h.fresh a ha
    · exact hfresh a (Option.mem_toList.1 ha)

/-- When a board is populated all of its cells are dealt. -/
theorem Dealt.populate (h : b.Dealt c []) (hpopulate : b.populate = .ok b') :
    b'.Dealt c (dice b.size b.random) := by
  refine populate_induct (p := fun faces b => b.Dealt c faces) (fun hb hsettle => hb.settle hsettle)
    (fun r => ?_) hpopulate
  have hb := h.founded.wellFormed.skip (Int.le_refl b.nextId) r
  exact ⟨{ h.founded with wellFormed := hb }, h.content, h.size_eq, h.fresh⟩

/-- No cell of a blank board has been dealt. -/
theorem dealt_blank {n : Int} (h : c.Sized memory w k n) (r : Random.Stream)
    (hb : (blank c (Rules.ofConfig c) w.toNat k.toNat n.toNat r).WellFormed) :
    (blank c (Rules.ofConfig c) w.toNat k.toNat n.toNat r).Dealt c [] where
  founded := founded_of_unpopulated hb (unpopulated_eq h r)
  content := (displays_blank _ _ _ _ _ _).content_eq_of_empty fun _ _ => rfl
  size_eq := rfl
  fresh _ ha := (List.not_mem_nil ha).elim

/-! ### Generated boards -/

/-- A board of a given size that the dice of a stream have populated, with the gene length and the
energy of a configuration.  Its ids count the ants in the order of their cells, which is that of the
arena. -/
structure PopulatedBy (b : Board) (w k : Int) (c : Config) (r : Random.Stream) : Prop where
  consistent : b.Consistent
  width_eq : (b.width : Int) = w
  height_eq : (b.height : Int) = k
  size_eq : (b.size : Int) = w * k + c.spareCells
  shows : ∀ n < b.size, b.Shows n (layout (dice b.size r) n)
  ids_eq : b.arena.ids = consecutive 0 ((dice b.size r).count antFace)
  occupantIds_eq : b.occupantIds = consecutive 0 ((dice b.size r).count antFace)
  nextId_eq : b.nextId = (dice b.size r).count antFace
  drawn : ∀ a ∈ b.arena.ants, a.Fresh (c.value .initialEnergy) ∧
    c.value .geneLength = .int a.gene.length ∧ ∀ i ∈ a.gene.code, i.Fits a.gene.length

/-- A board all of whose cells have been dealt is populated by the dice. -/
theorem Dealt.populatedBy {n : Nat} {r : Random.Stream} (h : b.Dealt c (dice n r)) (hc : c.Integral)
    (hsized : c.Sized memory w k n) : b.PopulatedBy w k c r := by
  have hb := h.founded.wellFormed
  have hwidth : (b.width : Int) = w := by
    have heq := hb.width.symm
    rw [h.founded.config, hsized.width, Value.int.injEq] at heq
    exact heq
  have hheight : (b.height : Int) = k := by
    have heq := hb.height.symm
    rw [h.founded.config, hsized.height, Value.int.injEq] at heq
    exact heq
  have hcells := hb.cells?_eq
  rw [h.founded.config, hsized.cells, Option.some.injEq, Int.natCast_inj] at hcells
  subst hcells
  have hlength : (dice b.size r).length = b.size := Random.Stream.length_draws _ _ _
  refine ⟨hb.consistent, hwidth, hheight, ?_, fun m hm => ?_, ?_, ?_, ?_, fun a ha => ?_⟩
  · exact hsized.cells_eq
  · exact hb.displays.shows hm (congrFun h.content m)
  · rw [h.founded.ids, h.size_eq]
  · have hants := layout_ants (dice b.size r)
    rw [hlength, ← h.content] at hants
    rw [hb.lodged.occupantIds_eq]
    exact hants
  · rw [h.founded.nextId, h.size_eq]
  · have hfresh := h.fresh a ha
    rw [h.founded.rules] at hfresh
    exact ⟨hfresh, h.founded.length_eq hc ha, (hb.peopled.sound a ha).gene.fits⟩

/-- What is said of the fields of a configuration other than its sizes does not depend on these. -/
theorem PopulatedBy.of_resized {r : Random.Stream} {c' : Config} (h : b.PopulatedBy w k c' r)
    (hvalue : ∀ f, f ≠ .width → f ≠ .height → c'.value f = c.value f) :
    b.PopulatedBy w k c r := by
  have hspare := Config.spareCells_congr (hvalue .spareCell (by decide) (by decide))
  have hsize := h.size_eq
  have hdrawn := h.drawn
  rw [hspare] at hsize
  rw [hvalue .initialEnergy (by decide) (by decide), hvalue .geneLength (by decide) (by decide)]
    at hdrawn
  exact { h with size_eq := hsize, drawn := hdrawn }

/-- No board has cells that there is no room for. -/
theorem unpopulated_of_crowding (hw : c.width = .int w) (hk : c.height = .int k) {n : Nat}
    (hn : (n : Int) = w * k + c.spareCells) {cause : Crowding}
    (h : Crowding.of? memory n = some cause) (r : Random.Stream) :
    unpopulated memory c r = .error (.crowding cause) := by
  have hcells : (w * k + c.spareCells).toNat = n := by omega
  simp only [unpopulated, Config.cells?, hw, hk, Value.integer?, Option.bind_eq_bind,
    Option.bind_some, hcells, h]

/-- The dice of a blank board populate it. -/
theorem populatedBy_of_populate (hint : c.Integral) (hcheck : c.check = .ok c) {n : Nat}
    (h : c.Sized memory w k n) {r : Random.Stream}
    (hpopulate : (blank c (Rules.ofConfig c) w.toNat k.toNat n r).populate = .ok b) :
    b.PopulatedBy w k c r := by
  have hb := wellFormed_of_unpopulated hint hcheck (unpopulated_eq h r)
  have hdealt := (dealt_blank h r hb).populate hpopulate
  have hfaces : (blank c (Rules.ofConfig c) w.toNat k.toNat n r).size = n := size_blank ..
  rw [Int.toNat_natCast, hfaces] at hdealt
  exact hdealt.populatedBy hint h

/-- The dice of a blank board can be thrown, if no ant needs too long a gene. -/
theorem exists_populate_blank (hint : c.Integral) (hcheck : c.check = .ok c) {n : Nat}
    (h : c.Sized memory w k n) {r : Random.Stream}
    (hgene : ∀ l : Int, c.value .geneLength = .int l →
      l ≤ 0x8000000000000000 ∨ antFace ∉ dice n r) :
    ∃ b, (blank c (Rules.ofConfig c) w.toNat k.toNat n r).populate = .ok b := by
  have hb := wellFormed_of_unpopulated hint hcheck (unpopulated_eq h r)
  have hsize : (blank c (Rules.ofConfig c) w.toNat k.toNat n r).size = n := size_blank ..
  obtain ⟨w₀, hw₀⟩ := hint.width
  obtain ⟨k₀, hk₀⟩ := hint.height
  obtain ⟨l, hl⟩ := hint.geneLength
  obtain ⟨v, hv⟩ := hint.attackDivisor
  obtain ⟨-, -, -, hpos, -⟩ := (Config.check_eq_ok_iff hw₀ hk₀ hl hv).1 hcheck
  refine hb.exists_populate ?_ fun hant => ?_
  · have hroom := le_idLimit_of_room h.room
    change (0 : Int) + _ ≤ _
    rw [Int.zero_add, size_blank]
    exact hroom
  · rw [size_blank, Int.toNat_natCast] at hant
    have hle := (hgene l hl).resolve_right (not_not_intro hant)
    refine ⟨l.toNat, ?_, by omega, by omega⟩
    change (c.value .geneLength).integer?.map Int.toNat = _
    rw [hl]
    rfl

end Board

open Board in
/-- A board that is generated from a configuration of integers, with any stream of random numbers,
is populated by the first dice of that stream.  It is generated if there is room for its cells,
unless a die shows an ant and its gene would be too long to draw a target on. -/
theorem population_matches_dice {c : Config} (hint : c.Integral) (hcheck : c.check = .ok c)
    {w k : Int} (hw : 0 < w) (hk : 0 < k) (memory : Memory) (r : Random.Stream) :
    (∀ b, Board.generate memory (.int w) (.int k) (some c) (some r) = .ok b →
      b.PopulatedBy w k c r) ∧
      ∀ n : Nat, (n : Int) = w * k + c.spareCells →
        (∀ cause, Crowding.of? memory n = some cause →
          Board.generate memory (.int w) (.int k) (some c) (some r) = .error (.crowding cause)) ∧
        (Crowding.of? memory n = none →
          (∀ l : Int, c.value .geneLength = .int l →
            l ≤ 0x8000000000000000 ∨ antFace ∉ dice n r) →
          ∃ b, Board.generate memory (.int w) (.int k) (some c) (some r) = .ok b) := by
  obtain ⟨c', hfit, hw', hk', hvalue⟩ := hint.exists_fitConfig hcheck hw hk
  obtain ⟨hint', hcheck'⟩ := Config.integral_fitConfig
    (fun c₀ hc₀ => Option.some.inj hc₀ ▸ ⟨hint, hcheck⟩) hfit
  have hspare := Config.spareCells_congr (hvalue .spareCell (by decide) (by decide))
  have hgenerate : Board.generate memory (.int w) (.int k) (some c) (some r) =
      unpopulated memory c' r >>= fun b => b.populate.mapError .fault := generate_eq hfit r
  have hgenerate_of_room : ∀ n : Nat, c'.Sized memory w k n →
      Board.generate memory (.int w) (.int k) (some c) (some r) =
        (blank c' (Rules.ofConfig c') w.toNat k.toNat n r).populate.mapError .fault :=
    fun n hsized => by
      rw [hgenerate, unpopulated_eq hsized]
      rfl
  refine ⟨fun b hb => ?_, fun n hn => ⟨fun cause hcrowded => ?_, fun hroom hgene => ?_⟩⟩
  · have hcells : 0 ≤ w * k + c'.spareCells := by positivity
    obtain ⟨n, hn⟩ := Int.eq_ofNat_of_zero_le hcells
    cases hroom : Crowding.of? memory n with
    | some cause =>
      rw [hgenerate, unpopulated_of_crowding hw' hk' hn.symm hroom] at hb
      cases hb
    | none =>
      have hsized := Config.sized_of_room hw' hk' hn.symm hroom
      rw [hgenerate_of_room n hsized] at hb
      have hpopulate := eq_ok_of_mapError_eq_ok hb
      exact (populatedBy_of_populate hint' hcheck' hsized hpopulate).of_resized hvalue
  · rw [hgenerate, unpopulated_of_crowding hw' hk' (hspare ▸ hn) hcrowded]
    rfl
  · have hsized := Config.sized_of_room hw' hk' (hspare ▸ hn) hroom
    rw [← hvalue .geneLength (by decide) (by decide)] at hgene
    obtain ⟨b, hb⟩ := exists_populate_blank hint' hcheck' hsized hgene
    exact ⟨b, by rw [hgenerate_of_room n hsized, hb]; rfl⟩

open Board in
/-- Two ants and two pieces of food on a square of nine cells. -/
theorem nursery_populated :
    nurseryConfig.Integral ∧ nurseryConfig.check = .ok nurseryConfig ∧
      dice 9 (.ofSeed 3) = [7, 0, 1, 2, 1, 7, 7, 5, 0] ∧
      ∃ b, Board.generate .unbounded (.int 3) (.int 3) (some nurseryConfig)
          (some (.ofSeed 3)) = .ok b ∧
        b.PopulatedBy 3 3 nurseryConfig (.ofSeed 3) ∧
        layout (dice 9 (.ofSeed 3)) 8 = .ant 1 := by
  obtain ⟨hint, hcheck⟩ := checked_nurseryConfig nurseryConfig rfl
  have hdice : dice 9 (.ofSeed 3) = [7, 0, 1, 2, 1, 7, 7, 5, 0] := by decide +kernel
  obtain ⟨hpopulated, hmade⟩ :=
    population_matches_dice hint hcheck (w := 3) (k := 3) (by decide) (by decide) .unbounded
      (.ofSeed 3)
  obtain ⟨b, hb⟩ := (hmade 9 rfl).2 rfl fun l hl => Or.inl (by
    cases hl
    decide)
  exact ⟨hint, hcheck, hdice, b, hb, hpopulated b hb, by rw [hdice]; rfl⟩

/-- A configuration whose genes are too long to draw a target on. -/
def endlessConfig : Config :=
  ⟨fun
    | .geneLength => .int 0x8000000000000001
    | f => nurseryConfig.value f⟩

/-- The first jump that is drawn for an ant is refused. -/
theorem generate_endless :
    ∃ e, Board.generate .unbounded (.int 3) (.int 3) (some endlessConfig) (some (.ofSeed 3)) =
      .error e ∧ e.message = "high is out of bounds for int64" := by
  have hmessage : (match Board.generate .unbounded (.int 3) (.int 3) (some endlessConfig)
        (some (.ofSeed 3)) with
      | .ok _ => none
      | .error e => some e.message) = some "high is out of bounds for int64" := by
    decide +kernel
  cases hmade : Board.generate .unbounded (.int 3) (.int 3) (some endlessConfig)
      (some (.ofSeed 3)) with
  | ok b =>
    rw [hmade] at hmessage
    cases hmessage
  | error e =>
    rw [hmade] at hmessage
    exact ⟨e, rfl, Option.some.inj hmessage⟩

/-- Not every checked configuration of integers is populated, even if there is room for any number
of cells: the genes may be too long. -/
theorem endless_unpopulated :
    ¬ ∀ (c : Config), c.Integral → c.check = .ok c → ∀ w k : Int, 0 < w → 0 < k →
      ∀ r : Random.Stream,
        ∃ b, Board.generate .unbounded (.int w) (.int k) (some c) (some r) = .ok b ∧
          b.PopulatedBy w k c r := by
  intro hall
  have hint : endlessConfig.Integral :=
    ⟨⟨_, rfl⟩, ⟨_, rfl⟩, ⟨_, rfl⟩, ⟨_, rfl⟩, ⟨_, rfl⟩, ⟨_, rfl⟩, ⟨_, rfl⟩, ⟨_, rfl⟩⟩
  obtain ⟨b, hb, -⟩ := hall endlessConfig hint rfl 3 3 (by decide) (by decide) (.ofSeed 3)
  obtain ⟨e, he, -⟩ := generate_endless
  rw [hb] at he
  cases he

end Formicary
