import Formicary.Proofs.Consistency
import Formicary.Proofs.Founders
import Formicary.Proofs.Guise

/-!
# Dice that succeed

A die that shows an ant needs a gene length and an id that is free and fits; a die that shows food
needs nothing.  So a blank board can be populated if there are ids enough and, should any die show
an ant, there is a gene length (`Board.WellFormed.exists_populate`), and only if there is one
(`Board.WellFormed.geneLength_of_populate`).

Neither dice nor audits look at energies.  A board with energies of whatever kind is populated like
the one in which all energies are zero (`Board.populate_frugal`), and that is one of integers.
-/

namespace Formicary

/-! ### Draws that succeed -/

namespace Ant

variable {length : Nat}

/-- An ant is drawn if its gene is not empty and not too long to draw a target on. -/
theorem exists_sample? (h : 0 < length) (h' : length ≤ 0x8000000000000000) (id : Int)
    (energy : Value) (s : Random.Stream) :
    ∃ a next, sample? id length energy s = (.ok a, next) := by
  obtain ⟨g, next, hgene⟩ := Gene.exists_sample? h h' (s.below Team.all.length).2
  exact ⟨_, next, by simp only [sample?, hgene]; rfl⟩

end Ant

/-! ### Dice that succeed -/

namespace Board

variable {b b' : Board} {n : Nat}

/-- An ant that is not there yet is put on a cell. -/
theorem WellFormed.exists_place (h : b.WellFormed) (hn : n < b.size) {a : Ant}
    (hnew : a.id ∉ b.arena.ids) (h0 : 0 ≤ a.id) (hfits : a.id < idLimit) :
    ∃ b', b.place n a = .ok b' := by
  refine ⟨b.settled n a (max b.nextId (a.id + 1)), ?_⟩
  simp only [h.lodged.place_eq, cell?_natCast hn, if_neg hnew, (idFits_iff h0).2 hfits, if_true]

/-- Food is put on a cell. -/
theorem WellFormed.exists_placeFood (h : b.WellFormed) (hn : n < b.size) :
    ∃ b', b.placeFood n = .ok b' := by
  have heq := h.lodged.vacate_eq n (c := .food) rfl
  rw [cell?_natCast hn] at heq
  exact ⟨_, heq⟩

/-- A die is thrown, if there are ids left and, should it show an ant, there is a gene length. -/
theorem WellFormed.exists_settle (h : b.WellFormed) (hn : n < b.size) (hid : b.nextId < idLimit)
    {face : Nat} (hgene : face = antFace →
      ∃ l, b.rules.geneLength = some l ∧ 0 < l ∧ l ≤ 0x8000000000000000) :
    ∃ b', b.settle n face = .ok b' := by
  unfold Board.settle
  by_cases hant : face = antFace
  · obtain ⟨l, hl, hpos, hle⟩ := hgene hant
    obtain ⟨e, he⟩ := h.rules.initialEnergy
    obtain ⟨a, next, hsample⟩ := Ant.exists_sample? hpos hle b.nextId (.int e) b.random
    have haid : a.id = b.nextId := (Ant.sound_of_sample? (congrArg Prod.fst hsample)).2
    have hskip : ({ b.freshId.2 with random := next } : Board).WellFormed :=
      h.skip (Int.le_of_lt (Int.lt_succ b.nextId)) next
    have hnew : a.id ∉ b.arena.ids := haid ▸ h.nextId_notMem
    obtain ⟨b', hplace⟩ := hskip.exists_place (n := n) hn hnew
      (haid ▸ h.peopled.next_nonneg) (haid ▸ hid)
    refine ⟨b', ?_⟩
    rw [if_pos hant]
    simp only [freshId, hl, he, hsample] at hplace ⊢
    rw [hplace]
    rfl
  · rw [if_neg hant]
    by_cases hfood : face = foodFace
    · obtain ⟨b', hplace⟩ := h.exists_placeFood hn
      exact ⟨b', by rw [if_pos hfood, hplace]; rfl⟩
    · exact ⟨b, by rw [if_neg hfood]⟩

/-- What the throw of a die leaves alone. -/
theorem Thrown.frame (h : b.Thrown n b') :
    b'.size = b.size ∧ b'.rules = b.rules ∧ b'.nextId ≤ b.nextId + 1 := by
  cases h with
  | ant lt_size sound id age generation length nextId =>
    exact ⟨size_settled .., rfl, Int.le_of_eq nextId⟩
  | food lt_size => exact ⟨size_written .., rfl, Int.le_of_lt (Int.lt_succ b.nextId)⟩
  | nothing => exact ⟨rfl, rfl, Int.le_of_lt (Int.lt_succ b.nextId)⟩

/-- Dice are thrown for some cells, if there are ids left for an ant on each and, should one show
an ant, there is a gene length. -/
theorem WellFormed.exists_settle_all {throws : List (Nat × Nat)} (h : b.WellFormed)
    (hcells : ∀ p ∈ throws, p.1 < b.size) (hid : b.nextId + throws.length ≤ idLimit)
    (hgene : ∀ p ∈ throws, p.2 = antFace →
      ∃ l, b.rules.geneLength = some l ∧ 0 < l ∧ l ≤ 0x8000000000000000) :
    ∃ b', throws.foldlM (fun b p => b.settle p.1 p.2) b = .ok b' := by
  induction throws generalizing b with
  | nil => exact ⟨b, rfl⟩
  | cons p throws ih =>
    rw [List.length_cons] at hid
    obtain ⟨hcell, hcells⟩ := List.forall_mem_cons.1 hcells
    obtain ⟨hfirst, hgene⟩ := List.forall_mem_cons.1 hgene
    obtain ⟨b₁, hsettle⟩ := h.exists_settle hcell (by omega) hfirst
    obtain ⟨hsize, hrules, hnext⟩ := (h.thrown hsettle).frame
    obtain ⟨b', hrest⟩ := ih (h.settle hsettle) (by rwa [hsize]) (by omega) (by rwa [hrules])
    exact ⟨b', by rw [List.foldlM_cons, hsettle]; exact hrest⟩

/-- A die that shows an ant asks for a gene length. -/
theorem geneLength_of_settle (h : b.settle n antFace = .ok b') :
    ∃ l, b.rules.geneLength = some l := by
  unfold settle at h
  rw [if_pos rfl] at h
  cases hl : b.rules.geneLength with
  | none =>
    simp only [freshId, hl] at h
    cases h
  | some l => exact ⟨l, rfl⟩

/-- If any of some dice shows an ant there is a gene length. -/
theorem WellFormed.geneLength_of_settle_all {throws : List (Nat × Nat)} (h : b.WellFormed)
    (hrun : throws.foldlM (fun b p => b.settle p.1 p.2) b = .ok b') {p : Nat × Nat}
    (hp : p ∈ throws) (hant : p.2 = antFace) : ∃ l, b.rules.geneLength = some l := by
  induction throws generalizing b with
  | nil => cases hp
  | cons q throws ih =>
    rw [List.foldlM_cons] at hrun
    obtain ⟨b₁, hfirst, hrest⟩ := exists_of_bind_eq_ok hrun
    rcases List.mem_cons.1 hp with rfl | hp
    · rw [hant] at hfirst
      exact geneLength_of_settle hfirst
    · rw [← (h.thrown hfirst).frame.2.1]
      exact ih (h.settle hfirst) hrest hp

/-- The faces of the dice that are thrown for some cells. -/
def dice (cells : Nat) (r : Random.Stream) : List Nat :=
  (Random.Stream.draws (Random.Stream.below dieSides) cells r).1

/-- There is a throw for every face. -/
theorem exists_throw {cells : Nat} {r : Random.Stream} {face : Nat} (h : face ∈ dice cells r) :
    ∃ m, (m, face) ∈ (List.range cells).zip (dice cells r) := by
  obtain ⟨m, hm, rfl⟩ := List.getElem_of_mem h
  have hlength : m < cells := by
    rw [dice, Random.Stream.length_draws] at hm
    exact hm
  refine ⟨m, List.mem_iff_getElem.2 ⟨m, ?_, ?_⟩⟩
  · rw [List.length_zip, List.length_range]
    exact Nat.lt_min.2 ⟨hlength, hm⟩
  · rw [List.getElem_zip, List.getElem_range]

/-- A board is populated, if there are ids for ants on all cells and, should a die show an ant,
there is a gene length. -/
theorem WellFormed.exists_populate (h : b.WellFormed) (hid : b.nextId + b.size ≤ idLimit)
    (hgene : antFace ∈ dice b.size b.random →
      ∃ l, b.rules.geneLength = some l ∧ 0 < l ∧ l ≤ 0x8000000000000000) :
    ∃ b', b.populate = .ok b' := by
  have hlength := Random.Stream.length_draws (Random.Stream.below dieSides) b.size b.random
  refine (h.skip (Int.le_refl b.nextId) _).exists_settle_all ?_ ?_ ?_
  · intro p hp
    exact List.mem_range.1 (List.of_mem_zip hp).1
  · rw [List.length_zip, hlength, List.length_range, Nat.min_self]
    exact hid
  · intro p hp hant
    exact hgene (hant ▸ (List.of_mem_zip hp).2)

/-- A board that is populated has a gene length, if a die shows an ant. -/
theorem WellFormed.geneLength_of_populate (h : b.WellFormed) (hpopulate : b.populate = .ok b')
    (hant : antFace ∈ dice b.size b.random) : ∃ l, b.rules.geneLength = some l := by
  obtain ⟨m, hm⟩ := exists_throw hant
  have hstart := h.skip (Int.le_refl b.nextId)
    (Random.Stream.draws (Random.Stream.below dieSides) b.size b.random).2
  exact hstart.geneLength_of_settle_all hpopulate hm rfl

end Board

/-! ### Boards without energy -/

/-- The configuration with all its energies zero. -/
def Config.frugal (c : Config) : Config :=
  ⟨fun
    | .initialEnergy => .int 0
    | .foodEnergy => .int 0
    | .splitEnergy => .int 0
    | .actionCost => .int 0
    | .attackDivisor => .int 1
    | f => c.value f⟩

/-- The guise in which every energy is zero. -/
def Guise.frugal : Guise where
  ant a := { a with energy := .int 0 }
  config := Config.frugal
  rules r :=
    { r with
      initialEnergy := .int 0
      foodEnergy := .int 0
      splitEnergy := .int 0
      actionCost := .int 0
      attackDivisor := .int 1 }
  id_ant _ := rfl
  rules_ofConfig _ := rfl

/-- Frugal rules are rules of integers. -/
theorem Rules.integral_frugal (r : Rules) : (Guise.frugal.rules r).Integral :=
  ⟨⟨0, rfl⟩, ⟨0, rfl⟩, ⟨0, rfl⟩, ⟨0, rfl⟩, ⟨1, rfl, Int.one_pos⟩⟩

/-- The draws of an ant do not depend on its energy. -/
theorem Ant.sample?_frugal (id length : Int) (energy : Value) (s : Random.Stream) :
    sample? id length (.int 0) s =
      ((sample? id length energy s).1.map Guise.frugal.ant, (sample? id length energy s).2) := by
  simp only [sample?]
  cases (Gene.sample? length (s.below Team.all.length).2).1 <;> rfl

namespace Board

variable (b : Board)

/-- An ant is placed in either guise, and refused with the same fault. -/
theorem place_mapError_under (g : Guise) (index : Int) (a : Ant) :
    ((b.under g).place index (g.ant a)).mapError (·.fault) =
      ((b.place index a).mapError (·.fault)).map (under g) := by
  rw [place_under]
  cases b.place index a <;> rfl

/-- Food is placed in either guise, and refused with the same fault. -/
theorem placeFood_mapError_under (g : Guise) (index : Int) :
    ((b.under g).placeFood index).mapError (·.fault) =
      ((b.placeFood index).mapError (·.fault)).map (under g) := by
  rw [placeFood, vacate_under, placeFood]
  cases b.vacate index .food <;> rfl

/-- A die is thrown in either guise. -/
theorem settle_frugal (n face : Nat) :
    (b.under .frugal).settle n face = (b.settle n face).map (under .frugal) := by
  unfold settle
  by_cases hant : face = antFace
  · rw [if_pos hant, if_pos hant]
    have hlength : (b.under .frugal).rules.geneLength = b.rules.geneLength := rfl
    have henergy : (b.under .frugal).rules.initialEnergy = .int 0 := rfl
    have hnext : (b.under .frugal).nextId = b.nextId := rfl
    have hrandom : (b.under .frugal).random = b.random := rfl
    simp only [freshId, hlength, henergy, hnext, hrandom]
    cases b.rules.geneLength with
    | none => rfl
    | some l =>
      dsimp only
      rw [Ant.sample?_frugal b.nextId l b.rules.initialEnergy b.random]
      obtain ⟨drawn, next⟩ := Ant.sample? b.nextId l b.rules.initialEnergy b.random
      cases drawn with
      | error e => rfl
      | ok a =>
        exact place_mapError_under { b with nextId := b.nextId + 1, random := next } .frugal n a
  · rw [if_neg hant, if_neg hant]
    by_cases hfood : face = foodFace
    · rw [if_pos hfood, if_pos hfood]
      exact placeFood_mapError_under b .frugal n
    · rw [if_neg hfood, if_neg hfood]
      rfl

/-- Dice are thrown in either guise. -/
theorem settle_all_frugal (throws : List (Nat × Nat)) :
    throws.foldlM (fun (b : Board) p => b.settle p.1 p.2) (b.under .frugal) =
      (throws.foldlM (fun (b : Board) p => b.settle p.1 p.2) b).map (under .frugal) := by
  induction throws generalizing b with
  | nil => rfl
  | cons p throws ih =>
    rw [List.foldlM_cons, List.foldlM_cons, settle_frugal]
    cases b.settle p.1 p.2 with
    | error e => rfl
    | ok b' => exact ih b'

/-- A board is populated in either guise. -/
theorem populate_frugal : (b.under .frugal).populate = b.populate.map (under .frugal) :=
  settle_all_frugal { b with random :=
    (Random.Stream.draws (Random.Stream.below dieSides) b.size b.random).2 } _

/-- An audit does not look at energies. -/
theorem audit_frugal : (b.under .frugal).audit = b.audit := by
  have hids : (b.under .frugal).occupantIds = b.occupantIds := rfl
  have harena : (b.under .frugal).arena.ids = b.arena.ids := Arena.ids_under .frugal b.arena
  have hhas : (b.under .frugal).arena.has = b.arena.has :=
    funext (Arena.has_under .frugal b.arena)
  have hsize : (b.under .frugal).arena.size = b.arena.size := List.length_map _
  have hpointers : ((b.under .frugal).arena.ants.find? fun a => !pointerInRange a).map
      (fun a => Finding.pointerOffTape a.id) =
      (b.arena.ants.find? fun a => !pointerInRange a).map fun a => .pointerOffTape a.id := by
    change ((b.arena.ants.map Guise.frugal.ant).find? _).map _ = _
    rw [List.find?_map, Option.map_map]
    rfl
  unfold audit
  simp only [hids, harena, hhas, hsize, hpointers]
  rfl

end Board

end Formicary
