import Formicary.Board.Build
import Formicary.Proofs.Commit

/-!
# Setting up boards

The operations other than ticks keep a board well formed: an operation that is refused changes
nothing, a new ant changes the ids and the random numbers to come, and ants and food are put on a
board by writing a single cell.  A population by dice is a series of such operations.
-/

namespace Formicary

/-! ### Operations that succeed -/

section

variable {ε ε' α β : Type} {x : Except ε α}

/-- If two operations in a row succeed then so does each. -/
theorem exists_of_bind_eq_ok {f : α → Except ε β} {r : β} (h : x >>= f = .ok r) :
    ∃ a, x = .ok a ∧ f a = .ok r := by
  cases x with
  | error e => cases h
  | ok a => exact ⟨a, rfl, h⟩

/-- If one answer to a question is refused and there is a result, the answer was the other. -/
theorem of_guard_eq_ok {x : Except ε Bool} {f : Bool → Except ε β} {r : β} (b : Bool)
    (hrefused : ∀ r, f (!b) ≠ .ok r) (h : x >>= f = .ok r) : x = .ok b ∧ f b = .ok r := by
  obtain ⟨answer, hx, hf⟩ := exists_of_bind_eq_ok h
  by_cases hb : answer = b
  · exact ⟨hb ▸ hx, hb ▸ hf⟩
  · rw [Bool.eq_not.2 hb] at hf
    exact absurd hf (hrefused r)

/-- An operation succeeds under whatever name its faults go by. -/
theorem eq_ok_of_mapError_eq_ok {f : ε → ε'} {a : α} (h : x.mapError f = .ok a) : x = .ok a := by
  cases x with
  | error e => cases h
  | ok a' =>
    cases h
    rfl

/-- An operation succeeds if and only if there is a result to look at. -/
theorem toOption_eq_some_iff {a : α} : x.toOption = some a ↔ x = .ok a := by
  cases x <;> simp [Except.toOption]

end

namespace Board

variable {b b' : Board} {index : Int} {n : Nat} {a : Ant}

/-! ### Writing cells -/

/-- The cell that an accepted index names. -/
theorem lt_size_of_cell? (h : b.cell? index = .ok n) : n < b.size := by
  simp only [cell?] at h
  split at h
  · rename_i hindex
    cases h
    omega
  · cases h

/-- An index that counts cells names the cell of that number. -/
theorem eq_of_cell? {m : Nat} (h : b.cell? (n : Int) = .ok m) : m = n := by
  simp only [cell?] at h
  split at h
  · cases h
    exact Int.toNat_natCast n
  · cases h

/-- A cell is named by its number. -/
theorem cell?_natCast (hn : n < b.size) : b.cell? (n : Int) = .ok n := by
  rw [cell?, if_pos ⟨Int.natCast_nonneg n, Int.ofNat_lt.2 hn⟩, Int.toNat_natCast]

/-- An index is off the board or names a cell. -/
theorem cell?_cases (b : Board) (index : Int) :
    (index < 0 ∨ b.size ≤ index) ∧ b.cell? index = .error (.offBoard index b.size) ∨
      ∃ n : Nat, index = n ∧ n < b.size ∧ b.cell? index = .ok n := by
  by_cases hindex : 0 ≤ index ∧ index < b.size
  · obtain ⟨n, rfl⟩ := Int.eq_ofNat_of_zero_le hindex.1
    have hn : n < b.size := Int.ofNat_lt.1 hindex.2
    exact Or.inr ⟨n, rfl, hn, cell?_natCast hn⟩
  · exact Or.inl ⟨by omega, if_neg hindex⟩

/-- Putting an ant on a board writes the cell that the index names, unless there is no such cell or
the ant is there already. -/
theorem Lodged.place_eq (h : b.Lodged) (index : Int) (a : Ant) :
    b.place index a =
      match b.cell? index with
      | .error e => .error ⟨b, e⟩
      | .ok n =>
        if a.id ∈ b.arena.ids then .error ⟨b, .alreadyPlaced a.id⟩
        else if idFits a.id then .ok (b.settled n a (max b.nextId (a.id + 1)))
        else .error ⟨b.halfWritten n (.ant a.id), .wideId a.id⟩ := by
  unfold place
  cases hcell : b.cell? index with
  | error e => rfl
  | ok n =>
    have heq : b.overwrite n .ant a.id = _ := h.overwrite_eq (lt_size_of_cell? hcell) (.ant a.id)
    rw [Content.occupant] at heq
    simp only [Arena.has_iff, heq]
    split_ifs <;> rfl

/-- Ridding a cell of its ant writes the cell that the index names, unless there is no such cell. -/
theorem Lodged.vacate_eq (h : b.Lodged) (index : Int) {c : Content} (hc : c.ant? = none) :
    b.vacate index c.kind =
      match b.cell? index with
      | .error e => .error ⟨b, e⟩
      | .ok n => .ok (b.written n c) := by
  unfold Board.vacate
  cases hcell : b.cell? index with
  | error e => rfl
  | ok n =>
    have hvacant : c.occupant = vacant := Content.occupant_of_ant?_eq_none hc
    have heq : b.overwrite n c.kind vacant = .ok (b.written n c, (b.content n).ant?) := by
      rw [← hvacant]
      exact h.overwrite_of_fits (lt_size_of_cell? hcell) c (by rw [hvacant]; rfl)
    simp only [heq]
    rfl

/-- What comes of putting an ant on a board. -/
inductive Placed (b : Board) (index : Int) (a : Ant) : Except (Halted Board Fault) Board → Prop
  | placed {n : Nat} (cell : b.cell? index = .ok n) (unused : a.id ∉ b.arena.ids)
      (fits : a.id < idLimit) :
      Placed b index a (.ok (b.settled n a (max b.nextId (a.id + 1))))
  | refused (fault : Fault) : Placed b index a (.error ⟨b, fault⟩)
  | wide {n : Nat} (large : idLimit ≤ a.id) :
      Placed b index a (.error ⟨b.halfWritten n (.ant a.id), .wideId a.id⟩)

/-- An ant is put on the board, or refused without a change, unless its id is too large. -/
theorem WellFormed.placed (h : b.WellFormed) (index : Int) (h0 : 0 ≤ a.id) :
    Placed b index a (b.place index a) := by
  rw [h.lodged.place_eq]
  cases hcell : b.cell? index with
  | error e => exact .refused e
  | ok n =>
    dsimp only
    split_ifs with hmem hfits
    · exact .refused (.alreadyPlaced a.id)
    · exact .placed hcell hmem ((idFits_iff h0).1 hfits)
    · exact .wide (Int.not_lt.1 fun hlt => hfits ((idFits_iff h0).2 hlt))

/-- A board stays well formed when a sound ant is put on it. -/
theorem WellFormed.place (h : b.WellFormed) (ha : a.Sound) (h0 : 0 ≤ a.id)
    (hplace : b.place index a = .ok b') : b'.WellFormed := by
  have hplaced := h.placed index h0
  rw [hplace] at hplaced
  cases hplaced with
  | placed cell unused fits =>
    have hle := Int.le_max_right b.nextId (a.id + 1)
    exact h.settled (lt_size_of_cell? cell) ha unused h0 (Int.le_max_left _ _) (by omega)

/-- A cell is rid of its ant, or the index is refused without a change. -/
theorem WellFormed.vacate (h : b.WellFormed) (index : Int) {c : Content} (hc : c.ant? = none) :
    (∃ n, b.cell? index = .ok n ∧ b.vacate index c.kind = .ok (b.written n c) ∧
        (b.written n c).WellFormed) ∨
      ∃ fault, b.vacate index c.kind = .error ⟨b, fault⟩ := by
  rw [h.lodged.vacate_eq index hc]
  cases hcell : b.cell? index with
  | error e => exact Or.inr ⟨e, rfl⟩
  | ok n => exact Or.inl ⟨n, rfl, rfl, h.written_vacant (lt_size_of_cell? hcell) hc⟩

/-! ### New ants -/

/-- A gene is drawn without a change of the board but for the random numbers to come, and it is in
order. -/
theorem drawGene_cases (b : Board) :
    ∃ r, (∃ g, b.drawGene = (.ok g, { b with random := r }) ∧ g.WellFormed) ∨
      ∃ e, b.drawGene = (.error e, { b with random := r }) := by
  unfold drawGene
  cases b.rules.geneLength with
  | none => exact ⟨b.random, Or.inr ⟨_, rfl⟩⟩
  | some n =>
    refine ⟨(Gene.sample? n b.random).2, ?_⟩
    cases hgene : (Gene.sample? n b.random).1 with
    | error e => exact Or.inr ⟨.gene e, by dsimp only; rw [hgene]; rfl⟩
    | ok g =>
      exact Or.inl ⟨g, by dsimp only; rw [hgene]; rfl, Gene.wellFormed_of_sample? hgene⟩

/-- A new ant has the next id, and it has the gene that was asked for or one that was drawn. -/
theorem newAnt_cases (b : Board) (o : Order) :
    ∃ r, (∃ team gene, b.newAnt o =
          .ok ({ id := b.nextId
                 team
                 gene
                 energy := o.energy.getD b.rules.initialEnergy
                 direction := o.direction },
            { b with nextId := b.nextId + 1, random := r }) ∧
          (o.gene = some gene ∨ o.gene = none ∧ gene.WellFormed)) ∨
      ∃ e, b.newAnt o = .error ⟨{ b with random := r }, e⟩ := by
  obtain ⟨team, gene, energy, direction⟩ := o
  cases gene with
  | some g =>
    cases team with
    | some t => exact ⟨b.random, Or.inl ⟨t, g, rfl, Or.inl rfl⟩⟩
    | none => exact ⟨b.drawTeam.2.random, Or.inl ⟨_, g, rfl, Or.inl rfl⟩⟩
  | none =>
    cases team with
    | some t =>
      obtain ⟨r, ⟨g, hdrawn, hg⟩ | ⟨e, hdrawn⟩⟩ := drawGene_cases b
      · exact ⟨r, Or.inl ⟨t, g, by simp only [newAnt, hdrawn]; rfl, Or.inr ⟨rfl, hg⟩⟩⟩
      · exact ⟨r, Or.inr ⟨e, by simp only [newAnt, hdrawn]⟩⟩
    | none =>
      obtain ⟨r, ⟨g, hdrawn, hg⟩ | ⟨e, hdrawn⟩⟩ := drawGene_cases b.drawTeam.2
      · exact ⟨r, Or.inl ⟨b.drawTeam.1, g, by simp only [newAnt, hdrawn]; rfl, Or.inr ⟨rfl, hg⟩⟩⟩
      · exact ⟨r, Or.inr ⟨e, by simp only [newAnt, hdrawn]; rfl⟩⟩

/-- Well-formedness says nothing about the random numbers to come, and ids may be skipped. -/
theorem WellFormed.skip (h : b.WellFormed) {next : Int} (hle : b.nextId ≤ next)
    (r : Random.Stream) : ({ b with nextId := next, random := r } : Board).WellFormed :=
  Frozen.wellFormed ⟨rfl, rfl, hle⟩ h h.peopled.sound

/-- The next id is nobody's yet. -/
theorem WellFormed.nextId_notMem (h : b.WellFormed) : b.nextId ∉ b.arena.ids := fun hmem =>
  Int.lt_irrefl b.nextId (h.peopled.id_lt b.nextId hmem)

/-! ### Throwing dice -/

/-- What the throw of a die makes of a cell: it puts a new ant on it, with the next id and a gene of
the length of the rules, or food, or nothing. -/
inductive Thrown (b : Board) (n : Nat) : Board → Prop
  | ant {a : Ant} {r : Random.Stream} {next : Int} (lt_size : n < b.size) (sound : a.Sound)
      (id : a.id = b.nextId) (age : a.age = .int 0) (generation : a.generation = .int 0)
      (length : b.rules.geneLength = some a.gene.length) (nextId : next = b.nextId + 1) :
      Thrown b n (({ b with random := r } : Board).settled n a next)
  | food (lt_size : n < b.size) : Thrown b n (b.written n .food)
  | nothing : Thrown b n b

/-- A die that shows an ant puts a drawn one with the next id on the cell. -/
theorem WellFormed.settle_ant (h : b.WellFormed) (hsettle : b.settle n antFace = .ok b') :
    ∃ (a : Ant) (r : Random.Stream), n < b.size ∧ a.Sound ∧ a.Fresh b.rules.initialEnergy ∧
      a.id = b.nextId ∧ b.rules.geneLength = some a.gene.length ∧
      b' = ({ b with random := r } : Board).settled n a (b.nextId + 1) := by
  unfold Board.settle at hsettle
  rw [if_pos rfl] at hsettle
  obtain ⟨e, he⟩ := h.rules.initialEnergy
  have henergy : b.freshId.2.rules.initialEnergy = .int e := he
  dsimp only at hsettle
  rw [henergy] at hsettle
  split at hsettle
  · cases hsettle
  · rename_i length hlength
    split at hsettle
    · cases hsettle
    · rename_i a next hsample
      obtain ⟨hsound, hid⟩ := Ant.sound_of_sample? (congrArg Prod.fst hsample)
      obtain ⟨hfresh, htape⟩ := Ant.fresh_of_sample? (congrArg Prod.fst hsample)
      have hid' : a.id = b.nextId := hid
      have hskip : ({ b.freshId.2 with random := next } : Board).WellFormed :=
        h.skip (Int.le_of_lt (Int.lt_succ b.nextId)) next
      have hplaced := hskip.placed (a := a) (n : Int) (hid' ▸ h.peopled.next_nonneg)
      rw [eq_ok_of_mapError_eq_ok hsettle] at hplaced
      generalize hb' : (Except.ok b' : Except (Halted Board Fault) Board) = result at hplaced
      cases hplaced with
      | refused fault => cases hb'
      | wide large => cases hb'
      | placed cell unused fits =>
        cases hb'
        obtain rfl := eq_of_cell? cell
        have hnext : max (b.nextId + 1) (a.id + 1) = b.nextId + 1 := by
          rw [hid', Int.max_self]
        have hrules : b.rules.geneLength = some a.gene.length := by
          rw [Int.natCast_inj.1 htape]
          exact hlength
        refine ⟨a, next, lt_size_of_cell? cell, hsound, he ▸ hfresh, hid', hrules, ?_⟩
        exact congrArg (({ b with random := next } : Board).settled _ a) hnext

/-- A die that shows food puts food on the cell. -/
theorem WellFormed.settle_food (h : b.WellFormed) (hsettle : b.settle n foodFace = .ok b') :
    n < b.size ∧ b' = b.written n .food := by
  have hfood : b.vacate n .food = .ok b' := eq_ok_of_mapError_eq_ok hsettle
  rcases h.vacate (n : Int) (c := .food) rfl with ⟨m, hcell, heq, -⟩ | ⟨fault, heq⟩
  · cases hfood.symm.trans heq
    obtain rfl := eq_of_cell? hcell
    exact ⟨lt_size_of_cell? hcell, rfl⟩
  · cases hfood.symm.trans heq

/-- A die that shows another face leaves the board as it is. -/
theorem settle_other {face : Nat} (hant : face ≠ antFace) (hfood : face ≠ foodFace) :
    b.settle n face = .ok b := by
  rw [Board.settle, if_neg hant, if_neg hfood]

/-- On a well-formed board a die that is thrown for a cell has one of its outcomes. -/
theorem WellFormed.thrown (h : b.WellFormed) {face : Nat} (hsettle : b.settle n face = .ok b') :
    b.Thrown n b' := by
  by_cases hant : face = antFace
  · subst hant
    obtain ⟨a, r, hn, hsound, hfresh, hid, hlength, rfl⟩ := h.settle_ant hsettle
    exact .ant hn hsound hid hfresh.age hfresh.generation hlength rfl
  · by_cases hfood : face = foodFace
    · subst hfood
      obtain ⟨hn, rfl⟩ := h.settle_food hsettle
      exact .food hn
    · rw [settle_other hant hfood] at hsettle
      cases hsettle
      exact .nothing

/-- A board stays well formed when a die is thrown for a cell. -/
theorem WellFormed.settle (h : b.WellFormed) {face : Nat} (hsettle : b.settle n face = .ok b') :
    b'.WellFormed := by
  cases h.thrown hsettle with
  | @ant a r next lt_size sound id age generation length nextId =>
    have hr : ({ b with random := r } : Board).WellFormed := h.skip (Int.le_refl b.nextId) r
    have hnew : a.id ∉ b.arena.ids := id ▸ h.nextId_notMem
    exact hr.settled lt_size sound hnew (id ▸ h.peopled.next_nonneg)
      (nextId ▸ Int.le_of_lt (Int.lt_succ b.nextId)) (by omega)
  | food lt_size => exact h.written_vacant lt_size rfl
  | nothing => exact h

/-- A board stays well formed when dice are thrown for cells in turn. -/
theorem WellFormed.settle_all {throws : List (Nat × Nat)} (h : b.WellFormed)
    (hsettle : throws.foldlM (fun b p => b.settle p.1 p.2) b = .ok b') : b'.WellFormed := by
  induction throws generalizing b with
  | nil =>
    cases hsettle
    exact h
  | cons p throws ih =>
    rw [List.foldlM_cons] at hsettle
    obtain ⟨b₁, hfirst, hrest⟩ := exists_of_bind_eq_ok hsettle
    exact ih (h.settle hfirst) hrest

/-- A populated board is well formed. -/
theorem WellFormed.populate (h : b.WellFormed) (hpopulate : b.populate = .ok b') :
    b'.WellFormed :=
  (h.skip (Int.le_refl b.nextId) _).settle_all hpopulate

end Board

end Formicary
