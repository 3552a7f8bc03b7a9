import Formicary.Proofs.Soundness

/-!
# Tapes in use

A gene is looked at once, when it is made from a tape and a pointer: the tape has to have an
instruction, its jumps targets that lie on it, and the pointer its place on it.  What is wrong with
the gene is told in this order, and of several jumps the first is told (`Gene.Refused`).

From then on the gene is only worked on.  A step and a jump move the pointer around the tape, a
mutation puts a drawn instruction in the place of another, and a copy is checked like a new gene.
None of this can fail on a gene in order, and each leaves a gene in order that is as long as before
(`Gene.WellFormed.run`), so a gene stays in order in whatever way it is used
(`Gene.WellFormed.afterAll`).
-/

namespace Formicary

namespace Instruction

/-- What does not stand on a tape is a jump, and it has no target or one that is not on the tape. -/
theorem not_fits_iff {i : Instruction} {length : Nat} :
    ¬ i.Fits length ↔ i.opcode ∈ Opcode.jumps ∧
      (i.target = none ∨ ∃ t, i.target = some t ∧ ¬ (0 ≤ t ∧ t < length)) := by
  unfold Fits Opcode.isJump
  rw [Classical.not_imp, List.contains_iff_mem]
  apply and_congr_right
  intro hjump
  cases i.target with
  | none => simp
  | some t => simp

end Instruction

namespace Gene

variable {g g' : Gene} {code : List Instruction} {pointer : Int}

/-! ### Genes that are refused -/

/-- Why a tape and a pointer make no gene. -/
inductive Refused (code : List Instruction) (pointer : Int) : Problem → Prop where
  /-- There is no instruction. -/
  | empty (nil : code = []) : Refused code pointer .empty
  /-- A jump does not stand on the tape, and it is the first that does not. -/
  | badTarget {n : Nat} {i : Instruction} (read : code[n]? = some i)
      (misfit : ¬ i.Fits code.length) (first : ∀ j ∈ code.take n, j.Fits code.length) :
      Refused code pointer (.badTarget i.target n code.length)
  /-- The pointer has no place on the tape. -/
  | badPointer (nonempty : code ≠ []) (fits : ∀ i ∈ code, i.Fits code.length)
      (outside : ¬ (0 ≤ pointer ∧ pointer < code.length)) :
      Refused code pointer (.badPointer pointer)

/-- The instruction that is found not to stand on a tape is the first that does not. -/
theorem of_firstMisfit? {length start n : Nat} {i : Instruction}
    (h : firstMisfit? length start code = some (n, i)) :
    ∃ k, n = start + k ∧ code[k]? = some i ∧ ¬ i.Fits length ∧
      ∀ j ∈ code.take k, j.Fits length := by
  induction code generalizing start with
  | nil => cases h
  | cons j code ih =>
    unfold firstMisfit? at h
    by_cases hj : j.Fits length
    · rw [if_pos hj] at h
      obtain ⟨k, rfl, hread, hmisfit, hfirst⟩ := ih h
      refine ⟨k + 1, by omega, hread, hmisfit, ?_⟩
      rw [List.take_succ_cons, List.forall_mem_cons]
      exact ⟨hj, hfirst⟩
    · rw [if_neg hj] at h
      cases h
      exact ⟨0, rfl, rfl, hj, fun _ hk => (List.not_mem_nil hk).elim⟩

/-- What is told of a tape and a pointer is what is wrong with them. -/
theorem refused_of_ofCode {p : Problem} (h : ofCode code pointer = .error p) :
    Refused code pointer p := by
  unfold ofCode at h
  by_cases hnil : code = []
  · rw [if_pos (List.isEmpty_iff.2 hnil)] at h
    cases h
    exact .empty hnil
  · rw [if_neg (fun hempty => hnil (List.isEmpty_iff.1 hempty))] at h
    split at h
    · rename_i n i hmisfit
      cases h
      obtain ⟨k, rfl, hread, hnot, hfirst⟩ := of_firstMisfit? hmisfit
      rw [Nat.zero_add]
      exact .badTarget hread hnot hfirst
    · rename_i hfits
      split at h
      · cases h
      · cases h
        exact .badPointer hnil (firstMisfit?_eq_none_iff.1 hfits) ‹_›

/-- A tape and a pointer are refused if they make no gene in order. -/
theorem exists_ofCode_eq_error_iff :
    (∃ p, ofCode code pointer = .error p) ↔ ¬ (⟨code, pointer⟩ : Gene).WellFormed := by
  constructor
  · rintro ⟨p, hp⟩ hg
    rw [ofCode_eq_ok_iff.2 ⟨rfl, hg⟩] at hp
    cases hp
  · intro hg
    cases h : ofCode code pointer with
    | error p => exact ⟨p, rfl⟩
    | ok g =>
      obtain ⟨rfl, hg'⟩ := ofCode_eq_ok_iff.1 h
      exact absurd hg' hg

/-- A gene is not in order if its tape is empty, a jump on it has no target on it, or the pointer
has no place on it. -/
theorem not_wellFormed_iff :
    ¬ (⟨code, pointer⟩ : Gene).WellFormed ↔
      code = [] ∨
      (∃ i ∈ code, i.opcode ∈ Opcode.jumps ∧
        (i.target = none ∨ ∃ t, i.target = some t ∧ ¬ (0 ≤ t ∧ t < code.length))) ∨
      ¬ (0 ≤ pointer ∧ pointer < code.length) := by
  simp only [← Instruction.not_fits_iff]
  constructor
  · intro h
    by_cases hnil : code = []
    · exact Or.inl hnil
    · by_cases hfits : ∀ i ∈ code, i.Fits code.length
      · exact Or.inr (Or.inr fun hp => h ⟨hnil, hfits, hp.1, hp.2⟩)
      · simp only [Classical.not_forall, exists_prop] at hfits
        exact Or.inr (Or.inl hfits)
  · rintro (hnil | ⟨i, hi, hmisfit⟩ | houtside) h
    · exact h.nonempty hnil
    · exact hmisfit (h.fits i hi)
    · exact houtside ⟨h.pointer_nonneg, h.pointer_lt⟩

/-! ### Genes that are made -/

/-- Genes as they come into being: of a tape and a pointer that are checked, or drawn. -/
inductive Made : Gene → Prop where
  | ofCode {code : List Instruction} {pointer : Int} {g : Gene}
      (accepted : Gene.ofCode code pointer = .ok g) : Made g
  | drawn {length : Int} {s : Random.Stream} {g : Gene}
      (accepted : (sample? length s).1 = .ok g) : Made g

/-- A gene that is made is in order. -/
theorem Made.wellFormed (h : g.Made) : g.WellFormed := by
  cases h with
  | ofCode accepted =>
    obtain ⟨rfl, hg⟩ := ofCode_eq_ok_iff.1 accepted
    exact hg
  | drawn accepted => exact wellFormed_of_sample? accepted

/-! ### Operations -/

/-- What is done with a gene.  A mutation may draw from any stream. -/
inductive Op where
  | cycle
  | jump (target : Int)
  | mutate (source : Random.Stream)
  | copy

/-- The gene that an operation leaves, if it does not fail.  What is copied is gone on with as the
copy. -/
def Op.run : Op → Gene → Option Gene
  | .cycle, g => g.cycle.map Prod.snd
  | .jump target, g => some (g.jump target)
  | .mutate source, g => some (g.mutate source).2.1
  | .copy, g => g.copy.toOption

/-- How far a gene may differ after an operation: a step and a jump only move the pointer, a
mutation replaces the instruction at the locus that it tells, if any, and a copy is the same
gene. -/
def Op.Frame : Op → Gene → Gene → Prop
  | .cycle, g, g' => g'.code = g.code
  | .jump _, g, g' => g'.code = g.code
  | .mutate source, g, g' =>
    g'.pointer = g.pointer ∧ (g.mutate source).1 < g.length ∧
      ∀ n, n ≠ (g.mutate source).1 → g'.code[n]? = g.code[n]?
  | .copy, g, g' => g' = g

/-- The gene after several operations in order, if none of them fails. -/
def afterAll (g : Gene) (ops : List Op) : Option Gene := ops.foldlM (fun g op => op.run g) g

/-- A mutation replaces the instruction at the locus that it tells, which lies on the tape. -/
theorem frame_mutate (hpos : 0 < g.length) (source : Random.Stream) :
    (Op.mutate source).Frame g (g.mutate source).2.1 := by
  refine ⟨rfl, Random.Stream.below_lt g.length source hpos, fun n hn => ?_⟩
  exact List.getElem?_set_ne hn.symm

/-- On a gene in order no operation fails.  It leaves a gene in order that is as long and otherwise
differs no more than the operation may make it. -/
theorem WellFormed.run (h : g.WellFormed) (op : Op) :
    ∃ g', op.run g = some g' ∧ g'.WellFormed ∧ g'.length = g.length ∧ op.Frame g g' := by
  cases op with
  | cycle =>
    obtain ⟨i, -, -, hcycle⟩ := h.cycle
    exact ⟨_, congrArg (Option.map Prod.snd) hcycle, h.withPointer_emod _, rfl, rfl⟩
  | jump target => exact ⟨_, rfl, h.jump target, length_jump g target, rfl⟩
  | mutate source =>
    exact ⟨_, rfl, h.mutate source, length_mutate g source, frame_mutate h.length_pos source⟩
  | copy =>
    have hcopy : g.copy = .ok g := ofCode_eq_ok_iff.2 ⟨rfl, h⟩
    exact ⟨g, by rw [Op.run, hcopy]; rfl, h, rfl, rfl⟩

/-- In whatever way a gene in order is used, it stays in order and as long as it was. -/
theorem WellFormed.afterAll (h : g.WellFormed) (ops : List Op) :
    ∃ g', g.afterAll ops = some g' ∧ g'.WellFormed ∧ g'.length = g.length := by
  induction ops generalizing g with
  | nil => exact ⟨g, rfl, h, rfl⟩
  | cons op ops ih =>
    obtain ⟨g₁, hrun, hg₁, hlength, -⟩ := h.run op
    obtain ⟨g', hafter, hg', hlength'⟩ := ih hg₁
    refine ⟨g', ?_, hg', hlength'.trans hlength⟩
    unfold Gene.afterAll
    rw [List.foldlM_cons, hrun]
    exact hafter

end Gene

/-- A tape and a pointer are refused exactly if the tape is empty, a jump on it has no target on it,
or the pointer has no place on it, and then it is told what is wrong; otherwise they are the gene.
Genes that are not empty and not too long to draw a target on are drawn.  After whatever has been
done with a gene since it was made, whatever is done next does not fail: the gene is in order before
and after, has its first length, and differs no more than the operation may make it. -/
theorem tapes_stay_in_order :
    (∀ (code : List Instruction) (pointer : Int),
      ((∃ p, Gene.ofCode code pointer = .error p) ↔
        code = [] ∨
        (∃ i ∈ code, i.opcode ∈ Opcode.jumps ∧
          (i.target = none ∨ ∃ t, i.target = some t ∧ ¬ (0 ≤ t ∧ t < code.length))) ∨
        ¬ (0 ≤ pointer ∧ pointer < code.length)) ∧
      (∀ p, Gene.ofCode code pointer = .error p → Gene.Refused code pointer p) ∧
      ∀ g, Gene.ofCode code pointer = .ok g → g = ⟨code, pointer⟩) ∧
    (∀ (length : Nat) (s : Random.Stream), 0 < length → length ≤ 0x8000000000000000 →
      ∃ g, (Gene.sample? length s).1 = .ok g ∧ g.length = length) ∧
    ∀ g : Gene, g.Made → ∀ (ops : List Gene.Op) (op : Gene.Op), ∃ g₁ g₂,
      g.afterAll ops = some g₁ ∧ op.run g₁ = some g₂ ∧ g₁.WellFormed ∧ g₂.WellFormed ∧
        g₁.length = g.length ∧ g₂.length = g.length ∧ op.Frame g₁ g₂ := by
  refine ⟨fun code pointer => ⟨?_, fun p hp => Gene.refused_of_ofCode hp, fun g hg => ?_⟩,
    fun length s hpos hle => ?_, fun g hg ops op => ?_⟩
  · rw [Gene.exists_ofCode_eq_error_iff, Gene.not_wellFormed_iff]
  · exact (Gene.ofCode_eq_ok_iff.1 hg).1
  · obtain ⟨g, next, hsample⟩ := Gene.exists_sample? hpos hle s
    have hdrawn : (Gene.sample? length s).1 = .ok g := congrArg Prod.fst hsample
    exact ⟨g, hdrawn, Int.natCast_inj.1 (Gene.length_of_sample? hdrawn)⟩
  · obtain ⟨g₁, hafter, hg₁, hlength⟩ := hg.wellFormed.afterAll ops
    obtain ⟨g₂, hrun, hg₂, hlength₂, hframe⟩ := hg₁.run op
    exact ⟨g₁, g₂, hafter, hrun, hg₁, hg₂, hlength, hlength₂.trans hlength, hframe⟩

/-- A gene that goes round a tape of three instructions. -/
def roundGene : Gene :=
  ⟨[⟨.jumpIfSensorTrue, some 2⟩, ⟨.move, none⟩, ⟨.jumpIfSensorFalse, some 0⟩], 1⟩

/-- The gene is made, and after a jump far off the tape, a mutation and a copy the next step reads
the instruction at its new pointer. -/
theorem round_gene_stays_in_order :
    roundGene.Made ∧ ∃ g₁ g₂,
      roundGene.afterAll [.jump (-5), .mutate (.ofSeed 7), .copy] = some g₁ ∧
        Gene.Op.cycle.run g₁ = some g₂ ∧ g₁.pointer = 1 ∧ g₂.pointer = 2 ∧ g₂.WellFormed ∧
        g₂.length = 3 ∧ g₂.code = g₁.code := by
  have hmade : roundGene.Made := .ofCode (show Gene.ofCode roundGene.code 1 = _ from rfl)
  obtain ⟨g₁, g₂, hafter, hrun, -, hg₂, -, hlength, hframe⟩ :=
    tapes_stay_in_order.2.2 roundGene hmade [.jump (-5), .mutate (.ofSeed 7), .copy] .cycle
  have hpointer : (roundGene.afterAll [.jump (-5), .mutate (.ofSeed 7), .copy]).map Gene.pointer =
      some 1 := by decide +kernel
  have hpointer' : ((roundGene.afterAll [.jump (-5), .mutate (.ofSeed 7), .copy]).bind
      Gene.Op.cycle.run).map Gene.pointer = some 2 := by decide +kernel
  rw [hafter] at hpointer hpointer'
  rw [Option.bind_some, hrun] at hpointer'
  exact ⟨hmade, g₁, g₂, hafter, hrun, Option.some.inj hpointer, Option.some.inj hpointer', hg₂,
    hlength, hframe⟩

end Formicary
