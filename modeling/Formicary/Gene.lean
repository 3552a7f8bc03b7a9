import Formicary.Indexing
import Formicary.Instruction

/-!
# Genes

A gene is a circular tape of instructions with a pointer. Each step of its ant reads the
instruction at the pointer and advances the pointer; a taken jump replaces the pointer; a mutation
replaces the instruction at one drawn locus. `Gene.ofCode` checks what every later operation
keeps: the tape is not empty, jumps have targets on it, and so has the pointer its place.

The pointer is an integer and not an index, because it may be written directly. A pointer below
zero reads from the end of the tape, and one that leaves the tape on either side reads nothing.
-/

namespace Formicary

/-- A circular tape of instructions and the place of the next one. -/
structure Gene where
  /-- The tape. -/
  code : List Instruction
  /-- The place of the next instruction. -/
  pointer : Int
  deriving DecidableEq

/-- Why a gene is refused. -/
inductive Gene.Problem where
  | empty
  | badTarget (target : Option Int) (locus length : Nat)
  | badPointer (pointer : Int)
  | badLength (length : Int)
  | refused (cause : Random.Stream.Refusal)
  deriving DecidableEq

namespace Gene

/-- The wording of a refusal. -/
def Problem.message : Problem → String
  | .empty => "Gene tape must contain at least one instruction"
  | .badTarget target locus length =>
    "Jump target " ++ (match target with | none => "None" | some t => toString t) ++ " at locus " ++
      toString locus ++ " outside tape of length " ++ toString length
  | .badPointer pointer => "Instruction pointer " ++ toString pointer ++ " outside tape"
  | .badLength length => "Gene length must be positive, got " ++ toString length
  | .refused cause => cause.message

/-- The number of instructions on the tape. -/
def length (g : Gene) : Nat := g.code.length

/-- A gene whose tape and pointer are in order. -/
structure WellFormed (g : Gene) : Prop where
  nonempty : g.code ≠ []
  fits : ∀ i ∈ g.code, i.Fits g.length
  pointer_nonneg : 0 ≤ g.pointer
  pointer_lt : g.pointer < g.length

/-- The first instruction from position `locus` on that does not stand on a tape of the given
length. -/
def firstMisfit? (length : Nat) : Nat → List Instruction → Option (Nat × Instruction)
  | _, [] => none
  | locus, i :: rest =>
    if i.Fits length then firstMisfit? length (locus + 1) rest else some (locus, i)

/-- The gene of a tape and a pointer, if they are in order. -/
def ofCode (code : List Instruction) (pointer : Int) : Except Problem Gene :=
  if code.isEmpty then .error .empty
  else
    match firstMisfit? code.length 0 code with
    | some (locus, i) => .error (.badTarget i.target locus code.length)
    | none =>
      if 0 ≤ pointer ∧ pointer < code.length then .ok ⟨code, pointer⟩
      else .error (.badPointer pointer)

/-- The gene of a tape of opcodes without targets. -/
def ofOpcodes (opcodes : List Opcode) : Except Problem Gene :=
  ofCode (opcodes.map fun op => ⟨op, none⟩) 0

/-- A gene of the given number of drawn instructions, starting at the first, and the stream after
what was drawn. The length may be no length, or too great to draw a target below. -/
def sample? (length : Int) (s : Random.Stream) : Except Problem Gene × Random.Stream :=
  if length ≤ 0 then (.error (.badLength length), s)
  else
    match Instruction.samples? length length.toNat s with
    | (.error r, next) => (.error (.refused r), next)
    | (.ok code, next) => (.ok ⟨code, 0⟩, next)

/-- A gene with the same tape and pointer, which are checked again. -/
def copy (g : Gene) : Except Problem Gene := ofCode g.code g.pointer

/-- The instruction at the pointer, and the gene with its pointer advanced. -/
def cycle (g : Gene) : Option (Instruction × Gene) := do
  let place ← place? g.length g.pointer
  let i ← g.code[place]?
  some (i, { g with pointer := (g.pointer + 1) % g.length })

/-- The gene with its pointer at the target of a jump, taken around the tape. -/
def jump (g : Gene) (target : Int) : Gene := { g with pointer := target % g.length }

/-- The gene with a newly drawn instruction at a drawn locus, and that locus. -/
def mutate (g : Gene) (s : Random.Stream) : Nat × Gene × Random.Stream :=
  let (locus, next) := s.below g.length
  let (i, last) := Instruction.sample g.length next
  (locus, { g with code := g.code.set locus i }, last)

/-- The gene with another instruction at a locus; negative loci count from the end. -/
def replace? (g : Gene) (locus : Int) (i : Instruction) : Option Gene :=
  (place? g.length locus).map fun n => { g with code := g.code.set n i }

/-- The written instructions in order. -/
def texts (g : Gene) : List String := g.code.map Instruction.text

/-- The description of a gene: its pointer and its written instructions. -/
def describe (g : Gene) : String :=
  "Gene(ip=" ++ toString g.pointer ++ ", code=[" ++ ", ".intercalate g.texts ++ "])"

/-! ### Tape safety -/

theorem firstMisfit?_eq_none_iff {length locus : Nat} {code : List Instruction} :
    firstMisfit? length locus code = none ↔ ∀ i ∈ code, i.Fits length := by
  induction code generalizing locus with
  | nil => simp [firstMisfit?]
  | cons i rest ih =>
    by_cases h : i.Fits length
    · simp [firstMisfit?, h, ih]
    · simp [firstMisfit?, h]

/-- Exactly the well-formed genes are accepted. -/
theorem ofCode_eq_ok_iff {code : List Instruction} {pointer : Int} {g : Gene} :
    ofCode code pointer = .ok g ↔ g = ⟨code, pointer⟩ ∧ g.WellFormed := by
  unfold ofCode
  by_cases he : code = []
  · subst he
    simp only [List.isEmpty_nil, if_true]
    constructor
    · intro h
      cases h
    · rintro ⟨rfl, h⟩
      exact absurd rfl h.nonempty
  · have he' : code.isEmpty = false := by simpa using he
    simp only [he', Bool.false_eq_true, if_false]
    cases hm : firstMisfit? code.length 0 code with
    | some m =>
      constructor
      · intro h
        cases h
      · rintro ⟨rfl, h⟩
        have := (@firstMisfit?_eq_none_iff code.length 0 code).2 h.fits
        rw [hm] at this
        cases this
    | none =>
      have hf := firstMisfit?_eq_none_iff.1 hm
      by_cases hp : 0 ≤ pointer ∧ pointer < code.length
      · simp only [hp, and_self, if_true, Except.ok.injEq]
        constructor
        · rintro rfl
          exact ⟨rfl, he, hf, hp.1, hp.2⟩
        · rintro ⟨rfl, -⟩
          rfl
      · simp only [hp, if_false]
        constructor
        · intro h
          cases h
        · rintro ⟨rfl, h⟩
          exact absurd ⟨h.pointer_nonneg, h.pointer_lt⟩ hp

@[simp] theorem length_jump (g : Gene) (t : Int) : (g.jump t).length = g.length := rfl

theorem length_mutate (g : Gene) (s : Random.Stream) : (g.mutate s).2.1.length = g.length := by
  simp [mutate, length]

end Gene

end Formicary
