import Formicary.Rules
import Mathlib.Tactic.Lemma

/-!
# Sound ants

An ant is sound if its program is in order, its energy, age and generation are integers and its
sensor is a truth value.  Boards only make sound ants.  For a sound ant nothing can fail: a step
reads an instruction and comes back with what its opcode asks for (`Ant.Sound.execute`), and
whatever a step, a mutation, a payment or a split leaves behind is sound again.
-/

namespace Formicary

namespace Instruction

/-- A drawn instruction that is not refused stands on the tape it was drawn for. -/
theorem fits_of_sample? {length : Int} {s : Random.Stream} {i : Instruction} (hpos : 0 < length)
    (h : (sample? length s).1 = .ok i) : i.Fits length.toNat := by
  simp only [sample?] at h
  split at h
  · split at h
    · cases h
    · cases h
      intro _
      have hlt := Random.Stream.below_lt length.toNat (s.below Opcode.table.length).2 (by omega)
      exact ⟨_, rfl, by omega, by exact_mod_cast hlt⟩
  · rename_i hop
    cases h
    exact fun hjump => absurd hjump hop

/-- A drawn instruction other than a jump has no target. -/
theorem target_of_sample? {length : Int} {s : Random.Stream} {i : Instruction}
    (h : (sample? length s).1 = .ok i) (hbare : i.opcode.isJump = false) : i.target = none := by
  simp only [sample?] at h
  split at h
  · rename_i hjump
    split at h
    · cases h
    · cases h
      exact absurd hjump (Bool.eq_false_iff.1 hbare)
  · cases h
    rfl

/-- Drawn instructions are as many as were asked for, and all are what a drawn instruction is. -/
theorem forall_of_samples? {length : Int} {p : Instruction → Prop}
    (hp : ∀ {s i}, (sample? length s).1 = .ok i → p i) {n : Nat} {s : Random.Stream}
    {code : List Instruction} (h : (samples? length n s).1 = .ok code) :
    code.length = n ∧ ∀ i ∈ code, p i := by
  induction n generalizing s code with
  | zero =>
    cases h
    exact ⟨rfl, fun i hi => (List.not_mem_nil hi).elim⟩
  | succ n ih =>
    simp only [samples?] at h
    split at h
    · cases h
    · rename_i i next hi
      cases hrest : (samples? length n next).1 with
      | error r =>
        rw [hrest] at h
        cases h
      | ok rest =>
        rw [hrest] at h
        cases h
        obtain ⟨hlen, hall⟩ := ih hrest
        exact ⟨congrArg (· + 1) hlen, List.forall_mem_cons.2 ⟨hp (congrArg Prod.fst hi), hall⟩⟩

/-- Drawn instructions are as many as were asked for, and all stand on the tape. -/
theorem fits_of_samples? {length : Int} (hpos : 0 < length) {n : Nat} {s : Random.Stream}
    {code : List Instruction} (h : (samples? length n s).1 = .ok code) :
    code.length = n ∧ ∀ i ∈ code, i.Fits length.toNat :=
  forall_of_samples? (fits_of_sample? hpos) h

/-- Instructions for a tape that is not empty and not too long to draw a target on are drawn. -/
theorem exists_samples? {length : Nat} (h : 0 < length) (h' : length ≤ 0x8000000000000000)
    (n : Nat) (s : Random.Stream) : ∃ code next, samples? length n s = (.ok code, next) := by
  induction n generalizing s with
  | zero => exact ⟨[], s, rfl⟩
  | succ n ih =>
    obtain ⟨rest, next, hrest⟩ := ih (sample length s).2
    exact ⟨(sample length s).1 :: rest, next, by
      simp only [samples?, sample?_natCast s h h', hrest, Except.map]⟩

end Instruction

namespace Gene

variable {g : Gene}

/-- A drawn gene is in order. -/
theorem wellFormed_of_sample? {length : Int} {s : Random.Stream}
    (h : (sample? length s).1 = .ok g) : g.WellFormed := by
  simp only [sample?] at h
  split at h
  · cases h
  · rename_i hpos
    split at h
    · cases h
    · rename_i code next hcode
      cases h
      obtain ⟨hlen, hfits⟩ := Instruction.fits_of_samples? (Int.not_le.1 hpos)
        (congrArg Prod.fst hcode)
      have hlt : 0 < code.length := by omega
      refine ⟨List.length_pos_iff.1 hlt, ?_, Int.le_refl 0, Int.natCast_pos.2 hlt⟩
      intro i hi
      rw [Gene.length, hlen]
      exact hfits i hi

/-- A drawn gene is as long as was asked for. -/
theorem length_of_sample? {length : Int} {s : Random.Stream}
    (h : (sample? length s).1 = .ok g) : (g.length : Int) = length := by
  simp only [sample?] at h
  split at h
  · cases h
  · rename_i hpos
    split at h
    · cases h
    · rename_i code next hcode
      cases h
      have hlen := (Instruction.fits_of_samples? (Int.not_le.1 hpos) (congrArg Prod.fst hcode)).1
      rw [Gene.length, hlen]
      omega

/-- A drawn gene starts at its first instruction, and its instructions other than jumps have no
target. -/
theorem fresh_of_sample? {length : Int} {s : Random.Stream}
    (h : (sample? length s).1 = .ok g) :
    g.pointer = 0 ∧ ∀ i ∈ g.code, i.opcode.isJump = false → i.target = none := by
  simp only [sample?] at h
  split at h
  · cases h
  · split at h
    · cases h
    · rename_i code next hcode
      cases h
      have hall := Instruction.forall_of_samples? (p := fun i =>
        i.opcode.isJump = false → i.target = none) Instruction.target_of_sample?
        (congrArg Prod.fst hcode)
      exact ⟨rfl, hall.2⟩

/-- A gene that is not empty and not too long to draw a target on is drawn. -/
theorem exists_sample? {length : Nat} (h : 0 < length) (h' : length ≤ 0x8000000000000000)
    (s : Random.Stream) : ∃ g next, sample? length s = (.ok g, next) := by
  obtain ⟨code, next, hcode⟩ := Instruction.exists_samples? h h' length s
  have hpos : ¬ (length : Int) ≤ 0 := by omega
  exact ⟨⟨code, 0⟩, next, by simp only [sample?, if_neg hpos, Int.toNat_natCast, hcode]⟩

/-- A tape in order has at least one instruction. -/
theorem WellFormed.length_pos (h : g.WellFormed) : 0 < g.length :=
  List.length_pos_iff.2 h.nonempty

/-- Any place on the tape is a fit pointer. -/
theorem WellFormed.withPointer (h : g.WellFormed) {p : Int} (hp : 0 ≤ p) (hlt : p < g.length) :
    ({ g with pointer := p } : Gene).WellFormed :=
  ⟨h.nonempty, h.fits, hp, hlt⟩

/-- Any integer taken around the tape is a fit pointer. -/
theorem WellFormed.withPointer_emod (h : g.WellFormed) (n : Int) :
    ({ g with pointer := n % g.length } : Gene).WellFormed := by
  have hpos : (0 : Int) < g.length := by exact_mod_cast h.length_pos
  exact h.withPointer (Int.emod_nonneg n (Int.ne_of_gt hpos)) (Int.emod_lt_of_pos n hpos)

/-- A taken jump keeps a gene in order, wherever it goes. -/
theorem WellFormed.jump (h : g.WellFormed) (target : Int) : (g.jump target).WellFormed :=
  h.withPointer_emod target

/-- A gene in order reads the instruction at its pointer and advances around the tape. -/
theorem WellFormed.cycle (h : g.WellFormed) :
    ∃ i, g.code[g.pointer.toNat]? = some i ∧ i.Fits g.length ∧
      g.cycle = some (i, { g with pointer := (g.pointer + 1) % g.length }) := by
  have hlt : g.pointer.toNat < g.code.length := by
    have hp : g.pointer < g.code.length := h.pointer_lt
    have h0 := h.pointer_nonneg
    omega
  have hplace : place? g.length g.pointer = some g.pointer.toNat := by
    have := place?_natCast hlt
    rwa [Int.toNat_of_nonneg h.pointer_nonneg] at this
  have hread : g.code[g.pointer.toNat]? = some g.code[g.pointer.toNat] :=
    List.getElem?_eq_getElem hlt
  refine ⟨_, hread, h.fits _ (List.getElem_mem hlt), ?_⟩
  simp [Gene.cycle, hplace, List.getElem?_eq_getElem hlt]

/-- A mutation keeps a gene in order: what is drawn for the tape stands on it. -/
theorem WellFormed.mutate (h : g.WellFormed) (s : Random.Stream) :
    (g.mutate s).2.1.WellFormed := by
  have hlen := length_mutate g s
  refine ⟨?_, ?_, h.pointer_nonneg, ?_⟩
  · intro hnil
    have hpos := h.length_pos
    rw [← hlen, length, hnil] at hpos
    exact Nat.lt_irrefl 0 hpos
  · intro i hi
    rw [hlen]
    rcases List.mem_or_eq_of_mem_set hi with hi | rfl
    · exact h.fits i hi
    · exact Instruction.sample_fits g.length _ h.length_pos
  · rw [hlen]
    exact h.pointer_lt

end Gene

namespace Ant

/-- An ant whose program is in order, whose numbers are integers and whose sensor is a truth
value. -/
structure Sound (a : Ant) : Prop where
  gene : a.gene.WellFormed
  energy : ∃ e, a.energy = .int e
  sensor : ∃ f, a.sensor = .bool f
  age : ∃ n, a.age = .int n
  generation : ∃ g, a.generation = .int g

variable {a : Ant}

/-- A sound ant may have any gene that is in order. -/
theorem Sound.withGene (h : a.Sound) {g : Gene} (hg : g.WellFormed) :
    ({ a with gene := g } : Ant).Sound :=
  ⟨hg, h.energy, h.sensor, h.age, h.generation⟩

/-- A sound ant may have any integer energy. -/
theorem Sound.withEnergy (h : a.Sound) (e : Int) : ({ a with energy := .int e } : Ant).Sound :=
  ⟨h.gene, ⟨e, rfl⟩, h.sensor, h.age, h.generation⟩

/-- Interpreting an instruction that fits the tape succeeds and asks for what the opcode says. -/
theorem Sound.interpret (h : a.Sound) {i : Instruction} (hi : i.Fits a.gene.length) :
    (a.interpret i).2 = .ok i.opcode.request? ∧ (a.interpret i).1.Sound := by
  have hturn : ∀ d, ({ a with direction := d } : Ant).Sound := fun d =>
    ⟨h.gene, h.energy, h.sensor, h.age, h.generation⟩
  obtain ⟨op, target⟩ := i
  -- only a jump looks at its target, which is there because the instruction fits
  have hjump : op.isJump = true → ∃ t, target = some t := fun hop => by
    obtain ⟨t, ht, -⟩ := hi hop
    exact ⟨t, ht⟩
  cases op with
  | turnLeft => exact ⟨rfl, hturn _⟩
  | turnRight => exact ⟨rfl, hturn _⟩
  | noop => exact ⟨rfl, h⟩
  | move => exact ⟨rfl, h⟩
  | eat => exact ⟨rfl, h⟩
  | attack => exact ⟨rfl, h⟩
  | jumpIfSensorFalse =>
    obtain ⟨t, rfl⟩ := hjump rfl
    cases hs : a.sensor.truthy with
    | false => simpa [Ant.interpret, taken, hs, Opcode.request?] using h.withGene (h.gene.jump t)
    | true => simpa [Ant.interpret, taken, hs, Opcode.request?] using h
  | jumpIfSensorTrue =>
    obtain ⟨t, rfl⟩ := hjump rfl
    cases hs : a.sensor.truthy with
    | false => simpa [Ant.interpret, taken, hs, Opcode.request?] using h
    | true => simpa [Ant.interpret, taken, hs, Opcode.request?] using h.withGene (h.gene.jump t)

/-- A step of a sound ant reads the instruction at its pointer, asks for what its opcode says and
leaves a sound ant. -/
theorem Sound.execute (h : a.Sound) :
    ∃ i, a.gene.code[a.gene.pointer.toNat]? = some i ∧
      a.execute.2 = .ok i.opcode.request? ∧ a.execute.1.Sound := by
  obtain ⟨i, hread, hfits, hcycle⟩ := h.gene.cycle
  obtain ⟨n, hn⟩ := h.age
  have hgrown : a.age.grown (.int 1) = .ok (.int (n + 1)) := by rw [hn, Value.grown_int]
  have hsound : ({ a with
      age := .int (n + 1)
      gene := { a.gene with pointer := (a.gene.pointer + 1) % a.gene.length } } : Ant).Sound :=
    ⟨h.gene.withPointer_emod _, h.energy, h.sensor, ⟨n + 1, rfl⟩, h.generation⟩
  have hstep := hsound.interpret hfits
  refine ⟨i, hread, ?_, ?_⟩
  · simp only [Ant.execute, hgrown, hcycle]
    exact hstep.1
  · simp only [Ant.execute, hgrown, hcycle]
    exact hstep.2

/-- A mutated ant is sound. -/
theorem Sound.mutate (h : a.Sound) (s : Random.Stream) : (a.mutate s).2.1.Sound :=
  h.withGene (h.gene.mutate s)

/-- A new ant with a gene in order and an integer energy is sound. -/
theorem sound_of_new {g : Gene} (hg : g.WellFormed) (id e : Int) (team : Team) (d : Direction) :
    ({ id, team, gene := g, energy := .int e, direction := d } : Ant).Sound :=
  ⟨hg, ⟨e, rfl⟩, ⟨false, rfl⟩, ⟨0, rfl⟩, ⟨0, rfl⟩⟩

/-- A drawn ant with an integer energy is sound. -/
theorem sound_of_sample? {id length e : Int} {s : Random.Stream}
    (h : (sample? id length (.int e) s).1 = .ok a) : a.Sound ∧ a.id = id := by
  simp only [sample?] at h
  cases hgene : (Gene.sample? length (s.below Team.all.length).2).1 with
  | error e =>
    rw [hgene] at h
    cases h
  | ok g =>
    rw [hgene] at h
    cases h
    exact ⟨sound_of_new (Gene.wellFormed_of_sample? hgene) _ _ _ _, rfl⟩

/-- An ant as it is drawn: it faces north, has the energy that it was given and has done nothing
yet, and its instructions other than jumps have no target. -/
structure Fresh (a : Ant) (energy : Value) : Prop where
  direction : a.direction = .north
  energy : a.energy = energy
  sensor : a.sensor = .bool false
  age : a.age = .int 0
  generation : a.generation = .int 0
  pointer : a.gene.pointer = 0
  bare : ∀ i ∈ a.gene.code, i.opcode.isJump = false → i.target = none

/-- A drawn ant is fresh, and its gene is as long as was asked for. -/
theorem fresh_of_sample? {id length : Int} {energy : Value} {s : Random.Stream}
    (h : (sample? id length energy s).1 = .ok a) :
    a.Fresh energy ∧ (a.gene.length : Int) = length := by
  simp only [sample?] at h
  cases hgene : (Gene.sample? length (s.below Team.all.length).2).1 with
  | error e =>
    rw [hgene] at h
    cases h
  | ok g =>
    rw [hgene] at h
    cases h
    obtain ⟨hpointer, hbare⟩ := Gene.fresh_of_sample? hgene
    exact ⟨⟨rfl, rfl, rfl, rfl, rfl, hpointer, hbare⟩, Gene.length_of_sample? hgene⟩

/-- A copy of a sound ant under another id, of age zero and one generation on, is sound. -/
theorem Sound.child (h : a.Sound) (id e g : Int) :
    ({ a with id, energy := .int e, age := .int 0, generation := .int g } : Ant).Sound :=
  ⟨h.gene, ⟨e, rfl⟩, h.sensor, ⟨0, rfl⟩, ⟨g, rfl⟩⟩

end Ant

namespace Rules

/-- Rules whose amounts of energy are integers, with a divisor that exceeds zero. -/
structure Integral (r : Rules) : Prop where
  initialEnergy : ∃ n, r.initialEnergy = .int n
  foodEnergy : ∃ n, r.foodEnergy = .int n
  splitEnergy : ∃ n, r.splitEnergy = .int n
  actionCost : ∃ n, r.actionCost = .int n
  attackDivisor : ∃ n, r.attackDivisor = .int n ∧ 0 < n

end Rules

end Formicary
