import Formicary.Compass
import Formicary.Gene
import Formicary.Team
import Formicary.Value.Arithmetic
import Formicary.Value.Identity

/-!
# Ants

An ant owns a gene and interprets one instruction per step. Turns and jumps are settled inside the
ant; a move, a meal or an attack is handed out as a request, because the ant does not know whether
the board allows it. Energy, age and generation are whatever the ant was given: numbers, of which an
energy may fall below zero, or values that fail where they are reckoned with. The sensor is judged
by its truth.

A step ages the ant before it reads its tape, so an ant whose pointer has left the tape is older
after the step that failed, and one that cannot be aged does not read.
-/

namespace Formicary

/-- What an ant asks of the board. -/
inductive Request where
  | move
  | eat
  | attack
  deriving DecidableEq

/-- The written name of a request. -/
def Request.name : Request → String
  | .move => "move"
  | .eat => "eat"
  | .attack => "attack"

/-- The request that an opcode makes, if it makes one. -/
def Opcode.request? : Opcode → Option Request
  | .move => some .move
  | .eat => some .eat
  | .attack => some .attack
  | _ => none

/-- The opcode that asks for something. -/
def Request.opcode : Request → Opcode
  | .move => .move
  | .eat => .eat
  | .attack => .attack

/-- What asks for something is its opcode. -/
theorem Opcode.request?_eq_some_iff {op : Opcode} {r : Request} :
    op.request? = some r ↔ op = r.opcode := by
  cases op <;> cases r <;> simp [request?, Request.opcode]

/-- The energy of an ant for which no other is given. -/
def defaultEnergy : Int := 50

/-- The energy that a meal gives where no other is given. -/
def defaultMeal : Int := 150

/-- The length of a drawn gene for which no other is given. -/
def defaultGeneLength : Nat := 20

/-- An ant. -/
structure Ant where
  /-- The handle of the ant, which it keeps wherever it stands. -/
  id : Int
  /-- Its affiliation. -/
  team : Team
  /-- Its program. -/
  gene : Gene
  /-- What it lives on. -/
  energy : Value := .int defaultEnergy
  /-- Its facing. -/
  direction : Direction := .north
  /-- Set by a successful move: whether a neighbour of the new place was empty. -/
  sensor : Value := .bool false
  /-- The number of steps since birth. -/
  age : Value := .int 0
  /-- The number of splits between the ant and the ants that were placed. -/
  generation : Value := .int 0
  deriving DecidableEq

/-- Why a step fails. -/
inductive Ant.StepError where
  | ageless (cause : Value.Misuse)
  | offTape (pointer : Int)
  | noTarget
  deriving DecidableEq

/-- What a viewer sees of an ant. -/
structure AntSummary where
  /-- The handle of the ant. -/
  id : Int
  /-- Its affiliation. -/
  team : Team
  /-- What it lives on. -/
  energy : Value
  /-- The number of steps since birth. -/
  age : Value
  deriving DecidableEq

namespace Ant

/-- Whether a jump with the given opcode is taken by an ant with the given sensor. -/
def taken : Opcode → Bool → Bool
  | .jumpIfSensorFalse, sensor => !sensor
  | .jumpIfSensorTrue, sensor => sensor
  | _, _ => false

/-- The effect of an instruction that has been read, and what it asks of the board. -/
def interpret (a : Ant) (i : Instruction) : Ant × Except StepError (Option Request) :=
  match i.opcode with
  | .turnLeft => ({ a with direction := a.direction.turnLeft }, .ok none)
  | .turnRight => ({ a with direction := a.direction.turnRight }, .ok none)
  | op =>
    if taken op a.sensor.truthy then
      match i.target with
      | some t => ({ a with gene := a.gene.jump t }, .ok none)
      | none => (a, .error .noTarget)
    else (a, .ok op.request?)

/-- One step: the ant ages, reads one instruction and interprets it. -/
def execute (a : Ant) : Ant × Except StepError (Option Request) :=
  match a.age.grown (.int 1) with
  | .error cause => (a, .error (.ageless cause))
  | .ok age =>
    match a.gene.cycle with
    | none => ({ a with age }, .error (.offTape a.gene.pointer))
    | some (i, gene) => { a with age, gene }.interpret i

/-- The ant after paying an amount of energy. -/
def consume (a : Ant) (amount : Value) : Except Value.Misuse Ant :=
  (a.energy.minus "-=" amount).map fun energy => { a with energy }

/-- The ant after gaining an amount of energy. -/
def increase (a : Ant) (amount : Value) : Except Value.Misuse Ant :=
  (a.energy.grown amount).map fun energy => { a with energy }

/-- The ant with one drawn locus of its gene redrawn, and that locus. -/
def mutate (a : Ant) (s : Random.Stream) : Nat × Ant × Random.Stream :=
  let (locus, gene, next) := a.gene.mutate s
  (locus, { a with gene }, next)

/-- The two ants that an ant splits into, the parent first. Each keeps half of the energy, rounded
down; the child is of age zero and one generation on, and equal in all else. -/
def split (a : Ant) (childId : Int) : Except Value.Misuse (Ant × Ant) := do
  let energy ← a.energy.floorDiv "//" (.int 2)
  let generation ← a.generation.plus "+" (.int 1)
  .ok ({ a with energy }, { a with id := childId, energy, age := .int 0, generation })

/-- The energy that an attack takes from its target: the quotient rounded toward zero for a
positive divisor. -/
def damage (a : Ant) (divisor : Value) : Except Value.Misuse Value :=
  a.energy.signedQuotient divisor

/-- What a viewer sees. -/
def summary (a : Ant) : AntSummary := ⟨a.id, a.team, a.energy, a.age⟩

/-- All that there is to an ant, under the names that it is handed out by; the gene is written
instruction by instruction. -/
def fields (a : Ant) : List (String × Value) :=
  [("ant_id", .int a.id), ("team", .text a.team.name), ("energy", a.energy), ("age", a.age),
    ("direction", .text a.direction.name), ("sensor", a.sensor), ("generation", a.generation),
    ("instruction_pointer", .int a.gene.pointer), ("gene", .list (a.gene.texts.map .text))]

/-- A northbound ant of a drawn team with a gene drawn after it, and the stream after what was
drawn. -/
def sample? (id length : Int) (energy : Value) (s : Random.Stream) :
    Except Gene.Problem Ant × Random.Stream :=
  let (t, afterTeam) := s.below Team.all.length
  let (gene, next) := Gene.sample? length afterTeam
  (gene.map fun g => { id, team := Team.all.getD t .blue, gene := g, energy }, next)

/-! ### Energies, ages and generations that are integers -/

theorem consume_int {a : Ant} {e : Int} (h : a.energy = .int e) (n : Int) :
    a.consume (.int n) = .ok { a with energy := .int (e - n) } := by
  simp [consume, h, Except.map]

theorem split_int {a : Ant} {e g : Int} (he : a.energy = .int e) (hg : a.generation = .int g)
    (childId : Int) :
    a.split childId = .ok ({ a with energy := .int (e.fdiv 2) },
      { a with
        id := childId, energy := .int (e.fdiv 2), age := .int 0, generation := .int (g + 1) }) := by
  simp [split, he, hg, Value.floorDiv_int, bind, Except.bind]

theorem damage_int {a : Ant} {e : Int} (h : a.energy = .int e) {divisor : Int} (hd : 0 < divisor) :
    a.damage (.int divisor) = .ok (.int (e.tdiv divisor)) := by
  rw [damage, h, Value.signedQuotient_int e hd]

/-! ### What a step leaves alone -/

/-- Interpreting an instruction changes at most the facing and the pointer. -/
theorem interpret_frame (a : Ant) (i : Instruction) :
    ∃ d p, (a.interpret i).1 = { a with direction := d, gene := { a.gene with pointer := p } } := by
  unfold interpret
  split
  · exact ⟨_, _, rfl⟩
  · exact ⟨_, _, rfl⟩
  · split
    · split <;> exact ⟨_, _, rfl⟩
    · exact ⟨_, _, rfl⟩

/-- A step changes at most the age, the facing and the pointer. -/
theorem execute_frame (a : Ant) :
    ∃ age d p, a.execute.1 =
      { a with age, direction := d, gene := { a.gene with pointer := p } } := by
  unfold execute
  cases a.age.grown (.int 1) with
  | error _ => exact ⟨a.age, a.direction, a.gene.pointer, rfl⟩
  | ok age =>
    cases h : a.gene.cycle with
    | none => exact ⟨age, a.direction, a.gene.pointer, rfl⟩
    | some c =>
      obtain ⟨i, g⟩ := c
      have hg : g.code = a.gene.code := by
        simp only [Gene.cycle, Option.bind_eq_bind, Option.bind_eq_some_iff] at h
        obtain ⟨_, _, _, _, h⟩ := h
        cases h
        rfl
      obtain ⟨d, p, hi⟩ := interpret_frame { a with age, gene := g } i
      exact ⟨age, d, p, by simp only [hi, hg]⟩

/-- A step counts an age that is an integer up by one. -/
theorem age_execute_int {a : Ant} {n : Int} (h : a.age = .int n) :
    a.execute.1.age = .int (n + 1) := by
  unfold execute
  rw [h, Value.grown_int]
  cases a.gene.cycle with
  | none => rfl
  | some c =>
    obtain ⟨d, p, hi⟩ := interpret_frame { a with age := .int (n + 1), gene := c.2 } c.1
    simp only [hi]

end Ant

end Formicary
