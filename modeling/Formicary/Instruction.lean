import Formicary.Random.Stream

/-!
# Instructions

The closed instruction set of an ant. An instruction is an opcode with an optional target, which
only the two jumps use. `Instruction.text` writes the opcode and, in parentheses, the target.
-/

namespace Formicary

/-- The operations of the instruction set. -/
inductive Opcode where
  | noop
  | move
  | turnLeft
  | turnRight
  | eat
  | attack
  | jumpIfSensorFalse
  | jumpIfSensorTrue
  deriving DecidableEq

namespace Opcode

/-- The opcodes in the order of their definition. -/
def all : List Opcode :=
  [.noop, .move, .turnLeft, .turnRight, .eat, .attack, .jumpIfSensorFalse, .jumpIfSensorTrue]

/-- The opcodes in the order in which a draw numbers them. -/
def table : List Opcode :=
  [.noop, .move, .turnLeft, .turnRight, .eat, .attack, .jumpIfSensorTrue, .jumpIfSensorFalse]

/-- The opcodes that use a target. -/
def jumps : List Opcode := [.jumpIfSensorFalse, .jumpIfSensorTrue]

/-- Whether an opcode uses a target. -/
def isJump (op : Opcode) : Bool := jumps.contains op

/-- The written name of an opcode. -/
def name : Opcode → String
  | .noop => "noop"
  | .move => "move"
  | .turnLeft => "turn_left"
  | .turnRight => "turn_right"
  | .eat => "eat"
  | .attack => "attack"
  | .jumpIfSensorFalse => "jump_if_sensor_false"
  | .jumpIfSensorTrue => "jump_if_sensor_true"

/-- The opcode with a given written name. -/
def ofName? (text : String) : Option Opcode := all.find? (·.name == text)

end Opcode

/-- One cell of a tape. -/
structure Instruction where
  /-- The operation to perform. -/
  opcode : Opcode
  /-- The tape index a jump goes to. -/
  target : Option Int := none
  deriving DecidableEq

namespace Instruction

/-- The written form: the name of the opcode, then the target in parentheses if there is one. -/
def text (i : Instruction) : String :=
  match i.target with
  | none => i.opcode.name
  | some t => i.opcode.name ++ "(" ++ toString t ++ ")"

/-- An instruction drawn uniformly from the opcodes, the target of a jump uniformly from the
positions of a tape of the given length. -/
def sample (length : Nat) (s : Random.Stream) : Instruction × Random.Stream :=
  let (n, next) := s.below Opcode.table.length
  let op := Opcode.table.getD n .noop
  if op.isJump then
    let (t, last) := next.below length
    (⟨op, some t⟩, last)
  else (⟨op, none⟩, next)

/-- An instruction drawn for a tape whose length may be no length, or too great to draw below; then
there is no target for a jump, and only the opcode is drawn. -/
def sample? (length : Int) (s : Random.Stream) :
    Except Random.Stream.Refusal Instruction × Random.Stream :=
  let (n, next) := s.below Opcode.table.length
  let op := Opcode.table.getD n .noop
  if op.isJump then
    match Random.Stream.refusal? 0 length with
    | some r => (.error r, next)
    | none =>
      let (t, last) := next.below length.toNat
      (.ok ⟨op, some t⟩, last)
  else (.ok ⟨op, none⟩, next)

/-- Several instructions drawn in order, up to the first that is refused. -/
def samples? (length : Int) : Nat → Random.Stream →
    Except Random.Stream.Refusal (List Instruction) × Random.Stream
  | 0, s => (.ok [], s)
  | n + 1, s =>
    match sample? length s with
    | (.error r, next) => (.error r, next)
    | (.ok i, next) =>
      let (rest, last) := samples? length n next
      (rest.map (i :: ·), last)

/-- Whether an instruction can stand on a tape of the given length: a jump has a target on it. -/
def Fits (i : Instruction) (length : Nat) : Prop :=
  i.opcode.isJump = true → ∃ t, i.target = some t ∧ 0 ≤ t ∧ t < length

instance (i : Instruction) (length : Nat) : Decidable (i.Fits length) :=
  match h : i.target with
  | none =>
    if j : i.opcode.isJump = true then
      .isFalse fun f => by obtain ⟨t, ht, -⟩ := f j; simp [h] at ht
    else .isTrue fun k => absurd k j
  | some t =>
    if j : i.opcode.isJump = true → 0 ≤ t ∧ t < length then
      .isTrue fun k => ⟨t, h, j k⟩
    else .isFalse fun f => j fun k => by
      obtain ⟨u, hu, hu'⟩ := f k
      rw [h] at hu
      cases hu
      exact hu'

/-- A drawn instruction stands on the tape it was drawn for. -/
theorem sample_fits (length : Nat) (s : Random.Stream) (h : 0 < length) :
    (sample length s).1.Fits length := by
  unfold sample
  dsimp only
  split
  · intro _
    exact ⟨_, rfl, by omega, by exact_mod_cast Random.Stream.below_lt length _ h⟩
  · intro j
    simp_all

/-- Nothing is refused on a tape that is not empty and not too long to draw a target on. -/
theorem sample?_natCast {length : Nat} (s : Random.Stream) (h : 0 < length)
    (h' : length ≤ 0x8000000000000000) :
    sample? length s = (.ok (sample length s).1, (sample length s).2) := by
  have hr : Random.Stream.refusal? 0 length = none := by
    simp only [Random.Stream.refusal?]
    rw [if_neg (by omega), if_neg (by omega), if_neg (by omega)]
  simp only [sample?, sample, hr, Int.toNat_natCast]
  split <;> rfl

end Instruction


end Formicary
