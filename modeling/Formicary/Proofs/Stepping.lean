import Formicary.Proofs.Soundness
import Mathlib.Data.Fintype.Pigeonhole
import Mathlib.Logic.Function.Iterate

/-!
# Steps in a row

An ant that is left to itself only executes its tape: nothing mutates the tape or sets the sensor,
so that each step is told by the instruction at the pointer.  `Ant.Ready.execute_eq` says all that
one step does.  From it follows what a row of steps does (`Ant.after`): the ant ages and turns, the
pointer goes around the tape or jumps on it, and nothing else changes.

Since the next pointer hangs on the pointer alone, and there are only as many of them as
instructions, the pointers repeat themselves before long (`Ant.Ready.exists_period`).
-/

namespace Formicary

namespace Direction

/-- The direction after a number of quarter turns counter-clockwise, of which four are none. -/
def turned (d : Direction) (n : Int) : Direction := turnLeft^[(n % 4).toNat] d

/-- One more quarter turn. -/
theorem turned_add_one (d : Direction) (n : Int) : d.turned (n + 1) = (d.turned n).turnLeft := by
  unfold turned
  rw [← Function.iterate_succ_apply' turnLeft]
  obtain hlt | hlast : n % 4 < 3 ∨ n % 4 = 3 := by omega
  · have hnext : ((n + 1) % 4).toNat = (n % 4).toNat + 1 := by omega
    rw [hnext]
  · have hnext : (n + 1) % 4 = 0 := by omega
    rw [hnext, hlast]
    cases d <;> rfl

/-- One quarter turn less is one back. -/
theorem turned_sub_one (d : Direction) (n : Int) : d.turned (n - 1) = (d.turned n).turnRight := by
  have hlast := d.turned_add_one (n - 1)
  rw [Int.sub_add_cancel] at hlast
  rw [hlast, turnRight_turnLeft]

end Direction

namespace Opcode

/-- The direction that an ant faces after an instruction with the opcode. -/
def turn : Opcode → Direction → Direction
  | .turnLeft, d => d.turnLeft
  | .turnRight, d => d.turnRight
  | _, d => d

/-- A left turn is a quarter turn more, a right turn one less. -/
theorem turn_turned (op : Opcode) (d : Direction) (n : Int) :
    op.turn (d.turned n) =
      d.turned (n + (if op = .turnLeft then 1 else 0) - if op = .turnRight then 1 else 0) := by
  cases op with
  | turnLeft => simp [turn, Direction.turned_add_one]
  | turnRight => simp [turn, Direction.turned_sub_one]
  | _ => simp [turn]

/-- Moves, meals and attacks are what is asked for. -/
theorem isSome_request?_iff {op : Opcode} :
    op.request?.isSome ↔ op ∈ [Opcode.move, .eat, .attack] := by
  cases op <;> decide

end Opcode

namespace Instruction

variable {i : Instruction} {sensor : Bool}

/-- Whether an instruction is a jump whose condition the truth of the sensor meets. -/
def Jumps (i : Instruction) (sensor : Bool) : Prop :=
  (i.opcode = .jumpIfSensorFalse ∧ sensor = false) ∨ (i.opcode = .jumpIfSensorTrue ∧ sensor = true)

instance (i : Instruction) (sensor : Bool) : Decidable (i.Jumps sensor) :=
  inferInstanceAs (Decidable (_ ∨ _))

theorem taken_iff_jumps : Ant.taken i.opcode sensor = true ↔ i.Jumps sensor := by
  unfold Jumps
  cases i.opcode <;> cases sensor <;> decide

/-- What jumps is a jump, which neither turns the ant nor asks for anything. -/
theorem Jumps.only_jumps (h : i.Jumps sensor) :
    i.opcode.isJump = true ∧ (∀ d, i.opcode.turn d = d) ∧ i.opcode.request? = none := by
  rcases h with ⟨hop, -⟩ | ⟨hop, -⟩
  · rw [hop]
    exact ⟨rfl, fun _ => rfl, rfl⟩
  · rw [hop]
    exact ⟨rfl, fun _ => rfl, rfl⟩

/-- Where the pointer goes from an instruction on a tape of the given length. -/
def successor (i : Instruction) (length : Nat) (pointer : Int) (sensor : Bool) : Int :=
  if i.Jumps sensor then i.target.getD pointer else (pointer + 1) % length

/-- A jump that stands on a tape has the place on it for a target to which the pointer goes. -/
theorem Jumps.target_eq (h : i.Jumps sensor) {length : Nat} (hfits : i.Fits length)
    (pointer : Int) : i.target = some (i.successor length pointer sensor) ∧
      0 ≤ i.successor length pointer sensor ∧ i.successor length pointer sensor < length := by
  obtain ⟨t, ht, h0, hlt⟩ := hfits h.only_jumps.1
  have ht' : i.successor length pointer sensor = t := by
    rw [successor, if_pos h, ht, Option.getD_some]
  rw [ht']
  exact ⟨ht, h0, hlt⟩

/-- From any other instruction the pointer goes on around the tape. -/
theorem successor_of_not_jumps (h : ¬ i.Jumps sensor) (length : Nat) (pointer : Int) :
    i.successor length pointer sensor = (pointer + 1) % length :=
  if_neg h

/-- From an instruction that stands on a tape, the pointer goes to a place on it. -/
theorem Fits.successor {length : Nat} (h : i.Fits length) (hpos : 0 < length) (pointer : Int)
    (sensor : Bool) :
    0 ≤ i.successor length pointer sensor ∧ i.successor length pointer sensor < length := by
  by_cases hjumps : i.Jumps sensor
  · exact (hjumps.target_eq h pointer).2
  · have hpos' : (0 : Int) < length := Int.natCast_pos.2 hpos
    rw [successor_of_not_jumps hjumps]
    exact ⟨Int.emod_nonneg _ (Int.ne_of_gt hpos'), Int.emod_lt_of_pos _ hpos'⟩

end Instruction

/-- An integer, or a truth value that counts as one, is one more after it has grown by one. -/
theorem Value.grown_one {v : Value} {n : Int} (h : v.integer? = some n) :
    v.grown (.int 1) = .ok (.int (n + 1)) := by
  cases v with
  | bool b =>
    cases h
    rfl
  | int m =>
    cases h
    rfl
  | _ => cases h

namespace Ant

/-! ### One step -/

/-- The instruction that a step reads, if the pointer is on the tape. -/
def read? (a : Ant) : Option Instruction := a.gene.cycle.map Prod.fst

/-- An ant whose gene is in order and whose age is an integer. -/
structure Ready (a : Ant) (age : Int) : Prop where
  gene : a.gene.WellFormed
  age : a.age.integer? = some age

variable {a a' : Ant} {age age' : Int} {i : Instruction}

/-- A jump whose condition is met only sends the pointer to its target. -/
theorem interpret_of_jumps (h : i.Jumps a.sensor.truthy) {t : Int} (ht : i.target = some t) :
    a.interpret i = ({ a with gene := a.gene.jump t }, .ok none) := by
  have htaken := Instruction.taken_iff_jumps.2 h
  unfold interpret
  rcases h with ⟨hop, -⟩ | ⟨hop, -⟩
  · rw [hop] at htaken ⊢
    simp only [htaken, ht, if_true]
  · rw [hop] at htaken ⊢
    simp only [htaken, ht, if_true]

/-- Any other instruction turns the ant or asks for what its opcode says. -/
theorem interpret_of_not_jumps (h : ¬ i.Jumps a.sensor.truthy) :
    a.interpret i =
      ({ a with direction := i.opcode.turn a.direction }, .ok i.opcode.request?) := by
  have htaken : taken i.opcode a.sensor.truthy = false :=
    Bool.eq_false_iff.2 fun h' => h (Instruction.taken_iff_jumps.1 h')
  unfold interpret
  cases hop : i.opcode with
  | jumpIfSensorFalse =>
    rw [hop] at htaken
    simp only [htaken, Bool.false_eq_true, if_false]
    rfl
  | jumpIfSensorTrue =>
    rw [hop] at htaken
    simp only [htaken, Bool.false_eq_true, if_false]
    rfl
  | _ => rfl

/-- What is left by a step that executes an instruction. -/
def passed (a : Ant) (age : Int) (i : Instruction) : Ant :=
  { a with
    age := .int age
    direction := i.opcode.turn a.direction
    gene := { a.gene with
      pointer := i.successor a.gene.length a.gene.pointer a.sensor.truthy } }

/-- All that a step does: the ant reads the instruction at its pointer, which stands on the tape,
asks for what its opcode says, and is one older, turned and sent on as the instruction tells. -/
theorem Ready.execute_eq (h : a.Ready age) :
    ∃ i, a.read? = some i ∧ a.gene.code[a.gene.pointer.toNat]? = some i ∧ i.Fits a.gene.length ∧
      a.execute = (a.passed (age + 1) i, .ok i.opcode.request?) := by
  obtain ⟨i, hread, hfits, hcycle⟩ := h.gene.cycle
  refine ⟨i, by rw [read?, hcycle]; rfl, hread, hfits, ?_⟩
  unfold execute passed
  rw [Value.grown_one h.age]
  simp only [hcycle]
  by_cases hjumps : i.Jumps a.sensor.truthy
  · -- the target is on the tape, so that taking it around the tape does not change it
    obtain ⟨htarget, h0, hlt⟩ := hjumps.target_eq hfits a.gene.pointer
    have hemod := Int.emod_eq_of_lt h0 hlt
    obtain ⟨-, hturn, hrequest⟩ := hjumps.only_jumps
    rw [interpret_of_jumps (by exact hjumps) htarget, hturn, hrequest]
    simp only [Gene.jump, Gene.length] at hemod ⊢
    rw [hemod]
  · rw [interpret_of_not_jumps (by exact hjumps), Instruction.successor_of_not_jumps hjumps]

/-- An ant that is ready stays so, and is one older. -/
theorem Ready.execute (h : a.Ready age) : a.execute.1.Ready (age + 1) := by
  obtain ⟨i, -, -, hfits, hstep⟩ := h.execute_eq
  obtain ⟨h0, hlt⟩ := hfits.successor h.gene.length_pos a.gene.pointer a.sensor.truthy
  rw [hstep]
  exact ⟨h.gene.withPointer h0 hlt, rfl⟩

/-- Where the tape and the sensor are the same, the next pointer hangs on the pointer alone. -/
theorem Ready.pointer_execute_congr (h : a.Ready age) (h' : a'.Ready age')
    (hcode : a.gene.code = a'.gene.code) (hsensor : a.sensor = a'.sensor)
    (hpointer : a.gene.pointer = a'.gene.pointer) :
    a.execute.1.gene.pointer = a'.execute.1.gene.pointer := by
  obtain ⟨i, -, hread, -, hstep⟩ := h.execute_eq
  obtain ⟨i', -, hread', -, hstep'⟩ := h'.execute_eq
  have hi : i = i' := by
    rw [hcode, hpointer, hread'] at hread
    exact (Option.some.inj hread).symm
  rw [hstep, hstep']
  simp only [passed, Gene.length, hcode, hsensor, hpointer, hi]

/-! ### Many steps -/

/-- The ant after a number of steps. -/
def after (a : Ant) (n : Nat) : Ant := (fun a => a.execute.1)^[n] a

/-- The instructions that are executed in a number of steps, in order. -/
def executed (a : Ant) (n : Nat) : List Instruction :=
  (List.range n).filterMap fun t => (a.after t).read?

theorem after_succ (a : Ant) (n : Nat) : a.after (n + 1) = (a.after n).execute.1 :=
  Function.iterate_succ_apply' _ n a

theorem executed_succ {n : Nat} (h : (a.after n).read? = some i) :
    a.executed (n + 1) = a.executed n ++ [i] := by
  have hlast : [n].filterMap (fun t => (a.after t).read?) = [i] := by simp only [List.filterMap, h]
  unfold executed
  rw [List.range_succ, List.filterMap_append, hlast]

/-- Steps change at most the age, the facing and the pointer. -/
theorem after_frame (a : Ant) (n : Nat) :
    a.after n = { a with
      age := (a.after n).age
      direction := (a.after n).direction
      gene := { a.gene with pointer := (a.after n).gene.pointer } } := by
  induction n with
  | zero => rfl
  | succ n ih =>
    obtain ⟨age, d, p, hstep⟩ := (a.after n).execute_frame
    rw [after_succ, hstep]
    generalize a.after n = b at ih ⊢
    rw [ih]

theorem sensor_after (a : Ant) (n : Nat) : (a.after n).sensor = a.sensor := by rw [after_frame]

theorem code_after (a : Ant) (n : Nat) : (a.after n).gene.code = a.gene.code := by rw [after_frame]

theorem length_after (a : Ant) (n : Nat) : (a.after n).gene.length = a.gene.length :=
  congrArg List.length (a.code_after n)

/-- In however many steps, an ant that is ready stays so, and is as much older. -/
theorem Ready.after (h : a.Ready age) (n : Nat) : (a.after n).Ready (age + n) := by
  induction n with
  | zero =>
    rw [Int.natCast_zero, Int.add_zero]
    exact h
  | succ n ih =>
    rw [after_succ, Int.natCast_succ, ← Int.add_assoc]
    exact ih.execute

/-- How often an opcode is executed in a number of steps. -/
def timesExecuted (a : Ant) (op : Opcode) (n : Nat) : Nat :=
  (a.executed n).countP (·.opcode == op)

theorem timesExecuted_succ {n : Nat} (h : (a.after n).read? = some i) (op : Opcode) :
    a.timesExecuted op (n + 1) = a.timesExecuted op n + if i.opcode = op then 1 else 0 := by
  unfold timesExecuted
  rw [executed_succ h, List.countP_append, List.countP_singleton]
  simp only [beq_iff_eq]

/-- Every step executes one instruction. -/
theorem Ready.length_executed (h : a.Ready age) (n : Nat) : (a.executed n).length = n := by
  induction n with
  | zero => rfl
  | succ n ih =>
    obtain ⟨i, hread, -⟩ := (h.after n).execute_eq
    rw [executed_succ hread, List.length_append, ih]
    rfl

/-- An ant has made as many quarter turns as it has executed left turns, less the right ones. -/
theorem Ready.direction_after (h : a.Ready age) (n : Nat) :
    (a.after n).direction =
      a.direction.turned (a.timesExecuted .turnLeft n - a.timesExecuted .turnRight n) := by
  induction n with
  | zero => rfl
  | succ n ih =>
    obtain ⟨i, hread, -, -, hstep⟩ := (h.after n).execute_eq
    rw [after_succ, hstep, timesExecuted_succ hread, timesExecuted_succ hread]
    change i.opcode.turn (a.after n).direction = _
    rw [ih, Opcode.turn_turned]
    congr 1
    split <;> split <;> omega

/-! ### Where the pointer goes -/

/-- Without a taken jump, the pointer goes around the tape. -/
theorem Ready.pointer_after (h : a.Ready age) {n : Nat}
    (hpasses : ∀ i ∈ a.executed n, ¬ i.Jumps a.sensor.truthy) :
    (a.after n).gene.pointer = (a.gene.pointer + n) % a.gene.length := by
  induction n with
  | zero =>
    rw [Int.natCast_zero, Int.add_zero]
    exact (Int.emod_eq_of_lt h.gene.pointer_nonneg h.gene.pointer_lt).symm
  | succ n ih =>
    obtain ⟨i, hread, -, -, hstep⟩ := (h.after n).execute_eq
    rw [executed_succ hread] at hpasses
    have hlast := hpasses i (List.mem_append_right _ (List.mem_singleton_self i))
    rw [← a.sensor_after n] at hlast
    rw [after_succ, hstep]
    change i.successor _ _ _ = _
    rw [Instruction.successor_of_not_jumps hlast, length_after,
      ih fun j hj => hpasses j (List.mem_append_left _ hj), Int.emod_add_emod, Int.natCast_succ,
      Int.add_assoc]

/-- Steps from one pointer lead to the same pointers whenever they are made. -/
theorem Ready.pointer_after_congr (h : a.Ready age) {m n : Nat}
    (hmn : (a.after m).gene.pointer = (a.after n).gene.pointer) (t : Nat) :
    (a.after (m + t)).gene.pointer = (a.after (n + t)).gene.pointer := by
  induction t with
  | zero => exact hmn
  | succ t ih =>
    have hcode := (a.code_after (m + t)).trans (a.code_after (n + t)).symm
    have hsensor := (a.sensor_after (m + t)).trans (a.sensor_after (n + t)).symm
    rw [← Nat.add_assoc, ← Nat.add_assoc, after_succ, after_succ]
    exact (h.after (m + t)).pointer_execute_congr (h.after (n + t)) hcode hsensor ih

/-- Of the pointers at the start and after each of as many steps as there are instructions, two are
the same. -/
theorem Ready.exists_pointer_eq (h : a.Ready age) :
    ∃ m n, m < n ∧ n ≤ a.gene.length ∧ (a.after m).gene.pointer = (a.after n).gene.pointer := by
  have hplace : ∀ t, 0 ≤ (a.after t).gene.pointer ∧
      (a.after t).gene.pointer.toNat < a.gene.length := fun t => by
    have hgene := (h.after t).gene
    have hlength := a.length_after t
    have hlt := hgene.pointer_lt
    have h0 := hgene.pointer_nonneg
    omega
  -- there is one step more than there are places on the tape
  obtain ⟨m, n, hne, heq⟩ := Fintype.exists_ne_map_eq_of_card_lt
    (fun t : Fin (a.gene.length + 1) =>
      (⟨(a.after t).gene.pointer.toNat, (hplace t).2⟩ : Fin a.gene.length))
    (by simp only [Fintype.card_fin, Nat.lt_succ_self])
  have hsame : (a.after m).gene.pointer = (a.after n).gene.pointer := by
    have hnat := Fin.mk.inj heq
    have hm := (hplace m).1
    have hn := (hplace n).1
    omega
  rcases Nat.lt_or_gt_of_ne (Fin.val_ne_of_ne hne) with hlt | hlt
  · exact ⟨m, n, hlt, Nat.le_of_lt_succ n.isLt, hsame⟩
  · exact ⟨n, m, hlt, Nat.le_of_lt_succ m.isLt, hsame.symm⟩

/-- From some step on the pointers repeat themselves, and that step and the period together are no
longer than the tape. -/
theorem Ready.exists_period (h : a.Ready age) :
    ∃ start period, 1 ≤ period ∧ start + period ≤ a.gene.length ∧
      ∀ t, start ≤ t → (a.after (t + period)).gene.pointer = (a.after t).gene.pointer := by
  obtain ⟨m, n, hlt, hle, hsame⟩ := h.exists_pointer_eq
  refine ⟨m, n - m, by omega, by omega, fun t ht => ?_⟩
  obtain ⟨k, rfl⟩ := Nat.exists_eq_add_of_le ht
  have hlater : m + k + (n - m) = n + k := by omega
  rw [hlater]
  exact (h.pointer_after_congr hsame k).symm

end Ant

/-- Whatever its tape, an ant with a gene in order and an age that is an integer makes any number of
steps in a row.  It ages with each of them and has turned by the left turns that it has executed,
less the right ones; its energy, sensor, team, generation and tape stay as they were.  Each step
executes the instruction at the pointer: it makes a request exactly for a move, a meal or an attack,
and goes on to the target of a jump whose condition the sensor meets, else around the tape.  The
pointers repeat themselves, and where no jump is taken a round brings them back to the start. -/
theorem steps_in_a_row {a : Ant} {age : Int} (hgene : a.gene.WellFormed)
    (hage : a.age.integer? = some age) :
    (∀ n : Nat, (a.after n).age.integer? = some (age + n) ∧
      (a.after n).energy = a.energy ∧ (a.after n).sensor = a.sensor ∧
      (a.after n).team = a.team ∧ (a.after n).generation = a.generation ∧
      (a.after n).gene.code = a.gene.code ∧ (a.after n).gene.WellFormed ∧ (a.after n).id = a.id ∧
      (a.executed n).length = n ∧
      (a.after n).direction =
        a.direction.turned (a.timesExecuted .turnLeft n - a.timesExecuted .turnRight n)) ∧
    (∀ n : Nat, ∃ i r, (a.after n).read? = some i ∧
      a.gene.code[(a.after n).gene.pointer.toNat]? = some i ∧
      (a.after n).execute = (a.after (n + 1), .ok r) ∧
      (r.isSome ↔ i.opcode ∈ [Opcode.move, .eat, .attack]) ∧
      (∀ q, r = some q ↔ i.opcode = q.opcode) ∧
      (i.Jumps a.sensor.truthy → i.target = some (a.after (n + 1)).gene.pointer) ∧
      (¬ i.Jumps a.sensor.truthy →
        (a.after (n + 1)).gene.pointer = ((a.after n).gene.pointer + 1) % a.gene.length)) ∧
    (∃ start period, 1 ≤ period ∧ start + period ≤ a.gene.length ∧
      ∀ t, start ≤ t → (a.after (t + period)).gene.pointer = (a.after t).gene.pointer) ∧
    (∀ n : Nat, (∀ i ∈ a.executed n, ¬ i.Jumps a.sensor.truthy) →
      (a.after n).gene.pointer = (a.gene.pointer + n) % a.gene.length) ∧
    ((∀ i ∈ a.executed a.gene.length, ¬ i.Jumps a.sensor.truthy) →
      (a.after a.gene.length).gene.pointer = a.gene.pointer) := by
  have h : a.Ready age := ⟨hgene, hage⟩
  refine ⟨fun n => ?_, fun n => ?_, h.exists_period, fun n => h.pointer_after, fun hpasses => ?_⟩
  · have hframe := a.after_frame n
    rw [hframe]
    exact ⟨(h.after n).age, rfl, rfl, rfl, rfl, rfl, hframe ▸ (h.after n).gene, rfl,
      h.length_executed n, h.direction_after n⟩
  · obtain ⟨i, hread, hat, hfits, hstep⟩ := (h.after n).execute_eq
    have hnext : (a.after (n + 1)).gene.pointer =
        i.successor a.gene.length (a.after n).gene.pointer a.sensor.truthy := by
      rw [Ant.after_succ, hstep, ← a.length_after n, ← a.sensor_after n]
      rfl
    rw [Ant.code_after] at hat
    rw [Ant.length_after] at hfits
    refine ⟨i, i.opcode.request?, hread, hat, by rw [Ant.after_succ, hstep],
      Opcode.isSome_request?_iff, fun q => Opcode.request?_eq_some_iff, fun hjumps => ?_,
      fun hpasses => ?_⟩
    · rw [hnext]
      exact (hjumps.target_eq hfits _).1
    · rw [hnext]
      exact Instruction.successor_of_not_jumps hpasses _ _
  · rw [h.pointer_after hpasses, Int.add_emod_right]
    exact Int.emod_eq_of_lt hgene.pointer_nonneg hgene.pointer_lt

/-- An ant that keeps turning if its sensor is set, and eats once a round if not. -/
def spinner (sensor : Bool) : Ant where
  id := 0
  team := .red
  gene := ⟨[⟨.turnLeft, none⟩, ⟨.jumpIfSensorTrue, some 0⟩, ⟨.eat, none⟩, ⟨.turnRight, none⟩,
    ⟨.noop, none⟩], 3⟩
  sensor := .bool sensor
  age := .int 4

/-- With its sensor set, the ant has turned left thrice in nine steps and goes to and fro between
two instructions.  Before its first jump the pointer goes around the tape, as it does all the time
if the sensor is not set. -/
theorem spinner_steps :
    (∀ sensor, (spinner sensor).gene.WellFormed ∧ (spinner sensor).age.integer? = some 4) ∧
      ((spinner true).after 9).age.integer? = some 13 ∧
      ((spinner true).after 9).direction = .east ∧
      (∃ r, ((spinner true).after 3).execute = ((spinner true).after 4, .ok r) ∧
        r.isSome = false ∧ ((spinner true).after 4).gene.pointer = 0) ∧
      (∃ start period, 1 ≤ period ∧ start + period ≤ 5 ∧ ∀ t, start ≤ t →
        ((spinner true).after (t + period)).gene.pointer = ((spinner true).after t).gene.pointer) ∧
      ((spinner true).after 3).gene.pointer = 1 ∧ ((spinner false).after 5).gene.pointer = 3 := by
  have hgene : ∀ sensor, (spinner sensor).gene.WellFormed := fun sensor =>
    (Gene.ofCode_eq_ok_iff.1 (show Gene.ofCode (spinner sensor).gene.code 3 = _ from rfl)).2
  obtain ⟨hruns, hsteps, hperiod, hpasses, -⟩ := steps_in_a_row (hgene true) rfl
  obtain ⟨-, -, -, -, hround⟩ := steps_in_a_row (hgene false) rfl
  obtain ⟨hage, -, -, -, -, -, -, -, -, hturned⟩ := hruns 9
  obtain ⟨i, r, hread, -, hstep, hasks, -, hjump, -⟩ := hsteps 3
  have hi : ((spinner true).after 3).read? = some ⟨.jumpIfSensorTrue, some 0⟩ := by
    decide +kernel
  rw [hi] at hread
  cases hread
  have hcounts : (spinner true).timesExecuted .turnLeft 9 = 4 ∧
      (spinner true).timesExecuted .turnRight 9 = 1 := by decide +kernel
  rw [hcounts.1, hcounts.2] at hturned
  refine ⟨fun sensor => ⟨hgene sensor, rfl⟩, hage, hturned, ⟨r, hstep, ?_, ?_⟩, hperiod,
    hpasses 3 (by decide +kernel), hround (by decide +kernel)⟩
  · exact Bool.eq_false_iff.2 fun hsome => absurd (hasks.1 hsome) (by decide)
  · exact (Option.some.inj (hjump (.inr ⟨rfl, rfl⟩))).symm

end Formicary
