import Formicary.Proofs.WellFormed

/-!
# Queues of changes

A scan proposes changes for a board that it does not write, so every change suits the board as it
was at the start of the tick: food grows, ants arrive and ants are born on empty cells, food is
taken from cells with food, and an ant moves or dies on its own cell.  This file says so
(`Change.Suits`), together with the one thing about the order of a queue that matters for a commit:
an ant moves at most once, and not after its death (`Change.Respects`).
-/

namespace Formicary

namespace Change

/-- The ant that a change brings onto the board. -/
def child? : Change → Option Ant
  | .born _ child => some child
  | _ => none

/-- The cell that a change takes its ant from, be it by a move or by its death. -/
def vacates? : Change → Option Nat
  | .swap _ source => some source
  | .death cell _ => some cell
  | _ => none

/-- A change is what the first `n` cells of a board may propose. -/
def Suits (b : Board) (n : Nat) : Change → Prop
  | .growFood cell => cell < n ∧ b.content cell = .empty
  | .removeFood cell => b.content cell = .food
  | .swap target source => source < n ∧ target < b.size ∧ b.content target = .empty ∧
      ∃ id, b.content source = .ant id
  | .born cell child => cell < n ∧ b.content cell = .empty ∧ child.Sound ∧ child.age = .int 0
  | .death cell id => cell < n ∧ b.content cell = .ant id

/-- What suits a few cells suits more of them. -/
theorem Suits.mono {b : Board} {m n : Nat} (hmn : m ≤ n) {c : Change} (h : c.Suits b m) :
    c.Suits b n := by
  cases c with
  | growFood cell => exact ⟨Nat.lt_of_lt_of_le h.1 hmn, h.2⟩
  | removeFood cell => exact h
  | swap target source => exact ⟨Nat.lt_of_lt_of_le h.1 hmn, h.2⟩
  | born cell child => exact ⟨Nat.lt_of_lt_of_le h.1 hmn, h.2⟩
  | death cell id => exact ⟨Nat.lt_of_lt_of_le h.1 hmn, h.2⟩

/-- A change that takes an ant from a cell is proposed by that cell. -/
theorem Suits.vacates?_lt {b : Board} {n x : Nat} {c : Change} (h : c.Suits b n)
    (hx : c.vacates? = some x) : x < n := by
  cases c with
  | growFood cell => cases hx
  | removeFood cell => cases hx
  | born cell child => cases hx
  | swap target source =>
    cases hx
    exact h.1
  | death cell id =>
    cases hx
    exact h.1

/-- Two changes of which the first comes earlier: if the later one moves the ant of a cell, then the
earlier one has left that ant where it was. -/
def Respects (c c' : Change) : Prop :=
  ∀ x, c'.source? = some x → c.vacates? ≠ some x

end Change

/-- The ants that some changes bring onto the board, in order. -/
def newborns (q : List Change) : List Ant := q.filterMap Change.child?

/-- Without changes nobody is born. -/
@[simp] theorem newborns_nil : newborns [] = [] := rfl

/-- The newborns of two queues, one after the other. -/
@[simp] theorem newborns_append (p q : List Change) :
    newborns (p ++ q) = newborns p ++ newborns q :=
  List.filterMap_append

/-- The newborns of a queue, by its first change. -/
theorem newborns_cons (c : Change) (q : List Change) :
    newborns (c :: q) = c.child?.toList ++ newborns q := by
  cases h : c.child? <;> simp [newborns, h]

/-- The ants that changes bring are those of the births among them. -/
theorem mem_newborns {q : List Change} {a : Ant} :
    a ∈ newborns q ↔ ∃ cell, Change.born cell a ∈ q := by
  simp only [newborns, List.mem_filterMap]
  constructor
  · rintro ⟨c, hc, hca⟩
    cases c with
    | born cell child =>
      cases hca
      exact ⟨cell, hc⟩
    | growFood cell => cases hca
    | removeFood cell => cases hca
    | swap target source => cases hca
    | death cell id => cases hca
  · rintro ⟨cell, h⟩
    exact ⟨_, h, rfl⟩

/-- Ids that are given out one after the other. -/
def consecutive (first : Int) (count : Nat) : List Int :=
  (List.range count).map fun k : Nat => first + (k : Int)

/-- The last of some consecutive ids. -/
theorem consecutive_succ (first : Int) (count : Nat) :
    consecutive first (count + 1) = consecutive first count ++ [first + (count : Int)] := by
  simp [consecutive, List.range_succ]

/-- Consecutive ids are those of an interval. -/
theorem mem_consecutive {first : Int} {count : Nat} {id : Int} :
    id ∈ consecutive first count ↔ first ≤ id ∧ id < first + count := by
  simp only [consecutive, List.mem_map, List.mem_range]
  constructor
  · rintro ⟨k, hk, rfl⟩
    omega
  · rintro ⟨hle, hlt⟩
    exact ⟨(id - first).toNat, by omega, by omega⟩

/-- Consecutive ids differ. -/
theorem nodup_consecutive (first : Int) (count : Nat) : (consecutive first count).Nodup := by
  refine List.Nodup.map ?_ List.nodup_range
  intro k l hkl
  have hkl' : first + (k : Int) = first + (l : Int) := hkl
  omega

end Formicary
