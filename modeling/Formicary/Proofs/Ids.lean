import Formicary.Board.Placement
import Formicary.Tick.Commit

/-!
# Ids are not given back

Whatever is done to a board, the next id never falls: not when an operation is refused, and not when
a tick halts half-way on a board whose cells make no sense.  So nothing is assumed of the boards in
this file.

`Onward` says so of an operation that may halt, with the next id read off the state in which it
halted or off its result.
-/

namespace Formicary

/-- An operation comes to a next id of at least `next`, whether it halts or not. -/
def Onward {σ α : Type} (next : Int) (halted : σ → Int) (result : α → Int) :
    Except (Halted σ Fault) α → Prop
  | .ok x => next ≤ result x
  | .error h => next ≤ halted h.state

namespace Onward

variable {σ α β : Type} {next : Int} {halted : σ → Int} {result : α → Int} {result' : β → Int}

/-- Two operations, one after the other. -/
theorem bind {r : Except (Halted σ Fault) α} (h : Onward next halted result r)
    {f : α → Except (Halted σ Fault) β}
    (hf : ∀ x, next ≤ result x → Onward next halted result' (f x)) :
    Onward next halted result' (r >>= f) := by
  cases r with
  | ok x => exact hf x h
  | error e => exact h

/-- An operation whose result is put in another way. -/
theorem map {r : Except (Halted σ Fault) α} (h : Onward next halted result r) {f : α → β}
    (hf : ∀ x, next ≤ result x → next ≤ result' (f x)) :
    Onward next halted result' (r.map f) := by
  cases r with
  | ok x => exact hf x h
  | error e => exact h

/-- An operation that halts in a state of another kind. -/
theorem mapError {τ : Type} {halted' : τ → Int} {r : Except (Halted σ Fault) α}
    (h : Onward next halted result r) {f : Halted σ Fault → Halted τ Fault}
    (hf : ∀ e, next ≤ halted e.state → next ≤ halted' (f e).state) :
    Onward next halted' result (r.mapError f) := by
  cases r with
  | ok x => exact h
  | error e => exact hf e h

/-- Operations on a state, one after the other. -/
theorem foldlM {f : σ → α → Except (Halted σ Fault) σ}
    (hf : ∀ s x, Onward (halted s) halted halted (f s x)) (xs : List α) {s : σ}
    (hs : next ≤ halted s) : Onward next halted halted (xs.foldlM f s) := by
  induction xs generalizing s with
  | nil => exact hs
  | cons x xs ih =>
    rw [List.foldlM_cons]
    have hx := hf s x
    cases hfx : f s x with
    | ok s' =>
      rw [hfx] at hx
      exact ih (Int.le_trans hs hx)
    | error e =>
      rw [hfx] at hx
      exact Int.le_trans hs hx

end Onward

/-! ### Scans -/

namespace Scan

/-- The next id of a scan. -/
def nextId (s : Scan) : Int := s.board.nextId

variable {next : Int} {s : Scan}

/-- Reckoning with energies touches no ids. -/
theorem onward_reckon {α : Type} (h : next ≤ s.nextId) (a : Ant) (r : Except Value.Misuse α) :
    Onward next nextId (fun _ => s.nextId) (s.reckon a r) := by
  cases r with
  | ok x => exact h
  | error m => exact h

/-- Paying touches no ids. -/
theorem onward_pay (h : next ≤ s.nextId) (a : Ant) :
    Onward next nextId (fun _ => s.nextId) (s.pay a) :=
  onward_reckon h a _

/-- Moves touch no ids. -/
theorem onward_move (h : next ≤ s.nextId) (cell : Nat) (a : Ant) (ahead : Option Int) :
    Onward next nextId (fun p => p.1.nextId) (s.move cell a ahead) := by
  unfold move
  split
  · rename_i target _
    exact (onward_pay (s := s.propose (.swap target.toNat cell)) h a).bind fun _ _ => h
  · exact h

/-- Meals touch no ids. -/
theorem onward_eat (h : next ≤ s.nextId) (a : Ant) (ahead : Option Int) :
    Onward next nextId (fun p => p.1.nextId) (s.eat a ahead) := by
  unfold eat
  refine (onward_pay h a).bind fun paid _ => ?_
  split
  · rename_i target _
    exact (onward_reckon (s := s.propose (.removeFood target.toNat)) h paid _).bind fun _ _ => h
  · exact h

/-- Attacks touch no ids. -/
theorem onward_attack (h : next ≤ s.nextId) (a : Ant) (ahead : Option Int) :
    Onward next nextId (fun p => p.1.nextId) (s.attack a ahead) := by
  unfold attack
  refine (onward_pay h a).bind fun paid _ => ?_
  dsimp only
  split
  · split
    · exact h
    · split
      · refine (onward_reckon (by exact h) paid _).bind fun damage _ => ?_
        exact (onward_reckon (by exact h) paid _).bind fun _ _ => h
      · exact h
  · exact h

/-- No request gives ids back. -/
theorem onward_perform (h : next ≤ s.nextId) (cell : Nat) (a : Ant) (request : Option Request) :
    Onward next nextId (fun p => p.1.nextId) (s.perform cell a request) := by
  match request with
  | some .move => exact onward_move h cell a _
  | some .eat => exact onward_eat h a _
  | some .attack => exact onward_attack h a _
  | none => exact h

/-- Splitting takes an id and gives none back. -/
theorem onward_divide (h : next ≤ s.nextId) (cell : Nat) (a : Ant) :
    Onward next nextId (fun p => p.1.nextId) (s.divide cell a) := by
  unfold divide
  refine (onward_reckon h a _).bind fun rich _ => ?_
  split
  · -- an id is taken here, and nowhere else
    have hfresh : next ≤ ({ s with board := s.board.freshId.2 } : Scan).nextId :=
      Int.le_trans h (Int.le_of_lt (Int.lt_succ _))
    exact (onward_reckon hfresh a _).bind fun _ _ => hfresh
  · exact h

/-- Death touches no ids. -/
theorem onward_perish (h : next ≤ s.nextId) (cell : Nat) (a : Ant) :
    Onward next nextId nextId (s.perish cell a) := by
  unfold perish
  refine (onward_reckon h a _).bind fun spent _ => ?_
  cases spent with
  | true => exact h
  | false => exact h

/-- No turn gives ids back. -/
theorem onward_act (h : next ≤ s.nextId) (cell : Nat) (a : Ant) :
    Onward next nextId nextId (s.act cell a) := by
  unfold act
  obtain ⟨stepped, outcome⟩ := a.execute
  cases outcome with
  | error e => exact h
  | ok request =>
    refine (onward_perform h cell _ _).bind fun performed hp => ?_
    refine (onward_divide hp cell _).bind fun divided hd => ?_
    exact (onward_perish hd cell _).bind fun _ hs => hs

/-- No visit gives ids back. -/
theorem onward_visit (s : Scan) (p : Nat × Nat) :
    Onward s.nextId nextId nextId (s.visit p.1 p.2) := by
  have h : s.nextId ≤ s.nextId := Int.le_refl _
  unfold visit
  split
  · exact h
  · split
    · exact h
    · exact h
  · exact h
  · split
    · exact h
    · rename_i a _
      split
      · exact h
      · exact onward_act (s := { s with visited := a.id :: s.visited }) h p.1 a

/-- No scan gives ids back. -/
theorem onward_run (b : Board) : Onward b.nextId nextId nextId (Scan.run b) :=
  Onward.foldlM onward_visit _ (Int.le_refl _)

end Scan

/-! ### Operations on boards -/

namespace Board

variable {next : Int} {b : Board}

/-- Writing a cell touches no ids. -/
theorem onward_overwrite (h : next ≤ b.nextId) (index : Nat) (k : CellKind) (occupant : Int) :
    Onward next nextId (fun p => p.1.nextId) (b.overwrite index k occupant) := by
  unfold overwrite
  split
  · exact h
  · split
    · exact h
    · have hcleared : ∀ previous : Int, next ≤ (if previous = vacant then b
          else { b with arena := b.arena.erase previous }).nextId := by
        intro previous
        split
        · exact h
        · exact h
      dsimp only
      split
      · exact hcleared _
      · split
        · exact hcleared _
        · exact hcleared _

/-- Placing an ant gives no ids back. -/
theorem onward_place (b : Board) (index : Int) (a : Ant) :
    Onward b.nextId nextId nextId (b.place index a) := by
  have h : b.nextId ≤ b.nextId := Int.le_refl _
  unfold place
  split
  · exact h
  · rename_i n _
    split
    · exact h
    · exact (onward_overwrite h n .ant a.id).map fun _ hx =>
        Int.le_trans hx (Int.le_max_left _ _)

/-- Vacating a cell gives no ids back. -/
theorem onward_vacate (b : Board) (index : Int) (k : CellKind) :
    Onward b.nextId nextId nextId (b.vacate index k) := by
  have h : b.nextId ≤ b.nextId := Int.le_refl _
  unfold vacate
  split
  · exact h
  · rename_i n _
    exact (onward_overwrite h n k vacant).map fun _ hx => hx

end Board

/-! ### Ticks -/

namespace Commit

/-- The next id of a commit. -/
def nextId (c : Commit) : Int := c.board.nextId

/-- A commit halts on the board on which its operation halts. -/
theorem onward_lift {α : Type} {next : Int} {t : Tally} {result : α → Int}
    {r : Except (Halted Board Fault) α} (h : Onward next Board.nextId result r) :
    Onward next nextId result (lift t r) :=
  h.mapError fun _ he => he

/-- Exchanging two cells touches no ids. -/
theorem onward_exchange {next : Int} {b : Board} (h : next ≤ b.nextId) (target source : Nat) :
    Onward next Board.nextId Board.nextId (exchange b target source) := by
  unfold exchange
  split
  · exact h
  · split
    · exact h
    · exact h

/-- No change gives ids back. -/
theorem onward_apply (c : Commit) (x : Change) :
    Onward c.nextId nextId nextId (c.apply x) := by
  have h : c.nextId ≤ c.board.nextId := Int.le_refl _
  cases x with
  | swap target source => exact (onward_lift (onward_exchange h target source)).bind fun _ hb => hb
  | growFood cell => exact (onward_lift (Board.onward_overwrite h cell _ _)).bind fun _ hb => hb
  | removeFood cell => exact (onward_lift (Board.onward_overwrite h cell _ _)).bind fun _ hb => hb
  | born cell child => exact (onward_lift (Board.onward_overwrite h cell _ _)).bind fun _ hb => hb
  | death cell id => exact (onward_lift (Board.onward_overwrite h cell _ _)).bind fun _ hb => hb

end Commit

/-- No tick gives ids back, whether it completes or not. -/
theorem Board.onward_tick (b : Board) : Onward b.nextId nextId nextId b.tick := by
  have hscan : Onward b.nextId nextId Scan.nextId
      ((Scan.run b).mapError fun h => (⟨h.state.board, h.fault⟩ : Halted Board Fault)) :=
    (Scan.onward_run b).mapError fun _ he => he
  refine hscan.bind fun s hs => ?_
  have hrun : Onward b.nextId Commit.nextId Commit.nextId
      (Commit.run s.board s.tally s.queue.toList) :=
    Onward.foldlM Commit.onward_apply s.queue.toList hs
  have hcommit : Onward b.nextId nextId Commit.nextId
      ((Commit.run s.board s.tally s.queue.toList).mapError
        fun h => (⟨h.state.board, h.fault⟩ : Halted Board Fault)) :=
    hrun.mapError fun _ he => he
  exact hcommit.bind fun _ hc => hc

end Formicary
