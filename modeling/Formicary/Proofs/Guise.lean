import Formicary.Board.Build
import Formicary.Tick.Commit

/-!
# Ants in another guise

A commit, and everything that puts ants on a board, goes by the ids of the ants.  What else there is
to an ant is carried along, and the tuning of the board is not looked at.  So ants and tuning can be
given another guise, in which every ant keeps its id, and it makes no difference whether this is
done before an operation or after it (`Board.overwrite_under`, `Board.place_under`,
`Commit.run_under`).

An operation may halt, and then the board on which it halts is in the other guise too; `seen` is a
result with both changed.
-/

namespace Formicary

/-- Another look for ants, configurations and rules, in which every ant keeps its id and the rules
of a configuration stay its rules. -/
structure Guise where
  /-- The look of an ant. -/
  ant : Ant → Ant
  /-- The look of a configuration. -/
  config : Config → Config
  /-- The look of rules. -/
  rules : Rules → Rules
  id_ant : ∀ a, (ant a).id = a.id
  rules_ofConfig : ∀ c, rules (.ofConfig c) = .ofConfig (config c)

attribute [simp] Guise.id_ant

/-! ### Results -/

section

variable {α α' β β' σ σ' τ τ' ε : Type}

/-- A result with a map applied to what it hands over and another to the state in which it halts. -/
def seen (f : α → α') (g : σ → σ') (r : Except (Halted σ ε) α) : Except (Halted σ' ε) α' :=
  (r.map f).mapError fun h => ⟨g h.state, h.fault⟩

@[simp] theorem seen_ok (f : α → α') (g : σ → σ') (a : α) :
    seen (ε := ε) f g (.ok a) = .ok (f a) := rfl

@[simp] theorem seen_error (f : α → α') (g : σ → σ') (s : σ) (e : ε) :
    seen f g (.error ⟨s, e⟩) = .error ⟨g s, e⟩ := rfl

/-- What is seen of two operations in a row. -/
theorem seen_bind {f : α → α'} {f' : β → β'} {g : σ → σ'} {r : Except (Halted σ ε) α}
    {k : α → Except (Halted σ ε) β} {k' : α' → Except (Halted σ' ε) β'}
    (h : ∀ a, k' (f a) = seen f' g (k a)) : seen f g r >>= k' = seen f' g (r >>= k) := by
  cases r with
  | error e => rfl
  | ok a => exact h a

/-- What is seen of an operation that halts in a part of its state. -/
theorem seen_mapError {f : α → α'} {g : σ → σ'} {g' : τ → τ'} (part : σ → τ) (part' : σ' → τ')
    (h : ∀ s, part' (g s) = g' (part s)) (r : Except (Halted σ ε) α) :
    (seen f g r).mapError (fun x => ⟨part' x.state, x.fault⟩) =
      seen f g' (r.mapError fun x => ⟨part x.state, x.fault⟩) := by
  cases r with
  | error x => exact congrArg (fun s => Except.error (Halted.mk s x.fault)) (h x.state)
  | ok a => rfl

/-- What is seen of a fold, step by step. -/
theorem seen_foldlM {ι : Type} {f : σ → σ'} (step : σ → ι → Except (Halted σ ε) σ)
    (step' : σ' → ι → Except (Halted σ' ε) σ') (h : ∀ s x, step' (f s) x = seen f f (step s x))
    (s : σ) (xs : List ι) : xs.foldlM step' (f s) = seen f f (xs.foldlM step s) := by
  induction xs generalizing s with
  | nil => rfl
  | cons x xs ih =>
    rw [List.foldlM_cons, List.foldlM_cons, h]
    exact seen_bind ih

end

variable (g : Guise)

/-! ### Arenas -/

namespace Arena

variable (r : Arena) (a : Ant) (id : Int)

/-- The arena with its ants in another guise. -/
def under (g : Guise) (r : Arena) : Arena := ⟨r.ants.map g.ant⟩

/-- Ids do not change with the guise. -/
@[simp] theorem ids_under : (r.under g).ids = r.ids := by
  simp [ids, under, Function.comp_def]

/-- The ant that is found is in the guise of the arena. -/
theorem find?_under : (r.under g).find? id = (r.find? id).map g.ant := by
  obtain ⟨ants⟩ := r
  simp only [find?, under, List.find?_map, Function.comp_def, Guise.id_ant]

/-- The same ids are in use. -/
@[simp] theorem has_under : (r.under g).has id = r.has id := by
  rw [has, find?_under, Option.isSome_map, has]

/-- An ant is replaced in either guise. -/
theorem update_under : (r.under g).update (g.ant a) = (r.update a).under g := by
  obtain ⟨ants⟩ := r
  simp only [update, under, mk.injEq]
  induction ants with
  | nil => rfl
  | cons b rest ih =>
    by_cases hb : b.id = a.id
    · simp [replace, hb]
    · simp [replace, hb, ih]

/-- An ant arrives in either guise. -/
theorem insert_under : (r.under g).insert (g.ant a) = (r.insert a).under g := by
  rw [insert, insert, Guise.id_ant, has_under]
  split
  · exact update_under g r a
  · simp [under]

/-- An ant leaves in either guise. -/
theorem erase_under : (r.under g).erase id = (r.erase id).under g := by
  simp [erase, under, List.filter_map, Function.comp_def]

end Arena

/-! ### Boards -/

namespace Board

variable (b : Board)

/-- The board with its ants and its tuning in another guise. -/
def under (g : Guise) (b : Board) : Board :=
  { b with config := g.config b.config, rules := g.rules b.rules, arena := b.arena.under g }

/-- An ant that is looked up is in the guise of the board. -/
theorem ant?_under (id : Int) : (b.under g).ant? id = (b.ant? id).map g.ant := by
  have hfind : (b.under g).arena.find? id = (b.arena.find? id).map g.ant :=
    Arena.find?_under g b.arena id
  rw [ant?, ant?, hfind]
  cases b.arena.find? id <;> rfl

/-- The ant on a cell is in the guise of the board. -/
theorem tenant?_under (index : Int) : (b.under g).tenant? index = (b.tenant? index).map g.ant := by
  have hoccupant : (b.under g).occupant? index = b.occupant? index := rfl
  rw [tenant?, tenant?, hoccupant]
  cases b.occupant? index with
  | error e => rfl
  | ok id => exact ant?_under g b id

/-- An ant of the arena is replaced in either guise. -/
theorem update_under (a : Ant) : (b.under g).update (g.ant a) = (b.update a).under g := by
  simp only [update, under, Arena.update_under]

/-- A cell is written in either guise. -/
theorem overwrite_under (n : Nat) (k : CellKind) (occupant : Int) :
    (b.under g).overwrite n k occupant =
      seen (fun p => (p.1.under g, p.2)) (under g) (b.overwrite n k occupant) := by
  have hoccupants : (b.under g).occupants = b.occupants := rfl
  unfold overwrite
  rw [hoccupants]
  cases b.occupants[n]? with
  | none => rfl
  | some previous =>
    have hhas : (b.under g).arena.has previous = b.arena.has previous := Arena.has_under g _ _
    have herase : (b.under g).arena.erase previous = (b.arena.erase previous).under g :=
      Arena.erase_under g _ _
    have hkinds : (b.under g).kinds = b.kinds := rfl
    simp only [hhas, herase, hkinds]
    by_cases hvacant : previous = vacant <;> by_cases hknown : b.arena.has previous = false <;>
      by_cases hsize : b.kinds.size ≤ n <;> by_cases hfits : idFits occupant <;>
      simp only [hvacant, hknown, hsize, hfits, ne_eq, not_true_eq_false, not_false_eq_true,
        false_and, true_and, if_true, if_false] <;> rfl

/-- An ant is placed in either guise. -/
theorem place_under (index : Int) (a : Ant) :
    (b.under g).place index (g.ant a) = seen (under g) (under g) (b.place index a) := by
  have hcell : (b.under g).cell? index = b.cell? index := rfl
  have hhas : (b.under g).arena.has (g.ant a).id = b.arena.has a.id := by
    rw [Guise.id_ant]
    exact Arena.has_under g _ _
  unfold place
  rw [hcell]
  cases b.cell? index with
  | error e => rfl
  | ok n =>
    dsimp only
    rw [hhas, overwrite_under, Guise.id_ant]
    split
    · rfl
    · cases b.overwrite n .ant a.id with
      | error h => rfl
      | ok p =>
        have hinsert : (p.1.arena.under g).insert (g.ant a) = (p.1.arena.insert a).under g :=
          Arena.insert_under g _ _
        simp only [seen_ok, Except.map, under, hinsert]

/-- A cell is rid of its ant in either guise. -/
theorem vacate_under (index : Int) (k : CellKind) :
    (b.under g).vacate index k = seen (under g) (under g) (b.vacate index k) := by
  have hcell : (b.under g).cell? index = b.cell? index := rfl
  unfold vacate
  rw [hcell]
  cases b.cell? index with
  | error e => rfl
  | ok n =>
    dsimp only
    rw [overwrite_under]
    cases b.overwrite n k vacant <;> rfl

end Board

/-! ### Commits -/

/-- The change with its newborn in another guise. -/
def Change.under (g : Guise) : Change → Change
  | .born n child => .born n (g.ant child)
  | c => c

namespace Commit

/-- The commit with its board in another guise. -/
def under (g : Guise) (c : Commit) : Commit := ⟨c.board.under g, c.tally⟩

/-- A change is applied in either guise. -/
theorem apply_under (c : Commit) (x : Change) :
    (c.under g).apply (x.under g) = seen (under g) (under g) (c.apply x) := by
  have hwrite : ∀ n k occupant, lift c.tally ((c.board.under g).overwrite n k occupant) =
      seen (fun p => (p.1.under g, p.2)) (under g)
        (lift c.tally (c.board.overwrite n k occupant)) := by
    intro n k occupant
    rw [lift, Board.overwrite_under]
    exact seen_mapError (Commit.mk · c.tally) (Commit.mk · c.tally) (fun _ => rfl) _
  cases x with
  | growFood n => exact (congrArg (· >>= _) (hwrite n .food vacant)).trans (seen_bind fun _ => rfl)
  | removeFood n =>
    exact (congrArg (· >>= _) (hwrite n .empty vacant)).trans (seen_bind fun _ => rfl)
  | death n id => exact (congrArg (· >>= _) (hwrite n .food vacant)).trans (seen_bind fun _ => rfl)
  | born n child =>
    refine (congrArg (· >>= _) (hwrite n .ant (g.ant child).id)).trans ?_
    rw [Guise.id_ant]
    refine seen_bind fun p => ?_
    have hinsert : (p.1.arena.under g).insert (g.ant child) = (p.1.arena.insert child).under g :=
      Arena.insert_under g _ _
    simp only [under, Board.under, hinsert, seen_ok]
  | swap target source =>
    have hexchange : lift c.tally (exchange (c.board.under g) target source) =
        seen (Board.under g) (under g) (lift c.tally (exchange c.board target source)) := by
      have hsize : (c.board.under g).size = c.board.size := rfl
      unfold exchange
      rw [hsize]
      by_cases ht : c.board.size ≤ target <;> by_cases hs : c.board.size ≤ source <;>
        simp only [ht, hs, if_true, if_false] <;> rfl
    exact (congrArg (· >>= _) hexchange).trans (seen_bind fun _ => rfl)

/-- A queue is committed in either guise. -/
theorem run_under (b : Board) (t : Tally) (q : List Change) :
    run (b.under g) t (q.map (Change.under g)) = seen (under g) (under g) (run b t q) := by
  rw [run, List.foldlM_map]
  exact seen_foldlM apply (fun (c : Commit) x => c.apply (x.under g)) (apply_under g) ⟨b, t⟩ q

end Commit

end Formicary
