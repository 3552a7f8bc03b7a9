import Formicary.Ant

/-!
# The arena

The arena holds the living ants, the longest present first. An ant is found by its id, so an ant
that is replaced keeps its place, and an ant that leaves and comes back goes to the end.
-/

namespace Formicary

/-- The living ants in order of arrival. -/
structure Arena where
  /-- The ants. -/
  ants : List Ant
  deriving DecidableEq

namespace Arena

/-- The arena without ants. -/
def empty : Arena := ⟨[]⟩

/-- The ids of the ants in order of arrival. -/
def ids (r : Arena) : List Int := r.ants.map (·.id)

/-- The number of ants. -/
def size (r : Arena) : Nat := r.ants.length

/-- The ant with a given id. -/
def find? (r : Arena) (id : Int) : Option Ant := r.ants.find? (·.id == id)

/-- Whether there is an ant with a given id. -/
def has (r : Arena) (id : Int) : Bool := (r.find? id).isSome

/-- A list with an ant in the place of the first ant of the same id. -/
def replace (a : Ant) : List Ant → List Ant
  | [] => []
  | b :: rest => if b.id = a.id then a :: rest else b :: replace a rest

/-- The arena with an ant in the place of the ant of the same id; without one, the arena itself. -/
def update (r : Arena) (a : Ant) : Arena := ⟨replace a r.ants⟩

/-- The arena with an ant: in the place of the ant of the same id, else at the end. -/
def insert (r : Arena) (a : Ant) : Arena := if r.has a.id then r.update a else ⟨r.ants ++ [a]⟩

/-- The arena without the ant of a given id. -/
def erase (r : Arena) (id : Int) : Arena := ⟨r.ants.filter (·.id != id)⟩

/-! ### Look-ups -/

theorem id_of_find? {r : Arena} {id : Int} {a : Ant} (h : r.find? id = some a) : a.id = id := by
  simpa using List.find?_some h

theorem mem_of_find? {r : Arena} {id : Int} {a : Ant} (h : r.find? id = some a) : a ∈ r.ants :=
  List.mem_of_find?_eq_some h

theorem find?_eq_none_iff {r : Arena} {id : Int} : r.find? id = none ↔ id ∉ r.ids := by
  simp [find?, ids, List.find?_eq_none]

theorem has_iff {r : Arena} {id : Int} : r.has id = true ↔ id ∈ r.ids := by
  rw [has, Option.isSome_iff_ne_none, ne_eq, find?_eq_none_iff, Classical.not_not]

@[simp] theorem ids_update (r : Arena) (a : Ant) : (r.update a).ids = r.ids := by
  obtain ⟨ants⟩ := r
  simp only [ids, update]
  induction ants with
  | nil => rfl
  | cons b rest ih =>
    by_cases hb : b.id = a.id
    · simp [replace, hb]
    · simp [replace, hb, ih]

theorem find?_update (r : Arena) (a : Ant) (id : Int) :
    (r.update a).find? id = if id = a.id then (r.find? id).map fun _ => a else r.find? id := by
  obtain ⟨ants⟩ := r
  simp only [find?, update]
  induction ants with
  | nil => simp [replace]
  | cons b rest ih =>
    by_cases hb : b.id = a.id
    · by_cases hi : id = a.id
      · subst hi
        simp [replace, hb]
      · have hi' : a.id ≠ id := fun h => hi h.symm
        simp only [replace, if_pos hb, hi, if_false]
        rw [List.find?_cons_of_neg (by simpa using hi'),
          List.find?_cons_of_neg (by simpa [hb] using hi')]
    · by_cases hi : b.id = id
      · have : id ≠ a.id := fun h => hb (hi.trans h)
        simp [replace, hi, this]
      · simp only [replace, if_neg hb]
        rw [List.find?_cons_of_neg (by simpa using hi), ih,
          List.find?_cons_of_neg (by simpa using hi)]

theorem find?_insert (r : Arena) (a : Ant) (id : Int) :
    (r.insert a).find? id = if id = a.id then some a else r.find? id := by
  unfold insert
  split
  · rename_i h
    rw [find?_update]
    split
    · rename_i hi
      subst hi
      obtain ⟨b, hb⟩ := Option.isSome_iff_exists.1 h
      simp [hb]
    · rfl
  · rename_i h
    have hn : r.find? a.id = none := by simpa [has] using h
    by_cases hi : id = a.id
    · subst hi
      simp only [find?] at hn
      simp [find?, List.find?_append, hn]
    · have hi' : ¬ a.id = id := fun h => hi h.symm
      simp [find?, List.find?_append, hi, hi']

end Arena

end Formicary
