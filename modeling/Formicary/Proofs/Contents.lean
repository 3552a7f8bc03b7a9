import Formicary.Board.Basic
import Formicary.Proofs.Soundness
import Mathlib.Data.List.Nodup
import Mathlib.Logic.Equiv.Basic

/-!
# What the cells hold and who lives there

The kinds and the occupant entries of a board are two rows.  Where they agree, both are read off one
function that tells what a cell holds, `Board.content`, and writing a cell or exchanging two cells
is an update of that function.

`Housed` says that the ants on the cells are those of an arena and each stands on exactly one cell;
`Peopled` says moreover that each is sound and has an id below the next one.  These are statements
about a function and an arena alone, so they are shown to survive evictions, arrivals and exchanges
here without a word on rows of cells.
-/

namespace Formicary

/-- What a cell holds, an ant being named by its id. -/
inductive Content where
  | empty
  | food
  | ant (id : Int)
  deriving DecidableEq

namespace Content

/-- The kind of a cell with the given content. -/
def kind : Content → CellKind
  | .empty => .empty
  | .food => .food
  | .ant _ => .ant

/-- The occupant entry of a cell with the given content. -/
def occupant : Content → Int
  | .ant id => id
  | _ => vacant

/-- The ant on a cell with the given content. -/
def ant? : Content → Option Int
  | .ant id => some id
  | _ => none

/-- The ant of a content, read off. -/
@[simp] theorem ant?_eq_some_iff {c : Content} {id : Int} : c.ant? = some id ↔ c = .ant id := by
  cases c <;> simp [ant?]

/-- A content without an ant has the occupant entry of a vacant cell. -/
theorem occupant_of_ant?_eq_none {c : Content} (h : c.ant? = none) : c.occupant = vacant := by
  cases c with
  | empty => rfl
  | food => rfl
  | ant id => cases h

/-- Only nothing is of the empty kind. -/
theorem kind_eq_empty_iff {c : Content} : c.kind = .empty ↔ c = .empty := by
  cases c <;> simp [kind]

/-- Only food is of the kind of food. -/
theorem kind_eq_food_iff {c : Content} : c.kind = .food ↔ c = .food := by
  cases c <;> simp [kind]

/-- The contents of the kind of ants are the ants. -/
theorem kind_eq_ant_iff {c : Content} : c.kind = .ant ↔ ∃ id, c = .ant id := by
  cases c <;> simp [kind]

end Content

namespace Arena

variable {r : Arena}

/-- The arena without an ant, if there is one to leave. -/
def without (r : Arena) : Option Int → Arena
  | none => r
  | some id => r.erase id

/-- If nobody leaves the arena stays as it is. -/
@[simp] theorem without_none (r : Arena) : r.without none = r := rfl

/-- The ids that are left when an ant is erased. -/
theorem ids_erase (r : Arena) (id : Int) : (r.erase id).ids = r.ids.filter (· != id) := by
  simp [ids, erase, List.filter_map, Function.comp_def]

/-- The ids that are left when an ant leaves. -/
theorem mem_ids_without {o : Option Int} {id : Int} :
    id ∈ (r.without o).ids ↔ id ∈ r.ids ∧ o ≠ some id := by
  cases o with
  | none => simp
  | some gone =>
    rw [without, ids_erase, List.mem_filter, bne_iff_ne, ne_eq, ne_eq, Option.some.injEq]
    exact and_congr_right fun _ => not_congr eq_comm

/-- Those who stay keep their order. -/
theorem ids_without_sublist (r : Arena) (o : Option Int) : (r.without o).ids.Sublist r.ids := by
  cases o with
  | none => exact List.Sublist.refl _
  | some gone =>
    rw [without, ids_erase]
    exact List.filter_sublist

/-- Those who stay keep their states and their order. -/
theorem ants_without_sublist (r : Arena) (o : Option Int) : (r.without o).ants.Sublist r.ants := by
  cases o with
  | none => exact List.Sublist.refl _
  | some gone => exact List.filter_sublist

/-- An arena lacks an ant if its id is not among its ids. -/
theorem has_eq_false_iff {id : Int} : r.has id = false ↔ id ∉ r.ids := by
  rw [← Bool.not_eq_true, has_iff]

/-- An ant with a new id goes to the end. -/
theorem insert_of_notMem {a : Ant} (h : a.id ∉ r.ids) : r.insert a = ⟨r.ants ++ [a]⟩ := by
  rw [insert, has_eq_false_iff.2 h]
  rfl

/-- A new id goes to the end. -/
theorem ids_insert_of_notMem {a : Ant} (h : a.id ∉ r.ids) : (r.insert a).ids = r.ids ++ [a.id] := by
  simp [insert_of_notMem h, ids]

/-- The id of an ant of the arena is among its ids. -/
theorem mem_ids_of_mem {a : Ant} (h : a ∈ r.ants) : a.id ∈ r.ids := List.mem_map_of_mem h

/-- The ants after a replacement are the ant that was put in and ants that were there. -/
theorem mem_ants_update {a x : Ant} (h : x ∈ (r.update a).ants) : x = a ∨ x ∈ r.ants := by
  obtain ⟨ants⟩ := r
  simp only [update] at h ⊢
  induction ants with
  | nil => simp [replace] at h
  | cons b rest ih =>
    simp only [replace] at h
    split at h
    · rcases List.mem_cons.1 h with rfl | h
      · exact Or.inl rfl
      · exact Or.inr (List.mem_cons_of_mem b h)
    · rcases List.mem_cons.1 h with rfl | h
      · exact Or.inr List.mem_cons_self
      · exact (ih h).imp_right (List.mem_cons_of_mem b)

/-- In an arena whose ids differ, every ant is the one that is found under its id. -/
theorem find?_of_mem (hr : r.ids.Nodup) {a : Ant} (h : a ∈ r.ants) : r.find? a.id = some a := by
  obtain ⟨b, hb⟩ : ∃ b, r.find? a.id = some b := by
    rw [← Option.isSome_iff_exists]
    exact has_iff.2 (mem_ids_of_mem h)
  have hba : b = a := List.inj_on_of_nodup_map hr (mem_of_find? hb) h (id_of_find? hb)
  rw [hb, hba]

end Arena

/-! ### Ants and their cells -/

/-- The ants that the first `size` values of `f` name are those of the arena, and each is named
once. -/
structure Housed (f : Nat → Content) (size : Nat) (r : Arena) : Prop where
  mem_ids_iff : ∀ id, id ∈ r.ids ↔ ∃ n < size, f n = .ant id
  eq_of_content : ∀ {m n id}, m < size → n < size → f m = .ant id → f n = .ant id → m = n
  ids_nodup : r.ids.Nodup

namespace Housed

variable {f : Nat → Content} {size : Nat} {r : Arena}

/-- The ant that a cell names is in the arena. -/
theorem mem_ids (h : Housed f size r) {n : Nat} {id : Int} (hn : n < size) (hf : f n = .ant id) :
    id ∈ r.ids :=
  (h.mem_ids_iff id).2 ⟨n, hn, hf⟩

/-- A cell that is written loses its ant, and the arena loses it too. -/
theorem vacate (h : Housed f size r) {n : Nat} (hn : n < size) {c : Content}
    (hc : c.ant? = none) : Housed (Function.update f n c) size (r.without (f n).ant?) := by
  have hne : ∀ id, c ≠ .ant id := fun id hid => by
    rw [hid] at hc
    cases hc
  refine ⟨?_, ?_, ?_⟩
  · intro id
    rw [Arena.mem_ids_without, h.mem_ids_iff, ne_eq, Content.ant?_eq_some_iff]
    constructor
    · rintro ⟨⟨m, hm, hfm⟩, hfn⟩
      have hmn : m ≠ n := fun hmn => hfn (hmn ▸ hfm)
      exact ⟨m, hm, by rw [Function.update_of_ne hmn, hfm]⟩
    · rintro ⟨m, hm, hfm⟩
      have hmn : m ≠ n := fun hmn => by
        rw [hmn, Function.update_self] at hfm
        exact hne id hfm
      rw [Function.update_of_ne hmn] at hfm
      exact ⟨⟨m, hm, hfm⟩, fun hfn => hmn (h.eq_of_content hm hn hfm hfn)⟩
  · intro m k id hm hk hfm hfk
    have hmn : m ≠ n := fun hmn => by
      rw [hmn, Function.update_self] at hfm
      exact hne id hfm
    have hkn : k ≠ n := fun hkn => by
      rw [hkn, Function.update_self] at hfk
      exact hne id hfk
    rw [Function.update_of_ne hmn] at hfm
    rw [Function.update_of_ne hkn] at hfk
    exact h.eq_of_content hm hk hfm hfk
  · exact h.ids_nodup.sublist (Arena.ids_without_sublist r _)

/-- An ant with a new id settles on an empty cell. -/
theorem settle_empty (h : Housed f size r) {n : Nat} (hn : n < size) (hempty : f n = .empty)
    {a : Ant} (hnew : a.id ∉ r.ids) :
    Housed (Function.update f n (.ant a.id)) size (r.insert a) := by
  have hids := Arena.ids_insert_of_notMem hnew
  have hself : ∀ id : Int, Function.update f n (.ant a.id) n = .ant id ↔ id = a.id := fun id => by
    rw [Function.update_self, Content.ant.injEq, eq_comm]
  have hother : ∀ {m : Nat} (id : Int), m ≠ n →
      (Function.update f n (.ant a.id) m = .ant id ↔ f m = .ant id) := fun id hm => by
    rw [Function.update_of_ne hm]
  refine ⟨?_, ?_, ?_⟩
  · intro id
    rw [hids, List.mem_append, List.mem_singleton, h.mem_ids_iff]
    constructor
    · rintro (⟨m, hm, hfm⟩ | rfl)
      · have hmn : m ≠ n := fun hmn => by
          rw [hmn, hempty] at hfm
          cases hfm
        exact ⟨m, hm, (hother id hmn).2 hfm⟩
      · exact ⟨n, hn, (hself _).2 rfl⟩
    · rintro ⟨m, hm, hfm⟩
      by_cases hmn : m = n
      · subst hmn
        exact Or.inr ((hself id).1 hfm)
      · exact Or.inl ⟨m, hm, (hother id hmn).1 hfm⟩
  · intro m k id hm hk hfm hfk
    -- the newcomer is on no other cell, since its id is not in use
    by_cases hmn : m = n
    · by_cases hkn : k = n
      · rw [hmn, hkn]
      · subst hmn
        obtain rfl := (hself id).1 hfm
        exact absurd (h.mem_ids hk ((hother _ hkn).1 hfk)) hnew
    · by_cases hkn : k = n
      · subst hkn
        obtain rfl := (hself id).1 hfk
        exact absurd (h.mem_ids hm ((hother _ hmn).1 hfm)) hnew
      · exact h.eq_of_content hm hk ((hother id hmn).1 hfm) ((hother id hkn).1 hfk)
  · rw [hids]
    refine List.nodup_append.2 ⟨h.ids_nodup, List.nodup_singleton _, ?_⟩
    intro x hx y hy
    rintro rfl
    exact hnew (List.mem_singleton.1 hy ▸ hx)

/-- An ant with a new id settles on a cell whose ant, if there is one, leaves the arena. -/
theorem settle (h : Housed f size r) {n : Nat} (hn : n < size) {a : Ant} (hnew : a.id ∉ r.ids) :
    Housed (Function.update f n (.ant a.id)) size ((r.without (f n).ant?).insert a) := by
  have hv : Housed (Function.update f n .empty) size (r.without (f n).ant?) := h.vacate hn rfl
  have hnew' : a.id ∉ (r.without (f n).ant?).ids := fun hmem =>
    hnew (Arena.mem_ids_without.1 hmem).1
  have hsettled := hv.settle_empty hn (Function.update_self _ _ _) hnew'
  rwa [Function.update_idem] at hsettled

/-- Exchanging two cells moves ants about and changes nothing else. -/
theorem exchange (h : Housed f size r) {m n : Nat} (hm : m < size) (hn : n < size) :
    Housed (f ∘ Equiv.swap m n) size r := by
  have hlt : ∀ {k : Nat}, k < size → Equiv.swap m n k < size := fun {k} hk => by
    rw [Equiv.swap_apply_def]
    split_ifs <;> assumption
  refine ⟨?_, ?_, h.ids_nodup⟩
  · intro id
    rw [h.mem_ids_iff]
    constructor
    · rintro ⟨k, hk, hfk⟩
      exact ⟨Equiv.swap m n k, hlt hk, by simpa using hfk⟩
    · rintro ⟨k, hk, hfk⟩
      exact ⟨Equiv.swap m n k, hlt hk, hfk⟩
  · intro k l id hk hl hfk hfl
    exact (Equiv.swap m n).injective (h.eq_of_content (hlt hk) (hlt hl) hfk hfl)

end Housed

/-- The ants that the first `size` values of `f` name are those of the arena, each is named once and
is sound, and their ids are natural numbers below `next`. -/
structure Peopled (f : Nat → Content) (size : Nat) (r : Arena) (next : Int) : Prop where
  mem_ids_iff : ∀ id, id ∈ r.ids ↔ ∃ n < size, f n = .ant id
  eq_of_content : ∀ {m n id}, m < size → n < size → f m = .ant id → f n = .ant id → m = n
  ids_nodup : r.ids.Nodup
  sound : ∀ a ∈ r.ants, a.Sound
  id_nonneg : ∀ id ∈ r.ids, 0 ≤ id
  id_lt : ∀ id ∈ r.ids, id < next
  next_nonneg : 0 ≤ next

namespace Peopled

variable {f : Nat → Content} {size : Nat} {r : Arena} {next : Int}

/-- The ants of the cells are housed in the arena. -/
theorem housed (h : Peopled f size r next) : Housed f size r :=
  ⟨h.mem_ids_iff, h.eq_of_content, h.ids_nodup⟩

/-- The cells are peopled if their ants are housed in the arena, sound, and of ids below the next
one. -/
theorem of_housed (h : Housed f size r) (hsound : ∀ a ∈ r.ants, a.Sound)
    (h0 : ∀ id ∈ r.ids, 0 ≤ id) (hlt : ∀ id ∈ r.ids, id < next) (hnext : 0 ≤ next) :
    Peopled f size r next :=
  ⟨h.mem_ids_iff, h.eq_of_content, h.ids_nodup, hsound, h0, hlt, hnext⟩

/-- The ant that a cell names is in the arena. -/
theorem mem_ids (h : Peopled f size r next) {n : Nat} {id : Int} (hn : n < size)
    (hf : f n = .ant id) : id ∈ r.ids :=
  h.housed.mem_ids hn hf

/-- A cell that is written loses its ant, and the arena loses it too. -/
theorem vacate (h : Peopled f size r next) {n : Nat} (hn : n < size) {c : Content}
    (hc : c.ant? = none) : Peopled (Function.update f n c) size (r.without (f n).ant?) next := by
  refine of_housed (h.housed.vacate hn hc) ?_ ?_ ?_ h.next_nonneg
  · intro a ha
    exact h.sound a ((Arena.ants_without_sublist r _).subset ha)
  · intro id hid
    exact h.id_nonneg id (Arena.mem_ids_without.1 hid).1
  · intro id hid
    exact h.id_lt id (Arena.mem_ids_without.1 hid).1

/-- An ant with a new id settles on a cell whose ant, if there is one, leaves the arena. -/
theorem settle (h : Peopled f size r next) {n : Nat} (hn : n < size) {a : Ant} (ha : a.Sound)
    (hnew : a.id ∉ r.ids) (h0 : 0 ≤ a.id) {next' : Int} (hnext : next ≤ next')
    (hlt : a.id < next') :
    Peopled (Function.update f n (.ant a.id)) size ((r.without (f n).ant?).insert a) next' := by
  have hnew' : a.id ∉ (r.without (f n).ant?).ids := fun hmem =>
    hnew (Arena.mem_ids_without.1 hmem).1
  have hids : ∀ id ∈ ((r.without (f n).ant?).insert a).ids, id ∈ r.ids ∨ id = a.id := by
    intro id hid
    rw [Arena.ids_insert_of_notMem hnew', List.mem_append, List.mem_singleton] at hid
    exact hid.imp_left fun hid => (Arena.mem_ids_without.1 hid).1
  refine of_housed (h.housed.settle hn hnew) ?_ ?_ ?_ (Int.le_trans h.next_nonneg hnext)
  · intro x hx
    rw [Arena.insert_of_notMem hnew'] at hx
    rcases List.mem_append.1 hx with hx | hx
    · exact h.sound x ((Arena.ants_without_sublist r _).subset hx)
    · exact List.mem_singleton.1 hx ▸ ha
  · intro id hid
    rcases hids id hid with hid | rfl
    · exact h.id_nonneg id hid
    · exact h0
  · intro id hid
    rcases hids id hid with hid | rfl
    · exact Int.lt_of_lt_of_le (h.id_lt id hid) hnext
    · exact hlt

/-- Exchanging two cells moves ants about and changes nothing else. -/
theorem exchange (h : Peopled f size r next) {m n : Nat} (hm : m < size) (hn : n < size) :
    Peopled (f ∘ Equiv.swap m n) size r next :=
  of_housed (h.housed.exchange hm hn) h.sound h.id_nonneg h.id_lt h.next_nonneg

/-- The ants of an arena may change as long as they stay sound and keep their ids. -/
theorem renew (h : Peopled f size r next) {r' : Arena} (hids : r'.ids = r.ids)
    (hsound : ∀ a ∈ r'.ants, a.Sound) {next' : Int} (hnext : next ≤ next') :
    Peopled f size r' next' where
  mem_ids_iff id := by rw [hids, h.mem_ids_iff]
  eq_of_content := h.eq_of_content
  ids_nodup := by rw [hids]; exact h.ids_nodup
  sound := hsound
  id_nonneg id hid := h.id_nonneg id (hids ▸ hid)
  id_lt id hid := Int.lt_of_lt_of_le (h.id_lt id (hids ▸ hid)) hnext
  next_nonneg := Int.le_trans h.next_nonneg hnext

end Peopled

end Formicary
