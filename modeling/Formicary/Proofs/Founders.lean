import Formicary.Proofs.Build
import Formicary.Proofs.Queue

/-!
# Founders

A board that is generated is blank to begin with, and a die is thrown for each of its cells in
order.  No cell is written twice, so nobody is put out: the ants that are there in the end are all
that have been made, and their ids are those below the next one.  They are the founders of all that
live on the board later.  They are new, and their tapes have the length that is configured.

`Board.populate_induct` is the induction over the dice.  `Board.Founded` is an invariant of the
throws (`Board.Founded.throw`), and the populated board satisfies it for all of its cells
(`Board.founded_of_generate`).
-/

namespace Formicary

namespace Board

/-- A board of a configuration for whose first `n` cells dice have been thrown: the other cells are
empty, and the ants are founders, with consecutive ids. -/
structure Founded (c : Config) (n : Nat) (b : Board) : Prop where
  wellFormed : b.WellFormed
  config : b.config = c
  rules : b.rules = Rules.ofConfig c
  ticks : b.ticks = 0
  ids : b.arena.ids = consecutive 0 b.arena.size
  nextId : b.nextId = b.arena.size
  blank : ∀ m, n ≤ m → b.content m = .empty
  founder : ∀ a ∈ b.arena.ants, a.age = .int 0 ∧ a.generation = .int 0 ∧
    b.rules.geneLength = some a.gene.length

variable {b b' : Board} {c : Config} {n : Nat}

/-! ### One die -/

/-- Where nobody is nobody leaves when a cell is written. -/
theorem arena_written_of_empty (hempty : b.content n = .empty) (c : Content) :
    (b.written n c).arena = b.arena := by
  change b.arena.without (b.content n).ant? = _
  rw [hempty]
  rfl

/-- Where nobody is nobody leaves when a new ant is put there. -/
theorem arena_settled_of_empty (hempty : b.content n = .empty) {a : Ant}
    (hnew : a.id ∉ b.arena.ids) (next : Int) :
    (b.settled n a next).arena = ⟨b.arena.ants ++ [a]⟩ := by
  change (b.arena.without (b.content n).ant?).insert a = _
  rw [hempty]
  exact Arena.insert_of_notMem hnew

/-- A die that is thrown for the next cell brings another founder, or food, or nothing. -/
theorem Founded.throw (h : b.Founded c n) (ht : b.Thrown n b') (hb' : b'.WellFormed) :
    b'.Founded c (n + 1) := by
  have hempty := h.blank n (Nat.le_refl n)
  have hstay : ∀ x : Content, ∀ m, n + 1 ≤ m → Function.update b.content n x m = .empty := by
    intro x m hm
    rw [Function.update_of_ne (by omega)]
    exact h.blank m (Nat.le_of_succ_le hm)
  cases ht with
  | @ant a r next lt_size sound id age generation length nextId =>
    have hnew : a.id ∉ b.arena.ids := id ▸ h.wellFormed.nextId_notMem
    have harena : (({ b with random := r } : Board).settled n a next).arena =
        ⟨b.arena.ants ++ [a]⟩ := arena_settled_of_empty hempty hnew next
    have hsize : (b.arena.ants ++ [a]).length = b.arena.size + 1 := List.length_append
    have hcontent : (({ b with random := r } : Board).settled n a next).content =
        Function.update b.content n (.ant a.id) :=
      content_written h.wellFormed.displays lt_size _
    refine ⟨hb', h.config, h.rules, h.ticks, ?_, ?_, ?_, ?_⟩
    · rw [harena, Arena.size, hsize, consecutive_succ, ← h.ids, Int.zero_add, ← h.nextId, ← id]
      exact List.map_append
    · rw [harena, Arena.size, hsize, Int.natCast_succ, ← h.nextId]
      exact nextId
    · rw [hcontent]
      exact hstay _
    · rw [harena]
      intro a' ha'
      rcases List.mem_append.1 ha' with ha' | ha'
      · exact h.founder a' ha'
      · rw [List.mem_singleton.1 ha']
        exact ⟨age, generation, length⟩
  | food lt_size =>
    have harena := arena_written_of_empty hempty .food
    refine ⟨hb', h.config, h.rules, h.ticks, ?_, ?_, ?_, ?_⟩
    · rw [harena]
      exact h.ids
    · rw [harena]
      exact h.nextId
    · rw [content_written h.wellFormed.displays lt_size]
      exact hstay _
    · rw [harena]
      exact h.founder
  | nothing => exact { h with blank := fun m hm => h.blank m (Nat.le_of_succ_le hm) }

/-! ### All dice -/

/-- What every die keeps, given the faces before it, holds when dice have been thrown for some cells
in order. -/
theorem settle_induct {p : List Nat → Board → Prop}
    (hstep : ∀ {done face b b'}, p done b → b.settle done.length face = .ok b' →
      p (done ++ [face]) b') (faces : List Nat) {done : List Nat} (h : p done b)
    (hrun : ((List.range' done.length faces.length).zip faces).foldlM
      (fun b q => b.settle q.1 q.2) b = .ok b') : p (done ++ faces) b' := by
  induction faces generalizing done b with
  | nil =>
    cases hrun
    rw [List.append_nil]
    exact h
  | cons face faces ih =>
    rw [List.length_cons, List.range'_succ, List.zip_cons_cons, List.foldlM_cons] at hrun
    obtain ⟨b₁, hfirst, hrest⟩ := exists_of_bind_eq_ok hrun
    have hlength : (done ++ [face]).length = done.length + 1 := List.length_append
    rw [← hlength] at hrest
    rw [List.append_cons]
    exact ih (hstep h hfirst) hrest

/-- What holds of a board without a population and is kept by every die holds of the populated
board and the faces of all dice. -/
theorem populate_induct {p : List Nat → Board → Prop}
    (hstep : ∀ {done face b b'}, p done b → b.settle done.length face = .ok b' →
      p (done ++ [face]) b') (h : ∀ r, p [] { b with random := r })
    (hpopulate : b.populate = .ok b') :
    p (Random.Stream.draws (Random.Stream.below dieSides) b.size b.random).1 b' := by
  refine settle_induct hstep _
    (h (Random.Stream.draws (Random.Stream.below dieSides) b.size b.random).2) ?_
  rw [Random.Stream.length_draws, List.length_nil, ← List.range_eq_range']
  exact hpopulate

/-- When a board is populated a die is thrown for each of its cells. -/
theorem Founded.populate (h : b.Founded c 0) (hpopulate : b.populate = .ok b') :
    b'.Founded c b.size := by
  have hall := populate_induct (p := fun faces b => b.Founded c faces.length) ?_ (fun r => ?_)
    hpopulate
  · rwa [Random.Stream.length_draws] at hall
  · intro done face b b' hb hsettle
    rw [List.length_append]
    exact hb.throw (hb.wellFormed.thrown hsettle) (hb.wellFormed.settle hsettle)
  · exact { h with wellFormed := h.wellFormed.skip (Int.le_refl b.nextId) r }

/-! ### Generated boards -/

/-- A board without a population is blank. -/
theorem founded_of_unpopulated (hb : b.WellFormed) {memory : Memory} {r : Random.Stream}
    (h : unpopulated memory c r = .ok b) : b.Founded c 0 := by
  simp only [unpopulated] at h
  split at h
  · split at h
    · cases h
    · cases h
      refine ⟨hb, rfl, rfl, rfl, rfl, rfl, fun m _ => ?_,
        fun _ ha => (List.not_mem_nil ha).elim⟩
      rw [(displays_blank _ _ _ _ _ _).content_eq_of_empty fun _ _ => rfl]
  · obtain ⟨m, -, hm⟩ := exists_of_bind_eq_ok h
    cases hm

/-- The ants of a generated board are founders. -/
theorem founded_of_generate {memory : Memory} {w k : Int} {config : Option Config}
    {random : Option Random.Stream}
    (hconfig : ∀ c₀, config = some c₀ → c₀.Integral ∧ c₀.check = .ok c₀)
    (h : generate memory (.int w) (.int k) config random = .ok b) :
    b.config.Integral ∧ b.Founded b.config b.size := by
  obtain ⟨b₀, hbuild, hpopulate⟩ := exists_of_bind_eq_ok h
  have hb₀ := wellFormed_of_build hconfig hbuild
  obtain ⟨c, hfit, hrest⟩ := exists_of_bind_eq_ok hbuild
  have hint := (Config.integral_fitConfig hconfig (eq_ok_of_mapError_eq_ok hfit)).1
  obtain ⟨r, hr⟩ : ∃ r, unpopulated memory c r = .ok b₀ := by
    cases random with
    | some r => exact ⟨r, hrest⟩
    | none =>
      obtain ⟨r, -, hr⟩ := exists_of_bind_eq_ok hrest
      exact ⟨r, hr⟩
  have hall := (founded_of_unpopulated hb₀ hr).populate (eq_ok_of_mapError_eq_ok hpopulate)
  obtain rfl := hall.config
  exact ⟨hint, { hall with blank := fun m hm => content_of_size_le hm }⟩

/-- The ids of founders are those below the next one. -/
theorem Founded.mem_ids_iff (h : b.Founded c n) {id : Int} :
    id ∈ b.arena.ids ↔ 0 ≤ id ∧ id < b.nextId := by
  rw [h.ids, mem_consecutive, Int.zero_add, h.nextId]

/-- The tapes of founders have the length that is configured. -/
theorem Founded.length_eq (h : b.Founded c n) (hc : c.Integral) {a : Ant}
    (ha : a ∈ b.arena.ants) : c.value .geneLength = .int a.gene.length := by
  have hpos := (h.wellFormed.peopled.sound a ha).gene.length_pos
  have hlength := (h.founder a ha).2.2
  obtain ⟨l, hl⟩ := hc.geneLength
  rw [h.rules, Rules.ofConfig, hl] at hlength
  have htape : l.toNat = a.gene.length := Option.some.inj hlength
  rw [hl]
  congr 1
  omega

end Board

end Formicary
