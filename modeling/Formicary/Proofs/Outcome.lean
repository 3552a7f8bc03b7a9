import Formicary.Proofs.Reachable
import Mathlib.Data.List.Induction

/-!
# What a tick makes of the cells

The changes of a queue are applied one after the other, and a cell may be written several times in
between.  Yet what it holds in the end can be read off the queue: an empty cell keeps the last thing
put there, food is there unless somebody took it, and an ant stays where it is unless it moves or
dies (`Outcome`).  An ant that moves leaves behind what had been put before on the cell it goes to.

The induction is on the changes applied so far.  What carries it is that a queue suits the board at
the start of the tick and that a move finds its ant where it was (`Change.Respects`).
-/

namespace Formicary

/-- What a change puts on its cell, where `f` tells what the cells held at the start of the tick. -/
def Change.puts (f : Nat → Content) : Change → Content
  | .growFood _ => .food
  | .removeFood _ => .empty
  | .swap _ source => f source
  | .born _ child => .ant child.id
  | .death _ _ => .food

/-- What the last change for a cell puts there, nothing if there is none. -/
def register (f : Nat → Content) (q : List Change) (n : Nat) : Content :=
  ((q.filter (·.cell == n)).getLast?.map (Change.puts f)).getD .empty

/-- What a cell holds after the changes of a queue, by what it held before them. -/
structure Outcome (f : Nat → Content) (q : List Change) (n : Nat) (x : Content) : Prop where
  food : f n = .food → x = if .removeFood n ∈ q then .empty else .food
  empty : f n = .empty → x = register f q n
  dead : ∀ id, f n = .ant id → .death n id ∈ q → x = .food
  stayed : ∀ id, f n = .ant id → .death n id ∉ q → (∀ d, .swap d n ∉ q) → x = .ant id
  moved : ∀ id, f n = .ant id → .death n id ∉ q → ∀ d before later,
    q = before ++ .swap d n :: later → x = register f before d

variable {f g : Nat → Content} {q : List Change} {c : Change} {n : Nat}

/-! ### Registers -/

/-- The last change for a cell is what counts. -/
theorem register_concat (f : Nat → Content) (q : List Change) (c : Change) (n : Nat) :
    register f (q ++ [c]) n = if c.cell = n then c.puts f else register f q n := by
  unfold register
  rw [List.filter_append]
  by_cases hc : c.cell = n
  · have hlast : [c].filter (·.cell == n) = [c] := by simp [hc]
    rw [hlast, List.getLast?_concat, if_pos hc]
    rfl
  · have hlast : [c].filter (·.cell == n) = [] := by simp [hc]
    rw [hlast, List.append_nil, if_neg hc]

/-- A queue with one more change, divided at a change. -/
theorem concat_eq_append_cons {before later : List Change} {d : Change}
    (h : q ++ [c] = before ++ d :: later) :
    (q = before ∧ c = d ∧ later = []) ∨ ∃ later', later = later' ++ [c] ∧
      q = before ++ d :: later' := by
  rcases List.eq_nil_or_concat' later with rfl | ⟨later', last, rfl⟩
  · obtain ⟨hq, hc⟩ := List.append_inj' h rfl
    exact Or.inl ⟨hq, List.head_eq_of_cons_eq hc, rfl⟩
  · rw [← List.cons_append, ← List.append_assoc] at h
    obtain ⟨hq, hc⟩ := List.append_inj' h rfl
    rw [List.singleton_inj] at hc
    exact Or.inr ⟨later', by rw [hc], hq⟩

/-! ### Kinds of cells -/

/-- The outcome for a cell with food. -/
theorem outcome_of_food {x : Content} (hf : f n = .food)
    (hx : x = if .removeFood n ∈ q then .empty else .food) : Outcome f q n x where
  food _ := hx
  empty hempty := absurd (hf.symm.trans hempty) Content.noConfusion
  dead _ hant := absurd (hf.symm.trans hant) Content.noConfusion
  stayed _ hant := absurd (hf.symm.trans hant) Content.noConfusion
  moved _ hant := absurd (hf.symm.trans hant) Content.noConfusion

/-- The outcome for an empty cell. -/
theorem outcome_of_empty {x : Content} (hf : f n = .empty) (hx : x = register f q n) :
    Outcome f q n x where
  food hfood := absurd (hf.symm.trans hfood) Content.noConfusion
  empty _ := hx
  dead _ hant := absurd (hf.symm.trans hant) Content.noConfusion
  stayed _ hant := absurd (hf.symm.trans hant) Content.noConfusion
  moved _ hant := absurd (hf.symm.trans hant) Content.noConfusion

/-- The outcome for the cell of an ant. -/
theorem outcome_of_ant {id : Int} {x : Content} (hf : f n = .ant id)
    (hdead : .death n id ∈ q → x = .food)
    (hstayed : .death n id ∉ q → (∀ d, .swap d n ∉ q) → x = .ant id)
    (hmoved : .death n id ∉ q → ∀ d before later, q = before ++ .swap d n :: later →
      x = register f before d) : Outcome f q n x := by
  have hid : ∀ id', f n = .ant id' → id' = id := fun id' hant =>
    Content.ant.inj (hant.symm.trans hf)
  refine ⟨?_, ?_, ?_, ?_, ?_⟩
  · intro hfood
    exact absurd (hf.symm.trans hfood) Content.noConfusion
  · intro hempty
    exact absurd (hf.symm.trans hempty) Content.noConfusion
  · intro id' hant
    rw [hid id' hant]
    exact hdead
  · intro id' hant
    rw [hid id' hant]
    exact hstayed
  · intro id' hant
    rw [hid id' hant]
    exact hmoved

/-! ### One more change -/

/-- A change leaves alone what it neither writes nor takes its ant from. -/
theorem write_of_ne (hcell : c.cell ≠ n) (hsource : c.source? ≠ some n) : c.write g n = g n := by
  cases c with
  | growFood m => exact Function.update_of_ne (Ne.symm hcell) _ _
  | removeFood m => exact Function.update_of_ne (Ne.symm hcell) _ _
  | born m child => exact Function.update_of_ne (Ne.symm hcell) _ _
  | death m id => exact Function.update_of_ne (Ne.symm hcell) _ _
  | swap target source =>
    have hne : n ≠ source := fun h => hsource (congrArg some h.symm)
    exact congrArg g (Equiv.swap_apply_of_ne_of_ne (Ne.symm hcell) hne)

/-- The outcome for a cell stays as it is under a change that leaves the cell alone. -/
theorem Outcome.frame (h : Outcome f q n (g n)) (hcell : c.cell ≠ n)
    (hsource : c.source? ≠ some n) : Outcome f (q ++ [c]) n (c.write g n) := by
  have hne : ∀ c', c' ∈ q ++ [c] → c'.cell = n ∨ c'.source? = some n → c' ∈ q := by
    intro c' hc' htouch
    rcases List.mem_append.1 hc' with hc' | hc'
    · exact hc'
    · rw [List.mem_singleton.1 hc'] at htouch
      exact (htouch.elim hcell hsource).elim
  have hmem : ∀ c', c'.cell = n ∨ c'.source? = some n → (c' ∈ q ++ [c] ↔ c' ∈ q) :=
    fun c' htouch => ⟨fun hc' => hne c' hc' htouch, List.mem_append_left [c]⟩
  rw [write_of_ne hcell hsource]
  refine ⟨?_, ?_, ?_, ?_, ?_⟩
  · intro hf
    rw [h.food hf]
    simp only [hmem (.removeFood n) (Or.inl rfl)]
  · intro hf
    rw [h.empty hf, register_concat, if_neg hcell]
  · intro id hf hdeath
    exact h.dead id hf ((hmem _ (Or.inl rfl)).1 hdeath)
  · intro id hf hdeath hswap
    rw [hmem _ (Or.inl rfl)] at hdeath
    exact h.stayed id hf hdeath fun d hd => hswap d ((hmem _ (Or.inr rfl)).2 hd)
  · intro id hf hdeath d before later heq
    rw [hmem _ (Or.inl rfl)] at hdeath
    rcases concat_eq_append_cons heq with ⟨-, rfl, -⟩ | ⟨later', -, hq⟩
    · exact (hsource rfl).elim
    · exact h.moved id hf hdeath d before later' hq

/-- A change that puts something on an empty cell. -/
theorem outcome_put (hempty : f c.cell = .empty) (hwrite : c.write g c.cell = c.puts f) :
    Outcome f (q ++ [c]) c.cell (c.write g c.cell) := by
  refine outcome_of_empty hempty ?_
  rw [register_concat, if_pos rfl, hwrite]

/-- Food that is taken is gone. -/
theorem outcome_eaten (hfood : f n = .food) :
    Outcome f (q ++ [.removeFood n]) n ((Change.removeFood n).write g n) := by
  have hmem : .removeFood n ∈ q ++ [.removeFood n] :=
    List.mem_append_right q (List.mem_singleton_self _)
  refine outcome_of_food hfood ?_
  rw [if_pos hmem]
  exact Function.update_self _ _ _

/-- A death leaves food behind. -/
theorem outcome_died {id : Int} (hid : f n = .ant id) :
    Outcome f (q ++ [.death n id]) n ((Change.death n id).write g n) := by
  have hmem : .death n id ∈ q ++ [.death n id] :=
    List.mem_append_right q (List.mem_singleton_self _)
  refine outcome_of_ant hid ?_ ?_ ?_
  · intro _
    exact Function.update_self _ _ _
  · intro hdeath
    exact (hdeath hmem).elim
  · intro hdeath
    exact (hdeath hmem).elim

/-- An ant that moves to an empty cell leaves behind what has been put there before, as long as
neither a death nor another move has taken it from its cell. -/
theorem outcome_left {target : Nat} {id : Int} (hid : f n = .ant id) (hempty : f target = .empty)
    (horder : ∀ c ∈ q, c.vacates? ≠ some n) (h : Outcome f q target (g target)) :
    Outcome f (q ++ [.swap target n]) n ((Change.swap target n).write g n) := by
  have hg : (g ∘ Equiv.swap target n) n = g target := congrArg g (Equiv.swap_apply_right target n)
  refine outcome_of_ant hid ?_ ?_ ?_
  · intro hmem
    rcases List.mem_append.1 hmem with hmem | hmem
    · exact (horder _ hmem rfl).elim
    · cases List.mem_singleton.1 hmem
  · intro _ hnone
    exact (hnone target (List.mem_append_right q (List.mem_singleton_self _))).elim
  · intro _ d before later heq
    rcases concat_eq_append_cons heq with ⟨hq, hc, -⟩ | ⟨later', -, hq⟩
    · cases hc
      exact hg.trans (hq ▸ h.empty hempty)
    · have hmem : Change.swap d n ∈ q := by
        rw [hq]
        exact List.mem_append_right _ List.mem_cons_self
      exact (horder _ hmem rfl).elim

/-- What the cells hold after a queue and one more change. -/
theorem outcome_concat {b : Board} (hsuits : c.Suits b b.size)
    (horder : ∀ c' ∈ q, Change.Respects c' c)
    (h : ∀ n, Outcome b.content q n (g n)) (n : Nat) :
    Outcome b.content (q ++ [c]) n (c.write g n) := by
  by_cases hcell : c.cell = n
  · subst hcell
    cases c with
    | growFood m => exact outcome_put hsuits.2 (Function.update_self _ _ _)
    | born m child => exact outcome_put hsuits.2.1 (Function.update_self _ _ _)
    | removeFood m => exact outcome_eaten hsuits
    | death m id => exact outcome_died hsuits.2
    | swap target source =>
      -- the ant that moves has stayed where it was until now
      obtain ⟨-, -, hempty, id, hid⟩ := hsuits
      have hdeath : .death source id ∉ q := fun hmem => horder _ hmem source rfl rfl
      have hswap : ∀ d, .swap d source ∉ q := fun d hmem => horder _ hmem source rfl rfl
      have hg := (h source).stayed id hid hdeath hswap
      refine outcome_put hempty ?_
      calc (g ∘ Equiv.swap target source) target
          = g source := congrArg g (Equiv.swap_apply_left target source)
        _ = b.content source := by rw [hg, hid]
  · by_cases hsource : c.source? = some n
    · cases c with
      | swap target source =>
        cases hsource
        obtain ⟨-, -, hempty, id, hid⟩ := hsuits
        exact outcome_left hid hempty (fun c' hc' => horder c' hc' n rfl) (h target)
      | growFood m => cases hsource
      | removeFood m => cases hsource
      | born m child => cases hsource
      | death m id => cases hsource
    · exact (h n).frame hcell hsource

/-- What the cells hold after the first changes of a queue. -/
theorem outcome_foldl {b : Board} (hsuits : ∀ c ∈ q, c.Suits b b.size)
    (horder : q.Pairwise Change.Respects) (n : Nat) :
    Outcome b.content q n (q.foldl Change.write b.content n) := by
  induction q using List.reverseRecOn generalizing n with
  | nil =>
    exact ⟨fun hf => hf, fun hf => hf, fun _ _ hmem => (List.not_mem_nil hmem).elim,
      fun _ hf _ _ => hf, fun _ _ _ d before later heq => by cases before <;> cases heq⟩
  | append_singleton q c ih =>
    rw [List.foldl_concat]
    obtain ⟨horder, -, hlast⟩ := List.pairwise_append.1 horder
    refine outcome_concat (hsuits c (List.mem_append_right q (List.mem_singleton_self c)))
      (fun c' hc' => hlast c' hc' c (List.mem_singleton_self c)) (fun m => ?_) n
    exact ih (fun c' hc' => hsuits c' (List.mem_append_left [c] hc')) horder m

/-! ### Closed form -/

/-- What the cells hold after the first changes of a scan's queue. -/
theorem Scan.Completes.outcome_before {b : Board} {s : Scan} (hs : Scan.Completes b s)
    {before later : List Change} (hq : s.queue.toList = before ++ later) (n : Nat) :
    Outcome b.content before n (before.foldl Change.write b.content n) := by
  have horder := hs.stage.order
  rw [hq] at horder
  refine outcome_foldl (fun c hc => hs.stage.suits c ?_) (List.pairwise_append.1 horder).1 n
  rw [hq]
  exact List.mem_append_left later hc

/-- What the cells hold when the first changes of a scan's queue have been committed. -/
theorem Board.WellFormed.outcome_of_commit {b : Board} {s : Scan} (hb : b.WellFormed)
    (hs : Scan.Completes b s) {before later : List Change} {c : Commit}
    (hq : s.queue.toList = before ++ later)
    (hrun : Commit.run s.board s.tally before = .ok c) (n : Nat) :
    Outcome b.content before n (c.board.content n) := by
  have hstage := hs.stage
  obtain ⟨hbefore, hc⟩ := hb.eq_foldl_of_commit hs hq hrun
  have hcontent : c.board.content = before.foldl Change.write b.content := by
    rw [hc, Commit.content_foldl (hstage.wellFormed hb) hbefore, hstage.frozen.content]
  rw [hcontent]
  exact hs.outcome_before hq n

/-- The commit of a scan's queue goes through unless an id does not fit an occupant entry.  After
any number of its changes the cells are well formed and hold what the queue says, with the ants as
the scan left them or as they were born.  No ant is lost but by its own death before it moves, and a
meal costs no ant its life.  The board need only be well formed, as reachable ones are
(`Reachable.wellFormed`). -/
theorem commit_outcome {b : Board} (hb : b.WellFormed) :
    ∃ s, Scan.run b = .ok s ∧
      (s.board.nextId ≤ idLimit →
        ∃ c, Commit.run s.board s.tally s.queue.toList = .ok c) ∧
      ∀ before later c, s.queue.toList = before ++ later →
        Commit.run s.board s.tally before = .ok c →
        c.board.WellFormed ∧
          (∀ n, Outcome b.content before n (c.board.content n)) ∧
          (∀ a ∈ c.board.arena.ants, a ∈ s.board.arena.ants ∨ a ∈ newborns before) ∧
          (∀ n id, b.content n = .ant id → (∀ d, .swap d n ∉ s.queue.toList) →
            c.board.content n = .ant id ∨
              .death n id ∈ before ∧ c.board.content n = .food) ∧
          ∀ n rest, later = .removeFood n :: rest → (c.board.content n).ant? = none := by
  obtain ⟨s, hs⟩ := Scan.exists_completes hb
  have hstage := hs.stage
  refine ⟨s, hs.run_eq, ?_, ?_⟩
  · intro hids
    rcases hb.tick_cases hs with ⟨-, hok, -⟩ | ⟨id, halted, -, hle, hlt, -⟩
    · exact ⟨_, hok⟩
    · omega
  · intro before later c hq hrun
    obtain ⟨hbefore, hc⟩ := hb.eq_foldl_of_commit hs hq hrun
    have houtcome := hb.outcome_of_commit hs hq hrun
    refine ⟨?_, houtcome, ?_, ?_, ?_⟩
    · rw [hc]
      exact Commit.wellFormed_foldl (c := ⟨s.board, s.tally⟩) (hstage.wellFormed hb) hbefore
    · intro a ha
      rw [hc] at ha
      exact Commit.mem_ants_foldl (c := ⟨s.board, s.tally⟩) hbefore ha
    · intro n id hid hswap
      by_cases hdeath : .death n id ∈ before
      · exact Or.inr ⟨hdeath, (houtcome n).dead id hid hdeath⟩
      · refine Or.inl ((houtcome n).stayed id hid hdeath ?_)
        intro d hd
        refine hswap d ?_
        rw [hq]
        exact List.mem_append_left later hd
    · intro n rest hlater
      have hfood : b.content n = .food := by
        refine hstage.suits (.removeFood n) ?_
        rw [hq, hlater]
        exact List.mem_append_right before List.mem_cons_self
      rw [(houtcome n).food hfood]
      split_ifs
      · rfl
      · rfl

/-- The cells of the crowd after a tick.  Two ants have moved to one cell, on which food had grown
in between, and a newborn has come to a cell on which food had grown. -/
theorem crowd_outcome :
    crowd.WellFormed ∧ ∃ s c, Scan.run crowd = .ok s ∧
      Commit.run s.board s.tally s.queue.toList = .ok c ∧
      (∀ n, Outcome crowd.content s.queue.toList n (c.board.content n)) ∧
      (List.range 6).map c.board.content = [.empty, .ant 1, .food, .ant 4, .ant 2, .food] := by
  obtain ⟨s, hrun, hcommit, houtcome⟩ := commit_outcome wellFormed_crowd
  have hids :
      ((Scan.run crowd).toOption.all fun s => decide (s.board.nextId ≤ idLimit)) = true := by
    decide +kernel
  rw [hrun] at hids
  obtain ⟨c, hc⟩ := hcommit (of_decide_eq_true hids)
  have hcells : ((Scan.run crowd).toOption.bind fun s =>
      (Commit.run s.board s.tally s.queue.toList).toOption.map fun c =>
        (List.range 6).map c.board.content) =
      some [.empty, .ant 1, .food, .ant 4, .ant 2, .food] := by
    decide +kernel
  rw [hrun] at hcells
  simp only [Except.toOption, Option.bind_some, hc, Option.map_some, Option.some.injEq] at hcells
  have hall := houtcome s.queue.toList [] c (List.append_nil _).symm hc
  exact ⟨wellFormed_crowd, s, c, hrun, hc, hall.2.1, hcells⟩

end Formicary
