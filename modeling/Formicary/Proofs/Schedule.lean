import Formicary.Proofs.Ledger

/-!
# Who executes in a scan

A scan passes the cells in order and skips an ant that it has met before.  `Board.encounters` lists
whom it meets and whether they execute.  On a well-formed board nobody is skipped: every ant of the
arena executes once, in the order of the cells, while cells and ids stay as they are.

Ages show the same from outside.  `Aged` and `Newborn` are the two ways in which an ant can be in
the arena during a commit, and every ant is in one of them.
-/

namespace Formicary

/-- The meeting of a scan with an ant on a cell. -/
inductive Encounter where
  | executed (cell : Nat) (a : Ant)
  | skipped (cell : Nat) (a : Ant)

namespace Scan

variable {b : Board} {s s' : Scan} {n : Nat}

/-- Whom the visit of a cell meets. -/
def encounter? (s : Scan) (cell : Nat) : Option Encounter :=
  match s.board.kinds[cell]? with
  | none => none
  | some .empty => none
  | some .food => none
  | some _ =>
    match s.board.tenant? cell with
    | .error _ => none
    | .ok a => some (if s.visited.contains a.id then .skipped cell a else .executed cell a)

/-- Whom the visits of some cells meet, given the units drawn for their growth. -/
def encounters (s : Scan) : List (Nat × Nat) → List Encounter
  | [] => []
  | p :: rest =>
    (s.encounter? p.1).toList ++
      match s.visit p.1 p.2 with
      | .ok s' => encounters s' rest
      | .error _ => []

/-- An encounter is one with the ant whose id is the occupant entry of the cell. -/
theorem exists_of_encounter? {cell : Nat} {e : Encounter} (h : s.encounter? cell = some e) :
    ∃ k a, s.board.kinds[cell]? = some k ∧ k ≠ .empty ∧ k ≠ .food ∧
      s.board.tenant? cell = .ok a ∧
      e = if s.visited.contains a.id then .skipped cell a else .executed cell a := by
  unfold encounter? at h
  cases hk : s.board.kinds[cell]? with
  | none =>
    rw [hk] at h
    cases h
  | some k =>
    rw [hk] at h
    cases htenant : s.board.tenant? cell with
    | error fault =>
      rw [htenant] at h
      cases k <;> cases h
    | ok a =>
      rw [htenant] at h
      cases k with
      | empty => cases h
      | food => cases h
      | ant =>
        exact ⟨_, a, rfl, CellKind.noConfusion, CellKind.noConfusion, rfl, (Option.some.inj h).symm⟩
      | unknown code =>
        exact ⟨_, a, rfl, CellKind.noConfusion, CellKind.noConfusion, rfl, (Option.some.inj h).symm⟩

/-- The visit of a cell with an ant. -/
theorem visit_of_tenant {cell : Nat} {k : CellKind} {a : Ant} (hk : s.board.kinds[cell]? = some k)
    (hempty : k ≠ .empty) (hfood : k ≠ .food) (htenant : s.board.tenant? cell = .ok a)
    (draw : Nat) :
    s.visit cell draw =
      if s.visited.contains a.id then .ok s
      else act { s with visited := a.id :: s.visited } cell a := by
  unfold visit
  rw [hk]
  cases k with
  | empty => exact (hempty rfl).elim
  | food => exact (hfood rfl).elim
  | ant => simp only [htenant]
  | unknown code => simp only [htenant]

/-- An ant that executes has its turn. -/
theorem visit_of_executed {cell : Nat} {a : Ant}
    (h : s.encounter? cell = some (.executed n a)) (draw : Nat) :
    n = cell ∧ s.visit cell draw = act { s with visited := a.id :: s.visited } cell a := by
  obtain ⟨k, a', hk, hempty, hfood, htenant, heq⟩ := exists_of_encounter? h
  rw [visit_of_tenant hk hempty hfood htenant]
  cases hseen : s.visited.contains a'.id with
  | true =>
    rw [hseen] at heq
    cases heq
  | false =>
    rw [hseen] at heq
    cases heq
    exact ⟨rfl, rfl⟩

/-! ### In the order of the cells -/

/-- At a stage of a scan the next visit meets the ant of its cell, if there is one, and lets it
execute. -/
theorem Stage.encounter?_eq (hb : b.WellFormed) (h : Stage b n s) (hn : n < b.size) :
    ∃ o : Option Ant, s.encounter? n = o.map (.executed n) ∧ o.map Ant.id = (b.content n).ant? := by
  have hs := h.wellFormed hb
  have hkind := hs.displays.kind n (h.frozen.size.symm ▸ hn)
  rw [h.frozen.content] at hkind
  cases hc : b.content n with
  | empty =>
    rw [hc] at hkind
    exact ⟨none, by simp only [encounter?, hkind, Content.kind]; rfl, rfl⟩
  | food =>
    rw [hc] at hkind
    exact ⟨none, by simp only [encounter?, hkind, Content.kind]; rfl, rfl⟩
  | ant id =>
    rw [hc] at hkind
    have hc' : s.board.content n = .ant id := by rw [h.frozen.content, hc]
    obtain ⟨a, hfind, rfl, -, -⟩ := hs.exists_find? hc'
    have htenant := hs.tenant?_eq hc' hfind
    have hunseen : s.visited.contains a.id = false := by
      rw [← Bool.not_eq_true, List.contains_iff_mem, h.visited, List.mem_reverse]
      exact hb.lodged.notMem_residents hc
    refine ⟨some a, ?_, rfl⟩
    simp only [encounter?, hkind, Content.kind, htenant, hunseen]
    rfl

/-- Visits meet the ants of the cells in order, and all of them execute. -/
theorem Visits.encounters_eq (hb : b.WellFormed) {draws : List Nat} (h : Visits b n s draws s') :
    ∃ executions : List (Nat × Ant),
      encounters s ((List.range' n draws.length).zip draws) =
          executions.map (fun p => .executed p.1 p.2) ∧
        executions.map (fun p => (p.1, p.2.id)) =
          (List.range' n draws.length).filterMap fun m => (b.content m).ant?.map (m, ·) := by
  induction h with
  | done => exact ⟨[], rfl, rfl⟩
  | next stage lt_size ran visit rest ih =>
    rename_i n draw s s₁ s' draws
    obtain ⟨executions, hencounters, hids⟩ := ih
    obtain ⟨o, ho, hid⟩ := stage.encounter?_eq hb lt_size
    refine ⟨o.toList.map (fun a => (n, a)) ++ executions, ?_, ?_⟩
    · rw [List.length_cons, List.range'_succ, List.zip_cons_cons, encounters]
      simp only [ho, ran, hencounters, List.map_append]
      cases o with
      | none => rfl
      | some a => rfl
    · rw [List.length_cons, List.range'_succ, List.filterMap_cons, ← hid, List.map_append, hids]
      cases o with
      | none => rfl
      | some a => rfl

/-! ### Ages -/

/-- A visit makes the ant on its cell a step older and leaves the others as old as they were. -/
theorem Stage.age_of_visit (hb : b.WellFormed) (h : Stage b n s) {draw : Nat}
    (hvisit : Visit s n draw s') {m : Nat} {id g : Int} {y : Ant} (hm : b.content m = .ant id)
    (hy : s.board.arena.find? id = some y) (hg : y.age = .int g) :
    ∃ z, s'.board.arena.find? id = some z ∧ z.age = .int (if m = n then g + 1 else g) := by
  have hcontent := h.frozen.content
  have hsize : m < b.size := Board.lt_size_of_content_ne (by rw [hm]; exact Content.noConfusion)
  have hne : ∀ {c : Content}, c.ant? = none → s.board.content n = c → m ≠ n := by
    rintro c hc hn rfl
    rw [hcontent, hm] at hn
    rw [← hn] at hc
    cases hc
  cases hvisit with
  | grown free =>
    rw [if_neg (hne rfl free)]
    exact ⟨y, hy, hg⟩
  | bare free =>
    rw [if_neg (hne rfl free)]
    exact ⟨y, hy, hg⟩
  | stocked food =>
    rw [if_neg (hne rfl food)]
    exact ⟨y, hy, hg⟩
  | acted occupied found turn =>
    rename_i a
    rw [hcontent] at occupied
    by_cases hmn : m = n
    · subst hmn
      obtain rfl : id = a.id := Content.ant.inj (hm.symm.trans occupied)
      obtain rfl : y = a := Option.some.inj (hy.symm.trans found)
      obtain ⟨energy, sensor, gene, hself⟩ := turn.find?_self hy
      rw [if_pos rfl]
      exact ⟨_, hself, Ant.age_execute_int hg⟩
    · have hn : n < b.size :=
        Board.lt_size_of_content_ne (by rw [occupied]; exact Content.noConfusion)
      have hid : id ≠ a.id := fun hid =>
        hmn (hb.peopled.eq_of_content hsize hn (hid ▸ hm) occupied)
      obtain ⟨v, hv⟩ := turn.find?_other hid hy
      rw [if_neg hmn]
      exact ⟨_, hv, hg⟩

/-- During a scan the ants on the visited cells are a step older than at its start, and the others
are as old as they were. -/
theorem Visits.age {draws : List Nat} (hb : b.WellFormed) (h : Visits b n s draws s')
    (hstart : ∀ m id x g, b.content m = .ant id → b.arena.find? id = some x → x.age = .int g →
      ∃ y, s.board.arena.find? id = some y ∧ y.age = .int (if m < n then g + 1 else g)) :
    ∀ m id x g, b.content m = .ant id → b.arena.find? id = some x → x.age = .int g →
      ∃ y, s'.board.arena.find? id = some y ∧
        y.age = .int (if m < n + draws.length then g + 1 else g) := by
  induction h with
  | done => exact hstart
  | next stage lt_size ran visit rest ih =>
    rename_i n draw s s₁ s' draws
    have hlength : n + (draw :: draws).length = n + 1 + draws.length := by
      rw [List.length_cons]
      omega
    rw [hlength]
    refine ih ?_
    intro m id x g hm hx hg
    obtain ⟨y, hy, hage⟩ := hstart m id x g hm hx hg
    obtain ⟨z, hz, hage'⟩ := stage.age_of_visit hb visit hm hy hage
    refine ⟨z, hz, ?_⟩
    rw [hage']
    congr 1
    split_ifs <;> omega

end Scan

/-- Whom the scan of a board meets, in order. -/
def Board.encounters (b : Board) : List Encounter :=
  Scan.encounters (Scan.opening b) ((List.range b.size).zip (Scan.growthDraws b).1)

/-- An ant that was in the arena at the start of a tick and is now a step older. -/
def Aged (b : Board) (y : Ant) : Prop :=
  ∃ x ∈ b.arena.ants, ∃ g, x.id = y.id ∧ x.age = .int g ∧ y.age = .int (g + 1)

/-- An ant that was not in the arena at the start of a tick and has not had a step yet. -/
def Newborn (b : Board) (y : Ant) : Prop :=
  y.id ∉ b.arena.ids ∧ b.nextId ≤ y.id ∧ y.age = .int 0

namespace Scan

variable {b : Board} {s : Scan}

/-- After a scan every ant of the arena is a step older. -/
theorem Completes.aged (hb : b.WellFormed) (hs : Completes b s) {y : Ant}
    (hy : y ∈ s.board.arena.ants) : Aged b y := by
  have hs₀ := hs.stage.wellFormed hb
  have hid : y.id ∈ b.arena.ids := by
    rw [← hs.stage.frozen.ids]
    exact Arena.mem_ids_of_mem hy
  obtain ⟨m, hm, hc⟩ := (hb.peopled.mem_ids_iff y.id).1 hid
  obtain ⟨x, hx, hxid, hxmem, hsound⟩ := hb.exists_find? hc
  obtain ⟨g, hg⟩ := hsound.age
  have hstart : ∀ m' id' x' g', b.content m' = .ant id' → b.arena.find? id' = some x' →
      x'.age = .int g' → ∃ z, b.arena.find? id' = some z ∧
        z.age = .int (if m' < 0 then g' + 1 else g') := by
    intro m' id' x' g' _ hx' hg'
    refine ⟨x', hx', ?_⟩
    rw [if_neg (Nat.not_lt_zero m')]
    exact hg'
  obtain ⟨y', hy', hage⟩ := Visits.age hb hs hstart m y.id x g hc hx hg
  have hfind := Arena.find?_of_mem hs₀.peopled.ids_nodup hy
  have heq : y' = y := Option.some.inj (hy'.symm.trans hfind)
  rw [heq, length_growthDraws, Nat.zero_add, if_pos hm] at hage
  exact ⟨x, hxmem, g, hxid, hg, hage⟩

/-- The ants that are born in a scan are newborn. -/
theorem Completes.newborn (hb : b.WellFormed) (hs : Completes b s) {y : Ant}
    (hy : y ∈ newborns s.queue.toList) : Newborn b y := by
  obtain ⟨cell, hborn⟩ := mem_newborns.1 hy
  have hle := (hs.stage.id_of_newborn hy).1
  refine ⟨?_, hle, (hs.stage.suits _ hborn).2.2.2⟩
  intro hmem
  have hlt := hb.peopled.id_lt _ hmem
  omega

/-- A scan meets the ants of the arena in the order of their cells, and all of them execute. -/
theorem Completes.encounters_eq (hb : b.WellFormed) (hs : Completes b s) :
    ∃ executions : List (Nat × Ant),
      b.encounters = executions.map (fun p => .executed p.1 p.2) ∧
        (executions.map Prod.fst).Pairwise (· < ·) ∧
        (executions.map fun p => p.2.id).Perm b.arena.ids ∧
        ∀ p ∈ executions, b.content p.1 = .ant p.2.id := by
  obtain ⟨executions, hencounters, hids⟩ := Visits.encounters_eq hb hs
  rw [length_growthDraws, ← List.range_eq_range'] at hencounters hids
  refine ⟨executions, hencounters, ?_, ?_, ?_⟩
  · have hfst : executions.map Prod.fst = (executions.map fun p => (p.1, p.2.id)).map Prod.fst := by
      rw [List.map_map]
      rfl
    rw [hfst, hids, List.pairwise_map]
    refine List.Pairwise.filterMap _ (fun m k hmk p hp p' hp' => ?_) List.pairwise_lt_range
    obtain ⟨id, -, rfl⟩ := Option.map_eq_some_iff.1 hp
    obtain ⟨id', -, rfl⟩ := Option.map_eq_some_iff.1 hp'
    exact hmk
  · have hsnd : (executions.map fun p => p.2.id) = b.residents b.size := by
      have hmap := congrArg (List.map Prod.snd) hids
      rw [List.map_map, List.map_filterMap] at hmap
      refine hmap.trans (List.filterMap_congr fun m _ => ?_)
      cases (b.content m).ant? with
      | none => rfl
      | some id => rfl
    rw [hsnd]
    exact hb.perm_residents
  · intro p hp
    have hmem : (p.1, p.2.id) ∈ executions.map fun p => (p.1, p.2.id) := List.mem_map_of_mem hp
    rw [hids] at hmem
    obtain ⟨m, -, hm⟩ := List.mem_filterMap.1 hmem
    obtain ⟨id, hid, heq⟩ := Option.map_eq_some_iff.1 hm
    cases heq
    exact Content.ant?_eq_some_iff.1 hid

end Scan

/-- A scan leaves the cells and the ids of the arena as they are and lets every ant execute exactly
once, in the order of the cells.  Afterwards, and at every point of the commit, the ants that were
there at the start are one step older and the others have age zero.  The board need only be well
formed, as reachable ones are (`Reachable.wellFormed`). -/
theorem every_ant_executes_once {b : Board} (hb : b.WellFormed) :
    ∃ s, Scan.run b = .ok s ∧ s.board.kinds = b.kinds ∧ s.board.occupants = b.occupants ∧
      s.board.arena.ids = b.arena.ids ∧
      (∃ executions : List (Nat × Ant),
        b.encounters = executions.map (fun p => .executed p.1 p.2) ∧
          (executions.map Prod.fst).Pairwise (· < ·) ∧
          (executions.map fun p => p.2.id).Perm b.arena.ids ∧ b.arena.ids.Nodup ∧
          ∀ p ∈ executions, b.content p.1 = .ant p.2.id) ∧
      (∀ y ∈ s.board.arena.ants, Aged b y) ∧
      (∀ y ∈ newborns s.queue.toList, Newborn b y) ∧
      (∀ before later c, s.queue.toList = before ++ later →
        Commit.run s.board s.tally before = .ok c →
        ∀ y ∈ c.board.arena.ants, y ∈ s.board.arena.ants ∨ y ∈ newborns before) ∧
      ∀ b', b.tick = .ok b' → ∀ y ∈ b'.arena.ants,
        (y.id ∈ b.arena.ids → Aged b y) ∧ (y.id ∉ b.arena.ids → Newborn b y) := by
  obtain ⟨s, hs⟩ := Scan.exists_completes hb
  have hfrozen := hs.stage.frozen
  obtain ⟨executions, hencounters, horder, hperm, hcells⟩ := hs.encounters_eq hb
  refine ⟨s, hs.run_eq, hfrozen.kinds, hfrozen.occupants, hfrozen.ids,
    ⟨executions, hencounters, horder, hperm, hb.peopled.ids_nodup, hcells⟩, ?_, ?_, ?_, ?_⟩
  · intro y hy
    exact hs.aged hb hy
  · intro y hy
    exact hs.newborn hb hy
  · intro before later c hq hrun y hy
    obtain ⟨hbefore, rfl⟩ := hb.eq_foldl_of_commit hs hq hrun
    exact Commit.mem_ants_foldl (c := ⟨s.board, s.tally⟩) hbefore hy
  · intro b' htick y hy
    obtain rfl := hb.eq_completed hs htick
    have hp := hs.stage.pending hb
    rcases Commit.mem_ants_foldl (c := ⟨s.board, s.tally⟩) hp hy with hmem | hmem
    · refine ⟨fun _ => hs.aged hb hmem, fun hid => (hid ?_).elim⟩
      rw [← hfrozen.ids]
      exact Arena.mem_ids_of_mem hmem
    · have hnew := hs.newborn hb hmem
      exact ⟨fun hid => (hnew.1 hid).elim, fun _ => hnew⟩

/-- In the crowd four ants execute, and after the tick two of them are left, with a newborn. -/
theorem crowd_executions :
    crowd.WellFormed ∧ ∃ (executions : List (Nat × Ant)) (b' : Board),
      crowd.encounters = executions.map (fun p => .executed p.1 p.2) ∧ executions.length = 4 ∧
        (executions.map Prod.fst).Pairwise (· < ·) ∧ crowd.tick = .ok b' ∧
        b'.arena.ants.map (fun y => (y.id, y.age)) = [(1, .int 1), (2, .int 1), (4, .int 0)] ∧
        ∀ y ∈ b'.arena.ants,
          (y.id ∈ crowd.arena.ids → Aged crowd y) ∧ (y.id ∉ crowd.arena.ids → Newborn crowd y) := by
  obtain ⟨s, -, -, -, -, ⟨executions, hencounters, horder, -, -, -⟩, -, -, -, hages⟩ :=
    every_ant_executes_once wellFormed_crowd
  have hlength : crowd.encounters.length = 4 := by decide +kernel
  rw [hencounters, List.length_map] at hlength
  obtain ⟨b', htick⟩ := wellFormed_crowd.exists_tick (by decide +kernel)
  have hants : (crowd.tick.toOption.map fun b' => b'.arena.ants.map fun y => (y.id, y.age)) =
      some [(1, .int 1), (2, .int 1), (4, .int 0)] := by
    decide +kernel
  rw [htick] at hants
  exact ⟨wellFormed_crowd, executions, b', hencounters, hlength, horder, htick,
    Option.some.inj hants, hages b' htick⟩

end Formicary
