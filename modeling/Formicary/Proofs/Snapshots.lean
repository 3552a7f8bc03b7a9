import Formicary.Board.Census
import Formicary.Proofs.Acceptance
import Formicary.Proofs.Reachable
import Formicary.Proofs.Standing
import Mathlib

/-!
# What a snapshot tells

A snapshot hands out the ants of a board in the order of their cells, each with all its fields and
its gene written instruction by instruction.  Nothing is lost on the way: the written form of an
instruction tells opcode and target (`Instruction.text_injective`), and the record of a sound ant
tells the ant (`Ant.eq_of_alike`).

That a snapshot misses no ant is the agreement of cells and arena: the ants that are met cell by
cell are those of the arena (`Board.WellFormed.snapshot?_eq`, `Board.WellFormed.find?_eq_some_iff`).
So boards with equal snapshots have the same ants on the same cells.
-/

namespace Formicary

/-! ### Written instructions -/

/-- A name that can be read back tells what it names. -/
theorem injective_of_readable {α : Type} {name : α → String} {ofName? : String → Option α}
    (h : ∀ x, ofName? (name x) = some x) : Function.Injective name := by
  intro x y hxy
  exact Option.some.inj ((h x).symm.trans ((congrArg ofName? hxy).trans (h y)))

/-- The name of an opcode tells the opcode. -/
theorem Opcode.name_injective : Function.Injective Opcode.name :=
  injective_of_readable fun op => show ofName? op.name = some op by cases op <;> decide

namespace Instruction

/-- What follows the name of the opcode in the written form of an instruction. -/
def targetText : Option Int → List Char
  | none => []
  | some t => '(' :: ((toString t).toList ++ [')'])

/-- The written form of an instruction is the name of its opcode, which has no parenthesis, and its
target in parentheses. -/
theorem toList_text (i : Instruction) :
    i.text.toList = i.opcode.name.toList ++ targetText i.target := by
  obtain ⟨opcode, target⟩ := i
  cases target with
  | none => exact (List.append_nil _).symm
  | some t => simp [text, targetText]

/-- The name of the opcode is what comes before the first parenthesis. -/
theorem takeWhile_text (i : Instruction) :
    i.text.toList.takeWhile (· != '(') = i.opcode.name.toList := by
  have hname : i.opcode.name.toList.all (· != '(') = true := by cases i.opcode <;> decide
  have hrest : (targetText i.target).takeWhile (· != '(') = [] := by
    cases i.target <;> rfl
  rw [toList_text, List.takeWhile_append_of_pos (List.all_eq_true.1 hname), hrest, List.append_nil]

/-- A target in parentheses tells the target. -/
theorem targetText_injective : Function.Injective targetText := by
  intro t u h
  cases t with
  | none =>
    cases u with
    | none => rfl
    | some u => cases h
  | some t =>
    cases u with
    | none => cases h
    | some u =>
      have hdigits : (toString t).toList = (toString u).toList :=
        List.append_cancel_right (List.cons.inj h).2
      rw [String.toList_inj, Int.toString_eq_repr, Int.toString_eq_repr] at hdigits
      exact congrArg some (Int.repr_inj.1 hdigits)

/-- The written form of an instruction tells the instruction, whatever its target is and whether or
not its opcode uses one. -/
theorem text_injective : Function.Injective text := by
  intro i j h
  have hlist : i.text.toList = j.text.toList := congrArg String.toList h
  have hname := congrArg (List.takeWhile (· != '(')) hlist
  rw [takeWhile_text, takeWhile_text] at hname
  rw [toList_text, toList_text, hname] at hlist
  have htarget := targetText_injective (List.append_cancel_left hlist)
  have hopcode := Opcode.name_injective (String.toList_inj.1 hname)
  obtain ⟨opcode, target⟩ := i
  obtain ⟨opcode', target'⟩ := j
  exact congrArg₂ Instruction.mk hopcode htarget

end Instruction

/-! ### Records -/

namespace Value

variable {fs gs : List (String × Value)}

/-- Integers are equal as values if they are equal. -/
theorem int_alike_iff {m n : Int} : (int m).alike (.int n) = true ↔ m = n := by
  simp [alike, quantity?, isUndefined]

/-- Truth values are equal as values if they are equal. -/
theorem bool_alike_iff {x y : Bool} : (bool x).alike (.bool y) = true ↔ x = y := by
  cases x <;> cases y <;> simp [alike, quantity?, isUndefined]

/-- Lists are equal as values if they are so item by item. -/
theorem alikeItems_iff {xs ys : List Value} :
    alikeItems xs ys = true ↔ List.Forall₂ (fun x y => x.alike y = true) xs ys := by
  induction xs generalizing ys with
  | nil => cases ys <;> simp [alikeItems]
  | cons x xs ih => cases ys <;> simp [alikeItems, ih]

/-- Every entry of a mapping has an equal one in another. -/
theorem alikeEntries_iff {es fs : List (Value × Value)} :
    alikeEntries es fs = true ↔
      ∀ e ∈ es, ∃ f ∈ fs, e.1.alike f.1 = true ∧ e.2.alike f.2 = true := by
  induction es with
  | nil => simp [alikeEntries]
  | cons e es ih =>
    obtain ⟨k, v⟩ := e
    rw [alikeEntries, Bool.and_eq_true, ih, List.forall_mem_cons, List.any_eq_true]
    simp only [Bool.and_eq_true]

/-- Mappings of the same names, which differ, are equal only if the values are so name by name. -/
theorem forall₂_of_alike (h : (ofFields fs).alike (.ofFields gs) = true)
    (hnames : fs.map Prod.fst = gs.map Prod.fst) (hdistinct : (gs.map Prod.fst).Nodup) :
    List.Forall₂ (fun f g => f.2.alike g.2 = true) fs gs := by
  have hlength : fs.length = gs.length := by
    rw [← List.length_map Prod.fst, hnames, List.length_map]
  rw [ofFields, ofFields, alike, Bool.and_eq_true, alikeEntries_iff] at h
  refine List.forall₂_iff_get.2 ⟨hlength, fun i hi hi' => ?_⟩
  obtain ⟨g, hg, hkey, hvalue⟩ := h.2 (.text fs[i].1, fs[i].2)
    (List.mem_map_of_mem (f := fun f : String × Value => (Value.text f.1, f.2))
      (List.getElem_mem hi))
  obtain ⟨g, hg', rfl⟩ := List.mem_map.1 hg
  have hname : fs[i].1 = gs[i].1 := by
    have hentry := congrArg (·[i]?) hnames
    simpa [hi, hi'] using hentry
  have hsame : g.1 = gs[i].1 := by
    rw [← hname]
    exact Value.text.inj (text_alike_iff.1 hkey)
  obtain rfl : g = gs[i] := List.inj_on_of_nodup_map hdistinct hg' (List.getElem_mem hi') hsame
  exact hvalue

end Value

/-- The name of a team tells the team. -/
theorem Team.name_injective : Function.Injective Team.name :=
  injective_of_readable fun t => show ofName? t.name = some t by cases t <;> decide

/-- The name of a direction tells the direction. -/
theorem Direction.name_injective : Function.Injective Direction.name :=
  injective_of_readable fun d => show ofName? d.name = some d by cases d <;> decide

/-- The written instructions of a gene tell its tape. -/
theorem Gene.code_eq_of_alike {g g' : Gene}
    (h : (Value.list (g.texts.map .text)).alike (.list (g'.texts.map .text)) = true) :
    g.code = g'.code := by
  rw [Value.alike, Value.alikeItems_iff, List.forall₂_map_left_iff, List.forall₂_map_right_iff] at h
  have htexts : g.texts = g'.texts := by
    rw [← List.forall₂_eq_eq_eq]
    exact h.imp fun s t hst => (Value.text.inj (Value.alike_text_iff.1 hst))
  exact List.map_injective_iff.2 Instruction.text_injective htexts

/-- The records of sound ants on cells are equal only if the cells and the ants are the same. -/
theorem Ant.eq_of_alike {a a' : Ant} (ha : a.Sound) (ha' : a'.Sound) {n n' : Nat}
    (h : (Snapshot.record (n, a)).alike (Snapshot.record (n', a')) = true) :
    n = n' ∧ a = a' := by
  have hfields := Value.forall₂_of_alike h rfl
    (show (["ant_id", "team", "energy", "age", "direction", "sensor", "generation",
      "instruction_pointer", "gene", "index"] : List String).Nodup by decide)
  obtain ⟨e, he⟩ := ha.energy
  obtain ⟨e', he'⟩ := ha'.energy
  obtain ⟨x, hx⟩ := ha.sensor
  obtain ⟨x', hx'⟩ := ha'.sensor
  obtain ⟨k, hk⟩ := ha.age
  obtain ⟨k', hk'⟩ := ha'.age
  obtain ⟨g, hg⟩ := ha.generation
  obtain ⟨g', hg'⟩ := ha'.generation
  simp only [fields, List.cons_append, List.nil_append, List.forall₂_cons, he, he', hx, hx', hk,
    hk', hg, hg', Value.int_alike_iff, Value.bool_alike_iff, Value.alike_text_iff,
    Value.text.injEq] at hfields
  obtain ⟨hid, hteam, henergy, hage, hdirection, hsensor, hgeneration, hpointer, hgene, hindex,
    -⟩ := hfields
  have hcode := Gene.code_eq_of_alike hgene
  refine ⟨Int.natCast_inj.1 hindex, ?_⟩
  obtain ⟨id, team, ⟨code, pointer⟩, energy, direction, sensor, age, generation⟩ := a
  obtain ⟨id', team', ⟨code', pointer'⟩, energy', direction', sensor', age', generation'⟩ := a'
  simp only at *
  rw [hid, Team.name_injective hteam, hcode, hpointer, he, he', henergy,
    Direction.name_injective hdirection, hx, hx', hsensor, hk, hk', hage, hg, hg', hgeneration]

/-! ### Snapshots of boards -/

namespace Board

variable {b b' : Board} {n : Nat} {a : Ant}

/-- Two boards have the same ants, with all that is theirs, on the same cells. -/
structure SameAnts (b b' : Board) : Prop where
  shows_iff : ∀ n id, b.Shows n (.ant id) ↔ b'.Shows n (.ant id)
  mem_ids_iff : ∀ id, id ∈ b.arena.ids ↔ id ∈ b'.arena.ids
  find? : ∀ id, b.arena.find? id = b'.arena.find? id

/-- The ants of a board with their cells, in the order of the cells. -/
def antsByCell (b : Board) : List (Nat × Ant) :=
  (List.range b.size).filterMap fun n => (b.standing? n).map (n, ·)

/-- An ant is with the cell on which it stands. -/
theorem mem_antsByCell_iff : (n, a) ∈ b.antsByCell ↔ n < b.size ∧ b.standing? n = some a := by
  simp only [antsByCell, List.mem_filterMap, List.mem_range, Option.map_eq_some_iff, Prod.mk.injEq]
  constructor
  · rintro ⟨m, hm, x, hx, rfl, rfl⟩
    exact ⟨hm, hx⟩
  · rintro ⟨hn, ha⟩
    exact ⟨n, hn, a, ha, rfl, rfl⟩

/-- The cells with ants come in their order. -/
theorem pairwise_antsByCell (b : Board) : (b.antsByCell.map Prod.fst).Pairwise (· < ·) := by
  rw [List.pairwise_map]
  refine List.Pairwise.filterMap _ (fun m k hmk p hp p' hp' => ?_) List.pairwise_lt_range
  obtain ⟨x, -, rfl⟩ := Option.map_eq_some_iff.1 hp
  obtain ⟨x', -, rfl⟩ := Option.map_eq_some_iff.1 hp'
  exact hmk

namespace WellFormed

/-- Looking up the occupants of the cells with ants gives the ants on them. -/
theorem mapM_tenant? (hb : b.WellFormed) {cells : List Nat} (hcells : ∀ n ∈ cells, n < b.size) :
    (cells.filter fun n => b.kinds[n]? == some .ant).mapM
        (fun n : Nat => (return (n, ← b.tenant? (n : Int)) : Except Fault (Nat × Ant))) =
      .ok (cells.filterMap fun n => (b.standing? n).map (n, ·)) := by
  induction cells with
  | nil => rfl
  | cons n cells ih =>
    have hrest := ih fun m hm => hcells m (List.mem_cons_of_mem n hm)
    have hkind := hb.displays.kind n (hcells n List.mem_cons_self)
    cases hant : (b.content n).ant? with
    | none =>
      have hne : (b.content n).kind ≠ .ant := by
        intro hk
        obtain ⟨id, hid⟩ := Content.kind_eq_ant_iff.1 hk
        rw [hid] at hant
        cases hant
      rw [List.filter_cons_of_neg (by simpa [hkind] using hne), hrest,
        List.filterMap_cons_none (by rw [standing?, hant]; rfl)]
    | some id =>
      have hc := Content.ant?_eq_some_iff.1 hant
      obtain ⟨a, ha, rfl, -, -⟩ := hb.exists_find? hc
      have hstands : b.standing? n = some a := standing?_eq_some_iff.2 ⟨hc, ha⟩
      rw [List.filter_cons_of_pos (by rw [hkind, hc]; rfl), List.mapM_cons, hrest,
        hb.tenant?_eq hc ha, List.filterMap_cons_some (by rw [hstands]; rfl)]
      rfl

/-- The snapshot of a board hands out the ants that stand on its cells. -/
theorem snapshot?_eq (hb : b.WellFormed) :
    b.snapshot? = .ok {
      ticks := b.ticks
      width := .int b.width
      height := .int b.height
      cells := b.size
      antCount := b.arena.size
      foodCount := b.count .food
      population := b.population
      ants := b.antsByCell } := by
  have hcells : ∀ n ∈ List.range b.size, n < b.size := fun n => List.mem_range.1
  rw [← hb.width, ← hb.height]
  simp only [snapshot?, hb.mapM_tenant? hcells]
  rfl

/-- What stands on a cell is shown there and found in the arena. -/
theorem standing?_eq_some_iff_shows (hb : b.WellFormed) :
    n < b.size ∧ b.standing? n = some a ↔ b.Shows n (.ant a.id) ∧ b.arena.find? a.id = some a := by
  rw [standing?_eq_some_iff]
  constructor
  · rintro ⟨hn, hc, ha⟩
    exact ⟨hb.displays.shows hn hc, ha⟩
  · rintro ⟨hshows, ha⟩
    exact ⟨(Array.getElem?_eq_some_iff.1 hshows.1).1, hb.displays.content_of_shows hshows, ha⟩

/-- The ants of the arena are those that are met cell by cell. -/
theorem find?_eq_some_iff (hb : b.WellFormed) {id : Int} :
    b.arena.find? id = some a ↔ a.id = id ∧ ∃ n, (n, a) ∈ b.antsByCell := by
  constructor
  · intro ha
    obtain rfl := Arena.id_of_find? ha
    obtain ⟨n, hn, hc⟩ := (hb.peopled.housed.mem_ids_iff a.id).1
      (Arena.has_iff.1 (Option.isSome_iff_exists.2 ⟨a, ha⟩))
    exact ⟨rfl, n, mem_antsByCell_iff.2 ⟨hn, standing?_eq_some_iff.2 ⟨hc, ha⟩⟩⟩
  · rintro ⟨rfl, n, hmem⟩
    exact (standing?_eq_some_iff.1 (mem_antsByCell_iff.1 hmem).2).2

/-- A cell shows an ant if one of that id is met on it. -/
theorem shows_ant_iff (hb : b.WellFormed) {id : Int} :
    b.Shows n (.ant id) ↔ ∃ a, a.id = id ∧ (n, a) ∈ b.antsByCell := by
  constructor
  · intro hshows
    obtain ⟨a, ha, rfl, -, -⟩ := hb.exists_find? (hb.displays.content_of_shows hshows)
    exact ⟨a, rfl, mem_antsByCell_iff.2 (hb.standing?_eq_some_iff_shows.2 ⟨hshows, ha⟩)⟩
  · rintro ⟨a, rfl, hmem⟩
    exact (hb.standing?_eq_some_iff_shows.1 (mem_antsByCell_iff.1 hmem)).1

/-- The ants that are met cell by cell are sound. -/
theorem sound_of_mem_antsByCell (hb : b.WellFormed) {p : Nat × Ant} (hp : p ∈ b.antsByCell) :
    p.2.Sound := by
  have hstands := (mem_antsByCell_iff.1 hp).2
  exact hb.peopled.sound p.2 (Arena.mem_of_find? (standing?_eq_some_iff.1 hstands).2)

/-- Boards on which the same ants are met cell by cell have them on the same cells and in their
arenas. -/
theorem sameAnts_of_antsByCell_eq (hb : b.WellFormed) (hb' : b'.WellFormed)
    (h : b.antsByCell = b'.antsByCell) : b.SameAnts b' := by
  have hfind : ∀ id, b.arena.find? id = b'.arena.find? id := fun id =>
    Option.ext fun a => by rw [hb.find?_eq_some_iff, hb'.find?_eq_some_iff, h]
  refine ⟨fun n id => ?_, fun id => ?_, hfind⟩
  · rw [hb.shows_ant_iff, hb'.shows_ant_iff, h]
  · rw [← Arena.has_iff, ← Arena.has_iff, Arena.has, Arena.has, hfind id]

/-- The records of the ants of two boards are equal only if the ants and their cells are. -/
theorem antsByCell_eq_of_alike (hb : b.WellFormed) (hb' : b'.WellFormed)
    (h : (Value.list (b.antsByCell.map Snapshot.record)).alike
      (.list (b'.antsByCell.map Snapshot.record)) = true) : b.antsByCell = b'.antsByCell := by
  rw [Value.alike, Value.alikeItems_iff, List.forall₂_map_left_iff, List.forall₂_map_right_iff,
    List.forall₂_iff_get] at h
  obtain ⟨hlength, hrecords⟩ := h
  refine List.ext_get hlength fun i hi hi' => ?_
  obtain ⟨hcell, hant⟩ := Ant.eq_of_alike (hb.sound_of_mem_antsByCell (List.get_mem _ ⟨i, hi⟩))
    (hb'.sound_of_mem_antsByCell (List.get_mem _ ⟨i, hi'⟩)) (hrecords i hi hi')
  exact Prod.ext hcell hant

end WellFormed

end Board

/-- Snapshots miss nothing: the written form of an instruction tells the instruction, a snapshot
hands out the ants in strictly increasing order of their cells, and two boards with equal snapshots
are of the same time and size and have the same ants, with all that is theirs, on the same cells. -/
theorem snapshots_faithful {b b' : Board} (hb : b.WellFormed) (hb' : b'.WellFormed) :
    Function.Injective Instruction.text ∧
      ∃ s s', b.snapshot? = .ok s ∧ b'.snapshot? = .ok s' ∧
        (s.ants.map Prod.fst).Pairwise (· < ·) ∧
        ((Value.ofFields s.fields).same (.ofFields s'.fields) = true →
          b.ticks = b'.ticks ∧ b.width = b'.width ∧ b.height = b'.height ∧ b.size = b'.size ∧
            b.SameAnts b') := by
  refine ⟨Instruction.text_injective, _, _, hb.snapshot?_eq, hb'.snapshot?_eq,
    b.pairwise_antsByCell, fun hsame => ?_⟩
  have hfields := Value.forall₂_of_alike (Bool.and_eq_true_iff.1 hsame).1 rfl
    (show (["tick_count", "width", "height", "cell_count", "ant_count", "food_count", "population",
      "ants"] : List String).Nodup by decide)
  simp only [Snapshot.fields, List.forall₂_cons, Value.int_alike_iff, Int.natCast_inj] at hfields
  obtain ⟨hticks, hwidth, hheight, hsize, -, -, -, hants, -⟩ := hfields
  exact ⟨hticks, hwidth, hheight, hsize,
    hb.sameAnts_of_antsByCell_eq hb' (hb.antsByCell_eq_of_alike hb' hants)⟩

/-- The crowd after its first ant has left and come back to its cell. -/
def rejoinedCrowd : Board :=
  Op.after (Op.after crowd (.clear 0)) (.place 0 (simpleton 0 .blue .move 5 .east))

/-- The crowd in which the first ant has become the last to arrive looks as before, and its cells
and ants are as before. -/
theorem rejoinedCrowd_snapshots :
    crowd.WellFormed ∧ rejoinedCrowd.WellFormed ∧ crowd.arena.ids = [0, 1, 2, 3] ∧
      rejoinedCrowd.arena.ids = [1, 2, 3, 0] ∧ crowd.SameAnts rejoinedCrowd := by
  have hreach : Reachable rejoinedCrowd := .step _ (.step _ reachable_crowd trivial)
    ⟨sound_simpleton 0 .blue rfl 5 .east, Int.le_refl 0, by decide +kernel⟩
  have hother : rejoinedCrowd.WellFormed := hreach.wellFormed (by decide +kernel)
  refine ⟨wellFormed_crowd, hother, by decide +kernel, by decide +kernel, ?_⟩
  obtain ⟨-, s, s', hs, hs', -, hsame⟩ := snapshots_faithful wellFormed_crowd hother
  cases wellFormed_crowd.snapshot?_eq.symm.trans hs
  cases hother.snapshot?_eq.symm.trans hs'
  exact (hsame (by decide +kernel)).2.2.2.2

end Formicary
