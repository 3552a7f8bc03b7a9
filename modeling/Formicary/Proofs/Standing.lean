import Formicary.Proofs.Consistency

/-!
# Where ants stand and what they face

On a well-formed board every ant of the arena stands on one cell, which is where its id is found
among the occupants (`Board.WellFormed.indexOfAnt?_eq`).  So ants can be counted cell by cell
(`Board.WellFormed.countP_ants`), and what is ahead of an ant is told by the ant alone.
-/

namespace Formicary

/-- The opcode that an ant is about to execute. -/
def Ant.opcode? (a : Ant) : Option Opcode := a.gene.cycle.map fun c => c.1.opcode

namespace Board

/-- The ant that stands on a cell. -/
def standing? (b : Board) (n : Nat) : Option Ant := (b.content n).ant?.bind b.arena.find?

/-- The cell ahead of an ant. -/
def ahead? (b : Board) (a : Ant) : Option Int :=
  (b.indexOfAnt? a.id).bind fun n => b.shape.ahead? n a.direction

/-- Whether the cell ahead of an ant is of a given kind. -/
def faces (b : Board) (a : Ant) (k : CellKind) : Bool := (b.ahead? a).any (b.kindIs · k)

/-- Whether there is an ant of another team ahead of an ant. -/
def facesFoe (b : Board) (a : Ant) : Bool :=
  (b.ahead? a).any fun t =>
    b.kindIs t .ant && (b.tenant? t).toOption.any fun d => a.team.hostile d.team

variable {b : Board} {n : Nat} {a x : Ant}

/-! ### Cells and ants -/

/-- An ant is on one cell only. -/
theorem WellFormed.eq_of_content (h : b.WellFormed) {m : Nat} {id : Int}
    (hm : b.content m = .ant id) (hn : b.content n = .ant id) : m = n :=
  h.lodged.eq_of_content hm hn

/-- The cell of an ant is where its id is found. -/
theorem WellFormed.indexOfAnt?_eq (h : b.WellFormed) {id : Int} (hc : b.content n = .ant id) :
    b.indexOfAnt? id = some n :=
  h.lodged.indexOfAnt?_eq hc

/-- The ant on a cell is found in the arena. -/
theorem standing?_eq_some_iff :
    b.standing? n = some x ↔ b.content n = .ant x.id ∧ b.arena.find? x.id = some x := by
  rw [standing?, Option.bind_eq_some_iff]
  constructor
  · rintro ⟨id, hid, hx⟩
    obtain rfl := Arena.id_of_find? hx
    exact ⟨Content.ant?_eq_some_iff.1 hid, hx⟩
  · rintro ⟨hc, hx⟩
    exact ⟨x.id, Content.ant?_eq_some_iff.2 hc, hx⟩

/-- The ants of the arena are those that stand on a cell. -/
theorem WellFormed.mem_ants_iff (h : b.WellFormed) :
    x ∈ b.arena.ants ↔ ∃ n < b.size, b.standing? n = some x := by
  constructor
  · intro hx
    obtain ⟨n, hn, hc⟩ := (h.peopled.mem_ids_iff x.id).1 (Arena.mem_ids_of_mem hx)
    exact ⟨n, hn, standing?_eq_some_iff.2 ⟨hc, Arena.find?_of_mem h.peopled.ids_nodup hx⟩⟩
  · rintro ⟨n, -, hx⟩
    exact Arena.mem_of_find? (standing?_eq_some_iff.1 hx).2

/-- Cell by cell the ants are those of the arena, in another order. -/
theorem WellFormed.perm_ants (h : b.WellFormed) :
    ((List.range b.size).filterMap b.standing?).Perm b.arena.ants := by
  have hids : ((List.range b.size).filterMap b.standing?).map Ant.id = b.residents b.size := by
    rw [List.map_filterMap, residents]
    refine List.filterMap_congr fun n _ => ?_
    cases hc : b.content n with
    | empty => simp [standing?, hc, Content.ant?]
    | food => simp [standing?, hc, Content.ant?]
    | ant id =>
      obtain ⟨a, hfind, hid, -, -⟩ := h.exists_find? hc
      simp [standing?, hc, Content.ant?, hfind, hid]
  have hcells : ((List.range b.size).filterMap b.standing?).Nodup := by
    refine List.Nodup.of_map Ant.id ?_
    rw [hids]
    exact h.lodged.nodup_residents b.size
  have hants : b.arena.ants.Nodup := List.Nodup.of_map Ant.id h.peopled.ids_nodup
  refine (List.perm_ext_iff_of_nodup hcells hants).2 fun x => ?_
  rw [h.mem_ants_iff, List.mem_filterMap]
  simp only [List.mem_range]

/-- The ants can be counted cell by cell. -/
theorem WellFormed.countP_ants (h : b.WellFormed) (p : Ant → Bool) :
    b.arena.ants.countP p = (List.range b.size).countP fun n => (b.standing? n).any p := by
  rw [← h.perm_ants.countP_eq, List.countP_filterMap]
  refine List.countP_congr fun n _ => ?_
  cases b.standing? n <;> rfl

/-! ### What is ahead -/

/-- What is ahead of an ant is ahead of its cell. -/
theorem WellFormed.ahead?_eq (h : b.WellFormed) (hc : b.content n = .ant a.id) :
    b.ahead? a = b.shape.ahead? n a.direction := by
  rw [ahead?, h.indexOfAnt?_eq hc]
  rfl

/-- An ant faces a kind of cell if the cell ahead of it is of that kind. -/
theorem WellFormed.faces_iff (h : b.WellFormed) (hc : b.content n = .ant a.id) (k : CellKind) :
    b.faces a k = true ↔ ∃ target : Nat, b.shape.ahead? n a.direction = some (target : Int) ∧
      (b.content target).kind = k := by
  rw [faces, h.ahead?_eq hc, Option.any_eq_true]
  constructor
  · rintro ⟨t, ht, hk⟩
    obtain ⟨h0, hlt⟩ := Shape.ahead?_bounds ht
    obtain ⟨target, rfl⟩ := Int.eq_ofNat_of_zero_le h0
    exact ⟨target, ht, (h.kindIs_iff (Int.ofNat_lt.1 hlt) k).1 hk⟩
  · rintro ⟨target, ht, hk⟩
    exact ⟨target, ht, (h.kindIs_iff (Int.ofNat_lt.1 (Shape.ahead?_bounds ht).2) k).2 hk⟩

/-- An ant faces a foe if an ant of another team stands on the cell ahead of it. -/
theorem WellFormed.facesFoe_iff (h : b.WellFormed) (hc : b.content n = .ant a.id) :
    b.facesFoe a = true ↔ ∃ (target : Nat) (d : Ant),
      b.shape.ahead? n a.direction = some (target : Int) ∧ b.standing? target = some d ∧
        a.team.hostile d.team = true := by
  rw [facesFoe, h.ahead?_eq hc, Option.any_eq_true]
  constructor
  · rintro ⟨t, ht, hfoe⟩
    obtain ⟨h0, hlt⟩ := Shape.ahead?_bounds ht
    obtain ⟨target, rfl⟩ := Int.eq_ofNat_of_zero_le h0
    rw [Bool.and_eq_true, h.kindIs_iff (Int.ofNat_lt.1 hlt)] at hfoe
    obtain ⟨id, hid⟩ := Content.kind_eq_ant_iff.1 hfoe.1
    obtain ⟨d, hfind, rfl, -, -⟩ := h.exists_find? hid
    rw [h.tenant?_eq hid hfind] at hfoe
    exact ⟨target, d, ht, standing?_eq_some_iff.2 ⟨hid, hfind⟩, hfoe.2⟩
  · rintro ⟨target, d, ht, hd, hfoe⟩
    obtain ⟨hid, hfind⟩ := standing?_eq_some_iff.1 hd
    have hant : b.kindIs target .ant = true :=
      (h.kindIs_iff (Int.ofNat_lt.1 (Shape.ahead?_bounds ht).2) .ant).2 (by rw [hid]; rfl)
    refine ⟨target, ht, ?_⟩
    rw [hant, h.tenant?_eq hid hfind]
    exact hfoe

end Board

/-! ### What is about to be executed -/

namespace Ant

variable {a : Ant} {i : Instruction}

/-- A sound ant is about to execute the opcode at its pointer. -/
theorem Sound.opcode?_eq (h : a.Sound) (hread : a.gene.code[a.gene.pointer.toNat]? = some i) :
    a.opcode? = some i.opcode := by
  obtain ⟨j, hj, -, hcycle⟩ := h.gene.cycle
  obtain rfl : j = i := Option.some.inj (hj.symm.trans hread)
  rw [opcode?, hcycle]
  rfl

/-- An ant that asks for something has not turned. -/
theorem Sound.direction_execute (h : a.Sound)
    (hread : a.gene.code[a.gene.pointer.toNat]? = some i) (hask : i.opcode.request? ≠ none) :
    a.execute.1.direction = a.direction := by
  obtain ⟨j, hj, -, hcycle⟩ := h.gene.cycle
  obtain rfl : j = i := Option.some.inj (hj.symm.trans hread)
  obtain ⟨n, hn⟩ := h.age
  have hgrown : a.age.grown (.int 1) = .ok (.int (n + 1)) := by rw [hn, Value.grown_int]
  simp only [Ant.execute, hgrown, hcycle]
  obtain ⟨op, target⟩ := j
  cases op with
  | move => rfl
  | eat => rfl
  | attack => rfl
  | noop => exact absurd rfl hask
  | turnLeft => exact absurd rfl hask
  | turnRight => exact absurd rfl hask
  | jumpIfSensorFalse => exact absurd rfl hask
  | jumpIfSensorTrue => exact absurd rfl hask

end Ant

end Formicary
