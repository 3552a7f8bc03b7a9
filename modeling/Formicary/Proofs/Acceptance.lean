import Formicary.Pack.Sections
import Formicary.Pack.Standard
import Formicary.Proofs.Setup

/-!
# Accepted documents

A schema accepts a value if its rules find nothing wrong with it and the schemas of its properties
accept what they are given (`Schema.accepts_describe_iff`); where in a document the value stands
does not matter.  The configuration of a document takes each field from the second section that
names it, else from the first, else from the defaults (`Value.find?_merge`).  So every field of the
configuration of an accepted document satisfies the schema of its name, wherever it came from
(`Pack.conforms_of_accepts`).

The keys of a mapping differ, and it is only then that the entry found first is also the one that is
put in last; `Value.DistinctKeys` says so of a list of entries.
-/

namespace Formicary

/-! ### Entries of mappings -/

namespace Value

/-- No two entries have equal keys, as in every mapping. -/
def DistinctKeys (entries : List (Value × Value)) : Prop :=
  entries.Pairwise fun e f => e.1.alike f.1 = false

instance (entries : List (Value × Value)) : Decidable (DistinctKeys entries) :=
  inferInstanceAs (Decidable (entries.Pairwise _))

variable {key v : Value} {name : String} {entries first second : List (Value × Value)}

/-- A value is a text if it is that text as a value. -/
theorem isText_iff : key.isText name = true ↔ key = .text name := by
  cases key <;> simp [isText]

/-- Only the text itself is equal to a text. -/
theorem alike_text_iff : v.alike (.text name) = true ↔ v = .text name := by
  cases v <;> simp [alike, quantity?]

/-- A text is equal only to itself. -/
theorem text_alike_iff : (Value.text name).alike v = true ↔ v = .text name := by
  cases v with
  | text s =>
    rw [alike, beq_iff_eq, text.injEq]
    exact eq_comm
  | _ => simp [alike, quantity?]

/-- Lookups go through the entries in order. -/
theorem find?_cons (e : Value × Value) (entries : List (Value × Value)) (name : String) :
    find? (e :: entries) name = if e.1.isText name then some e.2 else find? entries name := by
  simp only [find?, List.find?_cons]
  cases e.1.isText name <;> rfl

/-- Nothing is found if no key is the name. -/
theorem find?_eq_none_iff :
    find? entries name = none ↔ ∀ e ∈ entries, e.1 ≠ .text name := by
  simp [find?, isText_iff]

/-- What is found belongs to an entry with the name for its key. -/
theorem mem_of_find? (h : find? entries name = some v) : (.text name, v) ∈ entries := by
  induction entries with
  | nil => cases h
  | cons e entries ih =>
    rw [find?_cons] at h
    split at h
    · rename_i hkey
      cases h
      rw [← isText_iff.1 hkey]
      exact List.mem_cons_self
    · exact List.mem_cons_of_mem e (ih h)

/-- A value that is replaced is found where the old one was. -/
theorem find?_replace (entries : List (Value × Value)) (key v : Value) (name : String) :
    find? (entries.map fun e => if e.1.alike key then (e.1, v) else e) name =
      if key.isText name then (find? entries name).map fun _ => v else find? entries name := by
  induction entries with
  | nil => simp [find?]
  | cons e entries ih =>
    have hkept : (if e.1.alike key then (e.1, v) else e).1 = e.1 := by split <;> rfl
    rw [List.map_cons, find?_cons, find?_cons, hkept, ih]
    by_cases he : e.1.isText name = true
    · have htext := isText_iff.1 he
      by_cases hkey : key.isText name = true
      · simp [htext, isText_iff.1 hkey, alike, isText]
      · have halike : e.1.alike key = false := by
          rw [htext, ← Bool.not_eq_true, text_alike_iff]
          exact fun h => hkey (isText_iff.2 h)
        simp [halike, he, hkey]
    · rw [if_neg he, if_neg he]

/-- The value that is put at a key is found there, and nothing else changes. -/
theorem find?_put (entries : List (Value × Value)) (key v : Value) (name : String) :
    find? (put entries key v) name =
      if key.isText name then some v else find? entries name := by
  unfold put
  split
  · rename_i hany
    obtain ⟨e, he, halike⟩ := List.any_eq_true.1 hany
    rw [find?_replace]
    by_cases hkey : key.isText name = true
    · obtain rfl := isText_iff.1 hkey
      have hsome : find? entries name ≠ none := fun hnone =>
        find?_eq_none_iff.1 hnone e he (alike_text_iff.1 halike)
      obtain ⟨w, hw⟩ := Option.ne_none_iff_exists'.1 hsome
      simp [hw, hkey]
    · simp [hkey]
  · rename_i hany
    induction entries with
    | nil => simp [find?_cons]
    | cons e entries ih =>
      simp only [List.any_cons, Bool.or_eq_true, not_or] at hany
      rw [List.cons_append, find?_cons, find?_cons, ih hany.2]
      by_cases he : e.1.isText name = true
      · -- the key that is put is another one
        have hkey : ¬ key.isText name = true := fun hkey => by
          refine hany.1 ?_
          rw [isText_iff.1 he, isText_iff.1 hkey]
          exact alike_text_iff.2 rfl
        simp [he, hkey]
      · simp [he]

/-- Of two mappings that are put together the second wins. -/
theorem find?_merge (h : DistinctKeys second) (first : List (Value × Value)) (name : String) :
    find? (merge first second) name = (find? second name).or (find? first name) := by
  induction second generalizing first with
  | nil => rfl
  | cons e second ih =>
    obtain ⟨hdistinct, hrest⟩ := List.pairwise_cons.1 h
    have hmerge : merge first (e :: second) = merge (put first e.1 e.2) second := rfl
    rw [hmerge, ih hrest, find?_put]
    by_cases hkey : e.1.isText name = true
    · -- no later entry has the same key
      have hnone : find? second name = none := by
        refine find?_eq_none_iff.2 fun f hf htext => ?_
        have hne := hdistinct f hf
        rw [isText_iff.1 hkey, htext, alike_text_iff.2 rfl] at hne
        cases hne
      rw [if_pos hkey, find?_cons, if_pos hkey, hnone]
      rfl
    · rw [if_neg hkey, find?_cons, if_neg hkey]

end Value

/-! ### What a schema accepts -/

namespace Schema

mutual

/-- At every place of a document the same values are accepted. -/
theorem violationsAt_eq_nil_iff (path : List String) :
    ∀ (s : Schema) (v : Value), violationsAt path s v = [] ↔ s.accepts v = true
  | .never, v => by simp [accepts, violations, violationsAt]
  | .describe rules properties, v => by
    simp [accepts, violations, violationsAt, propertyViolations_eq_nil_iff path properties v,
      propertyViolations_eq_nil_iff [] properties v]

/-- Nothing is wrong with the properties of a value if each is accepted. -/
theorem propertyViolations_eq_nil_iff (path : List String) :
    ∀ (properties : List (String × Schema)) (v : Value),
      propertyViolations path properties v = [] ↔
        ∀ p ∈ properties, ∀ w, property? p.1 v = some w → p.2.accepts w = true
  | [], v => by simp [propertyViolations]
  | (name, s) :: rest, v => by
    rw [propertyViolations, List.append_eq_nil_iff, List.forall_mem_cons,
      propertyViolations_eq_nil_iff path rest v]
    refine and_congr_left fun _ => ?_
    cases property? name v with
    | none => simp
    | some w => simp [violationsAt_eq_nil_iff (path ++ [name]) s w]

end

variable {rules : List Rule} {properties : List (String × Schema)} {v : Value}

/-- A described value is accepted if no rule finds anything wrong with it and its properties are
accepted. -/
theorem accepts_describe_iff :
    (describe rules properties).accepts v = true ↔
      (∀ r ∈ rules, r.causes (properties.map (·.1)) v = []) ∧
        ∀ p ∈ properties, ∀ w, property? p.1 v = some w → p.2.accepts w = true := by
  rw [← violationsAt_eq_nil_iff [], violationsAt]
  simp only [List.append_eq_nil_iff, List.map_eq_nil_iff, List.flatMap_eq_nil_iff,
    propertyViolations_eq_nil_iff]

/-- An accepted value is of one of the allowed kinds. -/
theorem kind_of_accepts {allowed : List Kind} (h : (describe rules properties).accepts v = true)
    (hrule : .kinds allowed ∈ rules) : allowed.any (·.holds v) = true := by
  have hcauses := (accepts_describe_iff.1 h).1 _ hrule
  simp only [Rule.causes] at hcauses
  split at hcauses
  · assumption
  · cases hcauses

/-- A mapping has no strangers if all its keys are known. -/
theorem strangers_eq_nil_iff {known : List String} {entries : List (Value × Value)} :
    strangers known entries = [] ↔
      ∀ e ∈ entries, ∃ name ∈ known, e.1 = .text name := by
  have hsorted : ∀ l : List Value, l.mergeSort mayPrecede = [] ↔ l = [] := fun l => by
    rw [← List.length_eq_zero_iff, List.length_mergeSort, List.length_eq_zero_iff]
  simp [strangers, hsorted, List.filter_eq_nil_iff, Value.isText_iff]

/-- In an accepted mapping that may have no strangers every key is the name of a property. -/
theorem key_of_accepts {entries : List (Value × Value)}
    (h : (describe rules properties).accepts (.mapping entries) = true)
    (hclosed : .closed ∈ rules) :
    ∀ e ∈ entries, ∃ p ∈ properties, e.1 = .text p.1 := by
  have hknown : strangers (properties.map (·.1)) entries = [] := by
    have hcauses := (accepts_describe_iff.1 h).1 _ hclosed
    simp only [Rule.causes] at hcauses
    split at hcauses
    · rename_i hempty
      exact List.isEmpty_iff.1 hempty
    · cases hcauses
  intro e he
  obtain ⟨name, hname, hkey⟩ := strangers_eq_nil_iff.1 hknown e he
  obtain ⟨p, hp, rfl⟩ := List.mem_map.1 hname
  exact ⟨p, hp, hkey⟩

/-- In an accepted mapping that may have no strangers every value that is found is accepted as the
property of that name. -/
theorem accepts_of_find? {entries : List (Value × Value)} {name : String}
    (h : (describe rules properties).accepts (.mapping entries) = true)
    (hclosed : .closed ∈ rules) (hv : Value.find? entries name = some v) :
    ∃ s, (name, s) ∈ properties ∧ s.accepts v = true := by
  obtain ⟨p, hp, hkey⟩ := key_of_accepts h hclosed _ (Value.mem_of_find? hv)
  cases hkey
  exact ⟨p.2, hp, (accepts_describe_iff.1 h).2 p hp v hv⟩

end Schema

/-! ### Checks of a configuration -/

namespace Config

variable {c c' : Config} {entries : List (Value × Value)}

/-- A configuration that passes its checks is handed over as it is. -/
theorem eq_of_check (h : c.check = .ok c') : c' = c := by
  simp only [check, bind, Except.bind, pure, Except.pure, throw, throwThe,
    MonadExceptOf.throw] at h
  repeat' split at h
  all_goals first
    | exact (Except.ok.inj h).symm
    | cases h

/-- The configuration of a mapping has the values that the mapping gives, and passes its checks. -/
theorem of_ofEntries (h : ofEntries entries = .ok c) : c = fill entries ∧ c.check = .ok c := by
  unfold ofEntries at h
  split at h
  · cases h
  · split at h
    · cases h
    · obtain rfl := eq_of_check h
      exact ⟨rfl, h⟩

end Config

/-! ### Documents -/

namespace Pack

/-- The characters of lines. -/
theorem toList_ofLines (lines : List String) :
    (ofLines lines).toList = lines.flatMap fun line => line.toList ++ ['\n'] := by
  induction lines with
  | nil => rfl
  | cons line lines ih =>
    unfold ofLines at ih ⊢
    rw [List.map_cons, String.join_cons, String.toList_append, ih, List.flatMap_cons,
      String.toList_append]
    rfl

/-- The standard schema is what its lines say. -/
theorem read_schemaLines : Schema.read (ofLines schemaLines) = .ok schema := by
  rw [← toOption_eq_some_iff]
  unfold Schema.read Json.read
  rw [toList_ofLines]
  decide +kernel

/-- What the standard schema asks of a field, in the section that it belongs to. -/
def fieldSchema : Config.Field → Schema
  | .width => atLeast .integer 1
  | .height => atLeast .integer 1
  | .seed => .describe [.kinds [.integer, .null], .minimum (.int 0)] []
  | .geneLength => atLeast .integer 1
  | .initialEnergy => ofKind .integer
  | .foodEnergy => atLeast .integer 0
  | .splitEnergy => ofKind .integer
  | .actionCost => atLeast .integer 0
  | .attackDivisor => atLeast .integer 1
  | .foodGrowthChance => .describe [.kinds [.number], .minimum (.int 0), .maximum (.int 1)] []
  | .spareCell => ofKind .boolean

/-- Every field of a configuration satisfies its schema. -/
def Conforms (c : Config) : Prop := ∀ f, (fieldSchema f).accepts (c.value f) = true

/-- Every default passes. -/
theorem accepts_defaultValue (f : Config.Field) :
    (fieldSchema f).accepts f.defaultValue = true := by
  cases f <;> decide +kernel

variable {doc board life : List (Value × Value)} {c : Config} {f : Config.Field} {v : Value}

/-- A field that an accepted section gives passes, whichever section it is. -/
theorem accepts_of_section {entries : List (Value × Value)}
    (h : boardSchema.accepts (.mapping entries) = true ∨
      lifeSchema.accepts (.mapping entries) = true)
    (hv : Value.find? entries f.name = some v) : (fieldSchema f).accepts v = true := by
  rcases h with h | h
  all_goals
    obtain ⟨s, hs, haccepts⟩ := Schema.accepts_of_find? h (by simp) hv
    cases f <;> simp [Config.Field.name] at hs <;> subst hs <;> exact haccepts

/-! ### Sections -/

namespace Reading

/-- The section for the life on the board is looked for among the entries. -/
theorem lifeOf_eq_none (h : ∀ v, Value.find? doc lifeSection = some v → v.truthy = false) :
    ofValues.lifeOf (.mapping doc) = .ok none := by
  have hnone : (Value.find? doc lifeSection).filter Value.truthy = none := by
    rw [Option.filter_eq_none_iff]
    intro v hv
    rw [h v hv]
    exact Bool.false_ne_true
  unfold lifeOf
  rw [show (ofValues.find? (.mapping doc) lifeSection).filter ofValues.truthy = none from hnone]

/-- A section for the life on the board that has entries counts as true. -/
theorem lifeOf_eq_some (h : Value.find? doc lifeSection = some (.mapping life)) (hne : life ≠ []) :
    ofValues.lifeOf (.mapping doc) = .ok (some (.mapping life)) := by
  have hsome : (Value.find? doc lifeSection).filter Value.truthy = some (.mapping life) := by
    rw [h, Option.filter_some, Value.truthy, if_pos (by simpa using hne)]
  unfold lifeOf
  rw [show (ofValues.find? (.mapping doc) lifeSection).filter ofValues.truthy = _ from hsome]
  rfl

end Reading

/-- A document has two sections: that for the board has to be there, and that for the life on it is
empty if it is left out or counts as false. -/
structure Gives (doc board life : List (Value × Value)) : Prop where
  board : Value.find? doc boardSection = some (.mapping board)
  life : Value.find? doc lifeSection = some (.mapping life) ∨
    life = [] ∧ ∀ v, Value.find? doc lifeSection = some v → v.truthy = false

/-- What the configuration of a document with two sections is comes of the two put together. -/
theorem Gives.configOf_eq (h : Gives doc board life) :
    configOf (.mapping doc) = (Config.ofEntries (Value.merge board life)).mapError .config := by
  have hboard : Reading.ofValues.boardOf (.mapping doc) = .ok (.mapping board) := by
    unfold Reading.boardOf
    rw [show Reading.ofValues.find? (.mapping doc) boardSection = _ from h.board]
    rfl
  have hconfig : ∀ part, Reading.ofValues.lifeOf (.mapping doc) = .ok part →
      configOf (.mapping doc) = (Reading.ofValues.configure (part.elim (.mapping board)
        (Reading.ofValues.merge (.mapping board)))).mapError .config := by
    intro part hpart
    unfold configOf Reading.configOf
    rw [hboard, hpart]
    rfl
  by_cases hempty : life = []
  · -- an empty section counts as false, and putting it in changes nothing
    refine hconfig none (Reading.lifeOf_eq_none fun v hv => ?_) |>.trans (by rw [hempty]; rfl)
    rcases h.life with hlife | ⟨-, hfalse⟩
    · rw [hlife, hempty] at hv
      cases hv
      rfl
    · exact hfalse v hv
  · rcases h.life with hlife | ⟨hnil, -⟩
    · exact hconfig _ (Reading.lifeOf_eq_some hlife hempty)
    · exact absurd hnil hempty

/-- A document that is a mapping has two sections, or there is something wrong with one of them. -/
theorem gives_or_refused (doc : List (Value × Value)) :
    (∃ board life, Gives doc board life) ∨
      configOf (.mapping doc) = .error .missingBoard ∨
        configOf (.mapping doc) = .error .boardNotMapping ∨
          configOf (.mapping doc) = .error .lifeNotMapping := by
  have hlook : Reading.ofValues.find? (.mapping doc) = Value.find? doc := rfl
  have htruth : Reading.ofValues.truthy = Value.truthy := rfl
  cases hboard : Value.find? doc boardSection with
  | none =>
    refine Or.inr (Or.inl ?_)
    unfold configOf Reading.configOf Reading.boardOf
    rw [hlook, hboard]
    rfl
  | some v =>
    cases v with
    | mapping board =>
      cases hlife : Value.find? doc lifeSection with
      | none => exact Or.inl ⟨board, [], hboard, Or.inr ⟨rfl, by rw [hlife]; nofun⟩⟩
      | some u =>
        cases htruthy : u.truthy with
        | false =>
          refine Or.inl ⟨board, [], hboard, Or.inr ⟨rfl, fun w hw => ?_⟩⟩
          rwa [← Option.some.inj (hlife.symm.trans hw)]
        | true =>
          cases u with
          | mapping life => exact Or.inl ⟨board, life, hboard, Or.inl hlife⟩
          | _ =>
            refine Or.inr (Or.inr (Or.inr ?_))
            unfold configOf Reading.configOf Reading.boardOf Reading.lifeOf
            rw [hlook, htruth, hboard, hlife, Option.filter_some, htruthy]
            rfl
    | _ =>
      refine Or.inr (Or.inr (Or.inl ?_))
      unfold configOf Reading.configOf Reading.boardOf
      rw [hlook, hboard]
      rfl

/-- The configuration of a document passes its checks. -/
theorem check_of_configOf (h : configOf (.mapping doc) = .ok c) : c.check = .ok c := by
  rcases gives_or_refused doc with ⟨board, life, hgives⟩ | hrefused | hrefused | hrefused
  · rw [hgives.configOf_eq] at h
    exact (Config.of_ofEntries (eq_ok_of_mapError_eq_ok h)).2
  all_goals
    rw [hrefused] at h
    cases h

/-- A mapping is a value of the kind of mappings. -/
theorem exists_mapping (h : Schema.Kind.object.holds v = true) :
    ∃ entries, v = .mapping entries := by
  cases v with
  | mapping entries => exact ⟨entries, rfl⟩
  | _ => cases h

/-- The sections of an accepted document are mappings that are accepted, and their entries are put
together; a section for the life on the board that is not there is empty. -/
theorem sections_of_accepts (h : schema.accepts (.mapping doc) = true)
    (hkeys : ∀ life, Value.find? doc lifeSection = some (.mapping life) →
      Value.DistinctKeys life) :
    ∃ board life, Value.find? doc boardSection = some (.mapping board) ∧
      (Value.find? doc lifeSection = some (.mapping life) ∨
        Value.find? doc lifeSection = none ∧ life = []) ∧
      boardSchema.accepts (.mapping board) = true ∧ lifeSchema.accepts (.mapping life) = true ∧
      Value.DistinctKeys life ∧ Gives doc board life := by
  obtain ⟨hrules, hproperties⟩ := Schema.accepts_describe_iff.1 h
  obtain ⟨w, hw⟩ : ∃ w, Value.find? doc boardSection = some w := by
    have hrequired := hrules (.required ["grid"]) (by simp)
    rw [← Option.ne_none_iff_exists']
    intro hnone
    rw [boardSection] at hnone
    simp [Schema.Rule.causes, hnone] at hrequired
  have hboard := hproperties (boardSection, boardSchema) (by simp [boardSection]) w hw
  obtain ⟨board, rfl⟩ : ∃ board, w = .mapping board :=
    exists_mapping (by simpa using Schema.kind_of_accepts hboard List.mem_cons_self)
  cases hl : Value.find? doc lifeSection with
  | none =>
    exact ⟨board, [], hw, Or.inr ⟨rfl, rfl⟩, hboard, by decide +kernel, .nil, hw,
      Or.inr ⟨rfl, fun v hv => by rw [hl] at hv; cases hv⟩⟩
  | some u =>
    have hlife := hproperties (lifeSection, lifeSchema) (by simp [lifeSection]) u hl
    obtain ⟨life, rfl⟩ : ∃ life, u = .mapping life :=
      exists_mapping (by simpa using Schema.kind_of_accepts hlife List.mem_cons_self)
    exact ⟨board, life, hw, Or.inl rfl, hboard, hlife, hkeys life hl, hw, Or.inl hl⟩

/-- What accepted sections and the defaults give conforms to the schema, field by field. -/
theorem conforms_fill {board life : List (Value × Value)}
    (hboard : boardSchema.accepts (.mapping board) = true)
    (hlife : lifeSchema.accepts (.mapping life) = true) (hkeys : Value.DistinctKeys life) :
    Conforms (Config.fill (Value.merge board life)) := by
  intro f
  simp only [Config.fill, Value.find?_merge hkeys]
  cases hinLife : Value.find? life f.name with
  | some v => exact accepts_of_section (Or.inr hlife) hinLife
  | none =>
    cases hinBoard : Value.find? board f.name with
    | some v => exact accepts_of_section (Or.inl hboard) hinBoard
    | none => exact accepts_defaultValue f

/-- The configuration of an accepted document conforms to the schema, field by field. -/
theorem conforms_of_accepts (h : schema.accepts (.mapping doc) = true)
    (hkeys : ∀ life, Value.find? doc lifeSection = some (.mapping life) →
      Value.DistinctKeys life)
    (hc : configOf (.mapping doc) = .ok c) : Conforms c := by
  obtain ⟨board, life, -, -, hboard, hlife, hdistinct, hgives⟩ := sections_of_accepts h hkeys
  rw [hgives.configOf_eq] at hc
  obtain ⟨rfl, -⟩ := Config.of_ofEntries (eq_ok_of_mapError_eq_ok hc)
  exact conforms_fill hboard hlife hdistinct

/-! ### Integers -/

/-- The fields that have to be integers. -/
def wholeFields : List Config.Field :=
  [.width, .height, .geneLength, .initialEnergy, .foodEnergy, .splitEnergy, .actionCost,
    .attackDivisor]

/-- The fields that have to be integers are, be it as doubles. -/
theorem Conforms.integer (h : Conforms c) (hf : f ∈ wholeFields) :
    Schema.Kind.integer.holds (c.value f) = true := by
  have hschema : ∃ rules, fieldSchema f = .describe (.kinds [.integer] :: rules) [] := by
    cases f <;> first
      | exact ⟨_, rfl⟩
      | simp [wholeFields] at hf
  obtain ⟨rules, hrules⟩ := hschema
  have hkind := Schema.kind_of_accepts (hrules ▸ h f) List.mem_cons_self
  simpa using hkind

/-- Such a field is written as an integer, if not as a double. -/
theorem Conforms.exists_int (h : Conforms c) (hf : f ∈ wholeFields)
    (hfloat : ∀ x, c.value f ≠ .float x) : ∃ n, c.value f = .int n := by
  have hkind := h.integer hf
  cases hv : c.value f with
  | int n => exact ⟨n, rfl⟩
  | float x => exact (hfloat x hv).elim
  | _ =>
    rw [hv] at hkind
    cases hkind

/-- A field that counts as an integer is written as one, for a truth value does not pass. -/
theorem Conforms.eq_int (h : Conforms c) (hf : f ∈ wholeFields) {n : Int}
    (hn : (c.value f).integer? = some n) : c.value f = .int n := by
  obtain ⟨m, hm⟩ := h.exists_int hf fun x hx => by
    rw [hx] at hn
    cases hn
  rw [hm] at hn
  rw [hm, Option.some.inj hn]

/-- A number that is accepted is not below its bound. -/
theorem le_of_accepts_number {kind : Schema.Kind} {bound n : Int}
    (h : (atLeast kind bound).accepts v = true) (hn : Schema.number? v = some (.ofInt n)) :
    bound ≤ n := by
  have hcauses := (Schema.accepts_describe_iff.1 h).1 (.minimum (.int bound)) (by simp)
  by_contra hlt
  have hbelow : Schema.isBelow v (.int bound) = true := by
    have hbound : Schema.number? (.int bound) = some (.ofInt bound) := rfl
    simp only [Schema.isBelow, hn, hbound, Quantity.lt_ofInt, decide_eq_true_eq]
    omega
  simp [Schema.Rule.causes, hbelow] at hcauses

/-- An integer that is accepted is not below its bound. -/
theorem le_of_accepts {kind : Schema.Kind} {bound n : Int}
    (h : (atLeast kind bound).accepts (.int n) = true) : bound ≤ n :=
  le_of_accepts_number h rfl

end Pack

end Formicary
