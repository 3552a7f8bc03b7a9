import Formicary.Proofs.Admission

/-!
# Honoured documents

A document that is a mapping makes a configuration or is refused; there is no third way
(`Pack.configOf_cases`).  It makes one just if it has its sections (`Pack.Gives`), their keys name
fields, and the values that they give, with the defaults for the rest, are such that a board can
honour them: `Config.Honoured` says which they are without the order of the checks, and
`Config.check_eq_ok_iff_honoured` that the checks let no others pass.

The sections are put together before their keys are looked at.  Equal keys are the same name or no
name at all, so the first key that is wrong is that of the sections one after the other
(`Value.firstOf_merge`).  It follows that a field may be moved from one section to the other: the
same configuration comes of it, or the same refusal (`Pack.Moved.ofEntries_eq`).
-/

namespace Formicary

/-! ### Keys of mappings that are put together -/

namespace Value

variable {α : Type} {key v : Value} {s : String} {first second entries : List (Value × Value)}
  {t : Option String → Option α}

/-- The name that a key is, if it is a text. -/
def name? : Value → Option String
  | .text s => some s
  | _ => none

theorem name?_eq_some_iff : key.name? = some s ↔ key = .text s := by
  cases key <;> simp [name?]

/-- Equal keys are the same name, or none. -/
theorem name?_eq_of_alike (h : key.alike v = true) : key.name? = v.name? := by
  cases hkey : key.name? with
  | some s =>
    rw [name?_eq_some_iff.1 hkey] at h
    exact (name?_eq_some_iff.2 (text_alike_iff.1 h)).symm
  | none =>
    cases hv : v.name? with
    | none => rfl
    | some s =>
      rw [name?_eq_some_iff.1 hv] at h
      rw [name?_eq_some_iff.2 (alike_text_iff.1 h)] at hkey
      cases hkey

/-- What is found first about the names that keys are. -/
def firstOf (t : Option String → Option α) (entries : List (Value × Value)) : Option α :=
  entries.findSome? fun e => t e.1.name?

theorem firstOf_append :
    firstOf t (first ++ second) = (firstOf t first).or (firstOf t second) :=
  List.findSome?_append

/-- Nothing is found if there is nothing to be found about any key. -/
theorem firstOf_eq_none_iff : firstOf t entries = none ↔ ∀ e ∈ entries, t e.1.name? = none :=
  List.findSome?_eq_none_iff

/-- A value that is put at a key is found as if it had been added. -/
theorem firstOf_put (entries : List (Value × Value)) (key v : Value) :
    firstOf t (put entries key v) = firstOf t (entries ++ [(key, v)]) := by
  unfold put
  split
  · rename_i hany
    obtain ⟨e, he, halike⟩ := List.any_eq_true.1 hany
    have hkept : firstOf t (entries.map fun e => if e.1.alike key then (e.1, v) else e) =
        firstOf t entries := by
      unfold firstOf
      rw [List.findSome?_map]
      congr 1
      funext e
      dsimp only [Function.comp]
      split <;> rfl
    rw [hkept, firstOf_append]
    cases hfirst : firstOf t entries with
    | some a => rfl
    | none =>
      -- an equal key has been looked at before
      have hnone : t key.name? = none := by
        rw [← name?_eq_of_alike halike]
        exact firstOf_eq_none_iff.1 hfirst e he
      simp [firstOf, hnone]
  · rfl

/-- Mappings that are put together are looked through as if one followed the other. -/
theorem firstOf_merge (first second : List (Value × Value)) :
    firstOf t (merge first second) = firstOf t (first ++ second) := by
  induction second generalizing first with
  | nil => rw [List.append_nil]; rfl
  | cons e second ih =>
    have hmerge : merge first (e :: second) = merge (put first e.1 e.2) second := rfl
    rw [hmerge, ih, firstOf_append, firstOf_put, ← firstOf_append, List.append_assoc]
    rfl

/-- Entries with a key about which there is nothing to be found may be left out. -/
theorem firstOf_filter (hnone : t (some s) = none) :
    firstOf t (entries.filter (!·.1.isText s)) = firstOf t entries := by
  unfold firstOf
  induction entries with
  | nil => rfl
  | cons e entries ih =>
    by_cases hkey : e.1.isText s = true
    · have hskip : t e.1.name? = none := by rwa [isText_iff.1 hkey]
      rw [List.filter_cons_of_neg (by simp [hkey]), ih, List.findSome?_cons, hskip]
    · rw [List.filter_cons_of_pos (by simp [hkey]), List.findSome?_cons, List.findSome?_cons, ih]

/-- Entries with another key have no part in a lookup. -/
theorem find?_filter {name : String} (hne : s ≠ name) (entries : List (Value × Value)) :
    find? (entries.filter (!·.1.isText s)) name = find? entries name := by
  induction entries with
  | nil => rfl
  | cons e entries ih =>
    by_cases hkey : e.1.isText s = true
    · have hother : ¬ e.1.isText name = true := by
        rw [isText_iff.1 hkey, isText_iff, text.injEq]
        exact hne
      rw [List.filter_cons_of_neg (by simp [hkey]), ih, find?_cons, if_neg hother]
    · rw [List.filter_cons_of_pos (by simp [hkey]), find?_cons, find?_cons, ih]

/-- Entries that are left out are not found. -/
theorem find?_filter_self (s : String) (entries : List (Value × Value)) :
    find? (entries.filter (!·.1.isText s)) s = none := by
  refine find?_eq_none_iff.2 fun e he hkey => ?_
  have hkept := (List.mem_filter.1 he).2
  rw [isText_iff.2 hkey] at hkept
  cases hkept

/-- But for its key a mapping is as before a value was put there. -/
theorem filter_put (entries : List (Value × Value)) (s : String) (v : Value) :
    (put entries (.text s) v).filter (!·.1.isText s) = entries.filter (!·.1.isText s) := by
  have hself : (Value.text s).isText s = true := isText_iff.2 rfl
  unfold put
  split
  · clear * - hself
    induction entries with
    | nil => rfl
    | cons e entries ih =>
      by_cases hkey : e.1.isText s = true
      · have htext : e.1.alike (.text s) = true := alike_text_iff.2 (isText_iff.1 hkey)
        rw [List.map_cons, if_pos htext, List.filter_cons_of_neg (by simp [hkey]),
          List.filter_cons_of_neg (by simp [hkey]), ih]
      · have hother : ¬ e.1.alike (.text s) = true := fun halike =>
          hkey (isText_iff.2 (alike_text_iff.1 halike))
        rw [List.map_cons, if_neg hother, List.filter_cons_of_pos (by simp [hkey]),
          List.filter_cons_of_pos (by simp [hkey]), ih]
  · rw [List.filter_append, List.filter_cons_of_neg (by simp [hself]), List.filter_nil,
      List.append_nil]

/-- Keys stay distinct when a value is put at one. -/
theorem DistinctKeys.put (h : DistinctKeys entries) (key v : Value) :
    DistinctKeys (put entries key v) := by
  unfold Value.put
  split
  · refine List.pairwise_map.2 (h.imp fun {e f} hne => ?_)
    split <;> split <;> exact hne
  · rename_i hany
    refine List.pairwise_append.2 ⟨h, List.pairwise_singleton _ _, fun e he f hf => ?_⟩
    rw [List.mem_singleton.1 hf, ← Bool.not_eq_true]
    exact fun halike => hany (List.any_eq_true.2 ⟨e, he, halike⟩)

/-- Keys are distinct in mappings that are put together. -/
theorem DistinctKeys.merge (h : DistinctKeys first) (second : List (Value × Value)) :
    DistinctKeys (merge first second) := by
  induction second generalizing first with
  | nil => exact h
  | cons e second ih => exact ih (h.put e.1 e.2)

/-- What is found among distinct keys is what is there. -/
theorem DistinctKeys.find?_eq_some_iff (h : DistinctKeys entries) :
    find? entries s = some v ↔ (.text s, v) ∈ entries := by
  refine ⟨mem_of_find?, fun hmem => ?_⟩
  induction entries with
  | nil => cases hmem
  | cons e entries ih =>
    obtain ⟨hne, hrest⟩ := List.pairwise_cons.1 h
    rw [find?_cons]
    rcases List.mem_cons.1 hmem with rfl | hmem
    · exact if_pos (isText_iff.2 rfl)
    · have hother : ¬ e.1.isText s = true := by
        intro hkey
        have halike := hne _ hmem
        rw [isText_iff.1 hkey, alike_text_iff.2 rfl] at halike
        cases halike
      rw [if_neg hother]
      exact ih hrest hmem

/-- The same is found in mappings with the same entries. -/
theorem find?_congr (hfirst : DistinctKeys first) (hsecond : DistinctKeys second)
    (hsame : ∀ e, e ∈ first ↔ e ∈ second) (name : String) :
    find? first name = find? second name := by
  apply Option.ext
  intro v
  rw [hfirst.find?_eq_some_iff, hsecond.find?_eq_some_iff, hsame]

end Value

/-! ### Checks -/

namespace Config

/-- No two fields have the same name. -/
theorem Field.name_injective : Function.Injective Field.name := by
  intro f g h
  have hfield : ofName? f.name = ofName? g.name := congrArg ofName? h
  rwa [ofName?_name, ofName?_name, Option.some.injEq] at hfield

variable {c c' : Config} {v : Value} {entries first second : List (Value × Value)}

/-- A value is a number that is not at most zero; the undefined number is one. -/
def AboveZero : Value → Prop
  | .bool b => b = true
  | .int n => 0 < n
  | .float x => (Quantity.ofDouble x).le (.ofInt 0) = false
  | _ => False

/-- A value is a number between zero and one. -/
def WithinUnit : Value → Prop
  | .bool _ => True
  | .int n => 0 ≤ n ∧ n ≤ 1
  | .float x =>
    (Quantity.ofInt 0).le (.ofDouble x) = true ∧ (Quantity.ofDouble x).le (.ofInt 1) = true
  | _ => False

/-- The values of a configuration are such that a board can honour them. -/
structure Honoured (c : Config) : Prop where
  width : AboveZero (c.value .width)
  height : AboveZero (c.value .height)
  geneLength : AboveZero (c.value .geneLength)
  attackDivisor : AboveZero (c.value .attackDivisor)
  foodGrowthChance : WithinUnit (c.value .foodGrowthChance)

theorem atMostZero_eq_ok_false_iff : atMostZero v = .ok false ↔ AboveZero v := by
  unfold atMostZero AboveZero
  cases v with
  | bool b => cases b <;> simp [Value.quantity?]
  | _ => simp [Value.quantity?]

theorem inUnit_eq_ok_true_iff : inUnit v = .ok true ↔ WithinUnit v := by
  unfold inUnit WithinUnit
  cases v with
  | bool b => cases b <;> simp [Value.quantity?]
  | _ => simp [Value.quantity?]

/-- A configuration passes its checks just if a board can honour it. -/
theorem check_eq_ok_iff_honoured : c.check = .ok c' ↔ c' = c ∧ c.Honoured := by
  constructor
  · intro h
    refine ⟨eq_of_check h, ?_⟩
    unfold check at h
    obtain ⟨hwidth, h⟩ := of_guard_eq_ok false (by rintro _ ⟨⟩) h
    obtain ⟨hheight, h⟩ := of_guard_eq_ok false (by rintro _ ⟨⟩) h
    obtain ⟨hlength, h⟩ := of_guard_eq_ok false (by rintro _ ⟨⟩) h
    obtain ⟨hdivisor, h⟩ := of_guard_eq_ok false (by rintro _ ⟨⟩) h
    obtain ⟨hchance, -⟩ := of_guard_eq_ok true (by rintro _ ⟨⟩) h
    exact ⟨atMostZero_eq_ok_false_iff.1 hwidth, atMostZero_eq_ok_false_iff.1 hheight,
      atMostZero_eq_ok_false_iff.1 hlength, atMostZero_eq_ok_false_iff.1 hdivisor,
      inUnit_eq_ok_true_iff.1 hchance⟩
  · rintro ⟨rfl, h⟩
    have hwidth := atMostZero_eq_ok_false_iff.2 h.width
    have hheight := atMostZero_eq_ok_false_iff.2 h.height
    have hlength := atMostZero_eq_ok_false_iff.2 h.geneLength
    have hdivisor := atMostZero_eq_ok_false_iff.2 h.attackDivisor
    have hchance := inUnit_eq_ok_true_iff.2 h.foodGrowthChance
    simp only [check, width, height, hwidth, hheight, hlength, hdivisor, hchance, bind, Except.bind]
    rfl

/-! ### Keys that name no field -/

/-- What is wrong with a key that is no text. -/
def textProblem? : Option String → Option Problem
  | none => some .keyNotText
  | some _ => none

/-- What is wrong with a name that is that of no field. -/
def strangerProblem (name : String) : Problem :=
  if name = ownName then .takenName else .unknownField name

/-- What is wrong with a key that is a text and names no field. -/
def nameProblem? : Option String → Option Problem
  | none => none
  | some s => if (Field.ofName? s).isNone then some (strangerProblem s) else none

/-- What is wrong with the keys of a mapping: the first that is no text comes before the first that
names no field. -/
def keyProblem? (entries : List (Value × Value)) : Option Problem :=
  (Value.firstOf textProblem? entries).or (Value.firstOf nameProblem? entries)

/-- Either a key is no text, or the keys are names, of which the first is reported that is that of
no field. -/
theorem keyNames?_cases (entries : List (Value × Value)) :
    Value.firstOf textProblem? entries = some .keyNotText ∧ keyNames? entries = none ∨
      Value.firstOf textProblem? entries = none ∧ ∃ names, keyNames? entries = some names ∧
        Value.firstOf nameProblem? entries =
          (names.find? fun n => (Field.ofName? n).isNone).map strangerProblem := by
  induction entries with
  | nil => exact Or.inr ⟨rfl, [], rfl, rfl⟩
  | cons e entries ih =>
    obtain ⟨key, v⟩ := e
    have hcons : ∀ t : Option String → Option Problem, Value.firstOf t ((key, v) :: entries) =
        (t key.name?).or (Value.firstOf t entries) := by
      intro t
      unfold Value.firstOf
      rw [List.findSome?_cons]
      cases t key.name? <;> rfl
    rw [hcons, hcons]
    cases hkey : key.name? with
    | none =>
      refine Or.inl ⟨rfl, keyNames?.eq_3 _ _ ?_⟩
      rintro s w ⟨rfl, rfl⟩
      cases hkey
    | some s =>
      obtain rfl := Value.name?_eq_some_iff.1 hkey
      rw [keyNames?]
      rcases ih with ⟨htext, hnames⟩ | ⟨htext, names, hnames, hfirst⟩
      · exact Or.inl ⟨htext, by rw [hnames]; rfl⟩
      · refine Or.inr ⟨htext, s :: names, by rw [hnames]; rfl, ?_⟩
        rw [hfirst, List.find?_cons, nameProblem?]
        cases (Field.ofName? s).isNone <;> rfl

/-- Whether there is a configuration is up to the keys, and then to the checks. -/
theorem ofEntries_eq (entries : List (Value × Value)) :
    ofEntries entries =
      match keyProblem? entries with
      | some p => .error p
      | none => (fill entries).check := by
  unfold ofEntries keyProblem?
  rcases keyNames?_cases entries with ⟨htext, hnames⟩ | ⟨htext, names, hnames, hfirst⟩
  · rw [htext, hnames]
    rfl
  · rw [htext, hnames, hfirst, Option.none_or]
    dsimp only
    cases names.find? fun n => (Field.ofName? n).isNone with
    | none => rfl
    | some name => rfl

/-- Mappings that are put together have the problems of their keys. -/
theorem keyProblem?_merge (first second : List (Value × Value)) :
    keyProblem? (Value.merge first second) = keyProblem? (first ++ second) := by
  unfold keyProblem?
  rw [Value.firstOf_merge, Value.firstOf_merge]

/-- There is nothing wrong with keys that name fields. -/
theorem keyProblem?_eq_none_iff :
    keyProblem? entries = none ↔ ∀ e ∈ entries, ∃ f : Field, e.1 = .text f.name := by
  unfold keyProblem?
  rw [Option.or_eq_none_iff, Value.firstOf_eq_none_iff, Value.firstOf_eq_none_iff]
  constructor
  · rintro ⟨htexts, hnames⟩ e he
    have htext := htexts e he
    have hname := hnames e he
    cases hkey : e.1.name? with
    | none =>
      rw [hkey] at htext
      cases htext
    | some s =>
      cases hfield : Field.ofName? s with
      | none => simp [hkey, nameProblem?, hfield] at hname
      | some f =>
        have hs : f.name = s := by
          unfold Field.ofName? at hfield
          simpa using List.find?_some hfield
        exact ⟨f, hs ▸ Value.name?_eq_some_iff.1 hkey⟩
  · intro h
    refine ⟨fun e he => ?_, fun e he => ?_⟩
    all_goals
      obtain ⟨f, hf⟩ := h e he
      rw [hf]
    · rfl
    · simp [Value.name?, nameProblem?, Field.ofName?_name]

/-- A field that is given has no part in what is wrong with the keys. -/
theorem keyProblem?_filter (f : Field) (entries : List (Value × Value)) :
    keyProblem? (entries.filter (!·.1.isText f.name)) = keyProblem? entries := by
  unfold keyProblem?
  rw [Value.firstOf_filter rfl, Value.firstOf_filter]
  simp [nameProblem?, Field.ofName?_name]

/-- A mapping is the configuration of its values just if its keys name fields and a board can honour
the values. -/
theorem ofEntries_eq_ok_iff :
    ofEntries entries = .ok c ↔
      (∀ e ∈ entries, ∃ f : Field, e.1 = .text f.name) ∧ c.Honoured ∧
        ∀ f : Field, c.value f = (Value.find? entries f.name).getD f.defaultValue := by
  have hfill : (∀ f : Field, c.value f = (Value.find? entries f.name).getD f.defaultValue) ↔
      c = fill entries := by
    obtain ⟨value⟩ := c
    rw [fill, mk.injEq, funext_iff]
  rw [hfill, ofEntries_eq, ← keyProblem?_eq_none_iff]
  cases keyProblem? entries with
  | some p => simp
  | none =>
    dsimp only
    rw [check_eq_ok_iff_honoured]
    constructor
    · rintro ⟨rfl, hhonoured⟩
      exact ⟨rfl, hhonoured, rfl⟩
    · rintro ⟨-, hhonoured, rfl⟩
      exact ⟨rfl, hhonoured⟩

/-- Two mappings together are the configuration of their values, the second winning, just if the
keys of both name fields and a board can honour the values. -/
theorem ofEntries_merge_eq_ok_iff (hsecond : Value.DistinctKeys second) :
    ofEntries (Value.merge first second) = .ok c ↔
      (∀ e ∈ first ++ second, ∃ f : Field, e.1 = .text f.name) ∧ c.Honoured ∧
        ∀ f : Field, c.value f =
          ((Value.find? second f.name).or (Value.find? first f.name)).getD f.defaultValue := by
  rw [ofEntries_eq_ok_iff, ← keyProblem?_eq_none_iff, keyProblem?_merge, keyProblem?_eq_none_iff]
  simp only [Value.find?_merge hsecond]

/-- The order of the entries of a mapping has no part in the configuration. -/
theorem ofEntries_congr {entries' : List (Value × Value)} (h : Value.DistinctKeys entries)
    (h' : Value.DistinctKeys entries') (hsame : ∀ e, e ∈ entries ↔ e ∈ entries') :
    ofEntries entries = .ok c ↔ ofEntries entries' = .ok c := by
  rw [ofEntries_eq_ok_iff, ofEntries_eq_ok_iff]
  simp only [hsame, Value.find?_congr h h' hsame]

/-- A field is found among the entries of a configuration. -/
theorem find?_entries (c : Config) (f : Field) :
    Value.find? c.entries f.name = some (c.value f) := by
  cases f <;> rfl

/-- A configuration that passes its checks is that of its own entries. -/
theorem ofEntries_entries (h : c.check = .ok c) : ofEntries c.entries = .ok c := by
  rw [ofEntries_eq_ok_iff]
  refine ⟨fun e he => ?_, (check_eq_ok_iff_honoured.1 h).2, fun f => ?_⟩
  · obtain ⟨f, -, rfl⟩ := List.mem_map.1 he
    exact ⟨f, rfl⟩
  · rw [find?_entries]
    rfl

end Config

namespace Pack

open Config (Field)

variable {doc board life board' life' entries : List (Value × Value)} {c : Config}

/-! ### Sections -/

/-- No mapping that is a value of a document has a key twice. -/
def Proper (doc : List (Value × Value)) : Prop := ∀ e ∈ doc, Value.DistinctKeys (entriesOf e.2)

instance (doc : List (Value × Value)) : Decidable (Proper doc) :=
  List.decidableBAll _ doc

/-- A document is refused, and not for want of a mapping in which sections can be looked for. -/
def SectionProblem.IsRefusal : SectionProblem Config.Problem → Prop
  | .notSearchable _ => False
  | .listHasNoNames => False
  | .textHasNoNames => False
  | _ => True

/-- The sections of a proper document have no key twice. -/
theorem Gives.distinct (h : Gives doc board life) (hdoc : Proper doc) :
    Value.DistinctKeys board ∧ Value.DistinctKeys life := by
  refine ⟨hdoc _ (Value.mem_of_find? h.board), ?_⟩
  rcases h.life with hlife | ⟨rfl, -⟩
  · exact hdoc _ (Value.mem_of_find? hlife)
  · exact .nil

/-- A document has no more than two sections. -/
theorem Gives.unique (h : Gives doc board life) (h' : Gives doc board' life') :
    board = board' ∧ life = life' := by
  refine ⟨Value.mapping.inj (Option.some.inj (h.board.symm.trans h'.board)), ?_⟩
  -- a mapping counts as false only if it is empty
  have hempty : ∀ entries, (Value.mapping entries).truthy = false → entries = [] := by
    intro entries hfalse
    simpa [Value.truthy] using hfalse
  rcases h.life with hlife | ⟨rfl, hfalse⟩ <;> rcases h'.life with hlife' | ⟨rfl, hfalse'⟩
  · exact Value.mapping.inj (Option.some.inj (hlife.symm.trans hlife'))
  · exact hempty _ (hfalse' _ hlife)
  · exact (hempty _ (hfalse _ hlife')).symm
  · rfl

/-- A document with two sections is the configuration of the two put together, if it is one. -/
theorem Gives.configOf_eq_ok_iff (h : Gives doc board life) :
    configOf (.mapping doc) = .ok c ↔ Config.ofEntries (Value.merge board life) = .ok c := by
  rw [h.configOf_eq]
  constructor
  · exact eq_ok_of_mapError_eq_ok
  · intro hc
    rw [hc]
    rfl

/-- A document that is a configuration has two sections. -/
theorem configOf_eq_ok_iff :
    configOf (.mapping doc) = .ok c ↔
      ∃ board life, Gives doc board life ∧ Config.ofEntries (Value.merge board life) = .ok c := by
  constructor
  · intro h
    rcases gives_or_refused doc with ⟨board, life, hgives⟩ | hrefused | hrefused | hrefused
    · exact ⟨board, life, hgives, hgives.configOf_eq_ok_iff.1 h⟩
    all_goals
      rw [hrefused] at h
      cases h
  · rintro ⟨board, life, h, hc⟩
    exact h.configOf_eq_ok_iff.2 hc

/-- A document that is a mapping makes a configuration, or it is refused. -/
theorem configOf_cases (doc : List (Value × Value)) :
    (∃ c, configOf (.mapping doc) = .ok c) ∨
      ∃ p : SectionProblem Config.Problem,
        configOf (.mapping doc) = .error p ∧ p.IsRefusal := by
  rcases gives_or_refused doc with ⟨board, life, hgives⟩ | hrefused | hrefused | hrefused
  · rw [hgives.configOf_eq]
    cases Config.ofEntries (Value.merge board life) with
    | error p => exact Or.inr ⟨.config p, rfl, trivial⟩
    | ok c => exact Or.inl ⟨c, rfl⟩
  all_goals exact Or.inr ⟨_, hrefused, trivial⟩

/-! ### Documents alike -/

/-- A field is given elsewhere, but not given otherwise: both sections have the same other entries,
and what the field is given by the two together is the same. -/
structure Moved (f : Field) (board life board' life' : List (Value × Value)) : Prop where
  boardRest : board'.filter (!·.1.isText f.name) = board.filter (!·.1.isText f.name)
  lifeRest : life'.filter (!·.1.isText f.name) = life.filter (!·.1.isText f.name)
  value : (Value.find? life' f.name).or (Value.find? board' f.name) =
    (Value.find? life f.name).or (Value.find? board f.name)

/-- A field of the second section may be given in the first. -/
theorem Moved.to_board {f : Field} {v : Value} (board : List (Value × Value))
    (hv : Value.find? life f.name = some v) :
    Moved f board life (Value.put board (.text f.name) v)
      (life.filter (!·.1.isText f.name)) := by
  refine ⟨Value.filter_put _ _ _, by simp only [List.filter_filter, Bool.and_self], ?_⟩
  rw [Value.find?_filter_self, Value.find?_put, if_pos (Value.isText_iff.2 rfl), hv]
  rfl

/-- A field of the first section may be given in the second, if it is not given there. -/
theorem Moved.to_life {f : Field} {v : Value} (hnone : Value.find? life f.name = none)
    (hv : Value.find? board f.name = some v) :
    Moved f board life (board.filter (!·.1.isText f.name))
      (Value.put life (.text f.name) v) := by
  refine ⟨by simp only [List.filter_filter, Bool.and_self], Value.filter_put _ _ _, ?_⟩
  rw [Value.find?_filter_self, Value.find?_put, if_pos (Value.isText_iff.2 rfl), hnone, hv]
  rfl

/-- A field that is moved between sections moves nothing else. -/
theorem Moved.ofEntries_eq {f : Field} (h : Moved f board life board' life')
    (hlife : Value.DistinctKeys life) (hlife' : Value.DistinctKeys life') :
    Config.ofEntries (Value.merge board' life') = Config.ofEntries (Value.merge board life) := by
  have hkeys : Config.keyProblem? (board' ++ life') = Config.keyProblem? (board ++ life) := by
    rw [← Config.keyProblem?_filter f, List.filter_append, h.boardRest, h.lifeRest,
      ← List.filter_append, Config.keyProblem?_filter]
  have hfill : Config.fill (Value.merge board' life') = Config.fill (Value.merge board life) := by
    unfold Config.fill
    congr 1
    funext g
    rw [Value.find?_merge hlife, Value.find?_merge hlife']
    by_cases hg : g = f
    · rw [hg, h.value]
    · have hname : f.name ≠ g.name := fun heq => hg (Field.name_injective heq).symm
      rw [← Value.find?_filter hname life', ← Value.find?_filter hname board', h.boardRest,
        h.lifeRest, Value.find?_filter hname, Value.find?_filter hname]
  rw [Config.ofEntries_eq, Config.ofEntries_eq, Config.keyProblem?_merge, Config.keyProblem?_merge,
    hkeys, hfill]

end Pack

open Pack in
open Config (Field) in
/-- A document that is a mapping makes a configuration or is refused.  It makes one just if the keys
of its sections name fields and a board can honour the values that the sections give, the second
winning, with the defaults for the rest: these are the values of the configuration.  So two
documents make the same if their sections, put together, have the same entries, and a field may be
moved between sections without a change even of the refusal.  A configuration that passes its checks
is made again of its own entries. -/
theorem honoured_documents {doc : List (Value × Value)} (hdoc : Proper doc) :
    ((∃ c, configOf (.mapping doc) = .ok c) ∨
      ∃ p : SectionProblem Config.Problem,
        configOf (.mapping doc) = .error p ∧ p.IsRefusal) ∧
    (∀ c, configOf (.mapping doc) = .ok c ↔
      ∃ board life, Gives doc board life ∧
        (∀ e ∈ board ++ life, ∃ f : Field, e.1 = .text f.name) ∧ c.Honoured ∧
        ∀ f : Field, c.value f =
          ((Value.find? life f.name).or (Value.find? board f.name)).getD f.defaultValue) ∧
    (∀ board life doc' board' life', Gives doc board life → Proper doc' →
      Gives doc' board' life' →
      ((∀ e, e ∈ Value.merge board life ↔ e ∈ Value.merge board' life') →
        ∀ c, configOf (.mapping doc) = .ok c ↔ configOf (.mapping doc') = .ok c) ∧
      ∀ f, Moved f board life board' life' →
        configOf (.mapping doc') = configOf (.mapping doc)) ∧
    ∀ c : Config, c.check = .ok c →
      configOf (.mapping [(.text boardSection, .mapping c.entries)]) = .ok c := by
  refine ⟨configOf_cases doc, fun c => ?_,
    fun board life doc' board' life' h hdoc' h' => ⟨fun hsame c => ?_, fun f hmoved => ?_⟩,
    fun c hcheck => ?_⟩
  · rw [configOf_eq_ok_iff]
    constructor
    · rintro ⟨board, life, h, hc⟩
      exact ⟨board, life, h, (Config.ofEntries_merge_eq_ok_iff (h.distinct hdoc).2).1 hc⟩
    · rintro ⟨board, life, h, hc⟩
      exact ⟨board, life, h, (Config.ofEntries_merge_eq_ok_iff (h.distinct hdoc).2).2 hc⟩
  · rw [h.configOf_eq_ok_iff, h'.configOf_eq_ok_iff]
    exact Config.ofEntries_congr ((h.distinct hdoc).1.merge life)
      ((h'.distinct hdoc').1.merge life') hsame
  · rw [h.configOf_eq, h'.configOf_eq, hmoved.ofEntries_eq (h.distinct hdoc).2
      (h'.distinct hdoc').2]
  · have hgives : Gives [(.text boardSection, .mapping c.entries)] c.entries [] :=
      ⟨rfl, Or.inr ⟨rfl, nofun⟩⟩
    exact hgives.configOf_eq_ok_iff.2 (Config.ofEntries_entries hcheck)

/-- A document of two sections. -/
def inSections (board life : List (Value × Value)) : List (Value × Value) :=
  [(.text Pack.boardSection, .mapping board), (.text Pack.lifeSection, .mapping life)]

/-- A section for the board, with a truth value for the width and a gene length. -/
def coppiceBoard : List (Value × Value) :=
  [(.text "width", .bool true), (.text "gene_length", .int 3)]

/-- A section for the life on the board, with another gene length. -/
def coppiceLife : List (Value × Value) :=
  [(.text "gene_length", .float (Double.ofRatio false 15 2)), (.text "food_growth_chance", .int 1)]

/-- The first section with the gene length of the second. -/
def clearedBoard : List (Value × Value) :=
  [(.text "width", .bool true), (.text "gene_length", .float (Double.ofRatio false 15 2))]

/-- The second section without a gene length. -/
def clearedLife : List (Value × Value) := [(.text "food_growth_chance", .int 1)]

/-- Both documents give the configuration with the second gene length, and so do its entries. -/
theorem coppice_honoured :
    Pack.Proper (inSections coppiceBoard coppiceLife) ∧
      ∃ c, Pack.configOf (.mapping (inSections coppiceBoard coppiceLife)) = .ok c ∧ c.Honoured ∧
        c.value .width = .bool true ∧ c.value .height = .int 50 ∧
        c.value .geneLength = .float (Double.ofRatio false 15 2) ∧
        Pack.configOf (.mapping (inSections clearedBoard clearedLife)) = .ok c ∧
        Pack.configOf (.mapping [(.text "grid", .mapping c.entries)]) = .ok c := by
  have hproper : Pack.Proper (inSections coppiceBoard coppiceLife) := by decide +kernel
  have hproper' : Pack.Proper (inSections clearedBoard clearedLife) := by decide +kernel
  have hgives : ∀ board life, Pack.Gives (inSections board life) board life := fun _ _ =>
    ⟨rfl, Or.inl rfl⟩
  have hmoved : Pack.Moved .geneLength coppiceBoard coppiceLife clearedBoard clearedLife :=
    .to_board (v := .float (Double.ofRatio false 15 2)) coppiceBoard rfl
  obtain ⟨hcases, hiff, hsame, hround⟩ := honoured_documents hproper
  obtain ⟨-, hsame⟩ := hsame _ _ _ _ _ (hgives coppiceBoard coppiceLife) hproper'
    (hgives clearedBoard clearedLife)
  have hloaded : (Pack.configOf (.mapping (inSections coppiceBoard coppiceLife))).toOption.isSome =
      true := by decide +kernel
  obtain ⟨c, hc⟩ := Option.isSome_iff_exists.1 hloaded
  rw [toOption_eq_some_iff] at hc
  obtain ⟨board, life, h, -, hhonoured, hvalue⟩ := (hiff c).1 hc
  obtain ⟨rfl, rfl⟩ := (hgives coppiceBoard coppiceLife).unique h
  exact ⟨hproper, c, hc, hhonoured, hvalue .width, hvalue .height, hvalue .geneLength,
    (hsame _ hmoved).trans hc, hround c (Pack.check_of_configOf hc)⟩

end Formicary
