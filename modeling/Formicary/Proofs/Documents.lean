import Formicary.Pack.Load
import Formicary.Proofs.Setup

/-!
# What comes of a document

A document is loaded in three steps: its data are read, they are checked against a schema if there
is one to check them against, and the configuration in their sections is made.  `Pack.Loads` has a
rule for each way in which that can end, in terms of what files, parsers and validators answer, of
which nothing is assumed.  Every document comes to one of these ends, and to no other
(`Pack.loadConfig_eq_iff`).
-/

namespace Formicary.Pack

variable {γ δ σ κ ε π : Type}

/-! ### Reading -/

/-- There is a document at a path: it can be looked up, its content can be read and parsed, and it
is a mapping. -/
structure Contains (w : Surroundings γ δ σ ε) (r : Reading δ κ π) (path : Path) (data : δ) :
    Prop where
  there : w.exists? path = .ok true
  parsed : w.content path >>= w.document path = .ok data
  mapping : r.isMapping data = true

/-- There is no document at a path. -/
inductive Unread (w : Surroundings γ δ σ ε) (r : Reading δ κ π) (path : Path) :
    Problem ε π → Prop
  | lookup {fault : Raised ε} (refused : w.exists? path = .error fault) :
      Unread w r path (.raised fault)
  | missing (absent : w.exists? path = .ok false) : Unread w r path (.notFound path)
  | malformed {cause : Option String} (there : w.exists? path = .ok true)
      (broken : w.content path >>= w.document path = .error (.malformed cause)) :
      Unread w r path (.malformed path cause)
  | fault {fault : Raised ε} (there : w.exists? path = .ok true)
      (met : w.content path >>= w.document path = .error fault)
      (other : ∀ cause, fault ≠ .malformed cause) : Unread w r path (.raised fault)
  | notMapping {data : δ} (there : w.exists? path = .ok true)
      (parsed : w.content path >>= w.document path = .ok data)
      (other : r.isMapping data = false) : Unread w r path (.notMapping path)

/-! ### Checking -/

/-- A schema is looked for in a file of the given directory, if its name is not empty. -/
def SchemaAt (schemas : Option String) (schemaAt : Path) : Prop :=
  ∃ directory, schemas = some directory ∧ directory ≠ "" ∧
    schemaAt = (Path.ofText directory).child "grid.schema.json"

/-- What comes of checking data against the schema in a file that is there. -/
def verdict (w : Surroundings γ δ σ ε) (schemaAt : Path) (data : δ) : Except (Raised ε) Unit := do
  let s ← w.content schemaAt >>= w.schema
  w.validate s data

/-- Data pass: no schema is looked for, or there is none, or they conform to it. -/
inductive Passes (w : Surroundings γ δ σ ε) (schemas : Option String) (data : δ) : Prop
  | unasked (nowhere : ∀ schemaAt, ¬ SchemaAt schemas schemaAt)
  | skipped {schemaAt : Path} (place : SchemaAt schemas schemaAt)
      (absent : w.exists? schemaAt = .ok false)
  | valid {schemaAt : Path} (place : SchemaAt schemas schemaAt)
      (there : w.exists? schemaAt = .ok true) (conforms : verdict w schemaAt data = .ok ())

/-- Data of a source do not pass. -/
inductive Rejected (w : Surroundings γ δ σ ε) (schemas : Option String) (data : δ)
    (source : Path) : Problem ε π → Prop
  | lookup {schemaAt : Path} {fault : Raised ε} (place : SchemaAt schemas schemaAt)
      (refused : w.exists? schemaAt = .error fault) :
      Rejected w schemas data source (.raised fault)
  | broken {schemaAt : Path} {cause : Option String} (place : SchemaAt schemas schemaAt)
      (there : w.exists? schemaAt = .ok true)
      (met : verdict w schemaAt data = .error (.notJson cause)) :
      Rejected w schemas data source (.brokenSchema schemaAt cause)
  | violation {schemaAt : Path} {cause : String} (place : SchemaAt schemas schemaAt)
      (there : w.exists? schemaAt = .ok true)
      (met : verdict w schemaAt data = .error (.violation cause)) :
      Rejected w schemas data source (.violation source cause)
  | fault {schemaAt : Path} {fault : Raised ε} (place : SchemaAt schemas schemaAt)
      (there : w.exists? schemaAt = .ok true)
      (met : verdict w schemaAt data = .error fault)
      (json : ∀ cause, fault ≠ .notJson cause) (valid : ∀ cause, fault ≠ .violation cause) :
      Rejected w schemas data source (.raised fault)

/-! ### Loading -/

/-- What comes of the document at a path. -/
inductive Loads (w : Surroundings γ δ σ ε) (r : Reading δ κ π) (path : Path)
    (schemas : Option String) : Except (Problem ε π) κ → Prop
  | unread {e : Problem ε π} (none : Unread w r path e) : Loads w r path schemas (.error e)
  | rejected {data : δ} {e : Problem ε π} (document : Contains w r path data)
      (rejected : Rejected w schemas data path e) : Loads w r path schemas (.error e)
  | invalid {data : δ} {problem : SectionProblem π} (document : Contains w r path data)
      (passes : Passes w schemas data) (invalid : r.configOf data = .error problem) :
      Loads w r path schemas (.error (.sections path problem))
  | loaded {data : δ} {c : κ} (document : Contains w r path data)
      (passes : Passes w schemas data) (valid : r.configOf data = .ok c) :
      Loads w r path schemas (.ok c)

variable {w : Surroundings γ δ σ ε} {r : Reading δ κ π} {path schemaAt : Path}
  {schemas : Option String} {data : δ} {e : Problem ε π} {fault : Raised ε}

/-- An answer is told as it is. -/
theorem isPresent_of_exists? {answer : Bool} (h : w.exists? path = .ok answer) :
    isPresent (π := π) w path = .ok answer := by
  unfold isPresent
  rw [h]
  rfl

/-- And so is a fault. -/
theorem isPresent_of_fault (h : w.exists? path = .error fault) :
    isPresent (π := π) w path = .error (.raised fault) := by
  unfold isPresent
  rw [h]
  rfl

/-- What is there is opened and parsed, and has to be a mapping. -/
theorem readDocument_of_there (there : w.exists? path = .ok true) :
    readDocument w r path =
      (w.content path >>= w.document path).mapError (·.inDocument path) >>= fun data =>
        if r.isMapping data then .ok data else .error (.notMapping path) := by
  unfold readDocument
  rw [isPresent_of_exists? there]
  rfl

/-- The document at a path is read. -/
theorem Contains.readDocument_eq (h : Contains w r path data) :
    readDocument w r path = .ok data := by
  rw [readDocument_of_there h.there, h.parsed]
  exact if_pos h.mapping

/-- Nothing else is read. -/
theorem Unread.readDocument_eq (h : Unread w r path e) : readDocument w r path = .error e := by
  cases h with
  | lookup refused =>
    unfold readDocument
    rw [isPresent_of_fault refused]
    rfl
  | missing absent =>
    unfold readDocument
    rw [isPresent_of_exists? absent]
    rfl
  | malformed there broken =>
    rw [readDocument_of_there there, broken]
    rfl
  | @fault fault there met other =>
    rw [readDocument_of_there there, met]
    cases fault with
    | malformed cause => exact absurd rfl (other cause)
    | _ => rfl
  | notMapping there parsed other =>
    rw [readDocument_of_there there, parsed]
    exact if_neg (Bool.eq_false_iff.1 other)

/-- There is a document at a path, or there is none. -/
theorem contains_or_unread (w : Surroundings γ δ σ ε) (r : Reading δ κ π) (path : Path) :
    (∃ data, Contains w r path data) ∨ ∃ e, Unread w r path e := by
  cases hanswer : w.exists? path with
  | error fault => exact .inr ⟨_, .lookup hanswer⟩
  | ok answer =>
    cases answer with
    | false => exact .inr ⟨_, .missing hanswer⟩
    | true =>
      cases hparsed : w.content path >>= w.document path with
      | error fault =>
        cases fault with
        | malformed cause => exact .inr ⟨_, .malformed hanswer hparsed⟩
        | _ => exact .inr ⟨_, .fault hanswer hparsed nofun⟩
      | ok data =>
        cases hmapping : r.isMapping data with
        | false => exact .inr ⟨_, .notMapping hanswer hparsed hmapping⟩
        | true => exact .inl ⟨data, hanswer, hparsed, hmapping⟩

/-- The data that are read from a path are those of the document there. -/
theorem readDocument_eq_ok_iff : readDocument w r path = .ok data ↔ Contains w r path data := by
  constructor
  · intro h
    rcases contains_or_unread w r path with ⟨data', hdata⟩ | ⟨e, hnone⟩
    · rw [hdata.readDocument_eq, Except.ok.injEq] at h
      exact h ▸ hdata
    · rw [hnone.readDocument_eq] at h
      cases h
  · exact Contains.readDocument_eq

/-- The check of data against the schema that is looked for. -/
def checked (w : Surroundings γ δ σ ε) (schemas : Option String) (data : δ) (source : Path) :
    Except (Problem ε π) Unit :=
  (schemaPath? schemas).elim (.ok ()) fun schemaAt => checkSchema w data schemaAt source

/-- Where a schema is looked for. -/
theorem schemaPath?_eq_some_iff :
    schemaPath? schemas = some schemaAt ↔ SchemaAt schemas schemaAt := by
  unfold SchemaAt
  cases schemas with
  | none => simp [schemaPath?]
  | some directory =>
    unfold schemaPath?
    split
    · simp_all
    · simp_all [schemaFile, eq_comm]

/-- Nothing is checked without a place to look for a schema. -/
theorem checked_of_nowhere (h : ∀ schemaAt, ¬ SchemaAt schemas schemaAt) :
    checked (π := π) w schemas data path = .ok () := by
  have hnone : schemaPath? schemas = none :=
    Option.eq_none_iff_forall_ne_some.2 fun s hs => h s (schemaPath?_eq_some_iff.1 hs)
  unfold checked
  rw [hnone]
  rfl

/-- Data are checked against the schema at its place. -/
theorem checked_of_place (place : SchemaAt schemas schemaAt) :
    checked (π := π) w schemas data path = checkSchema w data schemaAt path := by
  unfold checked
  rw [schemaPath?_eq_some_iff.2 place]
  rfl

/-- Nothing is checked if there is no schema at its place. -/
theorem checked_of_absent (place : SchemaAt schemas schemaAt)
    (absent : w.exists? schemaAt = .ok false) :
    checked (π := π) w schemas data path = .ok () := by
  rw [checked_of_place place]
  unfold checkSchema
  rw [isPresent_of_exists? absent]
  rfl

/-- What is met with a schema that is there is told. -/
theorem checked_of_there (place : SchemaAt schemas schemaAt)
    (there : w.exists? schemaAt = .ok true) :
    checked (π := π) w schemas data path =
      (verdict w schemaAt data).mapError (·.inCheck schemaAt path) := by
  rw [checked_of_place place]
  unfold checkSchema
  rw [isPresent_of_exists? there]
  rfl

/-- Data that pass are not held back. -/
theorem Passes.checked_eq (h : Passes w schemas data) :
    checked (π := π) w schemas data path = .ok () := by
  cases h with
  | unasked nowhere => exact checked_of_nowhere nowhere
  | skipped place absent => exact checked_of_absent place absent
  | valid place there conforms =>
    rw [checked_of_there place there, conforms]
    rfl

/-- Data that do not pass are. -/
theorem Rejected.checked_eq (h : Rejected w schemas data path e) :
    checked w schemas data path = .error e := by
  cases h with
  | lookup place refused =>
    rw [checked_of_place place]
    unfold checkSchema
    rw [isPresent_of_fault refused]
    rfl
  | broken place there met =>
    rw [checked_of_there place there, met]
    rfl
  | violation place there met =>
    rw [checked_of_there place there, met]
    rfl
  | @fault schemaAt fault place there met json valid =>
    rw [checked_of_there place there, met]
    cases fault with
    | notJson cause => exact absurd rfl (json cause)
    | violation cause => exact absurd rfl (valid cause)
    | _ => rfl

/-- Data pass, or they do not. -/
theorem passes_or_rejected (w : Surroundings γ δ σ ε) (schemas : Option String) (data : δ)
    (path : Path) : Passes w schemas data ∨ ∃ e : Problem ε π, Rejected w schemas data path e := by
  by_cases hplace : ∃ schemaAt, SchemaAt schemas schemaAt
  · obtain ⟨schemaAt, place⟩ := hplace
    cases hanswer : w.exists? schemaAt with
    | error fault => exact .inr ⟨_, .lookup place hanswer⟩
    | ok answer =>
      cases answer with
      | false => exact .inl (.skipped place hanswer)
      | true =>
        cases hmet : verdict w schemaAt data with
        | error fault =>
          cases fault with
          | notJson cause => exact .inr ⟨_, .broken place hanswer hmet⟩
          | violation cause => exact .inr ⟨_, .violation place hanswer hmet⟩
          | _ => exact .inr ⟨_, .fault place hanswer hmet nofun nofun⟩
        | ok done => exact .inl (.valid place hanswer hmet)
  · exact .inl (.unasked fun schemaAt place => hplace ⟨schemaAt, place⟩)

/-- The steps of loading in a row. -/
theorem loadConfig_eq :
    loadConfig w r path schemas = readDocument w r path >>= fun data =>
      checked w schemas data path >>= fun _ => (r.configOf data).mapError (.sections path) := by
  unfold loadConfig
  refine congrArg (readDocument w r path >>= ·) (funext fun data => ?_)
  unfold checked
  cases schemaPath? schemas <;> rfl

/-- The configuration of data that pass is made of their sections. -/
theorem loadConfig_of_passes (document : Contains w r path data) (passes : Passes w schemas data) :
    loadConfig w r path schemas = (r.configOf data).mapError (.sections path) := by
  rw [loadConfig_eq, document.readDocument_eq]
  change checked w schemas data path >>= _ = _
  rw [passes.checked_eq]
  rfl

/-- What comes of a document is what loading gives. -/
theorem Loads.loadConfig_eq {result : Except (Problem ε π) κ} (h : Loads w r path schemas result) :
    loadConfig w r path schemas = result := by
  cases h with
  | unread none =>
    rw [Pack.loadConfig_eq, none.readDocument_eq]
    rfl
  | rejected document rejected =>
    rw [Pack.loadConfig_eq, document.readDocument_eq]
    change checked w schemas _ path >>= _ = _
    rw [rejected.checked_eq]
    rfl
  | invalid document passes invalid =>
    rw [loadConfig_of_passes document passes, invalid]
    rfl
  | loaded document passes valid =>
    rw [loadConfig_of_passes document passes, valid]
    rfl

/-- Something comes of every document. -/
theorem exists_loads (w : Surroundings γ δ σ ε) (r : Reading δ κ π) (path : Path)
    (schemas : Option String) : ∃ result, Loads w r path schemas result := by
  rcases contains_or_unread w r path with ⟨data, document⟩ | ⟨e, none⟩
  · rcases passes_or_rejected w schemas data path with passes | ⟨e, rejected⟩
    · cases hconfig : r.configOf data with
      | error problem => exact ⟨_, .invalid document passes hconfig⟩
      | ok c => exact ⟨_, .loaded document passes hconfig⟩
    · exact ⟨_, .rejected document rejected⟩
  · exact ⟨_, .unread none⟩

/-- Loading gives what comes of a document. -/
theorem loadConfig_eq_iff {result : Except (Problem ε π) κ} :
    loadConfig w r path schemas = result ↔ Loads w r path schemas result := by
  constructor
  · rintro rfl
    obtain ⟨result, h⟩ := exists_loads w r path schemas
    rwa [h.loadConfig_eq]
  · exact Loads.loadConfig_eq

end Formicary.Pack
