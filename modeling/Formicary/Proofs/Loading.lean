import Formicary.Pack.Surroundings
import Formicary.Proofs.Documents

/-!
# Two ways to load a document

A document can be loaded by its own path, with the directory in which schemas are looked for, or as
that of a pack, where by default the schemas are looked for in the pack itself.  The pack adds a
question to the steps that both go through: whether it has a directory of schemas
(`Pack.effectiveSchemas_eq`).  If the question is answered, the steps are the same from then on, and
so is what comes of them (`Pack.load_eq`): what `Pack.Loads` says of the document.

Nothing is assumed of the files, of what parses their texts and of what checks the data.  So the
question of the pack may also be met with a fault, as when a name on its path is too long or a
directory must not be searched.  Then the pack is not loaded, whatever becomes of its document.
-/

namespace Formicary

/-! ### Results with names -/

section

variable {ε α β γ : Type} {x : Except ε α} {step : α → Except ε β} {name : α → β → γ}

/-- What two steps give is named after what the first has given. -/
theorem bind_map_eq_ok_iff {r : γ} :
    (x >>= fun a => (step a).map (name a)) = .ok r ↔
      ∃ a b, x = .ok a ∧ step a = .ok b ∧ r = name a b := by
  constructor
  · intro h
    obtain ⟨a, hx, hmap⟩ := exists_of_bind_eq_ok h
    cases hstep : step a with
    | error e => rw [hstep] at hmap; cases hmap
    | ok b =>
      rw [hstep] at hmap
      cases hmap
      exact ⟨a, b, hx, hstep, rfl⟩
  · rintro ⟨a, b, rfl, hstep, rfl⟩
    change (step a).map (name a) = _
    rw [hstep]
    rfl

/-- Two steps fail alike whatever their result is named. -/
theorem bind_map_eq_error_iff {e : ε} :
    (x >>= fun a => (step a).map (name a)) = .error e ↔ x >>= step = .error e := by
  cases x with
  | error e' => simp only [bind, Except.bind, Except.error.injEq]
  | ok a =>
    change (step a).map (name a) = _ ↔ step a = _
    cases step a with
    | error e' => simp only [Except.map, Except.error.injEq]
    | ok b => exact ⟨nofun, nofun⟩

end

namespace Pack

variable {γ δ σ κ ε π : Type} {w : Surroundings γ δ σ ε} {r : Reading δ κ π} {path root : Path}
  {schemas : Option String} {fault : Raised ε}

/-! ### Where schemas are looked for -/

/-- Where the schemas for a pack are looked for, if that can be told: in the given directory, and
without one in that of the pack if it is there. -/
def schemasFor (w : Surroundings γ δ σ ε) (root : Path) : Option String → Option String
  | some directory => some directory
  | none =>
    match w.exists? (root.child schemaDirectory) with
    | .ok true => some (root.child schemaDirectory).text
    | _ => none

/-- It cannot be told where to look for schemas: none are given, and the question whether the pack
has some is met with a fault. -/
def Puzzled (w : Surroundings γ δ σ ε) (root : Path) (schemas : Option String)
    (fault : Raised ε) : Prop :=
  schemas = none ∧ w.exists? (root.child schemaDirectory) = .error fault

/-- If there is an answer, it can be told where to look for schemas. -/
theorem not_puzzled {answer : Bool} (h : w.exists? (root.child schemaDirectory) = .ok answer) :
    ∀ fault, ¬ Puzzled w root schemas fault := by
  rintro fault ⟨-, hfault⟩
  rw [h] at hfault
  cases hfault

/-- A pack is asked for its schemas, and there is an answer unless there is a fault. -/
theorem effectiveSchemas_eq (h : ∀ fault, ¬ Puzzled w root schemas fault) :
    effectiveSchemas (π := π) w root schemas = .ok (schemasFor w root schemas) := by
  cases schemas with
  | some directory => rfl
  | none =>
    unfold effectiveSchemas schemasFor
    cases hanswer : w.exists? (root.child schemaDirectory) with
    | error fault => exact absurd ⟨rfl, hanswer⟩ (h fault)
    | ok answer =>
      simp only [isPresent_of_exists? hanswer, bind, Except.bind]
      cases answer <;> rfl

/-! ### The steps in a row -/

/-- The name that data give a pack. -/
def nameOf (r : Reading δ κ π) (data : δ) : δ := (r.find? data "name").getD (r.text documentName)

/-- If it can be told where the schemas are looked for, the steps are those that a document goes
through, and in the end the pack gets its name. -/
theorem load_eq (h : ∀ fault, ¬ Puzzled w root schemas fault) :
    load w r root schemas = readDocument w r (documentPath root) >>= fun data =>
      (checked w (schemasFor w root schemas) data (documentPath root) >>= fun _ =>
        (r.configOf data).mapError (.sections (documentPath root))).map
          fun c => ⟨c, nameOf r data⟩ := by
  unfold load
  rw [effectiveSchemas_eq h]
  refine congrArg (readDocument w r (documentPath root) >>= ·) (funext fun data => ?_)
  have hnamed : ∀ x : Except (SectionProblem π) κ,
      ((x.mapError (Problem.sections (documentPath root))).bind fun c =>
        (.ok ⟨c, nameOf r data⟩ : Except (Problem ε π) (Pack κ δ))) =
      (x.mapError (Problem.sections (documentPath root))).map fun c => ⟨c, nameOf r data⟩ := by
    intro x
    cases x <;> rfl
  unfold checked
  cases schemaPath? (schemasFor w root schemas) with
  | none => exact hnamed (r.configOf data)
  | some schemaAt =>
    change (checkSchema w data schemaAt (documentPath root)).bind _ =
      Except.map _ ((checkSchema w data schemaAt (documentPath root)).bind _)
    cases checkSchema w data schemaAt (documentPath root) with
    | error e => rfl
    | ok done => exact hnamed (r.configOf data)

/-- A document of which nothing can be told is not loaded. -/
theorem loadConfig_of_fault (h : w.exists? path = .error fault) :
    loadConfig w r path schemas = .error (.raised fault) :=
  loadConfig_eq_iff.2 (.unread (.lookup h))

/-- Without an answer there are no schemas to look for. -/
theorem Puzzled.schemasFor_eq (h : Puzzled w root schemas fault) :
    schemasFor w root schemas = none := by
  obtain ⟨rfl, hfault⟩ := h
  unfold schemasFor
  rw [hfault]

/-- A pack of which it cannot be told where its schemas are is not loaded. -/
theorem Puzzled.load_eq (h : Puzzled w root schemas fault) :
    load w r root schemas = .error (.raised fault) := by
  obtain ⟨rfl, hfault⟩ := h
  unfold load effectiveSchemas
  simp only [isPresent_of_fault hfault, bind, Except.bind]

end Pack

/-! ### Paths that are too long -/

/-- Below a name that is too long nothing can be looked for. -/
theorem Files.entry_of_long {f : Files} {name : String} {rest : List String}
    (hhere : f.entryAt [] = .directory)
    (hcodes : (Text.codes (Path.text ⟨"", name :: rest⟩)).all Text.isFileCode = true)
    (hparent : name ≠ Path.parent) (hlong : nameLimit < Text.fileSize name) :
    f.entry ⟨"", name :: rest⟩ = .nameTooLong := by
  have hfollow : f.follow [] (name :: rest) = .nameTooLong := by
    unfold follow
    rw [List.reverse_nil, hhere]
    dsimp only
    rw [if_neg hparent, if_pos hlong]
  unfold entry
  rw [hcodes, if_neg (by decide)]
  split
  · rfl
  · exact hfollow

/-- What is at a path that is too long cannot be told. -/
theorem Pack.exists?_of_nameTooLong {files : Files} {path : Path}
    (h : files.entry path = .nameTooLong) :
    (Surroundings.ofFiles files).exists? path = .error (.other (.nameTooLong path)) := by
  unfold Surroundings.ofFiles
  simp only [h]

/-! ### Packs among files -/

/-- The path of a pack. -/
def packPath : Path := ⟨"", ["pack"]⟩

/-- A pack without schemas. -/
def brief : Files := Files.empty.write (Pack.documentPath packPath) "name: brief\ngrid: \x7b\x7d\n"

/-- The pack with a schema that it does not conform to. -/
def strict : Files :=
  brief.write ((packPath.child Pack.schemaDirectory).child Pack.schemaFile)
    "\x7b\"required\": [\"lifecycle\"]\x7d"

/-- A name of one byte more than names may have. -/
def longName : String := String.ofList (List.replicate 256 'b')

/-- A path whose only name is too long. -/
def longPath : Path := ⟨"", [longName]⟩

/-- The code points of a path that begins with the long name. -/
theorem codes_longName (rest : String) :
    Text.codes (longName ++ rest) = List.replicate 256 98 ++ Text.codes rest := by
  have hcodes : ∀ n, Text.codesAfter false (List.replicate n 'b' ++ rest.toList) =
      List.replicate n 98 ++ Text.codesAfter false rest.toList := by
    intro n
    induction n with
    | zero => rfl
    | succ n ih =>
      rw [List.replicate_succ, List.replicate_succ, List.cons_append, List.cons_append, ← ih]
      rfl
  unfold Text.codes longName
  rw [String.toList_append, String.toList_ofList, hcodes]

/-- The path of the schemas of the pack at the long path. -/
theorem text_schemas_longPath :
    (longPath.child Pack.schemaDirectory).text = longName ++ ("/" ++ "schemas") := by
  simp [Path.text, Path.child, longPath, Pack.schemaDirectory, String.append_assoc]

/-- The path of its document. -/
theorem text_document_longPath :
    (Pack.documentPath longPath).text = longName ++ ("/" ++ "grid/default.yaml") := by
  simp [Path.text, Path.child, longPath, Pack.documentPath, Pack.documentDirectory,
    Pack.documentName, String.append_assoc]

/-- Nothing is found below the long name. -/
theorem entry_longName {names : List String}
    (hcodes : (Text.codes (Path.text ⟨"", longName :: names⟩)).all Text.isFileCode = true) :
    Files.empty.entry ⟨"", longName :: names⟩ = .nameTooLong := by
  have hsize : Text.fileSize longName = 256 := by
    unfold Text.fileSize Text.codes longName
    rw [String.toList_ofList]
    decide +kernel
  apply Files.entry_of_long rfl hcodes
  · rintro hparent
    rw [hparent] at hsize
    exact absurd hsize (by decide +kernel)
  · rw [hsize]
    decide

open Pack in
/-- Neither the schemas nor the document at the long path can be looked up. -/
theorem exists?_longPath :
    (Surroundings.ofFiles Files.empty).exists? (longPath.child schemaDirectory) =
        .error (.other (.nameTooLong (longPath.child schemaDirectory))) ∧
      (Surroundings.ofFiles Files.empty).exists? (documentPath longPath) =
        .error (.other (.nameTooLong (documentPath longPath))) := by
  constructor
  · refine exists?_of_nameTooLong (entry_longName ?_)
    change (Text.codes (longPath.child schemaDirectory).text).all _ = true
    rw [text_schemas_longPath, codes_longName]
    decide +kernel
  · refine exists?_of_nameTooLong (entry_longName ?_)
    change (Text.codes (documentPath longPath).text).all _ = true
    rw [text_document_longPath, codes_longName]
    decide +kernel

open Pack in
/-- A pack is loaded just if its document is, with the schemas looked for where those for the pack
are: its configuration is that of the document, and its name is the one that the document gives or
else `default`.  If one of them fails so does the other, and for the same reason.  But if none are
given and the question whether the pack has schemas is met with a fault, then the pack fails with
it; the document fails with its own fault if the question whether it is there is met with one.  What
comes of a document by itself is what `Loads` says. -/
theorem pack_loads_as_its_document {γ δ σ κ ε π : Type} (w : Surroundings γ δ σ ε)
    (r : Reading δ κ π) (root : Path) (schemas : Option String) :
    ((∀ fault, ¬ Puzzled w root schemas fault) →
      (∀ pack, load w r root schemas = .ok pack ↔
        loadConfig w r (documentPath root) (schemasFor w root schemas) = .ok pack.config ∧
          ∃ data, Contains w r (documentPath root) data ∧
            pack.name = (r.find? data "name").getD (r.text "default")) ∧
        ((∃ pack, load w r root schemas = .ok pack) ↔
          ∃ c, loadConfig w r (documentPath root) (schemasFor w root schemas) = .ok c) ∧
        ∀ e, load w r root schemas = .error e ↔
          loadConfig w r (documentPath root) (schemasFor w root schemas) = .error e) ∧
      (∀ fault, Puzzled w root schemas fault →
        load w r root schemas = .error (.raised fault) ∧
          ∀ fault', w.exists? (documentPath root) = .error fault' →
            loadConfig w r (documentPath root) (schemasFor w root schemas) =
              .error (.raised fault')) ∧
      ∀ result, loadConfig w r (documentPath root) (schemasFor w root schemas) = result ↔
        Loads w r (documentPath root) (schemasFor w root schemas) result := by
  refine ⟨fun hplain => ?_, fun fault hpuzzled =>
    ⟨hpuzzled.load_eq, fun fault' => loadConfig_of_fault⟩, fun result => loadConfig_eq_iff⟩
  have hok : ∀ pack, load w r root schemas = .ok pack ↔
      loadConfig w r (documentPath root) (schemasFor w root schemas) = .ok pack.config ∧
        ∃ data, Contains w r (documentPath root) data ∧
          pack.name = (r.find? data "name").getD (r.text "default") := by
    intro pack
    rw [Pack.load_eq hplain, bind_map_eq_ok_iff, Pack.loadConfig_eq]
    constructor
    · rintro ⟨data, c, hread, hchecked, rfl⟩
      rw [hread]
      exact ⟨hchecked, data, readDocument_eq_ok_iff.1 hread, rfl⟩
    · rintro ⟨hconfig, data, hdata, hname⟩
      rw [hdata.readDocument_eq] at hconfig ⊢
      have hpack : pack = ⟨pack.config, nameOf r data⟩ := by
        rw [nameOf, documentName, ← hname]
      exact ⟨data, pack.config, rfl, hconfig, hpack⟩
  refine ⟨hok, ⟨?_, ?_⟩, fun e => ?_⟩
  · rintro ⟨pack, hload⟩
    exact ⟨pack.config, ((hok pack).1 hload).1⟩
  · rintro ⟨c, hconfig⟩
    cases loadConfig_eq_iff.1 hconfig with
    | @loaded data _ document passes valid =>
      exact ⟨⟨c, nameOf r data⟩, (hok _).2 ⟨hconfig, data, document, rfl⟩⟩
  · rw [Pack.load_eq hplain, Pack.loadConfig_eq]
    exact bind_map_eq_error_iff

open Pack in
/-- The pack without schemas is loaded as its document is, with the name that the document gives.
The pack with a schema fails for the same reason as its document, and of the pack whose path is too
long another path is told than of its document. -/
theorem brief_loads :
    (∃ pack, load (.ofFiles brief) Reading.ofValues packPath none = .ok pack ∧
      loadConfig (.ofFiles brief) Reading.ofValues (documentPath packPath) none =
        .ok pack.config ∧ pack.name = .text "brief") ∧
      (∃ e, load (.ofFiles strict) Reading.ofValues packPath none = .error e ∧
        loadConfig (.ofFiles strict) Reading.ofValues (documentPath packPath)
          (some "pack/schemas") = .error e ∧
        e.message =
          "Validation error in pack/grid/default.yaml: 'lifecycle' is a required property") ∧
      load (.ofFiles .empty) Reading.ofValues longPath none =
        .error (.raised (.other (.nameTooLong (longPath.child schemaDirectory)))) ∧
      loadConfig (.ofFiles .empty) Reading.ofValues (documentPath longPath) none =
        .error (.raised (.other (.nameTooLong (documentPath longPath)))) := by
  refine ⟨?_, ?_, ?_⟩
  · have hentry : brief.entry (packPath.child schemaDirectory) = .missing := by decide +kernel
    have hanswer : (Surroundings.ofFiles brief).exists? (packPath.child schemaDirectory) =
        .ok false := by
      unfold Surroundings.ofFiles
      simp only [hentry]
    have hnone : schemasFor (Surroundings.ofFiles brief) packPath none = none := by
      unfold schemasFor
      rw [hanswer]
    have hname : (load (.ofFiles brief) Reading.ofValues packPath none).toOption.map (·.name) =
        some (.text "brief") := by decide +kernel
    obtain ⟨pack, hpack, hname⟩ := Option.map_eq_some_iff.1 hname
    rw [toOption_eq_some_iff] at hpack
    obtain ⟨hok, -⟩ := (pack_loads_as_its_document (.ofFiles brief) Reading.ofValues
      packPath none).1 (not_puzzled hanswer)
    exact ⟨pack, hpack, hnone ▸ ((hok pack).1 hpack).1, hname⟩
  · have hentry : strict.entry (packPath.child schemaDirectory) = .directory := by decide +kernel
    have hanswer : (Surroundings.ofFiles strict).exists? (packPath.child schemaDirectory) =
        .ok true := by
      unfold Surroundings.ofFiles
      simp only [hentry]
    have hown : schemasFor (Surroundings.ofFiles strict) packPath none = some "pack/schemas" := by
      have htext : (packPath.child schemaDirectory).text = "pack/schemas" := by decide +kernel
      unfold schemasFor
      rw [hanswer, ← htext]
    have hmessage : (match load (.ofFiles strict) Reading.ofValues packPath none with
        | .ok _ => ""
        | .error e => e.message) =
          "Validation error in pack/grid/default.yaml: 'lifecycle' is a required property" := by
      decide +kernel
    obtain ⟨-, -, herror⟩ := (pack_loads_as_its_document (.ofFiles strict) Reading.ofValues
      packPath none).1 (not_puzzled hanswer)
    cases hload : load (.ofFiles strict) Reading.ofValues packPath none with
    | ok pack =>
      rw [hload] at hmessage
      exact absurd hmessage (by simp only [String.reduceEq, not_false_eq_true])
    | error e =>
      rw [hload] at hmessage
      exact ⟨e, rfl, hown ▸ (herror e).1 hload, hmessage⟩
  · obtain ⟨hschemas, hdocument⟩ := exists?_longPath
    have hpuzzled : Puzzled (Surroundings.ofFiles .empty) longPath none _ := ⟨rfl, hschemas⟩
    obtain ⟨hload, hconfig⟩ :=
      (pack_loads_as_its_document (.ofFiles .empty) Reading.ofValues longPath none).2.1 _ hpuzzled
    exact ⟨hload, hpuzzled.schemasFor_eq ▸ hconfig _ hdocument⟩

open Pack in
/-- A pack and its document do not always fail with the same message: nothing can be looked up at a
path that is too long, and the pack tells that of its schemas. -/
theorem longPath_told_twice :
    ¬ ∀ (files : Files) (root : Path) (schemas : Option String)
      (e : Problem Uncaught Config.Problem),
      load (.ofFiles files) Reading.ofValues root schemas = .error e →
        ∃ e', loadConfig (.ofFiles files) Reading.ofValues (documentPath root)
          (schemasFor (.ofFiles files) root schemas) = .error e' ∧ e'.message = e.message := by
  intro h
  obtain ⟨hschemas, hdocument⟩ := exists?_longPath
  have hpuzzled : Puzzled (Surroundings.ofFiles .empty) longPath none _ := ⟨rfl, hschemas⟩
  obtain ⟨e, hconfig, hmessage⟩ := h _ _ _ _ hpuzzled.load_eq
  rw [loadConfig_of_fault hdocument] at hconfig
  cases hconfig
  have htold : ∀ path, Problem.message (.raised (.other (.nameTooLong path))) =
      "[Errno 36] File name too long: " ++ Text.quoted path.text := fun _ => rfl
  rw [htold, htold, String.append_right_inj] at hmessage
  -- the quoted paths differ in length
  have hlength := congrArg (fun t : String => t.toList.length) hmessage
  have hquote : Text.quoteFor (List.replicate 256 98 ++ Text.codes ("/" ++ "schemas")) = '\'' ∧
      Text.quoteFor (List.replicate 256 98 ++ Text.codes ("/" ++ "grid/default.yaml")) = '\'' := by
    decide +kernel
  simp only [Text.quoted, text_schemas_longPath, text_document_longPath, codes_longName,
    hquote.1, hquote.2, String.toList_ofList, List.flatMap_append, List.length_cons,
    List.length_append, Nat.add_right_cancel_iff, Nat.add_left_cancel_iff] at hlength
  exact absurd hlength (by decide +kernel)

end Formicary
