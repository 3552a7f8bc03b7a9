import Formicary.Proofs.Packs

/-!
# From the schema to the configuration

A document is looked at twice: the schema judges its sections, and the configuration checks the
values that they give.  The two were written independently, and they agree.  The keys of accepted
sections name fields, and the schema of a field bounds its value just as the check does, be it an
integer or a double without a fraction (`Pack.atMostZero_of_accepts`).

They part at one point.  The schema asks that a growth chance be neither below nor above its bounds,
the check that it lie between them, and the undefined number does the one without the other
(`Pack.inUnit_of_accepts`).
-/

namespace Formicary

/-! ### Keys -/

namespace Value

variable {key v : Value} {e : Value × Value} {entries first second : List (Value × Value)}

/-- The keys of a mapping after a value has been put at a key. -/
theorem key_of_mem_put (h : e ∈ put entries key v) : (∃ d ∈ entries, d.1 = e.1) ∨ e.1 = key := by
  unfold put at h
  split at h
  · obtain ⟨d, hd, rfl⟩ := List.mem_map.1 h
    refine Or.inl ⟨d, hd, ?_⟩
    split <;> rfl
  · rcases List.mem_append.1 h with h | h
    · exact Or.inl ⟨e, h, rfl⟩
    · rw [List.mem_singleton.1 h]
      exact Or.inr rfl

/-- The keys of two mappings that are put together are those of the two. -/
theorem key_of_mem_merge (h : e ∈ merge first second) : ∃ d ∈ first ++ second, d.1 = e.1 := by
  induction second generalizing first with
  | nil => exact ⟨e, List.mem_append_left [] h, rfl⟩
  | cons c second ih =>
    obtain ⟨d, hd, hkey⟩ := ih (show e ∈ merge (put first c.1 c.2) second from h)
    rcases List.mem_append.1 hd with hd | hd
    · rcases key_of_mem_put hd with ⟨d', hd', hkey'⟩ | hkey'
      · exact ⟨d', List.mem_append_left _ hd', hkey'.trans hkey⟩
      · exact ⟨c, List.mem_append_right _ List.mem_cons_self, hkey'.symm.trans hkey⟩
    · exact ⟨d, List.mem_append_right _ (List.mem_cons_of_mem c hd), hkey⟩

end Value

namespace Config

variable {entries : List (Value × Value)}

/-- Keys that name fields are texts, and the names are those of fields. -/
theorem exists_keyNames? (h : ∀ e ∈ entries, ∃ f : Field, e.1 = .text f.name) :
    ∃ names, keyNames? entries = some names ∧ ∀ n ∈ names, ∃ f : Field, n = f.name := by
  induction entries with
  | nil => exact ⟨[], rfl, fun n hn => (List.not_mem_nil hn).elim⟩
  | cons e entries ih =>
    obtain ⟨key, v⟩ := e
    obtain ⟨f, hf⟩ := h (key, v) List.mem_cons_self
    obtain ⟨names, hnames, hfields⟩ := ih fun d hd => h d (List.mem_cons_of_mem _ hd)
    obtain rfl : key = .text f.name := hf
    refine ⟨f.name :: names, by rw [keyNames?, hnames]; rfl, fun n hn => ?_⟩
    rcases List.mem_cons.1 hn with rfl | hn
    · exact ⟨f, rfl⟩
    · exact hfields n hn

/-- If all keys name fields it is up to the checks whether there is a configuration. -/
theorem ofEntries_eq_check (h : ∀ e ∈ entries, ∃ f : Field, e.1 = .text f.name) :
    ofEntries entries = (fill entries).check := by
  obtain ⟨names, hnames, hfields⟩ := exists_keyNames? h
  have hknown : names.find? (fun n => (Field.ofName? n).isNone) = none := by
    refine List.find?_eq_none.2 fun n hn => ?_
    obtain ⟨f, rfl⟩ := hfields n hn
    rw [Field.ofName?_name]
    exact Bool.false_ne_true
  simp only [ofEntries, hnames, hknown]

/-- A configuration is given by two sections: a field that is named in one of them has exactly the
value that it is given there, and every other field has its default. -/
structure GivenBy (c : Config) (board life : List (Value × Value)) : Prop where
  of_board : ∀ (f : Field) (v : Value), Value.find? board f.name = some v → c.value f = v
  of_life : ∀ (f : Field) (v : Value), Value.find? life f.name = some v → c.value f = v
  of_rest : ∀ f : Field, Value.find? board f.name = none → Value.find? life f.name = none →
    c.value f = f.defaultValue

end Config

/-- A quantity that is an integer is the quantity of that integer. -/
theorem Quantity.eq_ofInt_of_integer? {q : Quantity} {n : Int} (h : q.integer? = some n) :
    q = .ofInt n := by
  cases q with
  | exact r =>
    simp only [integer?, Option.ite_none_right_eq_some, Option.some.injEq] at h
    obtain ⟨hden, rfl⟩ := h
    exact congrArg exact (Rat.ext (Rat.num_intCast r.num).symm hden)
  | nan => cases h
  | infinite negative => cases h

namespace Pack

open Config (Field)

variable {board life doc : List (Value × Value)} {c : Config} {v : Value} {f : Field}

/-! ### Values -/

/-- A value that counts as an integer for the schema is the number of an integer. -/
theorem exists_ofInt (h : Schema.Kind.integer.holds v = true) :
    ∃ n, v.quantity? = some (.ofInt n) ∧ Schema.number? v = some (.ofInt n) := by
  cases v with
  | int n => exact ⟨n, rfl, rfl⟩
  | float x =>
    obtain ⟨n, hn⟩ := Option.isSome_iff_exists.1 h
    have hq : (Value.float x).quantity? = some (.ofInt n) :=
      congrArg some (Quantity.eq_ofInt_of_integer? hn)
    exact ⟨n, hq, hq⟩
  | _ => cases h

/-- What the schema accepts as an integer of at least one is above zero for the check. -/
theorem atMostZero_of_accepts (h : (atLeast .integer 1).accepts v = true) :
    Config.atMostZero v = .ok false := by
  have hkind : Schema.Kind.integer.holds v = true := by
    simpa using Schema.kind_of_accepts h List.mem_cons_self
  obtain ⟨n, hquantity, hnumber⟩ := exists_ofInt hkind
  have hle : 1 ≤ n := le_of_accepts_number h hnumber
  have hpos : ¬ n ≤ 0 := by omega
  simp only [Config.atMostZero, hquantity, Quantity.le_ofInt, hpos, decide_false]

/-- What the schema accepts as a growth chance is a number, and it lies between the bounds for the
check unless it is undefined. -/
theorem inUnit_of_accepts (h : (fieldSchema .foodGrowthChance).accepts v = true) :
    Config.inUnit v = .ok (decide (v.quantity? ≠ some .nan)) := by
  obtain ⟨hrules, -⟩ := Schema.accepts_describe_iff.1 h
  have hkind : Schema.Kind.number.holds v = true := by
    simpa using Schema.kind_of_accepts h List.mem_cons_self
  obtain ⟨q, hq⟩ : ∃ q, v.quantity? = some q := by
    cases v with
    | int n => exact ⟨_, rfl⟩
    | float x => exact ⟨_, rfl⟩
    | _ => cases hkind
  have hnumber : Schema.number? v = some q := by rw [Schema.number?, if_pos hkind, hq]
  have hbound : ∀ n : Int, Schema.number? (.int n) = some (.ofInt n) := fun _ => rfl
  have hlow : q.lt (.ofInt 0) = false := by
    have hcauses := hrules (.minimum (.int 0)) (by simp)
    simpa [Schema.Rule.causes, Schema.isBelow, hnumber, hbound] using hcauses
  have hhigh : (Quantity.ofInt 1).lt q = false := by
    have hcauses := hrules (.maximum (.int 1)) (by simp)
    simpa [Schema.Rule.causes, Schema.isBelow, hnumber, hbound] using hcauses
  simp only [Config.inUnit, hq]
  by_cases hnan : q = .nan
  · subst hnan
    rfl
  · have hint : ∀ n, Quantity.ofInt n ≠ .nan := fun _ => Quantity.noConfusion
    rw [Quantity.le_of_not_lt hnan (hint 0) hlow, Quantity.le_of_not_lt (hint 1) hnan hhigh]
    simp [hnan]

/-- A configuration that conforms to the schema passes its checks, unless its growth chance is
undefined. -/
theorem Conforms.check_eq (h : Conforms c) :
    c.check = if (c.value .foodGrowthChance).quantity? = some .nan then
      .error (.growthChance (c.value .foodGrowthChance)) else .ok c := by
  have hwidth := atMostZero_of_accepts (h .width)
  have hheight := atMostZero_of_accepts (h .height)
  have hlength := atMostZero_of_accepts (h .geneLength)
  have hdivisor := atMostZero_of_accepts (h .attackDivisor)
  have hchance := inUnit_of_accepts (h .foodGrowthChance)
  by_cases hnan : (c.value .foodGrowthChance).quantity? = some .nan
  · rw [if_pos hnan]
    rw [decide_eq_false (Classical.not_not.2 hnan)] at hchance
    simp only [Config.check, Config.width, Config.height, hwidth, hheight, hlength, hdivisor,
      hchance, bind, Except.bind]
    rfl
  · rw [if_neg hnan]
    rw [decide_eq_true hnan] at hchance
    simp only [Config.check, Config.width, Config.height, hwidth, hheight, hlength, hdivisor,
      hchance, bind, Except.bind]
    rfl

/-! ### Sections -/

/-- The fields that the section for the board may give. -/
def boardFields : List Field := [.width, .height, .seed, .spareCell]

/-- The fields that the section for the life on the board may give. -/
def lifeFields : List Field :=
  [.geneLength, .initialEnergy, .foodEnergy, .splitEnergy, .actionCost, .attackDivisor,
    .foodGrowthChance]

/-- The keys of an accepted section that may give some fields and no others name these fields. -/
theorem field_of_section (fields : List Field) {rules : List Schema.Rule}
    {entries : List (Value × Value)}
    (h : (Schema.describe rules (fields.map fun f => (f.name, fieldSchema f))).accepts
      (.mapping entries) = true) (hclosed : .closed ∈ rules) :
    ∀ e ∈ entries, ∃ f ∈ fields, e.1 = .text f.name := by
  intro e he
  obtain ⟨p, hp, hkey⟩ := Schema.key_of_accepts h hclosed e he
  obtain ⟨f, hf, rfl⟩ := List.mem_map.1 hp
  exact ⟨f, hf, hkey⟩

/-- The keys of an accepted section for the board name fields of the board. -/
theorem field_of_board (h : boardSchema.accepts (.mapping board) = true) :
    ∀ e ∈ board, ∃ f ∈ boardFields, e.1 = .text f.name :=
  field_of_section boardFields h (by simp)

/-- The keys of an accepted section for the life on the board name fields of that life. -/
theorem field_of_life (h : lifeSchema.accepts (.mapping life) = true) :
    ∀ e ∈ life, ∃ f ∈ lifeFields, e.1 = .text f.name :=
  field_of_section lifeFields h (by simp)

/-- A field that is found among entries whose keys name some fields is one of these. -/
theorem mem_of_find? {fields : List Field} {entries : List (Value × Value)}
    (h : ∀ e ∈ entries, ∃ f ∈ fields, e.1 = .text f.name)
    (hv : Value.find? entries f.name = some v) : f ∈ fields := by
  obtain ⟨g, hg, hkey⟩ := h _ (Value.mem_of_find? hv)
  have hname : Field.ofName? f.name = Field.ofName? g.name := by
    rw [Value.text.inj hkey]
  rw [Field.ofName?_name, Field.ofName?_name, Option.some.injEq] at hname
  exact hname ▸ hg

/-- What accepted sections and the defaults give is given by the sections. -/
theorem givenBy_fill (hboard : boardSchema.accepts (.mapping board) = true)
    (hlife : lifeSchema.accepts (.mapping life) = true) (hkeys : Value.DistinctKeys life) :
    (Config.fill (Value.merge board life)).GivenBy board life := by
  have hvalue : ∀ f : Field, (Config.fill (Value.merge board life)).value f =
      ((Value.find? life f.name).or (Value.find? board f.name)).getD f.defaultValue := by
    intro f
    simp only [Config.fill, Value.find?_merge hkeys]
  refine ⟨fun f v hv => ?_, fun f v hv => ?_, fun f hb hl => ?_⟩
  · -- no field may be given in both sections
    have hnone : Value.find? life f.name = none := by
      have hmem := mem_of_find? (field_of_board hboard) hv
      by_contra hsome
      obtain ⟨w, hw⟩ := Option.ne_none_iff_exists'.1 hsome
      have hmem' := mem_of_find? (field_of_life hlife) hw
      cases f <;> simp [boardFields, lifeFields] at hmem hmem'
    rw [hvalue, hnone, hv]
    rfl
  · rw [hvalue, hv]
    rfl
  · rw [hvalue, hl, hb]
    rfl

/-- Whether two accepted sections make a configuration is up to the checks. -/
theorem ofEntries_merge (hboard : boardSchema.accepts (.mapping board) = true)
    (hlife : lifeSchema.accepts (.mapping life) = true) :
    Config.ofEntries (Value.merge board life) = (Config.fill (Value.merge board life)).check := by
  refine Config.ofEntries_eq_check fun e he => ?_
  obtain ⟨d, hd, hkey⟩ := Value.key_of_mem_merge he
  rcases List.mem_append.1 hd with hd | hd
  · obtain ⟨f, -, hf⟩ := field_of_board hboard d hd
    exact ⟨f, hkey ▸ hf⟩
  · obtain ⟨f, -, hf⟩ := field_of_life hlife d hd
    exact ⟨f, hkey ▸ hf⟩

end Pack

open Config (Field) in
/-- Every document that the schema accepts gives a configuration in which the fields named in its
sections have exactly the values that they are given there and the others their defaults, unless the
growth chance is the undefined number: then, and only then, it is refused, and for that reason. -/
theorem configuration_of_accepted {doc : List (Value × Value)}
    (h : Pack.schema.accepts (.mapping doc) = true)
    (hkeys : ∀ life, Value.find? doc Pack.lifeSection = some (.mapping life) →
      Value.DistinctKeys life) :
    ∃ board life, Value.find? doc Pack.boardSection = some (.mapping board) ∧
      (Value.find? doc Pack.lifeSection = some (.mapping life) ∨
        Value.find? doc Pack.lifeSection = none ∧ life = []) ∧
      ((∃ v, Value.find? life Field.foodGrowthChance.name = some v ∧ v.quantity? = some .nan ∧
          Pack.configOf (.mapping doc) = .error (.config (.growthChance v))) ∨
        (∀ v, Value.find? life Field.foodGrowthChance.name = some v → v.quantity? ≠ some .nan) ∧
          ∃ c, Pack.configOf (.mapping doc) = .ok c ∧ c.GivenBy board life) := by
  obtain ⟨board, life, hfound, hsection, hboard, hlife, hdistinct, hgives⟩ :=
    Pack.sections_of_accepts h hkeys
  refine ⟨board, life, hfound, hsection, ?_⟩
  have hgiven := Pack.givenBy_fill hboard hlife hdistinct
  have hconfig : Pack.configOf (.mapping doc) =
      (Config.fill (Value.merge board life)).check.mapError .config := by
    rw [hgives.configOf_eq, Pack.ofEntries_merge hboard hlife]
  rw [(Pack.conforms_fill hboard hlife hdistinct).check_eq] at hconfig
  by_cases hnan : ((Config.fill (Value.merge board life)).value .foodGrowthChance).quantity? =
      some .nan
  · rw [if_pos hnan] at hconfig
    cases hv : Value.find? life Field.foodGrowthChance.name with
    | some v =>
      rw [hgiven.of_life _ v hv] at hnan hconfig
      exact Or.inl ⟨v, rfl, hnan, hconfig⟩
    | none =>
      -- the section for the board may not give the growth chance, and its default is a number
      have hnone : Value.find? board Field.foodGrowthChance.name = none := by
        by_contra hsome
        obtain ⟨w, hw⟩ := Option.ne_none_iff_exists'.1 hsome
        have hmem := Pack.mem_of_find? (Pack.field_of_board hboard) hw
        simp [Pack.boardFields] at hmem
      rw [hgiven.of_rest _ hnone hv] at hnan
      exact absurd hnan (by decide +kernel)
  · rw [if_neg hnan] at hconfig
    refine Or.inr ⟨fun v hv => ?_, _, hconfig, hgiven⟩
    rwa [hgiven.of_life _ v hv] at hnan

/-- A document whose growth chance is the undefined number. -/
def quagmire : List (Value × Value) :=
  [(.text "grid", .mapping [(.text "width", .int 3), (.text "height", .int 2)]),
    (.text "lifecycle", .mapping [(.text "food_growth_chance", .float Double.nan)])]

/-- Of two accepted documents the one gives its values and the defaults, and the other is refused
for its growth chance. -/
theorem paddock_configured :
    (Pack.schema.accepts (.mapping paddock) = true ∧
      ∃ c, Pack.configOf (.mapping paddock) = .ok c ∧ c.value .width = .int 3 ∧
        c.value .splitEnergy = .int 10 ∧ c.value .foodEnergy = .int defaultMeal) ∧
      Pack.schema.accepts (.mapping quagmire) = true ∧
        Pack.configOf (.mapping quagmire) =
          .error (.config (.growthChance (.float Double.nan))) := by
  have haccepted : Pack.schema.accepts (.mapping paddock) = true := by decide +kernel
  have haccepted' : Pack.schema.accepts (.mapping quagmire) = true := by decide +kernel
  refine ⟨⟨haccepted, ?_⟩, haccepted', ?_⟩
  · obtain ⟨board, life, hboard, hlife | ⟨hnone, -⟩, hcases⟩ :=
      configuration_of_accepted haccepted fun life hlife => by
        cases hlife
        decide +kernel
    · cases hboard
      cases hlife
      rcases hcases with ⟨v, hv, -⟩ | ⟨-, c, hc, hgiven⟩
      · cases hv
      · exact ⟨c, hc, hgiven.of_board .width _ rfl, hgiven.of_life .splitEnergy _ rfl,
          hgiven.of_rest .foodEnergy rfl rfl⟩
    · cases hnone
  · obtain ⟨board, life, hboard, hlife | ⟨hnone, -⟩, hcases⟩ :=
      configuration_of_accepted haccepted' fun life hlife => by
        cases hlife
        decide +kernel
    · cases hlife
      rcases hcases with ⟨v, hv, -, hc⟩ | ⟨hdefined, -⟩
      · cases hv
        exact hc
      · exact absurd (by decide +kernel) (hdefined _ rfl)
    · cases hnone

end Formicary
