import Formicary.Simulation.Basic
import Mathlib

/-!
# Seeds of runs

The seed of a run is derived from the chosen seed, the name of the run and the width and the height
of its board, which are written one after the other with colons between them.  Nothing marks a colon
within a name, so in general what has been joined cannot be taken apart again.  Here it can:
numerals have no colon, so the first colon ends the seed and the last two begin the width and the
height, whatever colons and digits the name has.  The text tells the four components
(`Random.components_of_codes`), and runs that differ in one of them have the same derived seed only
if two different texts have the same hash, as far as it is used (`Digest.Collide`).

A name is any sequence of code points, as `Text.ofCodes` keeps them.
-/

namespace Formicary

/-! ### Parts and marks -/

section Cutting

variable {α : Type} {mark : α} {x₁ x₂ z₁ z₂ : List α}

/-- A sequence tells what stands before its first mark and what after it. -/
theorem cut_at_first (h₁ : mark ∉ x₁) (h₂ : mark ∉ x₂) (h : x₁ ++ mark :: z₁ = x₂ ++ mark :: z₂) :
    x₁ = x₂ ∧ z₁ = z₂ := by
  have hsplit := List.append_eq_append_iff.1 h
  rcases hsplit with ⟨x, rfl, hx⟩ | ⟨x, rfl, hx⟩
  all_goals
    cases x with
    | nil => simp_all
    | cons a x => simp_all

/-- A sequence tells what stands before its last mark and what after it. -/
theorem cut_at_last (h₁ : mark ∉ z₁) (h₂ : mark ∉ z₂) (h : x₁ ++ mark :: z₁ = x₂ ++ mark :: z₂) :
    x₁ = x₂ ∧ z₁ = z₂ := by
  have hreverse := congrArg List.reverse h
  simp only [List.reverse_append, List.reverse_cons, List.append_assoc, List.singleton_append]
    at hreverse
  obtain ⟨hz, hx⟩ := cut_at_first (by simpa using h₁) (by simpa using h₂) hreverse
  exact ⟨List.reverse_inj.1 hx, List.reverse_inj.1 hz⟩

end Cutting

/-! ### Texts and their code points -/

namespace Text

/-- Characters before all halves are kept as they are. -/
theorem ofCodes_toNat {cs : List Char} (h : ∀ c ∈ cs, c.toNat < 0xd800) :
    ofCodes (cs.map Char.toNat) = String.ofList cs := by
  have hkept : ∀ c ∈ cs, ofCode c.toNat = [c] := by
    intro c hc
    have hlow := h c hc
    have hhalf : isHalf c.toNat = false := by
      simp only [isHalf, Bool.and_eq_false_iff, decide_eq_false_iff_not]
      omega
    have hother : (isStandIn c.toNat || c.toNat == markCode) = false := by
      simp only [isStandIn, markCode, Bool.or_eq_false_iff, Bool.and_eq_false_iff,
        decide_eq_false_iff_not, beq_eq_false_iff_ne]
      omega
    unfold ofCode
    rw [hhalf, hother, if_neg Bool.false_ne_true, if_neg Bool.false_ne_true, Char.ofNat_toNat]
  unfold ofCodes
  rw [List.flatMap_map, List.flatMap_congr hkept, List.flatMap_singleton']

/-- If there are no lone halves to be found in a text then there are none in it. -/
theorem forall_of_loneRun?_eq_none {text : String} (h : loneRun? text = none) :
    ∀ code ∈ codes text, isHalf code = false := by
  unfold loneRun? at h
  dsimp only at h
  split at h
  · rename_i hdrop
    intro code hcode
    have hall : (codes text).takeWhile (fun code => !isHalf code) = codes text := by
      have hlength := List.drop_eq_nil_iff.1 hdrop
      exact (List.takeWhile_prefix _).eq_of_length_le hlength
    rw [← hall] at hcode
    simpa using List.mem_takeWhile_imp hcode
  · cases h

/-- A text that can be encoded tells its code points by its characters. -/
theorem codes_eq_of_plain_eq {t u : String} (ht : loneRun? t = none) (hu : loneRun? u = none)
    (hboundt : ∀ code ∈ codes t, code < codeCount) (hboundu : ∀ code ∈ codes u, code < codeCount)
    (h : plain t = plain u) : codes t = codes u := by
  have hread : ∀ {text : String}, loneRun? text = none → (∀ code ∈ codes text, code < codeCount) →
      ((codes text).map Char.ofNat).map Char.toNat = codes text := by
    intro text hrun hbound
    rw [List.map_map]
    refine (List.map_congr_left fun code hcode => ?_).trans (List.map_id _)
    have hhalf := forall_of_loneRun?_eq_none hrun code hcode
    have hcount : code < 0x110000 := hbound code hcode
    refine toNat_ofNat ?_
    simp only [isHalf, Bool.and_eq_false_iff, decide_eq_false_iff_not] at hhalf
    unfold Nat.isValidChar
    omega
  have hchars : (codes t).map Char.ofNat = (codes u).map Char.ofNat := String.ofList_inj.1 h
  rw [← hread ht hboundt, hchars, hread hu hboundu]

end Text

/-! ### What seeds are derived from -/

/-- Two texts are encoded differently, and yet what is used of their hashes is the same. -/
def Digest.Collide (t u : String) : Prop :=
  t.toUTF8 ≠ u.toUTF8 ∧ Digest.leadingWord t = Digest.leadingWord u

/-- The seed and the sizes of a configuration are written as integers. -/
structure Config.Numbered (c : Config) (s w h : Int) : Prop where
  seed : c.seed = .int s
  width : c.width = .int w
  height : c.height = .int h

namespace Random

open Text (codes ofCodes codeCount)

/-- The code point between two components. -/
def colon : Nat := 58

/-- The code points of a written integer. -/
def numeral (n : Int) : List Nat := (toString n).toList.map Char.toNat

/-- The code points that the seed of a run is derived from. -/
def runCodes (s : Int) (name : List Nat) (w h : Int) : List Nat :=
  numeral s ++ colon :: (name ++ colon :: (numeral w ++ colon :: numeral h))

variable {s w h s₁ w₁ h₁ s₂ w₂ h₂ n : Int} {name name₁ name₂ : List Nat} {components : List Value}
  {k : Nat}

/-- An integer is written in digits, and with a minus sign if it is negative. -/
theorem mem_toString {c : Char} (hc : c ∈ (toString n).toList) : c.isDigit = true ∨ c = '-' := by
  have hdigits : ∀ m : Nat, c ∈ m.repr.toList → c.isDigit = true := fun m hm =>
    Nat.isDigit_of_mem_toDigits (by decide) (by decide) (Nat.toList_repr ▸ hm)
  rw [Int.toString_eq_repr, Int.repr_eq_if] at hc
  split at hc
  · exact Or.inl (hdigits _ hc)
  · rw [String.toList_append, List.mem_append] at hc
    rcases hc with hsign | hc
    · exact Or.inr (List.mem_singleton.1 hsign)
    · exact Or.inl (hdigits _ hc)

/-- The characters of written integers come before the colon. -/
theorem lt_colon_of_mem_numeral {code : Nat} (hcode : code ∈ numeral n) : code < colon := by
  obtain ⟨c, hc, rfl⟩ := List.mem_map.1 hcode
  rcases mem_toString hc with hdigit | rfl
  · simp only [Char.isDigit, Bool.and_eq_true, decide_eq_true_eq] at hdigit
    have hle : c.toNat ≤ 57 := hdigit.2
    exact Nat.lt_succ_of_le hle
  · decide

/-- There is no colon in a written integer. -/
theorem colon_notMem_numeral : colon ∉ numeral n := fun h =>
  Nat.lt_irrefl colon (lt_colon_of_mem_numeral h)

/-- A written integer tells the integer. -/
theorem numeral_injective : Function.Injective numeral := by
  intro m n h
  have htext : (toString m).toList = (toString n).toList :=
    List.map_injective_iff.2 (fun c d => Char.toNat_inj.1) h
  rw [String.toList_inj, Int.toString_eq_repr, Int.toString_eq_repr] at htext
  exact Int.repr_inj.1 htext

/-- The code points of a written integer are kept as they are. -/
theorem ofCodes_numeral (n : Int) : ofCodes (numeral n) = toString n := by
  have hlow : ∀ c ∈ (toString n).toList, c.toNat < 0xd800 := fun c hc =>
    Nat.lt_trans (lt_colon_of_mem_numeral (List.mem_map_of_mem hc)) (by decide)
  unfold numeral
  rw [Text.ofCodes_toNat hlow, String.ofList_toList]

/-- The text that a seed is derived from shows the components of the run between colons. -/
theorem seedText_eq (s : Int) (name : List Nat) (w h : Int) :
    seedText [.int s, .text (ofCodes name), .int w, .int h] = ofCodes (runCodes s name w h) := by
  have hcolon : ofCodes [colon] = ":" := by decide
  have hjoin : ∀ l m : List Nat, ofCodes (l ++ colon :: m) = ofCodes l ++ ":" ++ ofCodes m := by
    intro l m
    rw [← hcolon, ← Text.ofCodes_append, ← Text.ofCodes_append, List.append_assoc]
    rfl
  unfold runCodes
  rw [hjoin, hjoin, hjoin, ofCodes_numeral, ofCodes_numeral, ofCodes_numeral]
  simp only [← String.append_assoc]
  rfl

/-- The components of a run have nothing but code points in them if its name has. -/
theorem runCodes_lt (hname : ∀ code ∈ name, code < codeCount) :
    ∀ code ∈ runCodes s name w h, code < codeCount := by
  have hnumeral : ∀ n, ∀ code ∈ numeral n, code < codeCount := fun n code hcode =>
    Nat.lt_trans (lt_colon_of_mem_numeral hcode) (by decide)
  have hcolon : colon < codeCount := by decide
  unfold runCodes
  simp only [List.forall_mem_append, List.forall_mem_cons]
  exact ⟨hnumeral s, hcolon, hname, hcolon, hnumeral w, hcolon, hnumeral h⟩

/-- The code points that are hashed for a run. -/
theorem codes_seedText (hname : ∀ code ∈ name, code < codeCount) :
    codes (seedText [.int s, .text (ofCodes name), .int w, .int h]) = runCodes s name w h := by
  rw [seedText_eq, Text.codes_ofCodes (runCodes_lt hname)]

/-- The code points tell the components: the first colon ends the seed, and the last two begin the
width and the height. -/
theorem components_of_codes (heq : runCodes s₁ name₁ w₁ h₁ = runCodes s₂ name₂ w₂ h₂) :
    s₁ = s₂ ∧ name₁ = name₂ ∧ w₁ = w₂ ∧ h₁ = h₂ := by
  obtain ⟨hs, hrest⟩ := cut_at_first colon_notMem_numeral colon_notMem_numeral heq
  simp only [← List.cons_append, ← List.append_assoc] at hrest
  obtain ⟨hfront, hh⟩ := cut_at_last colon_notMem_numeral colon_notMem_numeral hrest
  obtain ⟨hname, hw⟩ := cut_at_last colon_notMem_numeral colon_notMem_numeral hfront
  exact ⟨numeral_injective hs, hname, numeral_injective hw, numeral_injective hh⟩

/-- A seed is derived from a text that can be encoded, and is the part of its hash that is used. -/
theorem of_deriveSeed (hk : deriveSeed components = .ok k) :
    Text.loneRun? (seedText components) = none ∧
      Digest.leadingWord (Text.plain (seedText components)) = k := by
  unfold deriveSeed at hk
  split at hk
  · cases hk
  · dsimp only at hk
    split at hk
    · cases hk
    · rename_i hrun
      exact ⟨hrun, Except.ok.inj hk⟩

open Simulation (seedComponents) in
/-- What the seeds of two runs are derived from is the same only if the runs have the same seed,
name, width and height, whatever the names are.  So runs that differ in one of them have the same
derived seed only if the hash collides. -/
theorem run_seeds_do_not_alias {c₁ c₂ : Config} {s₁ w₁ h₁ s₂ w₂ h₂ : Int} {name₁ name₂ : List Nat}
    (hc₁ : c₁.Numbered s₁ w₁ h₁) (hc₂ : c₂.Numbered s₂ w₂ h₂)
    (hname₁ : ∀ code ∈ name₁, code < codeCount) (hname₂ : ∀ code ∈ name₂, code < codeCount) :
    (codes (seedText (seedComponents c₁ (.text (ofCodes name₁)))) =
        codes (seedText (seedComponents c₂ (.text (ofCodes name₂)))) →
      s₁ = s₂ ∧ name₁ = name₂ ∧ w₁ = w₂ ∧ h₁ = h₂) ∧
    ∀ k, deriveSeed (seedComponents c₁ (.text (ofCodes name₁))) = .ok k →
      deriveSeed (seedComponents c₂ (.text (ofCodes name₂))) = .ok k →
      (s₁ = s₂ ∧ name₁ = name₂ ∧ w₁ = w₂ ∧ h₁ = h₂) ∨
        Digest.Collide (Text.plain (seedText (seedComponents c₁ (.text (ofCodes name₁)))))
          (Text.plain (seedText (seedComponents c₂ (.text (ofCodes name₂))))) := by
  simp only [seedComponents, hc₁.seed, hc₁.width, hc₁.height, hc₂.seed, hc₂.width, hc₂.height]
  have htold : codes (seedText [.int s₁, .text (ofCodes name₁), .int w₁, .int h₁]) =
      codes (seedText [.int s₂, .text (ofCodes name₂), .int w₂, .int h₂]) →
      s₁ = s₂ ∧ name₁ = name₂ ∧ w₁ = w₂ ∧ h₁ = h₂ := by
    rw [codes_seedText hname₁, codes_seedText hname₂]
    exact components_of_codes
  refine ⟨htold, fun k hk₁ hk₂ => ?_⟩
  obtain ⟨hrun₁, hword₁⟩ := of_deriveSeed hk₁
  obtain ⟨hrun₂, hword₂⟩ := of_deriveSeed hk₂
  by_cases hsame : Text.plain (seedText [.int s₁, .text (ofCodes name₁), .int w₁, .int h₁]) =
      Text.plain (seedText [.int s₂, .text (ofCodes name₂), .int w₂, .int h₂])
  · refine Or.inl (htold (Text.codes_eq_of_plain_eq hrun₁ hrun₂ ?_ ?_ hsame))
    · rw [codes_seedText hname₁]
      exact runCodes_lt hname₁
    · rw [codes_seedText hname₂]
      exact runCodes_lt hname₂
  · exact Or.inr ⟨fun hbytes => hsame (String.toByteArray_inj.1 hbytes), hword₁.trans hword₂.symm⟩

/-- A configuration of a small board with a seed. -/
def seededConfig (s : Int) : Config :=
  ⟨fun
    | .seed => .int s
    | .width => .int 3
    | .height => .int 2
    | f => f.defaultValue⟩

/-- Two runs of the small board that differ in the seed and by one digit of the name. -/
def similarRuns : List (List Value) :=
  [Simulation.seedComponents (seededConfig 7) (.text (ofCodes [51, 58, 97])),
    Simulation.seedComponents (seededConfig 73) (.text (ofCodes [58, 97]))]

/-- What the seeds of the two runs are derived from differs, and so do the seeds. -/
theorem seeds_of_similar_runs :
    (seededConfig 7).Numbered 7 3 2 ∧ (seededConfig 73).Numbered 73 3 2 ∧
      codes (seedText (Simulation.seedComponents (seededConfig 7) (.text (ofCodes [51, 58, 97])))) ≠
        codes (seedText (Simulation.seedComponents (seededConfig 73) (.text (ofCodes [58, 97])))) ∧
      similarRuns.map (fun components => (deriveSeed components).toOption) =
        [some 5605049616257905253, some 5882114854007751370] := by
  have hc₁ : (seededConfig 7).Numbered 7 3 2 := ⟨rfl, rfl, rfl⟩
  have hc₂ : (seededConfig 73).Numbered 73 3 2 := ⟨rfl, rfl, rfl⟩
  refine ⟨hc₁, hc₂, fun heq => ?_, by decide +kernel⟩
  obtain ⟨hs, -⟩ := (run_seeds_do_not_alias hc₁ hc₂ (by decide) (by decide)).1 heq
  cases hs

end Random

end Formicary
