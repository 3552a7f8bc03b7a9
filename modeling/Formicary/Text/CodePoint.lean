/-!
# Code points

A text is a sequence of code points, and not each of them is a character: an escape can name half of
a surrogate pair on its own. Such a half is kept as a character of the last private area that stands
in for it. Where a stand-in is meant itself, a mark is kept in front of it, and so in front of the
mark. `codes` gives back the code points that `ofCodes` keeps, all of them without loss, and they
are what counts where characters are written, compared and counted.
-/

namespace Formicary.Text

/-- Whether a code point is half of a surrogate pair. -/
def isHalf (code : Nat) : Bool := 0xd800 ≤ code && code < 0xe000

/-- How far the stand-ins are away from the halves. -/
def halfShift : Nat := 0x10f000 - 0xd800

/-- Whether a code point is that of a stand-in. -/
def isStandIn (code : Nat) : Bool := 0x10f000 ≤ code && code < 0x10f800

/-- The code point of the mark. -/
def markCode : Nat := 0x10f800

/-- The number of code points. -/
def codeCount : Nat := 0x110000

/-- What a code point is kept as. -/
def ofCode (code : Nat) : List Char :=
  if isHalf code then [Char.ofNat (code + halfShift)]
  else if isStandIn code || code == markCode then [Char.ofNat markCode, Char.ofNat code]
  else [Char.ofNat code]

/-- What a character is kept as. -/
def ofChar (c : Char) : List Char := ofCode c.toNat

/-- The text of a sequence of code points. -/
def ofCodes (codes : List Nat) : String := String.ofList (codes.flatMap ofCode)

/-- The text of a sequence of characters. -/
def ofChars (cs : List Char) : String := String.ofList (cs.flatMap ofChar)

/-- The code points that characters are kept for; the flag tells whether a mark comes before. -/
def codesAfter : Bool → List Char → List Nat
  | _, [] => []
  | true, c :: rest => c.toNat :: codesAfter false rest
  | false, c :: rest =>
    if c.toNat = markCode then codesAfter true rest
    else (if isStandIn c.toNat then c.toNat - halfShift else c.toNat) :: codesAfter false rest

/-- The code points of a text. -/
def codes (text : String) : List Nat := codesAfter false text.toList

/-- A text without halves of surrogate pairs with all of its characters as they are. -/
def plain (text : String) : String := String.ofList ((codes text).map Char.ofNat)

theorem toNat_ofNat {n : Nat} (h : n.isValidChar) : (Char.ofNat n).toNat = n := by
  rw [Char.ofNat, dif_pos h]
  rfl

/-- Every code point that is kept is found again in front of what follows it. -/
theorem codesAfter_ofCode {n : Nat} (h : n < codeCount) (rest : List Char) :
    codesAfter false (ofCode n ++ rest) = n :: codesAfter false rest := by
  have bound : n < 0x110000 := h
  by_cases half : isHalf n = true
  · have range : 0xd800 ≤ n ∧ n < 0xe000 := by simpa [isHalf] using half
    have place : (Char.ofNat (n + halfShift)).toNat = n + halfShift :=
      toNat_ofNat (.inr ⟨by unfold halfShift; omega, by unfold halfShift; omega⟩)
    have other : n + halfShift ≠ markCode := by unfold halfShift markCode; omega
    have standIn : isStandIn (n + halfShift) = true := by
      simp only [isStandIn, Bool.and_eq_true, decide_eq_true_eq]
      unfold halfShift
      omega
    simp [ofCode, half, codesAfter, place, other, standIn]
  · have range : n < 0xd800 ∨ 0xe000 ≤ n := by
      simp only [isHalf, Bool.and_eq_true, decide_eq_true_eq] at half
      omega
    have place : (Char.ofNat n).toNat = n :=
      toNat_ofNat (range.imp id fun low => ⟨by omega, bound⟩)
    have mark : (Char.ofNat markCode).toNat = markCode := toNat_ofNat (by decide)
    by_cases kept : (isStandIn n || n == markCode) = true
    · simp [ofCode, half, kept, codesAfter, place, mark]
    · have neither : isStandIn n = false ∧ n ≠ markCode := by simpa using kept
      simp [ofCode, half, neither.1, neither.2, codesAfter, place]

/-- No code point of a text is lost. -/
theorem codes_ofCodes {l : List Nat} (h : ∀ n ∈ l, n < codeCount) : codes (ofCodes l) = l := by
  rw [codes, ofCodes, String.toList_ofList]
  induction l with
  | nil => rfl
  | cons n rest ih =>
    rw [List.flatMap_cons, codesAfter_ofCode (h n (by simp)), ih fun m hm => h m (by simp [hm])]

/-- The text of two sequences one after the other is that of the first and then that of the second.
-/
theorem ofCodes_append (l m : List Nat) : ofCodes (l ++ m) = ofCodes l ++ ofCodes m := by
  simp [ofCodes, String.ofList_append]

end Formicary.Text
