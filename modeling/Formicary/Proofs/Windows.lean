import Formicary.Simulation.Window
import Mathlib.Algebra.BigOperators.Group.List.Basic
import Mathlib.Algebra.Order.Ring.Rat
import Mathlib.Tactic.Abel
import Mathlib.Tactic.NormNum

/-!
# Windows keep the latest times

A window never adds its times up: it puts what comes in on its sum and takes off what goes out.
Still the sum is that of its times, whatever has been recorded (`Window.Balanced.recordAll`), if
numbers are added without rounding; and the times are the latest ones, as many as the window may
keep (`Window.Keeps.recordAll`), rounding or not.
-/

namespace Formicary

namespace Window

variable {α : Type} {w : Window α} {limit : Nat} {past : List α}

/-- The window after several times have been recorded in order. -/
def recordAll [Add α] [Sub α] (w : Window α) (times : List α) : Window α := times.foldl record w

/-- The mean in milliseconds, where the quotients are the given ones. -/
def meanMillisBy [Zero α] [Mul α] [NatCast α] (divide : α → α → α) (w : Window α) : α :=
  letI : Div α := ⟨divide⟩
  w.meanMillis

/-! ### Which times are kept -/

/-- A window that keeps the latest times of the past, as many as its limit lets it. -/
structure Keeps (limit : Nat) (past : List α) (w : Window α) : Prop where
  limit_eq : w.limit = limit
  latest : w.times <:+ past
  length : w.times.length = min past.length limit

theorem keeps_empty [Zero α] (limit : Nat) : (empty limit : Window α).Keeps limit [] :=
  ⟨rfl, List.suffix_refl [], by simp [empty]⟩

/-- Until a window is full it only takes in, and from then on the oldest time goes for each that
comes. -/
theorem Keeps.record [Add α] [Sub α] (h : w.Keeps limit past) (time : α) :
    (w.record time).Keeps limit (past ++ [time]) := by
  have hlimit := h.limit_eq
  have hlength := h.length
  obtain ⟨older, hpast⟩ := h.latest
  have hsuffix : w.times ++ [time] <:+ past ++ [time] :=
    ⟨older, by rw [← List.append_assoc, hpast]⟩
  unfold Window.record
  by_cases hfull : w.limit < (w.times ++ [time]).length
  · simp only [if_pos hfull]
    refine ⟨hlimit, (List.tail_suffix _).trans hsuffix, ?_⟩
    simp only [List.length_append, List.length_singleton, List.length_tail] at hfull ⊢
    omega
  · simp only [if_neg hfull]
    refine ⟨hlimit, hsuffix, ?_⟩
    simp only [List.length_append, List.length_singleton] at hfull ⊢
    omega

/-- Whatever has been recorded, a window keeps the latest times. -/
theorem Keeps.recordAll [Add α] [Sub α] (h : w.Keeps limit past) (times : List α) :
    (w.recordAll times).Keeps limit (past ++ times) := by
  induction times generalizing w past with
  | nil =>
    rw [List.append_nil]
    exact h
  | cons time times ih =>
    rw [List.append_cons]
    exact ih (h.record time)

/-- A window that may keep a time has its latest one. -/
theorem Keeps.getLast?_times (h : w.Keeps limit past) (hpos : 0 < limit) :
    w.times.getLast? = past.getLast? := by
  have hlength := h.length
  obtain ⟨older, hpast⟩ := h.latest
  rw [← hpast] at hlength ⊢
  cases htimes : w.times.getLast? with
  | some time => rw [List.getLast?_append, htimes]; rfl
  | none =>
    have hnil := List.getLast?_eq_none_iff.1 htimes
    rw [hnil] at hlength ⊢
    simp only [List.append_nil, List.length_nil] at hlength ⊢
    have hzero : older.length = 0 := by omega
    rw [List.length_eq_zero_iff.1 hzero]
    rfl

/-! ### What they sum to -/

/-- A window whose sum is that of its times. -/
def Balanced [Add α] [Zero α] (w : Window α) : Prop := w.sum = w.times.sum

theorem balanced_empty [Add α] [Zero α] (limit : Int) : (empty limit : Window α).Balanced := rfl

/-- What goes out takes its part of the sum with it. -/
theorem Balanced.record [AddCommGroup α] (h : w.Balanced) (time : α) :
    (w.record time).Balanced := by
  have hgrown : w.sum + time = (w.times ++ [time]).sum := by
    rw [List.sum_append, List.sum_singleton, h]
  unfold Balanced Window.record
  by_cases hfull : w.limit < (w.times ++ [time]).length
  · simp only [if_pos hfull]
    rw [hgrown]
    cases w.times with
    | nil => simp
    | cons oldest rest =>
      simp only [List.cons_append, List.headD_cons, List.tail_cons, List.sum_cons]
      abel
  · simp only [if_neg hfull]
    exact hgrown

/-- Whatever has been recorded, the sum is that of the times that are kept. -/
theorem Balanced.recordAll [AddCommGroup α] (h : w.Balanced) (times : List α) :
    (w.recordAll times).Balanced := by
  induction times generalizing w with
  | nil => exact h
  | cons time times ih => exact ih (h.record time)

/-! ### What is told of them -/

/-- A window in balance tells a thousand times the mean of its times, and to find it nothing is
divided by zero. -/
theorem Balanced.meanMillisBy_eq {w : Window ℚ} (h : w.Balanced) (hne : w.times ≠ [])
    {divide : ℚ → ℚ → ℚ} (hdivide : ∀ x y, y ≠ 0 → divide x y = x / y) :
    w.meanMillisBy divide = 1000 * (w.times.sum / w.times.length) := by
  have hlength : (w.times.length : ℚ) ≠ 0 :=
    Nat.cast_ne_zero.2 (List.length_pos_iff.2 hne).ne'
  have hempty : w.times.isEmpty = false := by simpa using hne
  unfold meanMillisBy meanMillis millis
  simp only [hempty, Bool.false_eq_true, if_false]
  change divide w.sum w.times.length * _ = _
  rw [hdivide _ _ hlength, h, mul_comm]
  norm_num

/-- Without times, zero is told without a division. -/
theorem meanMillisBy_of_nil [Zero α] [Mul α] [NatCast α] (h : w.times = [])
    (divide : α → α → α) : w.meanMillisBy divide = 0 := by
  unfold meanMillisBy meanMillis
  rw [h]
  rfl

end Window

/-- Whatever times have been recorded exactly, a window that may keep some has the latest of them in
order, as many as it may, and their sum.  It tells a thousand times their mean and a thousand times
the last of them, and zero before there is one.  What a quotient by zero would be does not matter,
as none is taken. -/
theorem windows_tell_latest_times {limit : Nat} (hlimit : 1 ≤ limit) (times : List ℚ)
    {w : Window ℚ} (hw : (Window.empty limit).recordAll times = w) :
    w.times <:+ times ∧ w.times.length = min times.length limit ∧ w.sum = w.times.sum ∧
      (times = [] → w.meanMillis = 0 ∧ w.lastMillis = 0) ∧
      (∀ hne : times ≠ [], w.meanMillis = 1000 * (w.times.sum / w.times.length) ∧
        w.lastMillis = 1000 * times.getLast hne) ∧
      ∀ divide : ℚ → ℚ → ℚ, (∀ x y, y ≠ 0 → divide x y = x / y) →
        w.meanMillisBy divide = w.meanMillis := by
  have hkeeps : w.Keeps limit times := hw ▸ (Window.keeps_empty limit).recordAll times
  have hbalanced : w.Balanced := hw ▸ (Window.balanced_empty (limit : Int)).recordAll times
  have hlast := hkeeps.getLast?_times hlimit
  -- the mean told is the one with the quotients of rational numbers
  have hmean : w.meanMillis = w.meanMillisBy (· / ·) := rfl
  have hexact : ∀ x y : ℚ, y ≠ 0 → x / y = x / y := fun _ _ _ => rfl
  refine ⟨hkeeps.latest, hkeeps.length, hbalanced, ?_, fun hne => ⟨?_, ?_⟩,
    fun divide hdivide => ?_⟩
  · rintro rfl
    have hnil : w.times = [] := List.suffix_nil.1 hkeeps.latest
    refine ⟨hmean.trans (Window.meanMillisBy_of_nil hnil _), ?_⟩
    rw [Window.lastMillis, hnil]
    rfl
  · have htimes : w.times ≠ [] := by
      rwa [← List.getLast?_isSome, hlast, List.getLast?_isSome]
    exact hmean.trans (hbalanced.meanMillisBy_eq htimes hexact)
  · rw [Window.lastMillis, hlast, List.getLast?_eq_some_getLast hne, mul_comm]
    norm_num [Window.millis]
  · rw [hmean]
    by_cases hnil : w.times = []
    · rw [Window.meanMillisBy_of_nil hnil, Window.meanMillisBy_of_nil hnil]
    · rw [hbalanced.meanMillisBy_eq hnil hdivide, hbalanced.meanMillisBy_eq hnil hexact]

/-- A window of three times that has been given five tells of the last three, and of none before it
has been given any, whatever a quotient by zero would be. -/
theorem window_of_three :
    1 ≤ 3 ∧ ∃ fresh full : Window ℚ, (Window.empty (3 : Nat)).recordAll [] = fresh ∧
      (Window.empty (3 : Nat)).recordAll [1 / 2, 3, 1 / 4, 2, 3 / 2] = full ∧
      fresh.meanMillisBy (fun x y => if y = 0 then 7 else x / y) = 0 ∧
      full.times = [1 / 4, 2, 3 / 2] ∧ full.sum = 15 / 4 ∧
      full.meanMillisBy (fun x y => if y = 0 then 7 else x / y) = 1250 ∧
      full.lastMillis = 1500 := by
  have hdivide : ∀ x y : ℚ, y ≠ 0 → (if y = 0 then 7 else x / y) = x / y :=
    fun x y hy => if_neg hy
  obtain ⟨-, -, -, hzero, -, hsame⟩ := @windows_tell_latest_times 3 (by decide) [] _ rfl
  obtain ⟨hlatest, hlength, hsum, -, htold, hsame'⟩ := @windows_tell_latest_times 3 (by decide)
    [1 / 2, 3, 1 / 4, 2, 3 / 2] _ rfl
  obtain ⟨hmean, hlast⟩ := htold (List.cons_ne_nil _ _)
  -- the times are told by their number, as they come last
  have htimes := List.suffix_iff_eq_drop.1 hlatest
  rw [hlength] at htimes
  change _ = [1 / 4, 2, 3 / 2] at htimes
  rw [htimes] at hsum hmean
  refine ⟨by decide, _, _, rfl, rfl, (hsame _ hdivide).trans (hzero rfl).1, htimes, ?_, ?_, ?_⟩
  · rw [hsum]
    norm_num
  · rw [hsame' _ hdivide, hmean]
    norm_num
  · rw [hlast]
    norm_num

end Formicary
