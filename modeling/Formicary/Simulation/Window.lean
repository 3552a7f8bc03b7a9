import Formicary.Number.Double

/-!
# Windows of measured times

A window keeps the latest of the times that were recorded and their sum, which is kept up to date by
adding what comes in and subtracting what goes out. Of every time recorded at most one older time
goes, so a window whose limit is lowered empties gradually. The numbers are of any kind that can be
added and divided; doubles for what is measured, rationals for exact statements.
-/

namespace Formicary

instance : NatCast Double := ⟨fun n => Double.ofInt n⟩

/-- The latest recorded times. -/
structure Window (α : Type) where
  /-- The times, the latest last. -/
  times : List α
  /-- The sum of the times. -/
  sum : α
  /-- The number of times beyond which the oldest goes. -/
  limit : Int

namespace Window

variable {α : Type}

/-- The number of times that a window keeps unless told otherwise. -/
def defaultLimit : Int := 100

/-- The window without times. -/
def empty [Zero α] (limit : Int) : Window α := ⟨[], 0, limit⟩

/-- The window after a time has been recorded. -/
def record [Add α] [Sub α] (w : Window α) (time : α) : Window α :=
  let times := w.times ++ [time]
  let sum := w.sum + time
  if w.limit < times.length then
    { w with times := times.tail, sum := sum - times.headD time }
  else { w with times, sum }

/-- The number of milliseconds in a second. -/
def millis [NatCast α] : α := ((1000 : Nat) : α)

/-- The mean of the times in milliseconds, zero without times. -/
def meanMillis [Zero α] [Mul α] [Div α] [NatCast α] (w : Window α) : α :=
  if w.times.isEmpty then 0 else w.sum / (w.times.length : α) * millis

/-- The latest time in milliseconds, zero without times. -/
def lastMillis [Zero α] [Mul α] [NatCast α] (w : Window α) : α :=
  match w.times.getLast? with
  | none => 0
  | some time => time * millis

end Window

end Formicary
