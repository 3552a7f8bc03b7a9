import Formicary.Tick.Scan

/-!
# The commit of a tick, and ticks

A commit applies queued changes to the board in the order in which they were proposed. Each change
is applied to the board that the changes before it left, so a cell may be written more than once;
an ant that is put out of its cell by anything but its own death counts as overwritten.

A tick is a scan followed by the commit of its queue. It is counted, and its counters are kept,
only if it completes.
-/

namespace Formicary

/-- The state of a commit. -/
structure Commit where
  /-- The board with the changes so far. -/
  board : Board
  /-- The counters so far. -/
  tally : Tally

namespace Commit

/-- The commit of a halted operation on its board. -/
def lift {α : Type} (t : Tally) (r : Except (Halted Board Fault) α) :
    Except (Halted Commit Fault) α :=
  r.mapError fun h => ⟨⟨h.state, t⟩, h.fault⟩

/-- Counts an ant that left the arena, `mine` telling whether its own death put it out. -/
def countEvicted (t : Tally) (mine : Bool) : Option Int → Tally
  | none => t
  | some _ =>
    if mine then { t with deaths := t.deaths + 1 }
    else { t with overwritten := t.overwritten + 1 }

/-- The board with the contents of two cells exchanged. -/
def exchange (b : Board) (target source : Nat) : Except (Halted Board Fault) Board :=
  if b.size ≤ target then .error ⟨b, .outOfRange target b.size⟩
  else if b.size ≤ source then .error ⟨b, .outOfRange source b.size⟩
  else
    .ok { b with
      kinds := b.kinds.swapIfInBounds target source
      occupants := b.occupants.swapIfInBounds target source }

/-- The commit with one more change applied. -/
def apply (c : Commit) (change : Change) : Except (Halted Commit Fault) Commit := do
  let t := c.tally
  match change with
  | .swap target source =>
    let b ← lift t (exchange c.board target source)
    .ok ⟨b, { t with moves := t.moves + 1 }⟩
  | .growFood cell =>
    let (b, evicted) ← lift t (c.board.overwrite cell .food vacant)
    .ok ⟨b, countEvicted { t with foodGrown := t.foodGrown + 1 } false evicted⟩
  | .removeFood cell =>
    let (b, evicted) ← lift t (c.board.overwrite cell .empty vacant)
    .ok ⟨b, countEvicted t false evicted⟩
  | .born cell child =>
    let (b, evicted) ← lift t (c.board.overwrite cell .ant child.id)
    .ok ⟨{ b with arena := b.arena.insert child },
      countEvicted { t with births := t.births + 1 } false evicted⟩
  | .death cell id =>
    let (b, evicted) ← lift t (c.board.overwrite cell .food vacant)
    .ok ⟨b, countEvicted t (evicted == some id) evicted⟩

/-- The changes of a queue applied in order. -/
def run (b : Board) (t : Tally) (queue : List Change) : Except (Halted Commit Fault) Commit :=
  queue.foldlM apply ⟨b, t⟩

end Commit

namespace Board

/-- One tick: a scan and the commit of its queue. -/
def tick (b : Board) : Except (Halted Board Fault) Board := do
  let s ← (Scan.run b).mapError fun h => ⟨h.state.board, h.fault⟩
  let c ← (Commit.run s.board s.tally s.queue.toList).mapError fun h => ⟨h.state.board, h.fault⟩
  .ok { c.board with ticks := c.board.ticks + 1, lastTally := c.tally }

/-- Several ticks in a row. -/
def ticksFrom : Nat → Board → Except (Halted Board Fault) Board
  | 0, b => .ok b
  | n + 1, b => do ticksFrom n (← b.tick)

end Board

end Formicary
