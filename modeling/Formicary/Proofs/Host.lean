import Formicary.Proofs.Founders
import Formicary.Proofs.Succession
import Formicary.Simulation.Basic

/-!
# Simulations track their boards

A simulation advances a board tick by tick, by itself or in runs, which stop early when there are no
ants left.  Beside the board it keeps its own count of the ticks and adds up their counters.  This
file says that none of this can diverge from the board (`Simulation.Tracks`): a tick keeps it
(`Simulation.Tracks.tick`), and so do runs and sequences of calls.

How many ticks some calls make is told by the board alone (`Simulation.tickEnds`).  Where the calls
halt because an id does not fit its occupant entry, the board halts too on its way to that tick;
`Simulation.Follows` says this of both.
-/

namespace Formicary

/-! ### Runs that stop early -/

namespace Board

/-- Whether a board has no ants left after a number of ticks. -/
def extinctAfter (b : Board) (n : Nat) : Bool :=
  (b.ticksFrom n).toOption.any (·.arena.ants.isEmpty)

/-- The number of ticks of a board when a run of at most `n` ticks ends that begins after `done` of
them: with the first tick that leaves no ant, or with the last. -/
def runEnd (b : Board) (done n : Nat) : Nat :=
  ((List.range' (done + 1) n).find? b.extinctAfter).getD (done + n)

variable {b b' : Board} {m n done : Nat}

/-- A run ends with its first tick if that leaves no ant, and else is a run from there. -/
theorem runEnd_succ (b : Board) (done n : Nat) :
    b.runEnd done (n + 1) =
      if b.extinctAfter (done + 1) then done + 1 else b.runEnd (done + 1) n := by
  rw [runEnd, runEnd, List.range'_succ, List.find?_cons]
  cases b.extinctAfter (done + 1) with
  | true => rfl
  | false =>
    have hlast : done + (n + 1) = done + 1 + n := by omega
    simp only [hlast, Bool.false_eq_true, if_false]

/-- A run does not go back. -/
theorem le_runEnd (b : Board) (done n : Nat) : done ≤ b.runEnd done n := by
  induction n generalizing done with
  | zero => exact Nat.le_refl done
  | succ n ih =>
    rw [runEnd_succ]
    split
    · exact Nat.le_succ done
    · exact Nat.le_of_succ_le (ih (done + 1))

/-- What a tick has halted does not go on. -/
theorem halted_of_le (h : (b.ticksFrom m).toOption = none) (hmn : m ≤ n) :
    (b.ticksFrom n).toOption = none := by
  obtain ⟨k, rfl⟩ := Nat.exists_eq_add_of_le hmn
  rw [ticksFrom_add]
  cases hm : b.ticksFrom m with
  | error e => rfl
  | ok x =>
    rw [hm] at h
    cases h

/-- The counters of some ticks and of one more. -/
theorem tallied_succ {x : Board} (h : b.ticksFrom n = .ok x) (htick : x.tick = .ok b') :
    b.tallied (n + 1) = (b.tallied n).add b'.lastTally := by
  have hlast : b.ticksFrom (n + 1) = .ok b' := by
    rw [ticksFrom_succ, h]
    exact htick
  simp only [tallied, Tally.add, total_succ hlast]

end Board

/-! ### Calls -/

namespace Simulation

/-- What may be asked of a simulation: a tick, or a run of several with a summary at every
interval. -/
inductive Call where
  | tick
  | run (count : Nat) (interval : Int)

/-- The simulation after a call. -/
def call (s : Simulation) : Call → Except (Halted Simulation Trouble) Simulation
  | .tick => s.tick
  | .run count interval => run interval count s

/-- The number of ticks of the board that a simulation started with when a call returns, by that
when the call is made. -/
def Call.tickEnd (b : Board) (done : Nat) : Call → Nat
  | .tick => done + 1
  | .run count _ => b.runEnd done count

/-- A call does not go back. -/
theorem Call.le_tickEnd (b : Board) (done : Nat) (c : Call) : done ≤ c.tickEnd b done := by
  cases c with
  | tick => exact Nat.le_succ done
  | run count interval => exact b.le_runEnd done count

/-- The number of ticks of the board that a simulation started with when the last of some calls
returns. -/
def tickEnds (b : Board) (done : Nat) (calls : List Call) : Nat :=
  calls.foldl (fun n c => c.tickEnd b n) done

/-- Calls do not go back. -/
theorem le_tickEnds (b : Board) (done : Nat) (calls : List Call) :
    done ≤ tickEnds b done calls := by
  induction calls generalizing done with
  | nil => exact Nat.le_refl done
  | cons c calls ih => exact Nat.le_trans (c.le_tickEnd b done) (ih _)

/-- What holds of a simulation that is as many ticks ahead of the board it started with. -/
structure Tracks (b : Board) (duration : Nat → Value) (n : Nat) (s : Simulation) : Prop where
  board : b.ticksFrom n = .ok s.board
  ticks : s.ticks = n
  totals : s.totals = b.tallied n
  duration : s.clock.duration = duration

/-- What comes of a simulation that is to be as many ticks ahead of the board it started with: it
is, or an id did not fit its occupant entry and the board cannot get there. -/
inductive Follows (b : Board) (duration : Nat → Value) (n : Nat) :
    Except (Halted Simulation Trouble) Simulation → Prop
  | tracks {s : Simulation} (tracks : s.Tracks b duration n) : Follows b duration n (.ok s)
  | wide {s : Simulation} {id : Int} (large : idLimit ≤ id)
      (halted : (b.ticksFrom n).toOption = none) :
      Follows b duration n (.error ⟨s, .fault (.wideId id)⟩)

variable {b : Board} {duration : Nat → Value} {n done : Nat} {s : Simulation}

/-- A tick of a simulation, if that of its board completes, its duration is a number and an audit
would find nothing. -/
theorem tick_eq {next : Board} {seconds : Double} (htick : s.board.tick = .ok next)
    (hseconds : Clock.seconds (s.clock.duration s.clock.taken) = .ok seconds)
    (haudit : next.audit = none) :
    s.tick = .ok { s.advance next with
      window := s.window.record seconds
      clock := { s.clock with taken := s.clock.taken + 1 } } := by
  have hrecord : (s.advance next).recordDuration = .ok { s.advance next with
      window := s.window.record seconds
      clock := { s.clock with taken := s.clock.taken + 1 } } := by
    have hclock : (s.advance next).clock.next =
        (.ok seconds, { s.clock with taken := s.clock.taken + 1 }) := congrArg (·, _) hseconds
    simp only [recordDuration, hclock]
    rfl
  simp only [tick, htick, hrecord, bind, Except.bind]
  simp only [advance, haudit, ite_self]

/-- A tick of a simulation is one of its board. -/
theorem Tracks.tick (hb : b.WellFormed) (hclock : ∀ k, ∃ x, Clock.seconds (duration k) = .ok x)
    (h : s.Tracks b duration n) : Follows b duration (n + 1) s.tick := by
  have hs := hb.ticksFrom h.board
  obtain ⟨scan, hscan⟩ := Scan.exists_completes hs
  have hnext : b.ticksFrom (n + 1) = s.board.tick := by
    rw [Board.ticksFrom_add, h.board]
    change s.board.tick >>= _ = _
    cases s.board.tick <;> rfl
  rcases hs.tick_cases hscan with ⟨-, -, htick⟩ | ⟨id, halted, htick, hle, -, -⟩
  · obtain ⟨seconds, hseconds⟩ := hclock s.clock.taken
    rw [← h.duration] at hseconds
    rw [tick_eq htick hseconds (hs.tick htick).consistent.audit_eq_none]
    refine .tracks ⟨hnext.trans htick, congrArg (· + 1) h.ticks, ?_, h.duration⟩
    rw [Board.tallied_succ h.board htick, ← h.totals]
    rfl
  · have hhalt : s.tick = .error ⟨{ s with board := halted }, .fault (.wideId id)⟩ := by
      rw [Simulation.tick, htick]
    rw [hhalt]
    refine .wide hle ?_
    rw [hnext, htick]
    rfl

/-- What is written does not count. -/
theorem Tracks.transcribe (h : s.Tracks b duration n) (transcript : String) :
    ({ s with transcript := transcript } : Simulation).Tracks b duration n :=
  ⟨h.board, h.ticks, h.totals, h.duration⟩

/-- To write a status line changes the transcript only. -/
theorem log_eq (s : Simulation) (line : String) :
    ∃ transcript, s.log line = { s with transcript := transcript } := by
  rw [log]
  split
  · exact ⟨_, rfl⟩
  · exact ⟨s.transcript, rfl⟩

/-- A run of a simulation is one of its board. -/
theorem Tracks.run (hb : b.WellFormed) (hclock : ∀ k, ∃ x, Clock.seconds (duration k) = .ok x)
    (interval : Int) (count : Nat) (h : s.Tracks b duration done) :
    Follows b duration (b.runEnd done count) (run interval count s) := by
  induction count generalizing done s with
  | zero => exact .tracks h
  | succ count ih =>
    have hfirst := h.tick hb hclock
    rw [Simulation.run, Board.runEnd_succ]
    cases htick : s.tick with
    | error halted =>
      rw [htick] at hfirst
      cases hfirst with
      | wide large stuck =>
        refine .wide large (Board.halted_of_le stuck ?_)
        split
        · exact Nat.le_refl _
        · exact b.le_runEnd _ _
    | ok next =>
      rw [htick] at hfirst
      cases hfirst with
      | tracks hnext =>
        have htold : (if summaryDue interval next.ticks then next.writeSummary
            else next).Tracks b duration (done + 1) := by
          split
          · exact hnext.transcribe _
          · exact hnext
        change Follows b duration _ (if (if summaryDue interval next.ticks then next.writeSummary
          else next).board.arena.ants.isEmpty then .ok (Simulation.log _ _)
          else Simulation.run interval count _)
        generalize (if summaryDue interval next.ticks then next.writeSummary else next) = told
          at htold ⊢
        have hextinct : b.extinctAfter (done + 1) = told.board.arena.ants.isEmpty := by
          rw [Board.extinctAfter, htold.board]
          rfl
        rw [hextinct]
        split
        · obtain ⟨transcript, hlog⟩ := log_eq told _
          rw [hlog]
          exact .tracks (htold.transcribe transcript)
        · exact ih htold

/-- A call of a simulation. -/
theorem Tracks.call (hb : b.WellFormed) (hclock : ∀ k, ∃ x, Clock.seconds (duration k) = .ok x)
    (h : s.Tracks b duration done) (c : Call) :
    Follows b duration (c.tickEnd b done) (s.call c) := by
  cases c with
  | tick => exact h.tick hb hclock
  | run count interval => exact h.run hb hclock interval count

/-- Any number of calls of a simulation. -/
theorem Tracks.calls (hb : b.WellFormed) (hclock : ∀ k, ∃ x, Clock.seconds (duration k) = .ok x)
    (calls : List Call) (h : s.Tracks b duration done) :
    Follows b duration (tickEnds b done calls) (calls.foldlM Simulation.call s) := by
  induction calls generalizing done s with
  | nil => exact .tracks h
  | cons c calls ih =>
    have hfirst := h.call hb hclock c
    rw [tickEnds, List.foldl_cons, List.foldlM_cons]
    cases hcall : s.call c with
    | error halted =>
      rw [hcall] at hfirst
      cases hfirst with
      | wide large stuck => exact .wide large (Board.halted_of_le stuck (le_tickEnds b _ calls))
    | ok next =>
      rw [hcall] at hfirst
      cases hfirst with
      | tracks hnext => exact ih hnext

/-- What a simulation is started with. -/
theorem frame_of_startQuietly {u : Setup} (h : startQuietly u = .ok s) :
    (∃ p, u.pack = .ok p ∧ s.config = p.config) ∧
      (∃ stream, Board.ofConfig u.memory s.config stream = .ok s.board) ∧ s.ticks = 0 ∧
      s.totals = {} ∧ s.clock = u.clock := by
  obtain ⟨p, hp, hrest⟩ := exists_of_bind_eq_ok h
  obtain ⟨stream, -, hrest⟩ := exists_of_bind_eq_ok hrest
  obtain ⟨board, hboard, hrest⟩ := exists_of_bind_eq_ok hrest
  dsimp only at hrest
  split at hrest
  · cases hrest
  · cases hrest
    exact ⟨⟨p, eq_ok_of_mapError_eq_ok hp, rfl⟩, ⟨stream, eq_ok_of_mapError_eq_ok hboard⟩,
      rfl, rfl, rfl⟩

/-- A simulation that does not come from a pack has the configuration that it was given. -/
theorem config_of_start {u : Setup} {c : Config} (hu : u.config = some c) (h : start u = .ok s) :
    s.config = c := by
  obtain ⟨s₀, hquiet, hlog⟩ := exists_of_bind_eq_ok h
  obtain ⟨transcript, htold⟩ := log_eq s₀ s₀.startLine
  rw [htold] at hlog
  cases hlog
  obtain ⟨⟨p, hp, hconfig⟩, -⟩ := frame_of_startQuietly (eq_ok_of_mapError_eq_ok hquiet)
  rw [Setup.pack, hu] at hp
  cases hp
  exact hconfig

/-- A simulation that has been started is not ahead of its board, which is in order. -/
theorem Tracks.start {u : Setup} (hstart : start u = .ok s) (hint : s.config.Integral)
    (hcheck : s.config.check = .ok s.config) :
    s.board.WellFormed ∧ s.board.ticks = 0 ∧ s.Tracks s.board u.clock.duration 0 := by
  obtain ⟨s₀, hquiet, hlog⟩ := exists_of_bind_eq_ok hstart
  obtain ⟨transcript, htold⟩ := log_eq s₀ s₀.startLine
  rw [htold] at hlog
  cases hlog
  obtain ⟨-, ⟨stream, hboard⟩, hticks, htotals, hclock⟩ :=
    frame_of_startQuietly (eq_ok_of_mapError_eq_ok hquiet)
  obtain ⟨w, hw⟩ := hint.width
  obtain ⟨k, hk⟩ := hint.height
  have hchecked : ∀ c, some s₀.config = some c → c.Integral ∧ c.check = .ok c := by
    rintro c ⟨⟩
    exact ⟨hint, hcheck⟩
  have hgenerate : Board.generate u.memory (.int w) (.int k) (some s₀.config) stream =
      .ok s₀.board := by
    rw [← hw, ← hk]
    exact hboard
  obtain ⟨-, hfounded⟩ := Board.founded_of_generate hchecked hgenerate
  exact ⟨hfounded.wellFormed, hfounded.ticks, rfl, hticks, htotals, congrArg Clock.duration hclock⟩

end Simulation

/-- A simulation tracks its board exactly, if its configuration consists of integers and the
durations of its ticks are numbers.  After any calls, audited or not, the board is the one at the
start after as many ticks as the calls have made, a run ending with the first tick that leaves no
ant: neither the summaries nor the way in which the ticks are divided into calls have a part in it.
Simulation and board count the ticks alike, the sums of the counters are those of all ticks, and
they tell the population from that at the start.  No audit finds anything; the calls return as long
as there is an id left for every cell and tick. -/
theorem host_tracks_board {u : Simulation.Setup} {s₀ : Simulation}
    (hstart : Simulation.start u = .ok s₀) (hint : s₀.config.Integral)
    (hcheck : s₀.config.check = .ok s₀.config)
    (hclock : ∀ k, ∃ x, Clock.seconds (u.clock.duration k) = .ok x) (auditing : Bool)
    (calls : List Simulation.Call) :
    (∀ s, calls.foldlM Simulation.call { s₀ with auditing := auditing } = .ok s →
      s₀.board.ticksFrom (Simulation.tickEnds s₀.board 0 calls) = .ok s.board ∧
      s.ticks = Simulation.tickEnds s₀.board 0 calls ∧ s.ticks = s.board.ticks ∧
      s.totals = s₀.board.tallied s.ticks ∧
      (s.board.arena.size : Int) =
        s₀.board.arena.size + s.totals.births - s.totals.deaths - s.totals.overwritten) ∧
    (∀ s trouble, calls.foldlM Simulation.call { s₀ with auditing := auditing } =
        .error ⟨s, trouble⟩ → ∃ id, trouble = .fault (.wideId id) ∧ idLimit ≤ id) ∧
    (s₀.board.nextId + Simulation.tickEnds s₀.board 0 calls * s₀.board.size ≤ idLimit →
      ∃ s, calls.foldlM Simulation.call { s₀ with auditing := auditing } = .ok s) := by
  obtain ⟨hb, hzero, htracks⟩ := Simulation.Tracks.start hstart hint hcheck
  have haudited : ({ s₀ with auditing := auditing } : Simulation).Tracks s₀.board
      u.clock.duration 0 := ⟨htracks.board, htracks.ticks, htracks.totals, htracks.duration⟩
  have hfollows := haudited.calls hb hclock calls
  refine ⟨fun s h => ?_, fun s trouble h => ?_, fun hroom => ?_⟩
  · rw [h] at hfollows
    cases hfollows with
    | tracks hs =>
      have hticks := hb.ticks_of_ticksFrom hs.board
      obtain ⟨hcount, -⟩ := hb.reckon hs.board
      refine ⟨hs.board, hs.ticks, ?_, ?_, ?_⟩
      · rw [hs.ticks, hticks, hzero, Nat.zero_add]
      · rw [hs.totals, hs.ticks]
      · rw [hs.totals]
        simp only [Board.tallied]
        omega
  · rw [h] at hfollows
    cases hfollows with
    | wide large => exact ⟨_, rfl, large⟩
  · obtain ⟨b', hrun⟩ := hb.exists_ticksFrom _ hroom
    cases hcalls : calls.foldlM Simulation.call { s₀ with auditing := auditing } with
    | ok s => exact ⟨s, rfl⟩
    | error halted =>
      rw [hcalls] at hfollows
      cases hfollows with
      | wide large stuck =>
        rw [hrun] at stuck
        cases stuck

/-- The configuration of a row of three cells on which ants have little energy and nothing grows. -/
def hermitageConfig : Config :=
  ⟨fun
    | .width => .int 3
    | .height => .int 1
    | .geneLength => .int 1
    | .initialEnergy => .int 1
    | .foodGrowthChance => .int 0
    | .spareCell => .bool false
    | f => f.defaultValue⟩

/-- A simulation of the row that starts with a single ant. -/
def hermitage : Simulation.Setup where
  config := some hermitageConfig
  random := some (.ofSeed 30)
  verbose := false

/-- The hermit dies in its third tick, which ends a run of five.  Another run makes one tick only,
after one that has been asked for alone. -/
theorem hermitage_tracks_board :
    ∃ s₀ s, Simulation.start hermitage = .ok s₀ ∧ s₀.config.Integral ∧
      s₀.config.check = .ok s₀.config ∧
      (∀ k, ∃ x, Clock.seconds (hermitage.clock.duration k) = .ok x) ∧
      [.run 5 0, .tick, .run 3 2].foldlM Simulation.call { s₀ with auditing := true } = .ok s ∧
      s₀.board.ticksFrom 5 = .ok s.board ∧ s.ticks = 5 ∧ s.board.ticks = 5 ∧
      s₀.board.arena.size = 1 ∧ s.totals.deaths = 1 ∧ s.board.arena.size = 0 := by
  have hvalues : ((Simulation.start hermitage).toOption.map fun s =>
      (s.board.arena.size, Simulation.tickEnds s.board 0 [.run 5 0, .tick, .run 3 2],
        decide (s.board.nextId + (5 : Nat) * s.board.size ≤ idLimit), s.board.tallied 5)) =
      some (1, 5, true, { attacks := 1, deaths := 1, mutations := 2 }) := by
    decide +kernel
  obtain ⟨s₀, hstart, hvalues⟩ := Option.map_eq_some_iff.1 hvalues
  rw [toOption_eq_some_iff] at hstart
  simp only [Prod.mk.injEq] at hvalues
  obtain ⟨hsize, hends, hroom, htallied⟩ := hvalues
  have hconfig : s₀.config = hermitageConfig := Simulation.config_of_start rfl hstart
  have hint : s₀.config.Integral := by
    rw [hconfig]
    exact ⟨⟨_, rfl⟩, ⟨_, rfl⟩, ⟨_, rfl⟩, ⟨_, rfl⟩, ⟨_, rfl⟩, ⟨_, rfl⟩, ⟨_, rfl⟩, ⟨_, rfl⟩⟩
  have hcheck : s₀.config.check = .ok s₀.config := by
    rw [hconfig]
    rfl
  have hclock : ∀ k, ∃ x, Clock.seconds (hermitage.clock.duration k) = .ok x := fun k => ⟨_, rfl⟩
  obtain ⟨htracks, -, hreturns⟩ := host_tracks_board hstart hint hcheck hclock true
    [.run 5 0, .tick, .run 3 2]
  rw [hends] at htracks hreturns
  obtain ⟨s, hs⟩ := hreturns (of_decide_eq_true hroom)
  obtain ⟨hrun, hticks, hclocks, htotals, hpopulation⟩ := htracks s hs
  rw [hticks, htallied] at htotals
  rw [htotals, hsize] at hpopulation
  exact ⟨s₀, s, hstart, hint, hcheck, hclock, hs, hrun, hticks, hclocks ▸ hticks, hsize,
    congrArg Tally.deaths htotals, Int.ofNat.inj hpopulation⟩

end Formicary
