import TunnelControl.Update.Schedule

/-!
# Rehearsals of the schedule

A rehearsal plays a schedule through with replies that are laid down beforehand: the checks have theirs in a
list, and nothing is found when it is used up; the pauses end at once.  It ends by being cancelled, after a
number of pauses, in one of them, or at a time.

`Rehearsal.play` is the schedule at its end.
-/

namespace TunnelControl

structure Rehearsal where
  checks : List Reply := []
  /-- it is cancelled at the end of this pause, counted from one -/
  pauses : Nat := 20
  /-- it is cancelled in the middle of this pause -/
  hangAt : Option Nat := none
  /-- instead of both, it is cancelled at this time, in nanoseconds -/
  until? : Option Nat := none

namespace Rehearsal

/-- the end of a pause, which is the given one and ends at the given time -/
def endOfPause (r : Rehearsal) (number clock : Nat) : Reply :=
  match r.until? with
  | some limit => if clock < limit then .slept false else .interrupted
  | none => if r.hangAt = some number then .interrupted else .slept (r.pauses ≤ number)

/-- each pause of a rehearsal with a time takes as long as the middle of its range -/
def length (p : PauseClass) : Nat := p.duration (jitterSpan p.range.1 p.range.2 / 2)

def playFrom (r : Rehearsal) : Nat → List Reply → Nat → Nat → ScheduleRun → ScheduleRun
  | 0, _, _, _, run => run
  | fuel + 1, checks, number, clock, run =>
    match run.phase with
    | .ended _ => run
    | .waiting .check =>
      playFrom r fuel checks.tail number clock (run.resume (checks.headD (.checked .nothing false)))
    | .waiting (.pause p) =>
      let clock := clock + length p
      playFrom r fuel checks (number + 1) clock (run.resume (r.endOfPause (number + 1) clock))

/-- a pause takes two minutes at least, and there is at most one check between two of them -/
def steps (r : Rehearsal) : Nat :=
  match r.until? with
  | some limit => 2 * (limit / minutes 2 + 2)
  | none => 2 * (max r.pauses (r.hangAt.getD 0) + 2)

def play (r : Rehearsal) (setup : ScheduleSetup) (cancelled : Bool) : ScheduleRun :=
  r.playFrom r.steps r.checks 0 0 (.start setup cancelled)

end Rehearsal

end TunnelControl
