import TunnelControl.Message.Basic
import TunnelControl.Time.Jitter
import TunnelControl.Update.Manifest

/-!
# The schedule of update checks

The scheduler checks for updates again and again, with a pause after each check whose length depends on
how the checks went, until it is cancelled.  It is a machine that waits for a check or for a pause
(`Wait`), and goes on when the wait is over (`Reply`).

* `ScheduleRun.start`   the machine up to its first wait;
* `ScheduleRun.resume`  from the end of one wait to the next;
* `ScheduleRun.trace`   what it has done so far.
-/

namespace TunnelControl

/-! ## pauses -/

inductive PauseClass
  | bootDelay
  | firstErrorBackoff
  | repeatedErrorBackoff
  | checkInterval
  deriving DecidableEq, Repr

/-- the shortest and the longest pause of a class -/
def PauseClass.range : PauseClass → Nat × Nat
  | .bootDelay => (minutes 2, minutes 5)
  | .firstErrorBackoff => (minutes 4, minutes 6)
  | .repeatedErrorBackoff => (minutes 25, minutes 30)
  | .checkInterval => (minutes 57, minutes 63)

def PauseClass.description : PauseClass → String
  | .bootDelay => "boot delay"
  | .firstErrorBackoff => "first error backoff"
  | .repeatedErrorBackoff => "repeated error backoff"
  | .checkInterval => "check interval"

/-- the length of a pause, by a number drawn -/
def PauseClass.duration (p : PauseClass) (draw : Nat) : Nat := jitter p.range.1 p.range.2 draw

/-! ## the machine -/

inductive ScheduleEnd
  | updatesDisabled
  | cancelled
  deriving DecidableEq, Repr

def ScheduleEnd.description : ScheduleEnd → String
  | .updatesDisabled => "updates disabled"
  | .cancelled => "cancelled"

/-- what the scheduler does -/
inductive ScheduleAct
  | check
  | sleep (pause : PauseClass)
  | set (state : UpdateState)
  | publish (event : Event)
  deriving DecidableEq, Repr

/-- what a check gives -/
inductive CheckOutcome
  | nothing
  | found (version : String)
  | failed (error : UpdateFault)
  deriving DecidableEq, Repr

def CheckOutcome.ofResult : Except UpdateFault (Option Release) → CheckOutcome
  | .ok none => .nothing
  | .ok (some release) => .found release.version
  | .error e => .failed e

inductive Wait
  | check
  | pause (p : PauseClass)
  deriving DecidableEq, Repr

inductive SchedulePhase
  | waiting (w : Wait)
  | ended (exit : ScheduleEnd)
  deriving DecidableEq, Repr

/-- how a wait ends; `cancelled` says that the scheduler was cancelled while its result came -/
inductive Reply
  | checked (outcome : CheckOutcome) (cancelled : Bool)
  | slept (cancelled : Bool)
  /-- it was cancelled before there was a result -/
  | interrupted
  deriving DecidableEq, Repr

/-- whether updates are checked for at all, and whether the system has just started -/
structure ScheduleSetup where
  official : Bool := true
  allowUnofficial : Bool := false
  startedWithSystem : Bool := false
  deriving DecidableEq, Repr

structure ScheduleRun where
  phase : SchedulePhase
  /-- the last check failed, and nothing was found before -/
  hadError : Bool := false
  /-- an update was found and published -/
  notified : Bool := false
  state : UpdateState := .unknown
  cancelled : Bool := false
  /-- what it has done so far, the latest first -/
  done : List ScheduleAct := []
  deriving Repr

namespace ScheduleRun

/-- what it has done so far -/
def trace (r : ScheduleRun) : List ScheduleAct := r.done.reverse

def act (r : ScheduleRun) (acts : List ScheduleAct) : ScheduleRun :=
  { r with done := acts.reverse ++ r.done }

theorem trace_act (r : ScheduleRun) (acts : List ScheduleAct) : (r.act acts).trace = r.trace ++ acts := by
  simp [trace, act]

/-- the act that begins a wait -/
def beginning : Wait → ScheduleAct
  | .check => .check
  | .pause p => .sleep p

/-- begins a wait, unless the scheduler is cancelled -/
def await (r : ScheduleRun) (w : Wait) : ScheduleRun :=
  if r.cancelled then { r with phase := .ended .cancelled }
  else { r.act [beginning w] with phase := .waiting w }

/-- the update states are told to everyone -/
def setState (r : ScheduleRun) (state : UpdateState) : ScheduleRun :=
  { r.act [.set state, .publish (.updateFound state)] with state }

def start (setup : ScheduleSetup) (cancelled : Bool) : ScheduleRun :=
  let r : ScheduleRun := { phase := .waiting .check, cancelled }
  if !setup.official && !setup.allowUnofficial then
    { r.setState .disabledUnofficial with phase := .ended .updatesDisabled }
  else if setup.startedWithSystem then r.await (.pause .bootDelay)
  else r.await .check

/-- what follows from a check, up to the pause behind it -/
def judge (r : ScheduleRun) : CheckOutcome → ScheduleRun × PauseClass
  | .failed _ =>
    if r.notified then (r, .checkInterval)
    else if r.hadError then (r, .repeatedErrorBackoff)
    else ({ r with hadError := true }, .firstErrorBackoff)
  | .found _ =>
    if r.notified then ({ r with hadError := false }, .checkInterval)
    else ({ r.setState .available with notified := true, hadError := false }, .checkInterval)
  | .nothing => ({ r with hadError := false }, .checkInterval)

/-- goes on at the end of a wait; a reply that does not belong to the wait changes nothing -/
def resume (r : ScheduleRun) (reply : Reply) : ScheduleRun :=
  match r.phase, reply with
  | .waiting _, .interrupted => { r with phase := .ended .cancelled, cancelled := true }
  | .waiting .check, .checked outcome cancelled =>
    let (r, p) := { r with cancelled := r.cancelled || cancelled }.judge outcome
    r.await (.pause p)
  | .waiting (.pause _), .slept cancelled =>
    { r with cancelled := r.cancelled || cancelled }.await .check
  | _, _ => r

def isEnded (r : ScheduleRun) : Bool :=
  match r.phase with
  | .ended _ => true
  | .waiting _ => false

end ScheduleRun

end TunnelControl
