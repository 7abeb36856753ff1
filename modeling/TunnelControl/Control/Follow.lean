import TunnelControl.Client.Observers
import TunnelControl.Control.Output

/-!
# Following events

* `watched`    the events that a watch prints, of those that reach it: it ends behind the last one that it
  was asked for, and behind the news that the service stops;
* `followed`   what is printed of the progress of an update: it ends behind the final step, or with a
  report when its time is over.

`Watching` is a watch as it runs.  It has an observer for each kind of event, which all hand what they see
to one channel, so that events of different kinds may overtake each other there.

`Following` is the news of an update as they are followed.  It waits for the next event and for its deadline
at the same time.
-/

namespace TunnelControl

/-! ## what is printed -/

/-- whether a watch ends behind an event, which is one of so many that it has printed -/
def endsWatch (limit : Option Nat) (printed : Nat) (e : Event) : Bool :=
  limit.any (· ≤ printed) || e = .managerStopping

/-- the events printed by a watch that has printed some before, and whether it has ended -/
def watchedFrom (limit : Option Nat) : Nat → List Event → List Event × Bool
  | _, [] => ([], false)
  | printed, e :: es =>
    if endsWatch limit (printed + 1) e then ([e], true)
    else
      let (rest, ended) := watchedFrom limit (printed + 1) es
      (e :: rest, ended)

def watched (limit : Option Nat) (es : List Event) : List Event × Bool := watchedFrom limit 0 es

/-- a final step of an update -/
def isFinalStep : Event → Bool
  | .updateProgress p => p.isFinal
  | _ => false

def isProgress (e : Event) : Bool := e.kind = .updateProgress

/-- what is printed of events, each with the time of its arrival, up to a deadline -/
def followed (deadline : Nat) : List (Nat × Event) → List Printed
  | [] => [.report .timeout]
  | (time, e) :: es =>
    if deadline ≤ time then [.report .timeout]
    else if !isProgress e then followed deadline es
    else if isFinalStep e then [.event e]
    else .event e :: followed deadline es

theorem watched_nil (limit : Option Nat) : watched limit [] = ([], false) := rfl
theorem followed_nil (deadline : Nat) : followed deadline [] = [.report .timeout] := rfl

/-! ## a watch as it runs -/

structure Watching where
  limit : Option Nat
  observers : Observers
  /-- what the observers have handed on, and nobody has printed -/
  channel : List Event := []
  printed : List Event := []
  ended : Bool := false
  deriving Repr

namespace Watching

/-- one observer for each kind -/
def start (limit : Option Nat) : Watching :=
  { limit,
    observers := EventKind.all.foldl (fun s kind => (s.subscribe kind none).2) {} }

/-- an event arrives, and is queued for its observer -/
def arrive (w : Watching) (e : Event) : Watching := { w with observers := w.observers.dispatch e }

/-- an observer hands its next event on -/
def handOn (w : Watching) (id : Nat) : Option Watching :=
  match (w.observers.observer? id).map Observer.queue with
  | some (e :: _) =>
    some { w with observers := w.observers.deliverTo id, channel := w.channel ++ [e] }
  | _ => none

/-- the next event is printed, unless the watch has ended -/
def print (w : Watching) : Option Watching :=
  match w.ended, w.channel with
  | false, e :: channel =>
    some { w with
      channel, printed := w.printed ++ [e],
      ended := endsWatch w.limit (w.printed.length + 1) e }
  | _, _ => none

/-- what is done next if events come one at a time: an observer goes first, then the printer -/
def next (w : Watching) : Option Watching :=
  match (w.observers.all.map Observer.id).findSome? w.handOn with
  | some w => some w
  | none => w.print

def nextTimes : Nat → Watching → Watching
  | 0, w => w
  | n + 1, w =>
    match w.next with
    | none => w
    | some w => nextTimes n w

/-- each event that waits is handed on and printed -/
def settle (w : Watching) : Watching :=
  nextTimes (2 * (w.observers.all.foldl (fun n o => n + o.queue.length) w.channel.length)) w

/-- events arrive one after the other, and each is seen to before the next comes -/
def arriveEach (w : Watching) (es : List Event) : Watching :=
  es.foldl (fun w e => (w.arrive e).settle) w

end Watching

/-! ## the news of an update as they are followed -/

/-- the event that an observer takes next -/
def Observers.nextFor? (s : Observers) (id : Nat) : Option Event := (s.observer? id).bind fun o => o.queue.head?

structure Following where
  deadline : Nat
  /-- the time that has passed since the service acknowledged the update -/
  now : Nat := 0
  observers : Observers
  /-- what the observer has handed on, and nobody has printed -/
  channel : List Event := []
  printed : List Printed := []
  ended : Bool := false
  deriving Repr

namespace Following

/-- one observer, for the progress of updates -/
def start (deadline : Nat) : Following :=
  { deadline, observers := (({} : Observers).subscribe .updateProgress none).2 }

/-- an event arrives, and is queued for the observer if it is of its kind -/
def arrive (f : Following) (e : Event) : Following := { f with observers := f.observers.dispatch e }

/-- an observer hands its next event on -/
def handOn (f : Following) (id : Nat) : Option Following :=
  (f.observers.nextFor? id).map fun e =>
    { f with observers := f.observers.deliverTo id, channel := f.channel ++ [e] }

/-- the next event is printed, a final step as the last -/
def receive (f : Following) : Option Following :=
  match f.ended, f.channel with
  | false, e :: channel =>
    some { f with channel, printed := f.printed ++ [.event e], ended := isFinalStep e }
  | _, _ => none

/-- the time is over -/
def expire (f : Following) : Option Following :=
  if !f.ended && f.deadline ≤ f.now then
    some { f with printed := f.printed ++ [.report .timeout], ended := true }
  else none

/-- nothing is left that can be done at this time -/
def isAtRest (f : Following) : Bool :=
  (f.observers.all.all fun o => o.queue.isEmpty) && f.receive.isNone && f.expire.isNone

/-- a millisecond passes, but not before all is done that can be -/
def pass (f : Following) : Option Following :=
  if f.isAtRest then some { f with now := f.now + 1 } else none

end Following

end TunnelControl
