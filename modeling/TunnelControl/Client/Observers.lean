import TunnelControl.Message.Basic

/-!
# Observers of events

An observer is subscribed to one kind of event.  It has a queue of its own and takes events from it at its
own pace, so that neither a slow observer nor one that panics holds up the others.

* `Observers.subscribe`, `unsubscribe`, `count`   the table of observers;
* `Observers.dispatch`                            queues an event for the observers of its kind;
* `Observers.deliverTo`, `settle`                 lets one observer take an event, or each all of its own.
-/

namespace TunnelControl

structure Observer where
  id : Nat
  kind : EventKind
  /-- the number of the event on which the observer panics -/
  panicAt : Option Nat := none
  registered : Bool := true
  queue : List Event := []
  /-- the events taken so far, the latest first -/
  taken : List Event := []
  deriving Repr

namespace Observer

/-- the events taken so far -/
def seen (o : Observer) : List Event := o.taken.reverse

/-- an observer that has panicked takes no further events -/
def panicked (o : Observer) : Bool :=
  !o.taken.isEmpty && o.panicAt.any fun n => n = o.taken.length

/-- takes the next event -/
def take (o : Observer) : Observer :=
  match o.queue with
  | [] => o
  | event :: queue => if o.panicked then o else { o with queue, taken := event :: o.taken }

/-- takes the events of a list, one after the other -/
def takeEach : List Event → Observer → Observer
  | [], o => { o with queue := [] }
  | event :: events, o =>
    if o.panicked then { o with queue := [] }
    else takeEach events { o with taken := event :: o.taken }

/-- takes all events there are, up to a panic -/
def takeAll (o : Observer) : Observer := takeEach o.queue o

/-- whether an event is queued for the observer -/
def wants (o : Observer) (event : Event) : Bool :=
  o.registered && o.kind = event.kind && !o.panicked

end Observer

structure Observers where
  next : Nat := 0
  /-- all observers there have been, in the order of their subscriptions -/
  all : List Observer := []
  deriving Repr

namespace Observers

/-- the subscription, and the table with it -/
def subscribe (s : Observers) (kind : EventKind) (panicAt : Option Nat) : Nat × Observers :=
  (s.next, ⟨s.next + 1, s.all ++ [{ id := s.next, kind, panicAt }]⟩)

def observer? (s : Observers) (id : Nat) : Option Observer := s.all.find? (·.id == id)

def isRegistered (s : Observers) (id : Nat) : Bool :=
  s.all.any fun o => o.id == id && o.registered

/-- the events queued before stay queued -/
def unsubscribe (s : Observers) (id : Nat) : Observers :=
  { s with
    all := s.all.map fun o => if o.id == id then { o with registered := false } else o }

/-- the registered observers of a kind, whether they have panicked or not -/
def count (s : Observers) (kind : EventKind) : Nat :=
  s.all.countP fun o => o.registered && o.kind = kind

/-- how many observers an event is queued for -/
def audience (s : Observers) (event : Event) : Nat := s.all.countP (·.wants event)

def dispatch (s : Observers) (event : Event) : Observers :=
  { s with
    all := s.all.map fun o =>
      if o.wants event then { o with queue := o.queue ++ [event] } else o }

/-- one observer takes one event -/
def deliverTo (s : Observers) (id : Nat) : Observers :=
  { s with all := s.all.map fun o => if o.id == id then o.take else o }

/-- all observers take what is there for them -/
def settle (s : Observers) : Observers :=
  { s with all := s.all.map Observer.takeAll }

/-- the events that an observer has taken -/
def seenBy (s : Observers) (id : Nat) : List Event :=
  ((s.observer? id).map Observer.seen).getD []

end Observers

end TunnelControl
