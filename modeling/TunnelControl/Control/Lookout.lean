import TunnelControl.Client.FarEnd
import TunnelControl.Control.Follow

/-!
# A watch with its client

A watch waits for the next event as long as somebody is left who could hand one on.  An observer is such a one until its
queue is empty and nobody keeps the table from which more would be put into it.  The client keeps that table, and it
stays with the watch to the end; so does the reading of events, as long as it goes on.

* `Lookout.keepsTable`, `isOpen`   who is left;
* `Lookout.hangUp`                 the watch ends because nobody is;
* `Lookout.read`, `handOn`, `print`   an event on its way from the stream to the watch.
-/

namespace TunnelControl

structure Lookout where
  client : Client
  limit : Option Nat
  /-- what the observers have handed on, and nobody has printed -/
  channel : List Event := []
  printed : List Event := []
  ended : Bool := false
  deriving Repr

namespace Lookout

/-- a watch with a client that has had no observers before -/
def start (limit : Option Nat) (client : Client) : Lookout :=
  { limit, client := { client with observers := (Watching.start limit).observers } }

/-- what there is of it besides the client -/
def watching (l : Lookout) : Watching :=
  { limit := l.limit, observers := l.client.observers,
    channel := l.channel, printed := l.printed, ended := l.ended }

def withWatching (l : Lookout) (w : Watching) : Lookout :=
  { l with
    client := { l.client with observers := w.observers },
    channel := w.channel, printed := w.printed, ended := w.ended }

/-! ## what happens to the stream of events -/

/-- the far end sends as many of some bytes as there is room for -/
def feed (l : Lookout) (data : Bytes) : Option Lookout :=
  match l.client.wires.events.write data with
  | .wrote _ events => some { l with client := l.client.setEvents events }
  | _ => none

def endEvents (l : Lookout) : Lookout := { l with client := l.client.endEvents }

def breakEvents (l : Lookout) : Lookout := { l with client := l.client.breakEvents }

/-- the client reads the next event, or a part of it, or finds that there is none -/
def read (l : Lookout) : Option Lookout := l.client.noticeStep.map fun client => { l with client }

/-! ## what the watch does -/

/-- an observer hands its next event on -/
def handOn (l : Lookout) (id : Nat) : Option Lookout := (l.watching.handOn id).map l.withWatching

/-- the next event is printed, unless the watch has ended -/
def print (l : Lookout) : Option Lookout := l.watching.print.map l.withWatching

/-- somebody keeps the table of observers -/
def keepsTable (l : Lookout) : Bool := !l.ended || l.client.isReceiving

/-- an observer goes on while there is something in its queue, or something may still come -/
def goesOn (l : Lookout) (o : Observer) : Bool :=
  !o.panicked && (l.keepsTable && o.registered || !o.queue.isEmpty)

/-- somebody is left who could hand an event on -/
def isOpen (l : Lookout) : Bool := l.client.observers.all.any l.goesOn

/-- the watch ends because nothing is left to be printed, and nobody to hand anything on -/
def hangUp (l : Lookout) : Option Lookout :=
  if !l.ended && l.channel.isEmpty && !l.isOpen then some { l with ended := true } else none

end Lookout

end TunnelControl
