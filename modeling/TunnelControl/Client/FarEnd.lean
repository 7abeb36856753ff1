import TunnelControl.Client.Exchange

/-!
# The far end of a client

Whoever is at the far end of a client's pipes writes answers and events to it, and takes the requests that
it has sent.
-/

namespace TunnelControl.Client

def setAnswers (c : Client) (incoming : Pipe) : Client := { c with wires := { c.wires with incoming } }

def setEvents (c : Client) (events : Pipe) : Client := { c with wires := { c.wires with events } }

/-- writes to one of the client's pipes as the client reads; whether all was written -/
def feedFor (pipe : Client → Pipe) (put : Client → Pipe → Client) :
    Nat → Bytes → Client → Bool × Client
  | 0, _, c => (false, c)
  | fuel + 1, data, c =>
    match (pipe c).write data with
    | .wrote [] p => (true, (put c p).settle)
    | .wrote left@(_ :: _) p => feedFor pipe put fuel left (put c p).settle
    | _ => (false, c)

def feedAnswers (c : Client) (data : Bytes) : Bool × Client :=
  feedFor (fun c => c.wires.incoming) setAnswers (data.length + 1) data c

def feedEvents (c : Client) (data : Bytes) : Bool × Client :=
  feedFor (fun c => c.wires.events) setEvents (data.length + 1) data c

def endAnswers (c : Client) : Client := c.setAnswers c.wires.incoming.closeWriter

def endEvents (c : Client) : Client := c.setEvents c.wires.events.closeWriter

/-- the connection breaks on which the events come -/
def breakEvents (c : Client) : Client := { c with eventsBroken := true }

/-- nobody reads requests any more, nor writes answers -/
def leaveRequests (c : Client) : Client :=
  { c.endAnswers with wires := { c.endAnswers.wires with outgoing := c.wires.outgoing.closeReader } }

/-- takes all that the client has sent -/
def takeSent (c : Client) : Bytes × Client :=
  let (sent, outgoing) := c.wires.outgoing.take c.wires.outgoing.size
  (sent, { c with wires := { c.wires with outgoing } })

/-- whether the client has ended its requests -/
def hasEnded (c : Client) : Bool := !c.wires.outgoing.writerOpen

end TunnelControl.Client
