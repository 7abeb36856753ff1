import TunnelControl.Connection.Values
import TunnelControl.Session.Hub

/-!
# Clients that read their events

`Hub.receiveEvents` is what a client of a session reads at a time: whole events, what is left behind the last
of them, and whether its stream has come to its end.
-/

namespace TunnelControl

structure EventsRead where
  events : List Event
  rest : Bytes
  ended : Bool
  deriving DecidableEq, Repr

/-- whether so many bytes are all that were asked for -/
def isFull (limit : Option Nat) (bytes : Bytes) : Bool := limit.any (· ≤ bytes.length)

/-- one who got all he asked for does not learn whether the stream ends there -/
def Hub.receiveEvents (h : Hub) (handle : Nat) (limit : Option Nat) : EventsRead × Hub :=
  let (bytes, h) := h.receive handle limit
  let (events, rest) := splitValues (decodePayload Event) bytes
  let ended := !isFull limit bytes && (h.session? handle).any fun s => s.events.atEnd
  (⟨events, rest, ended⟩, h)

end TunnelControl
