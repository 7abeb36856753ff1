import TunnelControl.Client.Exchange
import TunnelControl.Service.Serving

/-!
# A service with its clients

A site is a service and some clients whose pipes end in it.

* `Site.connect`, `attach`   a new session, and a client at its far end;
* `Site.change`, `ask`       what a client does by itself.
-/

namespace TunnelControl

structure Site where
  service : Service := {}
  /-- each client with the number of its connection -/
  clients : List (Nat × Client) := []

namespace Site

/-- a new session, whose client is left to itself; whether the service takes it, and the number of its
connection -/
def connect (s : Site) (id : SessionId) (token : Option Token)
    (requestsCapacity eventsCapacity : Nat) : Bool × Nat × Site :=
  let (handle, hub) := s.service.hub.create id token eventsCapacity
  let (admitted, n, service) := { s.service with hub }.serve handle requestsCapacity
  (admitted, n, { s with service })

/-- the client's ends of the pipes of a connection -/
def wires? (s : Service) (n : Nat) : Option Wires := do
  let l ← s.links[n]?
  let session ← s.hub.session? l.session
  some { outgoing := l.requests, incoming := l.responses, events := session.events }

def setWires (s : Service) (n : Nat) (w : Wires) : Service :=
  match s.links[n]? with
  | none => s
  | some l =>
    { s with
      links := s.links.set n { l with requests := w.outgoing, responses := w.incoming },
      hub := s.hub.modify l.session fun session => { session with events := w.events } }

/-- a client takes over the client's ends of a connection; its number goes with it -/
def attach (s : Site) (n : Nat) : Nat × Site :=
  let wires := (wires? s.service n).getD ⟨.ofCapacity 0, .ofCapacity 0, .ofCapacity 0⟩
  (s.clients.length, { s with clients := s.clients ++ [(n, { wires })] })

/-- what a client does, with the pipes as they are now -/
def withClient (s : Site) (k : Nat) (act : Client → Option Client) : Option Site :=
  match s.clients[k]? with
  | none => none
  | some (n, client) =>
    match wires? s.service n with
    | none => none
    | some wires =>
      (act { client with wires }).map fun client =>
        { service := setWires s.service n client.wires, clients := s.clients.set k (n, client) }

def change (s : Site) (k : Nat) (act : Client → Client) : Site :=
  (s.withClient k fun c => some (act c)).getD s

def client? (s : Site) (k : Nat) : Option Client := (s.clients[k]?).map Prod.snd

/-- what a client tells while it does something; a client that is not there tells the default -/
def ask {α : Type} (s : Site) (k : Nat) (default : α) (act : Client → α × Client) : α × Site :=
  (((s.client? k).map fun c => (act c).1).getD default, s.change k fun c => (act c).2)

end Site

end TunnelControl
