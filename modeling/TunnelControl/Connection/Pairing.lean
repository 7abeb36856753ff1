import TunnelControl.Connection.Error
import TunnelControl.Connection.Policy

/-!
# Pairing connections into sessions

A client makes two connections for a session, and begins each with a hello that names the session and the
channel.  A connection that comes first waits for the other one, at most for the pairing timeout.

* `Connection.hello`   the hello of a connection;
* `Pairer.accept`      takes a connection up: it is refused, it waits, or it completes a session;
* `Pairer.advance`     lets time pass and drops connections whose time is over.

The timer of a connection that waits is set when it begins to wait, and drops whatever then waits for the
same session.
-/

namespace TunnelControl

/-- a connection to the service -/
structure Connection where
  /-- connections are told apart by their numbers -/
  number : Nat
  uid : UInt32
  gid : UInt32
  /-- the bytes that the client has sent, and that nobody has read -/
  unread : Bytes
  /-- the client sends no more -/
  ended : Bool := false
  deriving DecidableEq, Repr

/-- a connection that waits for the other one of its session -/
structure Half where
  channel : Channel
  connection : Connection
  /-- when it began to wait -/
  since : Nat
  deriving DecidableEq, Repr

/-- both connections of a session -/
structure PairedSession where
  id : SessionId
  token : Option Token
  requests : Connection
  events : Connection
  deriving DecidableEq, Repr

namespace Connection

/-- the hello, and the connection behind it; a client that stays silent and does not end is waited for in
vain -/
def hello (c : Connection) : Except PeerError (Hello × Connection) :=
  match nextFrame (.ofBytes c.unread) with
  | (.payload payload, rest) =>
    match decodePayload Hello payload with
    | .ok h => .ok (h, { c with unread := rest.content })
    | .error fault => .error (.serialization fault)
  | (.fault (.tooLarge length), _) => .error (.protocol (.frame (.tooLarge length)))
  | (.fault fault, _) => .error (if c.ended then .protocol (.frame fault) else .noHello)
  | (.clean, _) => .error (if c.ended then .connection .closedBeforeHello else .noHello)
  | (.broken reason, _) => .error (.io (.other reason))

/-- the client sends more, unless it has ended -/
def send (c : Connection) (bytes : Bytes) : Connection :=
  if c.ended then c else { c with unread := c.unread ++ bytes }

end Connection

structure Pairer where
  policy : AdminPolicy := {}
  /-- how long a connection waits, in milliseconds -/
  timeout : Nat := 5000
  clock : Nat := 0
  pending : List (SessionId × Half) := []
  /-- the timers that have not run out: the session, and the time -/
  timers : List (SessionId × Nat) := []
  /-- the sessions completed so far, in order -/
  paired : List PairedSession := []
  /-- someone takes the sessions -/
  receiverOpen : Bool := true
  deriving Repr

namespace Pairer

def waitingCount (p : Pairer) : Nat := p.pending.length

def half? (p : Pairer) (id : SessionId) : Option Half := p.pending.lookup id

/-- the id is free again -/
def forget (p : Pairer) (id : SessionId) : Pairer :=
  { p with pending := p.pending.filter (·.1 != id) }

/-- a connection begins to wait -/
def await (p : Pairer) (h : Hello) (c : Connection) : Pairer :=
  { p with
    pending := p.pending ++ [(h.session, ⟨h.channel, c, p.clock⟩)],
    timers := p.timers ++ [(h.session, p.clock + p.timeout)] }

/-- hands on a session, whose token is that of its requests connection -/
def complete (p : Pairer) (id : SessionId) (requests events : Connection) :
    Except PeerError Unit × Pairer :=
  if p.receiverOpen then
    let token := p.policy.grant requests.uid requests.gid
    (.ok (), { p with paired := p.paired ++ [⟨id, token, requests, events⟩] })
  else (.error (.connection .receiverDropped), p)

/-- a connection meets the one that has waited for it; if they do not belong together, both are dropped -/
def meet (p : Pairer) (first : Half) (h : Hello) (c : Connection) : Except PeerError Unit × Pairer :=
  if first.connection.uid ≠ c.uid then
    (.error (.otherUser h.session first.connection.uid c.uid), p)
  else
    match first.channel, h.channel with
    | .requests, .events => p.complete h.session first.connection c
    | .events, .requests => p.complete h.session c first.connection
    | channel, _ => (.error (.protocol (.sameChannel h.session channel)), p)

/-- takes up a connection whose hello has come -/
def place (p : Pairer) (h : Hello) (c : Connection) : Except PeerError Unit × Pairer :=
  if h.version ≠ protocolVersion then (.error (.protocol (.version h.version)), p)
  else
    match p.half? h.session with
    | none => (.ok (), p.await h c)
    | some first => (p.forget h.session).meet first h c

def accept (p : Pairer) (c : Connection) : Except PeerError Unit × Pairer :=
  match c.hello with
  | .error e => (.error e, p)
  | .ok (h, c) => p.place h c

/-! ## time -/

/-- a timer runs out -/
def expire (p : Pairer) (timer : SessionId × Nat) : Pairer :=
  { p.forget timer.1 with timers := p.timers.erase timer }

/-- drops the connections whose time is over -/
def advance (p : Pairer) (ms : Nat) : Pairer :=
  let p := { p with clock := p.clock + ms }
  (p.timers.filter fun timer => timer.2 ≤ p.clock).foldl expire p

/-- takes up a connection, and waits for its hello if none has come -/
def acceptInTime (p : Pairer) (c : Connection) : Except PeerError Unit × Pairer :=
  match p.accept c with
  | (.error .noHello, p) => (.error .noHello, p.advance p.timeout)
  | r => r

/-- lets time pass until no connection waits -/
def awaitExpiry (p : Pairer) : Pairer :=
  if p.pending.isEmpty then p
  else p.advance ((p.timers.foldl (fun latest timer => max latest timer.2) p.clock) - p.clock)

/-- takes the sessions that were completed -/
def takePaired (p : Pairer) : List PairedSession × Pairer := (p.paired, { p with paired := [] })

/-- the clients of the connections that wait send more -/
def sendEach (p : Pairer) (bytes : Connection → Bytes) : Pairer :=
  { p with
    pending := p.pending.map fun (id, half) =>
      (id, { half with connection := half.connection.send (bytes half.connection) }) }

theorem accept_of_hello_error {p : Pairer} {c : Connection} {e : PeerError} (h : c.hello = .error e) :
    p.accept c = (.error e, p) := by
  unfold accept
  rw [h]

end Pairer

end TunnelControl
