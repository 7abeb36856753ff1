import TunnelControl.Client.Observers
import TunnelControl.Message.Answer
import TunnelControl.Stream.Pipe
import TunnelControl.Wire.Frame

/-!
# A client of the service

A client makes calls on one connection and reads events from another.  Calls take turns in the order in
which they were made: one has the requests stream from its first byte until its answer is decoded.  A call
that fails or is given up in between leaves the stream out of step, and all later calls are refused.

* `Client.begin`     makes a call; `Client.giveUp` abandons it;
* `Client.callStep`  what the call whose turn it is does next;
* `Client.noticeStep` reads the next event and hands it to the observers;
* `Client.settle`    all that the client can do by itself.
-/

namespace TunnelControl

/-- the client's ends of the pipes of a session -/
structure Wires where
  outgoing : Pipe
  incoming : Pipe
  events : Pipe
  deriving DecidableEq, Repr

inductive Request
  | call (method : Method)
  /-- ends the requests stream, and stops reading events -/
  | close
  deriving DecidableEq, Repr

inductive CallPhase
  /-- not yet its turn -/
  | waiting
  | sending (left : Bytes)
  | receiving (reader : FrameReader)
  | done (result : Except PeerError Answer)
  | givenUp
  deriving Repr

structure Call where
  request : Request
  /-- the bytes of the request -/
  frame : Bytes
  phase : CallPhase
  deriving Repr

namespace Call

def isWaiting (c : Call) : Bool :=
  match c.phase with
  | .waiting => true
  | _ => false

/-- whether it is this call's turn -/
def hasTurn (c : Call) : Bool :=
  match c.phase with
  | .sending _ | .receiving _ => true
  | _ => false

/-- whether anything may still come of the call -/
def isPending (c : Call) : Bool := c.isWaiting || c.hasTurn

/-- what came of the call; nothing, if it was given up -/
def result? (c : Call) : Option (Except PeerError Answer) :=
  match c.phase with
  | .done r => some r
  | _ => none

end Call

structure Client where
  wires : Wires
  /-- an exchange is under way, or was never finished -/
  inFlight : Bool := false
  /-- all calls there have been -/
  calls : List Call := []
  /-- what has arrived of the next event, while events are read at all -/
  notices : Option FrameReader := some .start
  /-- reading events fails behind all that has arrived of them -/
  eventsBroken : Bool := false
  observers : Observers := {}
  deriving Repr

namespace Client

/-! ## calls -/

def setCall (c : Client) (n : Nat) (call : Call) : Client := { c with calls := c.calls.set n call }

def finish (c : Client) (n : Nat) (call : Call) (r : Except PeerError Answer) : Client :=
  c.setCall n { call with phase := .done r }

/-- reads no more events -/
def stopReading (c : Client) : Client :=
  { c with notices := none, wires := { c.wires with events := c.wires.events.closeReader } }

/-- makes a call, whose number goes with it; a call that has no frame fails at once -/
def begin (c : Client) (request : Request) : Nat × Client :=
  let n := c.calls.length
  match request with
  | .close =>
    let c := c.stopReading
    (n, { c with calls := c.calls ++ [⟨request, [], .waiting⟩] })
  | .call m =>
    match frameOf m with
    | .ok frame => (n, { c with calls := c.calls ++ [⟨request, frame, .waiting⟩] })
    | .error e => (n, { c with calls := c.calls ++ [⟨request, [], .done (.error e)⟩] })

def giveUp (c : Client) (n : Nat) : Client :=
  match c.calls[n]? with
  | some call => if call.isPending then c.setCall n { call with phase := .givenUp } else c
  | none => c

/-- a waiting call has its turn -/
def takeTurn (c : Client) (n : Nat) (call : Call) : Client :=
  match call.request with
  | .close =>
    { c with wires := { c.wires with outgoing := c.wires.outgoing.closeWriter } }.finish n call
      (.ok .acknowledged)
  | .call _ =>
    if c.inFlight then c.finish n call (.error .closed)
    else { c with inFlight := true }.setCall n { call with phase := .sending call.frame }

/-- what comes of the payload of an answer -/
def judge (c : Client) (n : Nat) (call : Call) (payload : Bytes) : Client :=
  match call.request with
  | .close => c.finish n call (.ok .acknowledged)
  | .call m =>
    match m.readAnswer payload with
    | .ok a => { c with inFlight := false }.finish n call a.surface
    | .error fault => c.finish n call (.error (.serialization fault))

/-- the service has closed the stream, between two frames or inside one -/
def endOfAnswers (reader : FrameReader) : PeerError :=
  match reader.atEnd with
  | none => .closed
  | some fault => .protocol (.frame fault)

/-- what the call whose turn it is does next -/
def exchangeStep (c : Client) (n : Nat) (call : Call) : Option Client :=
  match call.phase with
  | .sending left =>
    if left.isEmpty then some (c.setCall n { call with phase := .receiving .start })
    else match c.wires.outgoing.write left with
      | .wrote left outgoing =>
        some ({ c with wires := { c.wires with outgoing } }.setCall n
          { call with phase := .sending left })
      | .blocked => none
      | .broken => some (c.finish n call (.error (.io .brokenPipe)))
  | .receiving reader =>
    match c.wires.incoming.take reader.wanted with
    | ([], _) =>
      if c.wires.incoming.atEnd then some (c.finish n call (.error (endOfAnswers reader))) else none
    | (piece@(_ :: _), incoming) =>
      let c := { c with wires := { c.wires with incoming } }
      match reader.feed piece with
      | .more reader => some (c.setCall n { call with phase := .receiving reader })
      | .tooLarge length => some (c.finish n call (.error (.protocol (.frame (.tooLarge length)))))
      | .payload payload => some (c.judge n call payload)
  | _ => none

/-- the first call for which a test holds, with its number -/
def findCall (test : Call → Bool) (c : Client) : Option (Nat × Call) := do
  let n ← c.calls.findIdx? test
  let call ← c.calls[n]?
  some (n, call)

/-- the call that has its turn goes on, or the next one gets it -/
def callStep (c : Client) : Option Client :=
  match c.findCall Call.hasTurn with
  | some (n, call) => c.exchangeStep n call
  | none => (c.findCall Call.isWaiting).map fun (n, call) => c.takeTurn n call

/-! ## events -/

/-- reads the next event, or a part of it; what is no event ends the reading, and so does the end of the stream -/
def noticeStep (c : Client) : Option Client :=
  match c.notices with
  | none => none
  | some reader =>
    match c.wires.events.take reader.wanted with
    | ([], _) => if c.eventsBroken || c.wires.events.atEnd then some c.stopReading else none
    | (piece@(_ :: _), events) =>
      let c := { c with wires := { c.wires with events } }
      match reader.feed piece with
      | .more reader => some { c with notices := some reader }
      | .tooLarge _ => some c.stopReading
      | .payload payload =>
        match decodePayload Event payload with
        | .ok event =>
          some { c with notices := some .start, observers := c.observers.dispatch event }
        | .error _ => some c.stopReading

def isReceiving (c : Client) : Bool := c.notices.isSome

def subscribe (c : Client) (kind : EventKind) : Nat × Client :=
  let (id, observers) := c.observers.subscribe kind none
  (id, { c with observers })

/-- an observer goes; whether it was there, and the events that it has taken -/
def unsubscribe (c : Client) (id : Nat) : (Bool × List Event) × Client :=
  ((c.observers.isRegistered id, c.observers.seenBy id),
    { c with observers := c.observers.unsubscribe id })

/-! ## running -/

/-- what the client does next by itself -/
def step (c : Client) : Option Client :=
  match c.callStep with
  | some c => some c
  | none => c.noticeStep

def stepTimes (next : Client → Option Client) : Nat → Client → Client
  | 0, c => c
  | n + 1, c =>
    match next c with
    | none => c
    | some c => stepTimes next n c

/-- a call takes no more steps than its bytes in both directions, and a few besides -/
def callWork (call : Call) : Nat :=
  if call.isPending then 2 * (call.frame.length + maxPayload + 8) else 0

/-- so many steps are enough for all that is there to be done -/
def workLeft (c : Client) : Nat :=
  c.calls.foldl (fun n call => n + callWork call) (2 * c.wires.events.size + 4)

/-- all that the client can do by itself; its observers keep up with it -/
def settle (c : Client) : Client :=
  let c := stepTimes step c.workLeft c
  { c with observers := c.observers.settle }

/-- what the calls can do before anything else happens -/
def settleCalls (c : Client) : Client := stepTimes callStep c.workLeft c

/-- the client goes away, with all its ends of the pipes -/
def drop (c : Client) : Client :=
  let c := c.stopReading
  { c with
    wires :=
      { c.wires with
        outgoing := c.wires.outgoing.closeWriter, incoming := c.wires.incoming.closeReader } }

def isPending (c : Client) (n : Nat) : Bool := (c.calls[n]?).any Call.isPending

def result? (c : Client) (n : Nat) : Option (Except PeerError Answer) :=
  (c.calls[n]?).bind Call.result?

/-! ## calls with a time limit -/

def beginEach (c : Client) : List Request → List Nat × Client
  | [] => ([], c)
  | request :: requests =>
    let (n, c) := c.begin request
    let (ns, c) := beginEach c requests
    (n :: ns, c)

/-- gives up calls one after the other; each makes room for the next -/
def giveUpEach (c : Client) : List Nat → Client
  | [] => c
  | n :: ns => giveUpEach ((c.giveUp n).settle) ns

/-- makes calls at the same time, each with a limit to its time, while nothing else happens.  A limit of
zero leaves a call what it can do at once. -/
def callAll (c : Client) (requests : List (Request × Nat)) :
    List (Option (Except PeerError Answer)) × Client :=
  let (ns, c) := c.beginEach (requests.map Prod.fst)
  let limits := ns.zip (requests.map Prod.snd)
  let hasty := (limits.filter fun (_, limit) => limit = 0).map Prod.fst
  let c := (c.settleCalls.giveUpEach hasty).settle
  let c := c.giveUpEach ((limits.mergeSort fun a b => a.2 ≤ b.2).map Prod.fst)
  (ns.map c.result?, c)

end Client

end TunnelControl
