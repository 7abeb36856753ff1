import TunnelControl.Client.FarEnd
import TunnelControl.Connection.Listener
import TunnelControl.Control.Follow
import TunnelControl.Service.Calls

/-!
# Carrying out commands

A command makes some calls, one after the other, and reports the answer to the last one; the first error
ends it.  Two commands go on and print events.

* `ControlCommand.calls`, `ControlCommand.report`   the calls of a command, and what it says in the end;
* `ControlCommand.perform`                          carries a command out with what is at the client's far end;
* `ControlCommand.waits`                            whether it then comes to no end.
-/

namespace TunnelControl

/-- why a command fails -/
inductive ControlFault
  | connect (path : String) (cause : ConnectionFault)
  | call (cause : PeerError)
  deriving Repr

/-- the message and those of its causes -/
def ControlFault.message : ControlFault → String
  | .connect path cause => s!"failed to connect to {path}: {(PeerError.connection cause).message}"
  | .call cause => ": ".intercalate cause.chain

namespace ControlCommand

def calls : ControlCommand → List Method
  | updateState => [.queryUpdateState]
  | update _ => [.triggerUpdate]
  | tunnelUp config => [.startTunnel config, .queryTunnelState]
  | tunnelDown => [.stopTunnel, .queryTunnelState]
  | tunnelStatus => [.queryTunnelState]
  | watch _ => []
  | quit stopTunnels => [.quit stopTunnels]

def report (c : ControlCommand) (last : Answer) : Option Report :=
  match c, last with
  | updateState, .updateState state => some (.ok state.description)
  | tunnelUp _, .tunnelState state | tunnelDown, .tunnelState state =>
    some (.ok s!"tunnel {state.description}")
  | tunnelStatus, .tunnelState state => some (.ok state.description)
  | quit _, .quit response =>
    some (.ok (if response.alreadyQuit then "manager service was already quitting"
      else "manager service is shutting down"))
  | _, _ => none

end ControlCommand

/-- what is at the far end of the client -/
inductive FarEnd
  /-- a service, with the number of the client there -/
  | service (site : Site) (client : Nat)
  /-- someone who answers each request with the next of some frames, and hangs up behind the last one; with
  no frame at all, before a request is read -/
  | scripted (client : Client) (replies : List Bytes)

namespace FarEnd

/-- a client whose far end answers with some frames -/
def ofReplies (replies : List Bytes) : FarEnd :=
  let pipe : Pipe := .ofCapacity (2 * maxPayload)
  .scripted { wires := ⟨pipe, pipe, pipe⟩ } replies

/-- a frame is the answer, and the stream ends behind the last one -/
def reply (c : Client) (bytes : Bytes) (last : Bool) : Client :=
  let c := (c.feedAnswers bytes).2
  if last then c.endAnswers.settle else c

/-- a call without a limit to its time; one that can never be answered counts as closed -/
def call (far : FarEnd) (m : Method) : Except PeerError Answer × FarEnd :=
  match far with
  | service site k =>
    let n := ((site.client? k).map fun c => c.calls.length).getD 0
    let site := (site.change k fun c => (c.begin (.call m)).2).settle
    let r := (site.client? k).bind fun c => c.result? n
    (r.getD (.error .closed), .service site k)
  | scripted c replies =>
    let (n, c) := c.begin (.call m)
    match c.result? n, replies with
    | some r, _ => (r, .scripted c replies)
    | none, [] => (.error (.io (if n = 0 then .reset else .hungUp)), .scripted c [])
    | none, bytes :: replies =>
      let c := reply c.settle bytes replies.isEmpty
      ((c.result? n).getD (.error .closed), .scripted c replies)

/-- calls one after the other, up to the first error; the last answer -/
def callEach (far : FarEnd) (last : Option Answer) :
    List Method → Except PeerError (Option Answer) × FarEnd
  | [] => (.ok last, far)
  | m :: ms =>
    match far.call m with
    | (.error e, far) => (.error e, far)
    | (.ok a, far) => callEach far (some a) ms

def change (far : FarEnd) (act : Client → Client) : FarEnd :=
  match far with
  | service site k => .service (site.change k act) k
  | scripted c replies => .scripted (act c) replies

def client? : FarEnd → Option Client
  | service site k => site.client? k
  | scripted c _ => some c

/-- an observer for a kind of event -/
def subscribe (far : FarEnd) (kind : EventKind) : Nat × FarEnd :=
  let n := (far.client?.map fun c => c.observers.next).getD 0
  (n, far.change fun c => { c with observers := (c.observers.subscribe kind none).2 })

def seenBy (far : FarEnd) (id : Nat) : List Event :=
  (far.client?.map fun c => c.observers.seenBy id).getD []

/-- the service publishes an event -/
def publish (far : FarEnd) (e : Event) : FarEnd :=
  match far with
  | service site k =>
    let hub := (site.service.hub.publish e false).2
    .service { site with service := { site.service with hub } }.settle k
  | far => far

/-- what reaches the client, which observes its kind, of an event that is published so often -/
def arrivals (far : FarEnd) (times : Nat) (e : Event) : List Event × FarEnd :=
  let (id, far) := far.subscribe e.kind
  let far := Nat.repeat (·.publish e) times far
  (far.seenBy id, far)

/-- the program ends -/
def leave (far : FarEnd) : FarEnd :=
  match far.change Client.drop with
  | service site k => .service site.settle k
  | far => far

end FarEnd

namespace ControlCommand

/-- how many events of one kind are enough for a command: a watch prints one at least -/
def patience : ControlCommand → Nat
  | watch limit => max 1 (limit.getD 1)
  | _ => 1

/-- what comes behind the calls: the report, or the events that arrive -/
def conclude (c : ControlCommand) (last : Option Answer) (observer : Nat) (arrived : List Event)
    (far : FarEnd) : List Printed :=
  match c with
  | update timeoutSecs =>
    followed (1000 * timeoutSecs) ((far.seenBy observer ++ arrived).map fun e => (0, e))
  | watch limit => ((Watching.start limit).arriveEach arrived).printed.map .event
  | c => ((last.bind c.report).map .report).toList

/-- the events that arrive for the command, if the service publishes one again and again -/
def arrivals (c : ControlCommand) (repeated : Option Event) (far : FarEnd) : List Event × FarEnd :=
  (repeated.map (far.arrivals c.patience)).getD ([], far)

/-- carries the command out, while the service publishes an event again and again, if it does; then the
client goes away -/
def perform (c : ControlCommand) (repeated : Option Event) (far : FarEnd) :
    Except ControlFault (List Printed) × FarEnd :=
  let (observer, far) := far.subscribe .updateProgress
  match far.callEach none c.calls with
  | (.error e, far) => (.error (.call e), far.leave)
  | (.ok last, far) =>
    let (arrived, after) := c.arrivals repeated far
    (.ok (c.conclude last observer arrived far), after.leave)

/-- whether the command waits for more than the events that arrive: a watch that has not ended -/
def isWaiting (c : ControlCommand) (arrived : List Event) : Bool :=
  match c with
  | watch limit => !((Watching.start limit).arriveEach arrived).ended
  | _ => false

/-- whether the command, carried out like that, waits for ever -/
def waits (c : ControlCommand) (repeated : Option Event) (far : FarEnd) : Bool :=
  match (far.subscribe .updateProgress).2.callEach none c.calls with
  | (.error _, _) => false
  | (.ok _, far) => c.isWaiting (c.arrivals repeated far).1

end ControlCommand

end TunnelControl
