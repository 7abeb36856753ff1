import TunnelControl.Message.Answer
import TunnelControl.Session.Hub
import TunnelControl.Tunnel.Backend
import TunnelControl.Update.Installer
import TunnelControl.Wire.Frame

/-!
# The service and its operations

The service holds what all sessions share.  An operation is asked for by a session: `stopTunnel`, for
one, is refused to a session that is not elevated.

To quit is a walk through stages (`QuitStage`), so that the quits of several sessions, and all else
that goes on, can be told in any order: `Service.quitStep` takes one stage, `Service.quit` all of them.

* `Service.startTunnel`, `stopTunnel`, `triggerUpdate`, `quit`   the operations;
* `Service.dispatch`                                             the answer to a method.
-/

namespace TunnelControl

/-- why an operation fails -/
inductive OperationError
  | accessDenied
  | tunnel (cause : TunnelFault)
  deriving DecidableEq, Repr

def OperationError.message : OperationError → String
  | .accessDenied => "Access is denied"
  | .tunnel cause => cause.message

/-- hands the progress of an installation on to the elevated sessions, up to its final step -/
structure Relay where
  stream : ProgressStream
  listening : Bool := true
  deriving DecidableEq, Repr

namespace Relay

def canGoOn (r : Relay) : Bool :=
  r.listening && (!r.stream.waiting.isEmpty || !r.stream.senderOpen)

/-- nothing will ever come of it -/
def isOver (r : Relay) : Bool := !r.listening && !r.stream.senderOpen

/-- no more items will come -/
def endStream (r : Relay) : Relay := { r with stream := { r.stream with senderOpen := false } }

/-- hands on the next item, if there is one, which goes with it; or notices that none will come -/
def step (r : Relay) : Option (Option Progress × Relay) :=
  if !r.listening then none
  else match r.stream.waiting with
    | [] => if r.stream.senderOpen then none else some (none, { r with listening := false })
    | item :: waiting =>
      some (item, { r with stream := { r.stream with waiting }, listening := !item.isFinal })

theorem canGoOn_eq (r : Relay) : r.canGoOn = r.step.isSome := by
  unfold canGoOn step
  cases r.listening <;> cases r.stream.waiting <;> cases r.stream.senderOpen <;> rfl

end Relay

/-- where the loop is that answers the requests of a session -/
inductive Serving
  | reading (reader : FrameReader)
  /-- so much of an answer is left to write -/
  | replying (left : Bytes)
  | ended
  deriving DecidableEq, Repr

/-- the requests connection of a session -/
structure Link where
  session : Nat
  requests : Pipe
  responses : Pipe
  serving : Serving := .reading .start
  deriving DecidableEq, Repr

/-- whether the loop can do anything: there is something to read, or room for what is to be written -/
def Link.canGoOn (l : Link) : Bool :=
  match l.serving with
  | .ended => false
  | .reading _ => !l.requests.isEmpty || !l.requests.writerOpen
  | .replying left => !l.responses.isFullFor left

/-- neither end of the service is used any more -/
def Link.hangUp (l : Link) : Link :=
  { l with
    serving := .ended, requests := l.requests.closeReader, responses := l.responses.closeWriter }

structure Service where
  hub : Hub := {}
  updateState : UpdateState := .unknown
  tunnel : TunnelBackend := .simulated {}
  installer : Installer := .unsupported
  hasQuit : Bool := false
  /-- the signal to stop, which nobody has taken yet -/
  signal : Bool := false
  /-- how often the tunnel was asked to be torn down -/
  teardowns : Nat := 0
  /-- for whom updates were installed -/
  installs : Array Token := #[]
  /-- the relays that are not over, by the numbers of their installations -/
  relays : List (Nat × Relay) := []
  /-- the requests connections there have been -/
  links : List Link := []

namespace Service

def token? (s : Service) (handle : Nat) : Option Token :=
  (s.hub.session? handle).bind fun session => session.token

def isElevated (s : Service) (handle : Nat) : Bool := (s.token? handle).isSome

/-! ## quitting -/

inductive QuitStage
  | checkPermission
  | claim
  | closeCaller
  | drain
  | tearDown
  | raiseSignal
  /-- whether another session had quit before -/
  | answered (answer : Except OperationError Bool)
  deriving Repr

/-- sends the signal to stop, for which there is one place; whether it was free -/
def sendSignal (s : Service) : Bool × Service := (!s.signal, { s with signal := true })

/-- takes the signal to stop -/
def takeSignal (s : Service) : Bool × Service := (s.signal, { s with signal := false })

/-- takes one stage of a quit asked for by a session -/
def quitStep (s : Service) (handle : Nat) (stopTunnels : Bool) : QuitStage → QuitStage × Service
  | .checkPermission =>
    if s.isElevated handle then (.claim, s) else (.answered (.error .accessDenied), s)
  | .claim =>
    if s.hasQuit then (.answered (.ok true), s) else (.closeCaller, { s with hasQuit := true })
  | .closeCaller => (.drain, { s with hub := s.hub.close handle })
  | .drain => (.tearDown, { s with hub := s.hub.drain.2 })
  | .tearDown =>
    (.raiseSignal, if stopTunnels then { s with teardowns := s.teardowns + 1 } else s)
  | .raiseSignal => (.answered (.ok false), s.sendSignal.2)
  | .answered answer => (.answered answer, s)

def quitSteps (handle : Nat) (stopTunnels : Bool) : Nat → QuitStage × Service → QuitStage × Service
  | 0, at_ => at_
  | n + 1, (stage, s) => quitSteps handle stopTunnels n (s.quitStep handle stopTunnels stage)

/-- a quit has six stages before its answer -/
def quit (s : Service) (handle : Nat) (stopTunnels : Bool) : Except OperationError Bool × Service :=
  match quitSteps handle stopTunnels 6 (.checkPermission, s) with
  | (.answered answer, s) => (answer, s)
  | (_, s) => (.error .accessDenied, s)

/-! ## the tunnel -/

def publishEach (h : Hub) : List TunnelState → Hub
  | [] => h
  | state :: states => publishEach (h.publish (.tunnelStateChanged state) false).2 states

/-- takes over what a tunnel request came to -/
def settleTunnel (s : Service) (r : TunnelReply) : Except OperationError Unit × Service :=
  (r.answer.mapError .tunnel,
    { s with tunnel := r.backend, hub := publishEach s.hub r.published })

def startTunnel (s : Service) (handle : Nat) (config : TunnelConfig) :
    Except OperationError Unit × Service :=
  if s.isElevated handle then s.settleTunnel (s.tunnel.start config)
  else (.error .accessDenied, s)

def stopTunnel (s : Service) (handle : Nat) : Except OperationError Unit × Service :=
  if s.isElevated handle then s.settleTunnel s.tunnel.stop else (.error .accessDenied, s)

/-! ## updates -/

/-- does nothing for a session that is not elevated -/
def triggerUpdate (s : Service) (handle : Nat) : Service :=
  match s.token? handle with
  | none => s
  | some token =>
    let (stream, installer) := s.installer.install
    { s with
      installer, installs := s.installs.push token,
      relays := s.relays ++ [(s.installs.size, { stream })] }

def relay? (s : Service) (n : Nat) : Option Relay := s.relays.lookup n

/-- a relay that is over is forgotten -/
def setRelay (s : Service) (n : Nat) (r : Relay) : Service :=
  { s with
    relays :=
      if r.isOver then s.relays.filter fun (k, _) => k != n
      else s.relays.map fun (k, old) => (k, if k = n then r else old) }

/-- the next step of a relay, if it has anything to do -/
def relayStep (s : Service) (n : Nat) : Option Service :=
  match (s.relay? n).bind Relay.step with
  | none => none
  | some (none, r) => some (s.setRelay n r)
  | some (some item, r) =>
    some { s.setRelay n r with hub := (s.hub.publish (.updateProgress item) true).2 }

/-! ## methods -/

def operationAnswer (r : Except OperationError Unit) : Answer :=
  match r with
  | .ok () => .operation ⟨none⟩
  | .error e => .operation ⟨some e.message⟩

def quitAnswer (r : Except OperationError Bool) : Answer :=
  match r with
  | .ok alreadyQuit => .quit ⟨alreadyQuit, none⟩
  | .error e => .quit ⟨false, some e.message⟩

/-- carries out a method for a session -/
def dispatch (s : Service) (handle : Nat) : Method → Answer × Service
  | .quit stopTunnels =>
    let (r, s) := s.quit handle stopTunnels
    (quitAnswer r, s)
  | .queryUpdateState => (.updateState s.updateState, s)
  | .triggerUpdate => (.acknowledged, s.triggerUpdate handle)
  | .startTunnel config =>
    let (r, s) := s.startTunnel handle config
    (operationAnswer r, s)
  | .stopTunnel =>
    let (r, s) := s.stopTunnel handle
    (operationAnswer r, s)
  | .queryTunnelState => (.tunnelState s.tunnel.state, s)

theorem isAnsweredBy_dispatch (s : Service) (handle : Nat) (m : Method) :
    m.isAnsweredBy (s.dispatch handle m).1 = true := by
  cases m with
  | quit stopTunnels =>
    simp only [dispatch, quitAnswer]
    split <;> rfl
  | startTunnel config =>
    simp only [dispatch, operationAnswer]
    split <;> rfl
  | stopTunnel =>
    simp only [dispatch, operationAnswer]
    split <;> rfl
  | queryUpdateState => rfl
  | triggerUpdate => rfl
  | queryTunnelState => rfl

end Service

end TunnelControl
