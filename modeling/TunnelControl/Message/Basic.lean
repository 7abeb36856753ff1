/-!
# The messages of the control protocol

A client sends a `Method` and gets one answer to it: a `QuitResponse`, an `OperationResponse`, an
`UpdateState`, a `TunnelState` or nothing at all.  On a second connection the service sends each `Event`
that it publishes.  Both connections of a session begin with a `Hello`.

The order of alternatives and of fields is part of the protocol: see `TunnelControl.Message.Wire`.
-/

namespace TunnelControl

/-- the version of the protocol that a hello announces -/
def protocolVersion : UInt32 := 1

/-! ## answers and what they report -/

/-- what the service knows about updates -/
inductive UpdateState
  | unknown
  | available
  | disabledUnofficial
  deriving DecidableEq, Repr, Inhabited

/-- the life of the tunnel -/
inductive TunnelState
  | stopped
  | starting
  | registering
  | registered
  | running
  | reconnecting
  | stopping
  | invalid
  | error
  deriving DecidableEq, Repr, Inhabited

/-- what a tunnel is asked to be -/
structure TunnelConfig where
  name : String := ""
  endpoint : String := ""
  dnsServers : List String := []
  mtu : Option UInt32 := none
  deriving DecidableEq, Repr, Inhabited

/-- a step of the installation of an update -/
structure Progress where
  activity : String := ""
  bytesDownloaded : UInt64 := 0
  bytesTotal : UInt64 := 0
  error : Option String := none
  complete : Bool := false
  deriving DecidableEq, Repr, Inhabited

structure QuitResponse where
  alreadyQuit : Bool
  error : Option String
  deriving DecidableEq, Repr

structure OperationResponse where
  error : Option String
  deriving DecidableEq, Repr

/-! ## calls and events -/

inductive Method
  | quit (stopTunnels : Bool)
  | queryUpdateState
  | triggerUpdate
  | startTunnel (config : TunnelConfig)
  | stopTunnel
  | queryTunnelState
  deriving DecidableEq, Repr

inductive Event
  | updateFound (state : UpdateState)
  | updateProgress (progress : Progress)
  | managerStopping
  | tunnelStateChanged (state : TunnelState)
  deriving DecidableEq, Repr

/-- the kinds of event, by which observers choose -/
inductive EventKind
  | updateFound
  | updateProgress
  | managerStopping
  | tunnelStateChanged
  deriving DecidableEq, Repr

def Event.kind : Event → EventKind
  | .updateFound _ => .updateFound
  | .updateProgress _ => .updateProgress
  | .managerStopping => .managerStopping
  | .tunnelStateChanged _ => .tunnelStateChanged

/-- the two connections of a session -/
inductive Channel
  | requests
  | events
  deriving DecidableEq, Repr

/-- the number by which the two connections of a session find each other -/
structure SessionId where
  number : BitVec 128
  deriving DecidableEq, Repr

structure Hello where
  version : UInt32
  session : SessionId
  channel : Channel
  deriving DecidableEq, Repr

def Hello.new (session : SessionId) (channel : Channel) : Hello :=
  ⟨protocolVersion, session, channel⟩

/-! ## progress -/

namespace Progress

/-- a step that is under way -/
def underWay (activity : String) : Progress := { activity }

/-- a step that failed -/
def failed (activity reason : String) : Progress := { activity, error := some reason }

/-- nothing follows a step that completed or failed -/
def isFinal (p : Progress) : Bool := p.complete || p.error.isSome

theorem isFinal_underWay (activity : String) : (underWay activity).isFinal = false := rfl
theorem isFinal_failed (activity reason : String) : (failed activity reason).isFinal = true := rfl

end Progress

/-! ## names and descriptions -/

namespace UpdateState

def all : List UpdateState := [.unknown, .available, .disabledUnofficial]

def name : UpdateState → String
  | .unknown => "Unknown"
  | .available => "UpdateAvailable"
  | .disabledUnofficial => "UpdatesDisabledUnofficialBuild"

def description : UpdateState → String
  | .unknown => "unknown"
  | .available => "update available"
  | .disabledUnofficial => "updates disabled (unofficial build)"

theorem mem_all (s : UpdateState) : s ∈ all := by cases s <;> decide

end UpdateState

namespace TunnelState

def all : List TunnelState :=
  [.stopped, .starting, .registering, .registered, .running, .reconnecting, .stopping, .invalid,
    .error]

def name : TunnelState → String
  | .stopped => "Stopped"
  | .starting => "Starting"
  | .registering => "Registering"
  | .registered => "Registered"
  | .running => "Running"
  | .reconnecting => "Reconnecting"
  | .stopping => "Stopping"
  | .invalid => "Invalid"
  | .error => "Error"

def description : TunnelState → String
  | .stopped => "stopped"
  | .starting => "starting"
  | .registering => "registering"
  | .registered => "registered"
  | .running => "running"
  | .reconnecting => "reconnecting"
  | .stopping => "stopping"
  | .invalid => "invalid"
  | .error => "error"

theorem mem_all (s : TunnelState) : s ∈ all := by cases s <;> decide

end TunnelState

namespace EventKind

def all : List EventKind := [.updateFound, .updateProgress, .managerStopping, .tunnelStateChanged]

def name : EventKind → String
  | .updateFound => "UpdateFound"
  | .updateProgress => "UpdateProgress"
  | .managerStopping => "ManagerStopping"
  | .tunnelStateChanged => "TunnelStateChanged"

theorem mem_all (k : EventKind) : k ∈ all := by cases k <;> decide

end EventKind

namespace Channel

def all : List Channel := [.requests, .events]

def name : Channel → String
  | .requests => "Requests"
  | .events => "Events"

theorem mem_all (c : Channel) : c ∈ all := by cases c <;> decide

end Channel

def Method.name : Method → String
  | .quit _ => "Quit"
  | .queryUpdateState => "QueryUpdateState"
  | .triggerUpdate => "TriggerUpdate"
  | .startTunnel _ => "StartTunnel"
  | .stopTunnel => "StopTunnel"
  | .queryTunnelState => "QueryTunnelState"

end TunnelControl
