import TunnelControl.Cli.Daemon
import TunnelControl.Control.Program
import TunnelControl.Log.Filter
import TunnelControl.Service.Running

/-!
# The service as a program

The program reads its command line and its settings, says in its log what it has found, binds its socket and
runs the service until a signal comes or a session quits.

* `Daemon.openLog`  the log is set up, unless its filter cannot be read or its directory not made;
* `Daemon.start`    the program up to the point where it serves clients, or where it fails;
* `Daemon.signal`   a signal comes;
* `Daemon.conclude` the service has stopped.
-/

namespace TunnelControl

inductive StopSignal
  | interrupt
  | terminate
  deriving DecidableEq, Repr

def StopSignal.name : StopSignal → String
  | .interrupt => "SIGINT"
  | .terminate => "SIGTERM"

structure Daemon where
  filter : LogFilter := {}
  log : List (LogLevel × String) := []
  /-- records are written as JSON -/
  jsonLogs : Bool := false
  /-- the place of the directory that log files are written to -/
  logDirectory : Option Names := none
  sockets : SocketSpace
  serving : Option (Listener × Running) := none
  exit : Option Nat := none

namespace Daemon

/-- the source of the program's own log records -/
def source : String := "manager_service"

def record (d : Daemon) (level : LogLevel) (text : String) : Daemon :=
  if d.filter.admits source level then { d with log := d.log ++ [(level, text)] } else d

def recordEach (d : Daemon) (records : List (LogLevel × String)) : Daemon :=
  records.foldl (fun d (level, text) => d.record level text) d

/-! ## settings -/

def errorText : SettingsError → String
  | .fileNotFound => "Configuration file not found"
  | .io fault => s!"Failed to read config file: {fault.message}"
  | .notReadable => "Failed to parse TOML config"
  | .notWritable => "Failed to serialize config to TOML"
  | .invalid key => key.complaint

/-- settings that cannot be loaded are replaced by the default ones under the environment -/
def settingsOf (env : Environment) (loaded : Except SettingsError Settings) :
    Except SettingsError Settings :=
  match loaded with
  | .ok s => .ok s
  | .error _ => ({} : Settings).withEnvironment env

def withOptions (o : DaemonOptions) (s : Settings) : Settings :=
  match o.socketPath with
  | none => s
  | some path => { s with manager := { s.manager with socketPath := Utf8.repair path } }

def loadRecords (path : String) : Except SettingsError Settings → List (LogLevel × String)
  | .ok _ => [(.info, s!"Loaded configuration from {path}")]
  | .error .fileNotFound => [(.info, s!"No configuration at {path}, using defaults")]
  | .error e =>
    [(.warn, s!"Failed to load configuration from {path}: {errorText e}"),
      (.warn, "Using default configuration")]

def numberList (ns : List UInt32) : String :=
  "[" ++ ", ".intercalate (ns.map fun n => toString n.toNat) ++ "]"

def settingsRecords (s : Settings) : List (LogLevel × String) :=
  [ (.debug, s!"Socket path: {s.manager.socketPath}"),
    (.debug, s!"Admin UIDs: {numberList s.manager.adminUids}"),
    (.debug, s!"Admin GIDs: {numberList s.manager.adminGids}") ]

/-! ## starting -/

/-- the status of a program that cannot keep a log as it is told to -/
def noLogStatus : Nat := 101

/-- the directory of the log files is made if it is not there -/
def logTree (t : FileTree) (path : Names) : Except FileFault FileTree :=
  match t.find path with
  | .ok .directory => .ok t
  | _ => t.makeDirectories path

/-- the log is set up: its filter, its form and the directory of its files -/
def openLog (d : Daemon) (s : Surroundings) (o : DaemonOptions) (level : LogLevel) : Option Daemon := do
  let filter ← LogFilter.ofText? level ((s.env.text? "RUST_LOG").getD "")
  let d := { d with filter, jsonLogs := o.jsonLogs }
  match o.logDirectory with
  | none => some d
  | some dir =>
    let path := namesOf (Utf8.repair dir)
    let tree ← (logTree d.sockets.tree path).toOption
    some { d with sockets := { d.sockets with tree }, logDirectory := some (placeOf path) }

/-- the first look for updates -/
def firstCheck (s : Surroundings) (m : ManagerSettings) : CheckOutcome :=
  let file := (m.updateManifest.map fun path => s.file (Utf8.encode path)).getD .missing
  .ofResult (ReleaseChecker.check { manifest := m.updateManifest } file)

/-- binds the socket and begins to serve -/
def serve (d : Daemon) (s : Surroundings) (m : ManagerSettings) (startedWithSystem : Bool) : Daemon :=
  match d.sockets.bind m.socketPath with
  | (.error _, sockets) => { d with sockets, exit := some 1 }
  | (.ok listener, sockets) =>
    let setup : ScheduleSetup :=
      { official := isOfficial, allowUnofficial := m.allowUnofficialUpdates, startedWithSystem }
    { d with sockets, serving := some (listener, .start m setup (firstCheck s m)) }

/-- the program up to the point where it serves clients, or where it fails -/
def start (s : Surroundings) (words : List Bytes) (startedWithSystem : Bool) : Daemon :=
  let d : Daemon := { sockets := s.sockets }
  match DaemonOptions.read s.env words with
  | .error fault => { d with exit := some fault.exitStatus }
  | .ok o =>
    let path := o.configPath s.env s.userHome
    let loaded := Settings.load s.env (s.file path)
    match settingsOf s.env loaded with
    | .error _ => { d with exit := some 1 }
    | .ok settings =>
      let settings := withOptions o settings
      match d.openLog s o (.ofName (o.logLevel.getD settings.logLevel)) with
      | none => { d with exit := some noLogStatus }
      | some d =>
        let d := d.record .info "Tunnel Manager Service starting up"
        let d := d.recordEach (loadRecords (Utf8.repair path) loaded ++ settingsRecords settings)
        d.serve s settings.manager startedWithSystem

/-! ## stopping -/

/-- the service has stopped: the socket is removed, and the program ends -/
def conclude (d : Daemon) : Daemon :=
  match d.serving with
  | some (listener, running) =>
    match running.stopped with
    | none => d
    | some reason =>
      let d :=
        if reason = .quit then d.record .info "Shut down at the request of a client" else d
      let d := d.record .info "Tunnel Manager Service shut down"
      { d with sockets := d.sockets.drop listener, serving := none, exit := some 0 }
  | none => d

def signal (d : Daemon) (sig : StopSignal) : Daemon :=
  match d.serving with
  | some (listener, running) =>
    let d := d.record .info s!"Received {sig.name}, shutting down"
    { d with serving := some (listener, running.stop .signal) }.conclude
  | none => d

/-- calls of one client, one after the other -/
def callEach (r : Running) (k : Nat) : List Request → List (Except PeerError Answer) × Running
  | [] => ([], r)
  | request :: requests =>
    let (results, r) := r.callAll [(k, request, 60000)]
    let (rest, r) := callEach r k requests
    ((results.head?.join).getD (.error .closed) :: rest, r)

/-- a client of a user makes some calls -/
def visit (d : Daemon) (uid gid : UInt32) (requests : List Request) :
    List (Except PeerError Answer) × Daemon :=
  match d.serving with
  | none => ([], d)
  | some (listener, running) =>
    let (k, running) := running.connect uid gid
    let (results, running) := callEach running k requests
    (results, { d with serving := some (listener, running) }.conclude)

end Daemon

end TunnelControl
