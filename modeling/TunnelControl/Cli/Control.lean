import TunnelControl.Cli.Grammar
import TunnelControl.Log.Level
import TunnelControl.Message.Basic
import TunnelControl.Settings.File

/-!
# The command line of the control program

* `ControlOptions.read`            reads the words of a command line;
* `ControlOptions.serviceSocket`   the socket of the service: the one that is given, else that of the
  settings, else the default one.
-/

namespace TunnelControl

/-- what the control program is asked to do -/
inductive ControlCommand
  | updateState
  | update (timeoutSecs : Nat)
  | tunnelUp (config : TunnelConfig)
  | tunnelDown
  | tunnelStatus
  | watch (count : Option Nat)
  | quit (stopTunnels : Bool)
  deriving DecidableEq, Repr

inductive OutputForm
  | table
  | json
  deriving DecidableEq, Repr

namespace OutputForm

def all : List OutputForm := [table, json]

def name : OutputForm → String
  | table => "table"
  | json => "json"

end OutputForm

structure ControlOptions where
  logLevel : LogLevel
  jsonLogs : Bool
  output : OutputForm
  socket : Option Bytes
  config : Option Bytes
  command : ControlCommand
  deriving DecidableEq, Repr

namespace ControlOptions

/-! ## the grammar -/

def u64Max : Nat := UInt64.size - 1
def u32Max : Nat := UInt32.size - 1

def leaf (options : List OptionSpec) : CommandSpec := .mk options false []

def tunnelSpec : CommandSpec := .mk [] false
  [ ("up", leaf
      [ { name := "name", kind := .text, required := true },
        { name := "endpoint", kind := .text, required := true },
        { name := "dns", kind := .text, listed := true },
        { name := "mtu", kind := .number u32Max true } ]),
    ("down", leaf []),
    ("status", leaf []) ]

def spec : CommandSpec := .mk
  [ { name := "log-level", short := some 'l', kind := .choice (LogLevel.all.map LogLevel.name),
      standIn? := some "TUNNEL_MANAGER_CTL_LOG_LEVEL" },
    { name := "json-logs", kind := .flag },
    { name := "output", kind := .choice (OutputForm.all.map OutputForm.name) },
    { name := "socket", short := some 's', kind := .path,
      standIn? := some "TUNNEL_MANAGER_SOCKET_PATH" },
    { name := "config", short := some 'c', kind := .path } ]
  true
  [ ("update-state", leaf []),
    ("update", leaf [{ name := "timeout-secs", kind := .number u64Max false }]),
    ("tunnel", tunnelSpec),
    ("watch", leaf [{ name := "count", kind := .number u64Max false }]),
    ("quit", leaf [{ name := "stop-tunnels", kind := .flag }]) ]

/-! ## what the words mean -/

def tunnelCommand (name : String) (m : Matches) : ControlCommand :=
  match name with
  | "up" => .tunnelUp
      { name := (m.text? "name").getD "",
        endpoint := (m.text? "endpoint").getD "",
        dnsServers := m.texts "dns",
        mtu := (m.number? "mtu").map UInt32.ofNat }
  | "down" => .tunnelDown
  | _ => .tunnelStatus

def commandOf (name : String) (m : Matches) : ControlCommand :=
  match name, m.subcommand with
  | "update", _ => .update ((m.number? "timeout-secs").getD 300)
  | "watch", _ => .watch (m.number? "count")
  | "quit", _ => .quit (m.has "stop-tunnels")
  | "tunnel", some (name, m) => tunnelCommand name m
  | _, _ => .updateState

def ofMatches (m : Matches) : ControlOptions :=
  { logLevel := ((m.text? "log-level").bind LogLevel.ofName?).getD .warn,
    jsonLogs := m.has "json-logs",
    output := if m.text? "output" = some "json" then .json else .table,
    socket := m.path? "socket",
    config := m.path? "config",
    command := match m.subcommand with
      | some (name, m) => commandOf name m
      | none => .updateState }

/-- reads the words behind the name of the program -/
def read (env : Environment) (words : List Bytes) : Except ArgFault ControlOptions :=
  ofMatches <$> spec.read env words

/-! ## the socket -/

/-- where the settings are looked for -/
def configPath (o : ControlOptions) (env : Environment) (userHome : Option Bytes) : Bytes :=
  o.config.getD (Settings.standardPath env userHome)

/-- the socket of the service, by the file that the settings are in -/
def serviceSocket (o : ControlOptions) (env : Environment) (file : FileState) : Bytes :=
  match o.socket with
  | some path => path
  | none =>
    match Settings.load env file with
    | .ok s => Utf8.encode s.manager.socketPath
    | .error _ => Utf8.encode ({} : ManagerSettings).socketPath

end ControlOptions

end TunnelControl
