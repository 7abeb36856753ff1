import TunnelControl.Daemon

/-!
# The control program with a service of its own

`Program.run` starts a service by the settings that the command line names, lets the control program carry
its command out there, and says what is printed and with which status the program ends.
-/

namespace TunnelControl

structure ProgramEnd where
  status : Nat
  printed : String := ""
  /-- what is printed of a failure -/
  complaint : Option String := none
  deriving DecidableEq, Repr

namespace Program

/-- the variables that settings and options are read from -/
def variableNames : List String :=
  [ "TUNNEL_MANAGER_LOG_LEVEL", "TUNNEL_MANAGER_SOCKET_PATH", "TUNNEL_MANAGER_ADMIN_UIDS",
    "TUNNEL_MANAGER_ADMIN_GIDS", "TUNNEL_MANAGER_ALLOW_ROOT", "TUNNEL_MANAGER_ALLOW_DEV_UPDATES",
    "TUNNEL_MANAGER_UPDATE_MANIFEST", "TUNNEL_MANAGER_CTL_LOG_LEVEL", "XDG_CONFIG_HOME", "HOME" ]

/-- the path of the settings; a command line at fault names none -/
def configPath (env : Environment) (userHome : Option Bytes) (words : List Bytes) : Bytes :=
  match ControlOptions.read env words with
  | .ok o => o.configPath env userHome
  | .error _ => Settings.standardPath env userHome

/-- the path of the manifest that the settings name -/
def manifestPath? (env : Environment) (file : FileState) : Option String :=
  match Settings.load env file with
  | .ok s => s.manager.updateManifest
  | .error _ => none

def ending (o : Except ControlError String) : ProgramEnd :=
  match o with
  | .ok printed => { status := 0, printed }
  | .error (.arguments fault) => { status := fault.exitStatus, complaint := some fault.kind }
  | .error (.failed fault) => { status := 1, complaint := some fault.message }

/-- the service is started by the file at a path, and takes the program for its first client -/
def run (s : Surroundings) (path : Bytes) (words : List Bytes) (startedWithSystem : Bool) : ProgramEnd :=
  let d := Daemon.start s [Utf8.encode "--config", path] startedWithSystem
  match d.serving with
  | none => { status := d.exit.getD 1, complaint := some "the service does not start" }
  | some (_, running) =>
    let (k, running) := running.connect 0 0
    ending (runControl { s with sockets := d.sockets } words none (.service running.site k)).1

end Program

end TunnelControl
