import TunnelControl.Connection.Policy
import TunnelControl.Files.Fault
import TunnelControl.Log.Level

/-!
# Settings

`Settings` are those of the service and of the control program.  `Settings.check` accepts settings or names
the first key whose value will not do.
-/

namespace TunnelControl

structure ManagerSettings where
  socketPath : String := "/var/run/tunnel-manager/manager.sock"
  adminUids : List UInt32 := []
  adminGids : List UInt32 := []
  allowRoot : Bool := true
  allowUnofficialUpdates : Bool := false
  updateManifest : Option String := none
  broadcastTimeoutMs : UInt64 := 1000
  pairingTimeoutMs : UInt64 := 5000
  deriving DecidableEq, Repr

structure Settings where
  logLevel : String := "info"
  manager : ManagerSettings := {}
  deriving DecidableEq, Repr

/-- the keys whose values are checked -/
inductive SettingsKey
  | logLevel
  | socketPath
  | broadcastTimeout
  | pairingTimeout
  deriving DecidableEq, Repr

def SettingsKey.name : SettingsKey → String
  | .logLevel => "log_level"
  | .socketPath => "manager.socket_path"
  | .broadcastTimeout => "manager.broadcast_timeout_ms"
  | .pairingTimeout => "manager.pairing_timeout_ms"

/-- what a value of the key has to be -/
def SettingsKey.demand : SettingsKey → String
  | .logLevel => "must be one of " ++ ", ".intercalate (LogLevel.all.map LogLevel.name)
  | .socketPath => "socket path cannot be empty"
  | .broadcastTimeout => "must be greater than 0"
  | .pairingTimeout => "must be greater than 0"

inductive SettingsError
  | fileNotFound
  | io (fault : FileFault)
  /-- the text is no document, or its values have the wrong types -/
  | notReadable
  /-- a number is too large to be written -/
  | notWritable
  | invalid (key : SettingsKey)
  deriving DecidableEq, Repr

/-- the message of an invalid value -/
def SettingsKey.complaint (key : SettingsKey) : String :=
  s!"Invalid configuration value for {key.name}: {key.demand}"

namespace Settings

def isLogLevel (s : String) : Bool :=
  (LogLevel.ofName? (String.ofList (s.toList.map Char.toLower))).isSome

/-- the first key whose value will not do -/
def firstFault (s : Settings) : Option SettingsKey :=
  if !isLogLevel s.logLevel then some .logLevel
  else if s.manager.socketPath = "" then some .socketPath
  else if s.manager.broadcastTimeoutMs = 0 then some .broadcastTimeout
  else if s.manager.pairingTimeoutMs = 0 then some .pairingTimeout
  else none

def check (s : Settings) : Except SettingsError Settings :=
  match s.firstFault with
  | some key => .error (.invalid key)
  | none => .ok s

theorem check_eq_ok_iff {s t : Settings} : s.check = .ok t ↔ s.firstFault = none ∧ s = t := by
  unfold check
  cases s.firstFault <;> simp

end Settings

/-- the policy that the settings describe -/
def ManagerSettings.adminPolicy (m : ManagerSettings) : AdminPolicy :=
  .ofLists m.allowRoot m.adminUids m.adminGids

end TunnelControl
