import TunnelControl.Files.Content
import TunnelControl.Settings.Environment
import TunnelControl.Toml.Document
import TunnelControl.Toml.Printer

/-!
# Settings in files

* `Settings.ofText?`       reads settings from the text of a file: keys that are missing have their
  defaults, and other keys are ignored;
* `Settings.load`          reads a file, checks what it says and then lets the environment override it;
* `Settings.render`        the text of a file with all settings;
* `Settings.standardPath`  where the file is looked for.
-/

namespace TunnelControl

/-! ## reading -/

namespace Toml

def text? : Toml → Option String
  | text s => some s
  | _ => none

def flag? : Toml → Option Bool
  | boolean b => some b
  | _ => none

/-- a number from zero up to a limit -/
def number? (limit : Nat) : Toml → Option Nat
  | integer n => if 0 ≤ n ∧ n ≤ limit then some n.toNat else none
  | _ => none

def number32? (v : Toml) : Option UInt32 := (v.number? (UInt32.size - 1)).map UInt32.ofNat
def number64? (v : Toml) : Option UInt64 := (v.number? (UInt64.size - 1)).map UInt64.ofNat

def numbers? : Toml → Option (List UInt32)
  | array items => items.mapM number32?
  | _ => none

/-- the value of a key that may be missing, but is of the right type if it is there -/
def field? {α : Type} (entries : List (String × Toml)) (key : String) (read : Toml → Option α)
    (default : α) : Option α :=
  match lookup key entries with
  | none => some default
  | some v => read v

end Toml

open Toml (field?)

namespace ManagerSettings

/-- the keys in their order -/
def keys : List String :=
  ["socket_path", "admin_uids", "admin_gids", "allow_root", "allow_unofficial_updates",
    "update_manifest", "broadcast_timeout_ms", "pairing_timeout_ms"]

/-- a list gives the values of the keys in their order -/
def entriesOf : Toml → Option (List (String × Toml))
  | .array items => some (keys.zip items)
  | v => v.entries?

def ofEntries? (entries : List (String × Toml)) : Option ManagerSettings := do
  let d : ManagerSettings := {}
  let socketPath ← field? entries "socket_path" Toml.text? d.socketPath
  let adminUids ← field? entries "admin_uids" Toml.numbers? d.adminUids
  let adminGids ← field? entries "admin_gids" Toml.numbers? d.adminGids
  let allowRoot ← field? entries "allow_root" Toml.flag? d.allowRoot
  let allowUnofficialUpdates ←
    field? entries "allow_unofficial_updates" Toml.flag? d.allowUnofficialUpdates
  let updateManifest ←
    field? entries "update_manifest" (fun v => some <$> v.text?) d.updateManifest
  let broadcastTimeoutMs ← field? entries "broadcast_timeout_ms" Toml.number64? d.broadcastTimeoutMs
  let pairingTimeoutMs ← field? entries "pairing_timeout_ms" Toml.number64? d.pairingTimeoutMs
  pure
    { socketPath, adminUids, adminGids, allowRoot, allowUnofficialUpdates, updateManifest,
      broadcastTimeoutMs, pairingTimeoutMs }

def ofToml? (v : Toml) : Option ManagerSettings := do ofEntries? (← entriesOf v)

end ManagerSettings

namespace Settings

def ofText? (s : String) : Option Settings := do
  let entries ← Toml.parse s
  let d : Settings := {}
  let logLevel ← field? entries "log_level" Toml.text? d.logLevel
  let manager ← field? entries "manager" ManagerSettings.ofToml? d.manager
  pure { logLevel, manager }

/-- the settings of a file alone -/
def ofFile (file : FileState) : Except SettingsError Settings :=
  match file with
  | .missing => .error .fileNotFound
  | file =>
    match file.readText with
    | .error fault => .error (.io fault)
    | .ok text =>
      match ofText? text with
      | none => .error .notReadable
      | some s => .ok s

/-- the settings of a file, which have to pass by themselves, under the variables of the environment -/
def load (env : Environment) (file : FileState) : Except SettingsError Settings := do
  let s ← ofFile file
  let s ← s.check
  s.withEnvironment env

/-! ## writing -/

/-- the text of a file with all settings, unless a time is too long to be written -/
def render (s : Settings) : Option String :=
  let m := s.manager
  if Toml.integerMax < m.broadcastTimeoutMs.toNat || Toml.integerMax < m.pairingTimeoutMs.toNat then
    none
  else
    some <| "\n".intercalate <|
      [ s!"log_level = {Toml.writeText s.logLevel}",
        "",
        "[manager]",
        s!"socket_path = {Toml.writeText m.socketPath}",
        s!"admin_uids = {Toml.writeNumbers (m.adminUids.map UInt32.toNat)}",
        s!"admin_gids = {Toml.writeNumbers (m.adminGids.map UInt32.toNat)}",
        s!"allow_root = {Toml.writeBool m.allowRoot}",
        s!"allow_unofficial_updates = {Toml.writeBool m.allowUnofficialUpdates}" ]
      ++ (match m.updateManifest with
          | some path => [s!"update_manifest = {Toml.writeText path}"]
          | none => [])
      ++ [ s!"broadcast_timeout_ms = {m.broadcastTimeoutMs}",
           s!"pairing_timeout_ms = {m.pairingTimeoutMs}",
           "" ]

/-- writes the settings to a place that may refuse them; nothing is written unless all of it can be -/
def save (place : Option FileFault) (s : Settings) : Except SettingsError String :=
  match s.render, place with
  | none, _ => .error .notWritable
  | some _, some fault => .error (.io fault)
  | some text, none => .ok text

/-! ## the place of the file -/

/-- a path below a directory -/
def joinPath (directory : Bytes) (name : String) : Bytes :=
  if directory.getLast? = some 0x2F then directory ++ Utf8.encode name
  else directory ++ [0x2F] ++ Utf8.encode name

/-- the directory for settings: one that is given by an absolute path, or one in the home directory, which
is that of the user unless a variable names another -/
def directory? (env : Environment) (userHome : Option Bytes) : Option Bytes :=
  let given := (env.bytes? "XDG_CONFIG_HOME").filter fun path => path.head? = some 0x2F
  let home := ((env.bytes? "HOME").filter fun path => path ≠ []).orElse fun _ => userHome
  given.orElse fun _ => home.map fun home => joinPath home ".config"

def standardPath (env : Environment) (userHome : Option Bytes) : Bytes :=
  match directory? env userHome with
  | some directory => joinPath (joinPath directory "tunnel-manager") "config.toml"
  | none => Utf8.encode "config.toml"

end Settings

end TunnelControl
