import TunnelControl.Settings.Basic
import TunnelControl.Text.Blank
import TunnelControl.Text.Decimal
import TunnelControl.Text.Split
import TunnelControl.Text.Utf8

/-!
# Settings from the environment

Seven variables override settings.  A variable that is no text changes nothing; nor does an empty one
where a text is wanted, nor one that is neither yes nor no where a flag is.  Of a list of numbers, the
items that are no number are left out.

* `Settings.withVariables`     the settings with the variables in their places;
* `Settings.withEnvironment`   the same, checked.
-/

namespace TunnelControl

/-- the variables of a process -/
abbrev Environment := List (String × Bytes)

namespace Environment

def bytes? (env : Environment) (name : String) : Option Bytes :=
  (env.find? fun entry => entry.1 == name).map (·.2)

/-- the value of a variable that is text -/
def text? (env : Environment) (name : String) : Option String := do
  (Utf8.decode (← env.bytes? name)).toOption

/-- the value of a variable that is text and not empty -/
def someText? (env : Environment) (name : String) : Option String := do
  let s ← env.text? name
  if s = "" then none else some s

end Environment

/-- the words for yes and no -/
def flagOfWord? (s : String) : Option Bool :=
  let word := String.ofList (s.toList.map Char.toLower)
  if ["true", "1", "yes", "y"].contains word then some true
  else if ["false", "0", "no", "n"].contains word then some false
  else none

/-- the numbers between commas -/
def numbersOf (s : String) : List UInt32 :=
  (pieces ',' s.toList).filterMap fun item => (readNumber? (UInt32.size - 1) (trim item)).map UInt32.ofNat

namespace Settings

def withVariables (env : Environment) (s : Settings) : Settings :=
  { logLevel := (env.someText? "TUNNEL_MANAGER_LOG_LEVEL").getD s.logLevel,
    manager :=
      { s.manager with
        socketPath := (env.someText? "TUNNEL_MANAGER_SOCKET_PATH").getD s.manager.socketPath,
        adminUids :=
          ((env.text? "TUNNEL_MANAGER_ADMIN_UIDS").map numbersOf).getD s.manager.adminUids,
        adminGids :=
          ((env.text? "TUNNEL_MANAGER_ADMIN_GIDS").map numbersOf).getD s.manager.adminGids,
        allowRoot :=
          ((env.text? "TUNNEL_MANAGER_ALLOW_ROOT").bind flagOfWord?).getD s.manager.allowRoot,
        allowUnofficialUpdates :=
          ((env.text? "TUNNEL_MANAGER_ALLOW_DEV_UPDATES").bind flagOfWord?).getD
            s.manager.allowUnofficialUpdates,
        updateManifest :=
          (env.someText? "TUNNEL_MANAGER_UPDATE_MANIFEST").orElse fun _ =>
            s.manager.updateManifest } }

def withEnvironment (env : Environment) (s : Settings) : Except SettingsError Settings :=
  (s.withVariables env).check

/-- without variables the settings stay as they are -/
theorem withVariables_nil (s : Settings) : s.withVariables [] = s := rfl

end Settings

end TunnelControl
