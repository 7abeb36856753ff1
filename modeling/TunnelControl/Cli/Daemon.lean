import TunnelControl.Cli.Grammar
import TunnelControl.Settings.File

/-!
# The command line of the service

`DaemonOptions.read` reads the words of a command line; what is given there goes before the settings.
-/

namespace TunnelControl

structure DaemonOptions where
  socketPath : Option Bytes
  logLevel : Option String
  config : Option Bytes
  logDirectory : Option Bytes
  jsonLogs : Bool
  deriving DecidableEq, Repr

namespace DaemonOptions

def spec : CommandSpec := .mk
  [ { name := "socket-path", short := some 's', kind := .path },
    { name := "log-level", short := some 'l', kind := .text },
    { name := "config", short := some 'c', kind := .path },
    { name := "log-dir", kind := .path },
    { name := "json-logs", kind := .flag } ]
  true []

def ofMatches (m : Matches) : DaemonOptions :=
  { socketPath := m.path? "socket-path",
    logLevel := m.text? "log-level",
    config := m.path? "config",
    logDirectory := m.path? "log-dir",
    jsonLogs := m.has "json-logs" }

/-- reads the words behind the name of the program -/
def read (env : Environment) (words : List Bytes) : Except ArgFault DaemonOptions :=
  ofMatches <$> spec.read env words

def configPath (o : DaemonOptions) (env : Environment) (userHome : Option Bytes) : Bytes :=
  o.config.getD (Settings.standardPath env userHome)

end DaemonOptions

end TunnelControl
