import TunnelControl.Cli.Control
import TunnelControl.Message.Json
import TunnelControl.Text.Utf8

/-!
# The JSON form of what the control program is asked to do

Paths are written as texts, with what is no UTF-8 replaced.
-/

namespace TunnelControl

open Json

def ofPath? (path : Option Bytes) : Json := .ofText? (path.map Utf8.repair)

def ControlCommand.json : ControlCommand → Json
  | .updateState => text "UpdateState"
  | .update secs => object [("Update", object [("timeout_secs", number secs)])]
  | .tunnelUp c =>
    object [("TunnelUp", object
      [ ("name", text c.name),
        ("endpoint", text c.endpoint),
        ("dns", array (c.dnsServers.map text)),
        ("mtu", ofOption (c.mtu.map fun n => number n.toNat)) ])]
  | .tunnelDown => text "TunnelDown"
  | .tunnelStatus => text "TunnelStatus"
  | .watch count => object [("Watch", object [("count", ofOption (count.map number))])]
  | .quit stopTunnels => object [("Quit", object [("stop_tunnels", bool stopTunnels)])]

def ControlOptions.json (o : ControlOptions) : Json := object
  [ ("log_level", text o.logLevel.label),
    ("json_logs", bool o.jsonLogs),
    ("output", text o.output.name),
    ("socket", ofPath? o.socket),
    ("config", ofPath? o.config),
    ("command", o.command.json) ]

end TunnelControl
