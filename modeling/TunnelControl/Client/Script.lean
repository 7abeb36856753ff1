import TunnelControl.Client.Exchange

/-!
# Requests in a script

`Request.ofScript` is a request that is laid down in JSON: the name of a method, and what goes with it.
Any other name is the request to close.
-/

namespace TunnelControl

def Request.ofScript (j : Json) : Request :=
  match j.textOf "method" with
  | "quit" => .call (.quit (j.boolOf "stop_tunnels"))
  | "update_state" => .call .queryUpdateState
  | "trigger_update" => .call .triggerUpdate
  | "start_tunnel" => .call (.startTunnel (j.valueOr "config" {}))
  | "stop_tunnel" => .call .stopTunnel
  | "tunnel_state" => .call .queryTunnelState
  | _ => .close

end TunnelControl
