import TunnelControl.Message.Json
import TunnelControl.Tunnel.Backend
import TunnelControl.Update.Installer

/-!
# Scripts for backends and installers

What a scripted backend answers and a scripted installer reports may be laid down in JSON.  A script that is
missing leaves the backend simulated, and the installer without support.
-/

namespace TunnelControl

/-- the answer that a script lays down; one that names no error is a success -/
def TunnelFault.ofScript (j : Json) : Except TunnelFault Unit :=
  match j.alternative? with
  | some ("Busy", _) => .error (.busy (j.valueOr "Busy" .stopped))
  | some ("Other", _) => .error (.other (j.textOf "Other"))
  | some ("InvalidConfig", _) => .error (.invalidConfig (j.textOf "InvalidConfig"))
  | _ => .ok ()

def TunnelBackend.ofScript (j : Json) : TunnelBackend :=
  if j.isNull then .simulated {}
  else
    .scripted ((j.itemsOf "start").map TunnelFault.ofScript)
      ((j.itemsOf "stop").map TunnelFault.ofScript) (j.valueOr "state" .stopped)

/-- an installer with a list of progress for each run, whose streams may stay open -/
def Installer.ofScript (j : Json) (staysOpen : Bool) : Installer :=
  match j with
  | .array runs => .scripted (runs.map fun run => run.items.filterMap JsonForm.ofJson?) staysOpen
  | _ => .unsupported

end TunnelControl
