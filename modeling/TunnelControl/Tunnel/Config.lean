import TunnelControl.Message.Basic
import TunnelControl.Net.Address
import TunnelControl.Text.Blank
import TunnelControl.Text.Quoted

/-!
# Usable tunnel configurations

`TunnelConfig.check` accepts a configuration or names the first thing that is wrong with it, in the order
name, endpoint, DNS servers, MTU.
-/

namespace TunnelControl

/-- what is wrong with a configuration -/
inductive ConfigFault
  | emptyName
  | endpoint (text : String)
  | dnsServer (text : String)
  | mtu (value : UInt32)
  deriving DecidableEq, Repr

def mtuMin : UInt32 := 576
def mtuMax : UInt32 := 9000

def ConfigFault.message : ConfigFault → String
  | .emptyName => "tunnel name cannot be empty"
  | .endpoint text => s!"endpoint must be host:port, got {quoteText text}"
  | .dnsServer text => s!"DNS server {quoteText text} is not an IP address"
  | .mtu value => s!"MTU {value} outside {mtuMin}..={mtuMax}"

/-- a port between 1 and 65535 behind the last colon, and something before it -/
def isEndpoint (cs : List Char) : Bool :=
  match cutAtLast ':' cs with
  | none => false
  | some (host, port) =>
    host ≠ [] && match readNumber? 65535 port with
      | none => false
      | some n => n ≠ 0

namespace TunnelConfig

def checkName (c : TunnelConfig) : Except ConfigFault Unit :=
  if c.name.toList.all isBlank then .error .emptyName else .ok ()

def checkEndpoint (c : TunnelConfig) : Except ConfigFault Unit :=
  if isEndpoint c.endpoint.toList then .ok () else .error (.endpoint c.endpoint)

def checkDnsServers (c : TunnelConfig) : Except ConfigFault Unit :=
  match c.dnsServers.find? fun server => !isAddress server.toList with
  | some server => .error (.dnsServer server)
  | none => .ok ()

def checkMtu (c : TunnelConfig) : Except ConfigFault Unit :=
  match c.mtu with
  | none => .ok ()
  | some value => if mtuMin ≤ value ∧ value ≤ mtuMax then .ok () else .error (.mtu value)

def check (c : TunnelConfig) : Except ConfigFault Unit := do
  c.checkName
  c.checkEndpoint
  c.checkDnsServers
  c.checkMtu

end TunnelConfig

end TunnelControl
