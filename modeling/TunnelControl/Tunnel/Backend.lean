import TunnelControl.Tunnel.Lifecycle

/-!
# What carries out tunnel requests

A simulated tunnel goes through the states of its plans at once.  A scripted one stays in one state and
answers as it was told to, and with success when it has no more to say.
-/

namespace TunnelControl

inductive TunnelBackend
  | simulated (tunnel : Tunnel)
  | scripted (starts stops : List (Except TunnelFault Unit)) (state : TunnelState)

/-- the answer to a request, the states published for it, in order, and what the backend is then -/
structure TunnelReply where
  answer : Except TunnelFault Unit
  published : List TunnelState
  backend : TunnelBackend

namespace TunnelBackend

def state : TunnelBackend → TunnelState
  | simulated tunnel => tunnel.state
  | scripted _ _ state => state

/-- what came of a plan that nothing can abandon -/
def replyOf (o : Tunnel.Outcome) : TunnelReply :=
  ⟨o.answer.getD (.ok ()), o.published, simulated o.tunnel⟩

def start (b : TunnelBackend) (config : TunnelConfig) : TunnelReply :=
  match b with
  | simulated tunnel => replyOf (tunnel.start config)
  | scripted starts stops state => ⟨starts.headD (.ok ()), [], scripted starts.tail stops state⟩

def stop (b : TunnelBackend) : TunnelReply :=
  match b with
  | simulated tunnel => replyOf tunnel.stop
  | scripted starts stops state => ⟨stops.headD (.ok ()), [], scripted starts stops.tail state⟩

end TunnelBackend

end TunnelControl
