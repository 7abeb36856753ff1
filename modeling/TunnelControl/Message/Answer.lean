import TunnelControl.Connection.Error
import TunnelControl.Message.Json
import TunnelControl.Message.Wire

/-!
# Answers to calls

Each method has one type of answer.  An answer goes over the wire without saying which it is: the caller
knows from the method that it called.

* `Answer.frame`         the frame of an answer;
* `Method.readAnswer`    reads the payload of an answer to a method;
* `Answer.surface`       an answer that reports an error is an error to the caller.
-/

namespace TunnelControl

inductive Answer
  | quit (response : QuitResponse)
  | updateState (state : UpdateState)
  | acknowledged
  | operation (response : OperationResponse)
  | tunnelState (state : TunnelState)
  deriving DecidableEq, Repr

def Answer.frame : Answer → Except PeerError Bytes
  | .quit response => frameOf response
  | .updateState state => frameOf state
  | .acknowledged => frameOf ()
  | .operation response => frameOf response
  | .tunnelState state => frameOf state

def Method.readAnswer (m : Method) (payload : Bytes) : Except Fault Answer :=
  match m with
  | .quit _ => Answer.quit <$> decodePayload QuitResponse payload
  | .queryUpdateState => Answer.updateState <$> decodePayload UpdateState payload
  | .triggerUpdate => (fun _ => Answer.acknowledged) <$> decodePayload Unit payload
  | .startTunnel _ | .stopTunnel => Answer.operation <$> decodePayload OperationResponse payload
  | .queryTunnelState => Answer.tunnelState <$> decodePayload TunnelState payload

/-- whether an answer is of the type that belongs to a method -/
def Method.isAnsweredBy : Method → Answer → Bool
  | .quit _, .quit _ => true
  | .queryUpdateState, .updateState _ => true
  | .triggerUpdate, .acknowledged => true
  | .startTunnel _, .operation _ => true
  | .stopTunnel, .operation _ => true
  | .queryTunnelState, .tunnelState _ => true
  | _, _ => false

def Answer.surface : Answer → Except PeerError Answer
  | .quit ⟨_, some reason⟩ => .error (.manager reason)
  | .operation ⟨some reason⟩ => .error (.manager reason)
  | a => .ok a

/-- the JSON form of an answer as it goes over the wire -/
def Answer.json : Answer → Json
  | .quit response => JsonForm.json response
  | .updateState state => JsonForm.json state
  | .acknowledged => .null
  | .operation response => JsonForm.json response
  | .tunnelState state => JsonForm.json state

/-- the JSON form of what an answer tells the caller, if it reports no error -/
def Answer.value : Answer → Json
  | .quit response => .bool response.alreadyQuit
  | .operation _ => .null
  | a => a.json

theorem Method.isAnsweredBy_of_readAnswer {m : Method} {payload : Bytes} {a : Answer}
    (h : m.readAnswer payload = .ok a) : m.isAnsweredBy a = true := by
  cases m <;> simp only [readAnswer, Functor.map, Except.map] at h <;> split at h <;> cases h <;> rfl

end TunnelControl
