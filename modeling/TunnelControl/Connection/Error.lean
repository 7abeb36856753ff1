import TunnelControl.Files.Fault
import TunnelControl.Message.SessionId
import TunnelControl.Wire.Frame

/-!
# Errors of connections and calls

`PeerError` says why a call, a connection or a frame failed, by its cause.  `PeerError.kind` is the class of
the error, `PeerError.message` the text for people, and `PeerError.chain` the texts from the error down to
its cause.
-/

namespace TunnelControl

/-- why reading or writing a stream fails -/
inductive StreamFault
  | brokenPipe
  /-- the peer has hung up, and read all that there was -/
  | hungUp
  /-- the peer has hung up without reading what was sent to it -/
  | reset
  | other (reason : String)
  deriving DecidableEq, Repr

def StreamFault.message : StreamFault → String
  | .brokenPipe => "broken pipe"
  | .hungUp => "Broken pipe (os error 32)"
  | .reset => "Connection reset by peer (os error 104)"
  | .other reason => reason

inductive ProtocolFault
  | frame (fault : FrameFault)
  /-- a payload of such a length cannot be written -/
  | frameTooLong (length : Nat)
  | version (found : UInt32)
  | sameChannel (session : SessionId) (channel : Channel)
  deriving DecidableEq, Repr

def ProtocolFault.message : ProtocolFault → String
  | .frame fault => fault.message
  | .frameTooLong length => s!"Frame too large: {length} bytes"
  | .version found => s!"Unsupported protocol version {found} (expected {protocolVersion})"
  | .sameChannel session channel =>
    s!"Session {session.text} sent two {channel.name} connections"

inductive ConnectionFault
  | createDirectory (cause : FileFault)
  | removeSocket (cause : FileFault)
  | bind (cause : FileFault)
  | connect (cause : FileFault)
  | closedBeforeHello
  | receiverDropped
  deriving DecidableEq, Repr

def ConnectionFault.message : ConnectionFault → String
  | .createDirectory cause => s!"Failed to create socket directory: {cause.message}"
  | .removeSocket cause => s!"Failed to remove existing socket: {cause.message}"
  | .bind cause => s!"Failed to bind to socket: {cause.message}"
  | .connect cause => s!"Failed to connect to socket: {cause.message}"
  | .closedBeforeHello => "Connection closed before hello"
  | .receiverDropped => "Session receiver dropped"

inductive PeerError
  | io (fault : StreamFault)
  | serialization (fault : Fault)
  /-- the two connections of a session come from different users -/
  | otherUser (session : SessionId) (first second : UInt32)
  | connection (fault : ConnectionFault)
  | protocol (fault : ProtocolFault)
  /-- no hello came in time -/
  | noHello
  /-- the peer has closed the stream, or an earlier exchange left it out of step -/
  | closed
  /-- the service answered with an error -/
  | manager (reason : String)
  deriving DecidableEq, Repr

namespace PeerError

def kind : PeerError → String
  | io _ => "Io"
  | serialization _ => "Serialization"
  | otherUser .. => "Authentication"
  | connection _ => "Connection"
  | protocol _ => "Protocol"
  | noHello => "Timeout"
  | closed => "Closed"
  | manager _ => "Manager"

def message : PeerError → String
  | io fault => s!"I/O error: {fault.message}"
  | serialization fault => s!"Serialization error: {fault.message}"
  | otherUser session first second =>
    s!"Authentication error: Session {session.text} halves come from different users (UID={first} and UID={second})"
  | connection fault => s!"Connection error: {fault.message}"
  | protocol fault => s!"Protocol error: {fault.message}"
  | noHello => "Timeout error: No hello received"
  | closed => "Connection closed by peer"
  | manager reason => s!"Manager error: {reason}"

/-- the message, and behind it that of a cause which is an error of its own -/
def chain : PeerError → List String
  | io fault => [message (io fault), fault.message]
  | serialization fault => [message (serialization fault), fault.message]
  | e => [e.message]

end PeerError

/-- what reading a value off a stream gives: nothing if the stream ends between two frames -/
def FrameResult.read (α : Type) [Wire α] : FrameResult → Except PeerError (Option α)
  | .payload bytes =>
    match decodePayload α bytes with
    | .ok v => .ok (some v)
    | .error cause => .error (.serialization cause)
  | .fault cause => .error (.protocol (.frame cause))
  | .broken reason => .error (.io (.other reason))
  | .clean => .ok none

/-- the frame of a value -/
def frameOf {α : Type} [Wire α] (v : α) : Except PeerError Bytes :=
  match encodePayload v with
  | .ok payload =>
    if maxPayload < payload.length then .error (.protocol (.frameTooLong payload.length)) else .ok (frame payload)
  | .error fault => .error (.serialization fault)

end TunnelControl
