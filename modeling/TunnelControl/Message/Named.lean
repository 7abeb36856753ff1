import TunnelControl.Connection.Error
import TunnelControl.Message.Json
import TunnelControl.Message.Wire

/-!
# Message types by their names

`MessageType` is a type of messages with its two forms, and `MessageType.ofName?` finds one by its name.
`MessageType.payload?` and `frame?` are the bytes of a value that is given in JSON.
-/

namespace TunnelControl

structure MessageType where
  Value : Type
  wire : Wire Value
  form : JsonForm Value

namespace MessageType

def of (α : Type) [wire : Wire α] [form : JsonForm α] : MessageType := ⟨α, wire, form⟩

def named : List (String × MessageType) :=
  [ ("MethodCall", of Method),
    ("QuitResponse", of QuitResponse),
    ("OperationResponse", of OperationResponse),
    ("TunnelConfig", of TunnelConfig),
    ("UpdateState", of UpdateState),
    ("TunnelState", of TunnelState),
    ("DownloadProgress", of Progress),
    ("NotificationEvent", of Event),
    ("NotificationKind", of EventKind),
    ("Channel", of Channel),
    ("Hello", of Hello),
    ("Unit", of Unit) ]

def ofName? (name : String) : Option MessageType := named.lookup name

/-- the value that JSON is the form of -/
def read? (t : MessageType) (j : Json) : Option t.Value := t.form.ofJson? j

def payload? (t : MessageType) (j : Json) : Option (Except PeerError Bytes) :=
  (t.read? j).map fun v => (@encodePayload t.Value t.wire v).mapError .serialization

def frame? (t : MessageType) (j : Json) : Option (Except PeerError Bytes) :=
  (t.read? j).map (@frameOf t.Value t.wire)

end MessageType

end TunnelControl
