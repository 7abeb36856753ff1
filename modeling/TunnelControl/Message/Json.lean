import TunnelControl.Message.SessionId
import TunnelControl.Text.Json

/-!
# The JSON form of the messages

Alternatives without fields are their names, all others objects with the name as the only key.  Fields keep
their order of declaration.  `JsonForm.ofJson?` reads what `JsonForm.json` writes, and takes a field that is
missing for an empty one.
-/

namespace TunnelControl

class JsonForm (α : Type) where
  json : α → Json
  ofJson? : Json → Option α

open JsonForm

/-- the form of a type of bare names -/
@[reducible] def JsonForm.ofNames {α : Type} (all : List α) (name : α → String) : JsonForm α where
  json v := .text (name v)
  ofJson? j := all.find? fun v => j.text? == some (name v)

instance : JsonForm Unit where
  json _ := .null
  ofJson? _ := some ()

instance : JsonForm UpdateState := .ofNames UpdateState.all UpdateState.name
instance : JsonForm TunnelState := .ofNames TunnelState.all TunnelState.name
instance : JsonForm EventKind := .ofNames EventKind.all EventKind.name
instance : JsonForm Channel := .ofNames Channel.all Channel.name

namespace Json

def ofText? (o : Option String) : Json := ofOption (o.map text)

/-- the name of an alternative, and what it holds -/
def alternative? : Json → Option (String × Json)
  | text s => some (s, null)
  | object fields => fields.head?
  | _ => none

def textOf? (j : Json) (key : String) : Option String := (j.field key).text?
def natOf? (j : Json) (key : String) : Option Nat := (j.field key).number?
def itemsOf (j : Json) (key : String) : List Json := (j.field key).items

def boolOr (j : Json) (key : String) (default : Bool) : Bool := ((j.field key).bool?).getD default
def natOr (j : Json) (key : String) (default : Nat) : Nat := (j.natOf? key).getD default

/-- the value that a field is the form of, or a default -/
def valueOr {α : Type} [JsonForm α] (j : Json) (key : String) (default : α) : α :=
  (ofJson? (j.field key)).getD default

/-- a text stands for its bytes; others are in hexadecimal under a key -/
def bytes? : Json → Option Bytes
  | text s => some (Utf8.encode s)
  | j => (j.textOf? "hex").map fun digits => (Bytes.ofHex? digits).getD []

def textOf (j : Json) (key : String) : String := (j.textOf? key).getD ""
def boolOf (j : Json) (key : String) : Bool := j.boolOr key false
def natOf (j : Json) (key : String) : Nat := j.natOr key 0

end Json

instance : JsonForm TunnelConfig where
  json c := .object
    [ ("name", .text c.name),
      ("endpoint", .text c.endpoint),
      ("dns_servers", .array (c.dnsServers.map .text)),
      ("mtu", .ofOption (c.mtu.map fun n => .number n.toNat)) ]
  ofJson? j := some
    { name := j.textOf "name",
      endpoint := j.textOf "endpoint",
      dnsServers := (j.itemsOf "dns_servers").filterMap Json.text?,
      mtu := (j.natOf? "mtu").map UInt32.ofNat }

instance : JsonForm Progress where
  json p := .object
    [ ("activity", .text p.activity),
      ("bytes_downloaded", .number p.bytesDownloaded.toNat),
      ("bytes_total", .number p.bytesTotal.toNat),
      ("error", .ofText? p.error),
      ("complete", .bool p.complete) ]
  ofJson? j := some
    { activity := j.textOf "activity",
      bytesDownloaded := UInt64.ofNat (j.natOf "bytes_downloaded"),
      bytesTotal := UInt64.ofNat (j.natOf "bytes_total"),
      error := j.textOf? "error",
      complete := j.boolOf "complete" }

instance : JsonForm QuitResponse where
  json r := .object [("already_quit", .bool r.alreadyQuit), ("error", .ofText? r.error)]
  ofJson? j := some ⟨j.boolOf "already_quit", j.textOf? "error"⟩

instance : JsonForm OperationResponse where
  json r := .object [("error", .ofText? r.error)]
  ofJson? j := some ⟨j.textOf? "error"⟩

instance : JsonForm Method where
  json m := match m with
    | .quit stopTunnels => .object [(m.name, .object [("stop_tunnels_on_quit", .bool stopTunnels)])]
    | .startTunnel config => .object [(m.name, json config)]
    | m => .text m.name
  ofJson? j := do
    match ← j.alternative? with
    | ("Quit", body) => some (.quit (body.boolOf "stop_tunnels_on_quit"))
    | ("QueryUpdateState", _) => some .queryUpdateState
    | ("TriggerUpdate", _) => some .triggerUpdate
    | ("StartTunnel", body) => .startTunnel <$> ofJson? body
    | ("StopTunnel", _) => some .stopTunnel
    | ("QueryTunnelState", _) => some .queryTunnelState
    | _ => none

instance : JsonForm Event where
  json e := match e with
    | .updateFound state => .object [(e.kind.name, json state)]
    | .updateProgress progress => .object [(e.kind.name, json progress)]
    | .managerStopping => .text e.kind.name
    | .tunnelStateChanged state => .object [(e.kind.name, json state)]
  ofJson? j := do
    match ← j.alternative? with
    | ("UpdateFound", body) => .updateFound <$> ofJson? body
    | ("UpdateProgress", body) => .updateProgress <$> ofJson? body
    | ("ManagerStopping", _) => some .managerStopping
    | ("TunnelStateChanged", body) => .tunnelStateChanged <$> ofJson? body
    | _ => none

instance : JsonForm Hello where
  json h := .object
    [ ("protocol_version", .number h.version.toNat),
      ("session_id", .text h.session.text),
      ("channel", json h.channel) ]
  ofJson? j := do
    let session ← SessionId.ofText? (j.textOf "session_id")
    let channel ← ofJson? (j.field "channel")
    some { version := UInt32.ofNat (j.natOf "protocol_version"), session, channel }

end TunnelControl
