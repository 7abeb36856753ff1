import TunnelControl.Message.Basic
import TunnelControl.Wire.Form

/-!
# The wire form of the messages

Alternatives are numbered in their order of declaration, fields follow each other in theirs.  A session
id is sixteen bytes behind a length, the highest byte first.
-/

namespace TunnelControl

open Wire Decoder

instance : Wire UpdateState := Wire.ofNames UpdateState.all
instance : Wire TunnelState := Wire.ofNames TunnelState.all
instance : Wire EventKind := Wire.ofNames EventKind.all
instance : Wire Channel := Wire.ofNames Channel.all

instance : Wire TunnelConfig where
  encode c := encode c.name ++ encode c.endpoint ++ encode c.dnsServers ++ encode c.mtu
  decode := do
    let name ← decode
    let endpoint ← decode
    let dnsServers ← decode
    let mtu ← decode
    pure { name, endpoint, dnsServers, mtu }

instance : Wire Progress where
  encode p :=
    encode p.activity ++ encode p.bytesDownloaded ++ encode p.bytesTotal ++ encode p.error
      ++ encode p.complete
  decode := do
    let activity ← decode
    let bytesDownloaded ← decode
    let bytesTotal ← decode
    let error ← decode
    let complete ← decode
    pure { activity, bytesDownloaded, bytesTotal, error, complete }

instance : Wire QuitResponse where
  encode r := encode r.alreadyQuit ++ encode r.error
  decode := do
    let alreadyQuit ← decode
    let error ← decode
    pure { alreadyQuit, error }

instance : Wire OperationResponse where
  encode r := encode r.error
  decode := do
    let error ← decode
    pure { error }

instance : Wire Method where
  encode
    | .quit stopTunnels => tag 0 ++ encode stopTunnels
    | .queryUpdateState => tag 1
    | .triggerUpdate => tag 2
    | .startTunnel config => tag 3 ++ encode config
    | .stopTunnel => tag 4
    | .queryTunnelState => tag 5
  decode := union
    [ .quit <$> decode,
      pure .queryUpdateState,
      pure .triggerUpdate,
      .startTunnel <$> decode,
      pure .stopTunnel,
      pure .queryTunnelState ]

instance : Wire Event where
  encode
    | .updateFound state => tag 0 ++ encode state
    | .updateProgress progress => tag 1 ++ encode progress
    | .managerStopping => tag 2
    | .tunnelStateChanged state => tag 3 ++ encode state
  decode := union
    [ .updateFound <$> decode,
      .updateProgress <$> decode,
      pure .managerStopping,
      .tunnelStateChanged <$> decode ]

namespace SessionId

/-- the sixteen bytes of an id, the highest first -/
def bytes (id : SessionId) : Bytes := (littleEndian 16 id.number.toNat).reverse

def ofBytes (bs : Bytes) : SessionId := ⟨BitVec.ofNat 128 (ofLittleEndian bs.reverse)⟩

end SessionId

instance : Wire SessionId where
  encode id := littleEndian 8 16 ++ id.bytes
  decode := do
    let n ← number 8
    let content ← bytes n .contentCut
    if n = 16 then pure (.ofBytes content) else throw (.idLength n)

instance : Wire Hello where
  encode h := encode h.version ++ encode h.session ++ encode h.channel
  decode := do
    let version ← decode
    let session ← decode
    let channel ← decode
    pure { version, session, channel }

end TunnelControl
