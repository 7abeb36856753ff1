import TunnelControl.Message.Json
import TunnelControl.Settings.Basic

/-!
# The JSON form of the settings

The keys are those of the file.  A key that is missing has its default.
-/

namespace TunnelControl

namespace Json

def ofNumbers (ns : List UInt32) : Json := .array (ns.map fun n => .number n.toNat)

def numbers (j : Json) : List UInt32 := j.items.filterMap fun n => n.number?.map UInt32.ofNat

def ms (j : Json) (key : String) (default : UInt64) : UInt64 :=
  ((j.natOf? key).map UInt64.ofNat).getD default

end Json

open Json in
instance : JsonForm ManagerSettings where
  json m := .object
    [ ("socket_path", .text m.socketPath),
      ("admin_uids", ofNumbers m.adminUids),
      ("admin_gids", ofNumbers m.adminGids),
      ("allow_root", .bool m.allowRoot),
      ("allow_unofficial_updates", .bool m.allowUnofficialUpdates),
      ("update_manifest", .ofText? m.updateManifest),
      ("broadcast_timeout_ms", .number m.broadcastTimeoutMs.toNat),
      ("pairing_timeout_ms", .number m.pairingTimeoutMs.toNat) ]
  ofJson? j :=
    let d : ManagerSettings := {}
    some
      { socketPath := (j.textOf? "socket_path").getD d.socketPath,
        adminUids := (j.field "admin_uids").numbers,
        adminGids := (j.field "admin_gids").numbers,
        allowRoot := j.boolOr "allow_root" d.allowRoot,
        allowUnofficialUpdates := j.boolOf "allow_unofficial_updates",
        updateManifest := j.textOf? "update_manifest",
        broadcastTimeoutMs := j.ms "broadcast_timeout_ms" d.broadcastTimeoutMs,
        pairingTimeoutMs := j.ms "pairing_timeout_ms" d.pairingTimeoutMs }

instance : JsonForm Settings where
  json s := .object [("log_level", .text s.logLevel), ("manager", JsonForm.json s.manager)]
  ofJson? j :=
    let d : Settings := {}
    let manager := j.valueOr "manager" d.manager
    some { logLevel := (j.textOf? "log_level").getD d.logLevel, manager }

end TunnelControl
