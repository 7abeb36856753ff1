import TunnelControl.Connection.Pairing
import TunnelControl.Service.Calls
import TunnelControl.Settings.Basic
import TunnelControl.Update.Schedule

/-!
# A running service

The service starts with a first look for updates, pairs the connections of its clients into sessions and
serves them, until it is told to stop or a session quits.  Then all sessions that are left hear of it.

* `Running.start`     the service after its first check for updates;
* `Running.connect`   a client makes its two connections;
* `Running.callAll`   calls of clients;
* `Running.stop`      the service stops.
-/

namespace TunnelControl

/-- why the service stops -/
inductive StopReason
  /-- a session quit -/
  | quit
  /-- it was told to from outside -/
  | signal
  deriving DecidableEq, Repr

def StopReason.description : StopReason → String
  | .quit => "quit requested"
  | .signal => "signal received"

structure Running where
  site : Site
  pairer : Pairer
  scheduler : ScheduleRun
  stopped : Option StopReason := none
  /-- the connections there have been -/
  connections : Nat := 0

namespace Running

/-- how many unread bytes the system holds for a connection -/
def socketBuffer : Nat := 212992

/-- what the scheduler does concerns the service only if it sets or publishes something -/
def perform (s : Service) : ScheduleAct → Service
  | .set state => { s with updateState := state }
  | .publish event => { s with hub := (s.hub.publish event false).2 }
  | _ => s

/-- the first check comes at once, unless the system has just started -/
def start (settings : ManagerSettings) (setup : ScheduleSetup) (first : CheckOutcome) : Running :=
  let scheduler := (ScheduleRun.start setup false).resume (.checked first false)
  let service : Service := { hub := { deliveryTimeout := settings.broadcastTimeoutMs.toNat } }
  { site := { service := scheduler.trace.foldl perform service },
    pairer :=
      { policy := settings.adminPolicy, timeout := settings.pairingTimeoutMs.toNat },
    scheduler }

/-- the service goes on with what it learnt of a quit -/
def noticeQuit (r : Running) : Running :=
  let (signalled, service) := r.site.service.takeSignal
  if signalled && r.stopped.isNone then
    { r with
      site := { r.site with service := { service with hub := service.hub.announceStopping } }.settle,
      scheduler := r.scheduler.resume .interrupted,
      stopped := some .quit }
  else { r with site := { r.site with service } }

def stop (r : Running) (reason : StopReason) : Running :=
  if r.stopped.isSome then r
  else
    let service := { r.site.service with hub := r.site.service.hub.announceStopping }
    { r with
      site := { r.site with service }.settle,
      scheduler := r.scheduler.resume .interrupted,
      stopped := some reason }

/-- a session that was paired is served, with a client at the far end -/
def serve (s : Site) (streams : PairedSession) : Nat × Site :=
  let (_, n, s) := s.connect streams.id streams.token socketBuffer socketBuffer
  s.attach n

/-- a client of a user makes its connections; its number goes with it -/
def connect (r : Running) (uid gid : UInt32) : Nat × Running :=
  let id : SessionId := ⟨BitVec.ofNat 128 r.connections⟩
  let hello (channel : Channel) : Bytes := (frameOf (Hello.new id channel)).toOption.getD []
  let (_, p) := r.pairer.accept ⟨r.connections, uid, gid, hello .requests, false⟩
  let (_, p) := p.accept ⟨r.connections + 1, uid, gid, hello .events, false⟩
  let (paired, p) := p.takePaired
  let (k, site) := paired.foldl (fun (_, s) streams => serve s streams) (0, r.site)
  (k, { r with site := site.settle, pairer := p, connections := r.connections + 2 })

/-- a service that has stopped takes no connections any more -/
def connect? (r : Running) (uid gid : UInt32) : Except PeerError Nat × Running :=
  if r.stopped.isSome then (.error (.connection (.connect .notFound)), r)
  else
    let (k, r) := r.connect uid gid
    (.ok k, r)

def callAll (r : Running) (requests : List (Nat × Request × Nat)) :
    List (Option (Except PeerError Answer)) × Running :=
  let (results, site) := r.site.callAll requests
  (results, { r with site }.noticeQuit)

end Running

end TunnelControl
