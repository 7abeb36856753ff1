import TunnelControl.Connection.Error
import TunnelControl.Session.Stream

/-!
# The hub of the sessions

The hub knows the sessions and which of them are members, by their ids.  To publish an event is to queue its
frame for every member, or for the elevated ones only.  A hub that has been drained has no members and
takes none.

A session keeps the number under which it was created, its handle, whether it is a member or not.

* `Hub.create`, `join`, `leave`, `drain`   who is a member;
* `Hub.publish`                            queues the frame of an event;
* `Hub.advance`                            lets time pass.
-/

namespace TunnelControl

/-- how long clients get to act on the news that the service stops, in milliseconds -/
def stoppingGrace : Nat := 200

structure Hub where
  /-- milliseconds since the start -/
  clock : Nat := 0
  /-- how long writing a published event may take, in milliseconds -/
  deliveryTimeout : Nat := 1000
  /-- all sessions there have been, by their handles -/
  sessions : List Session := []
  members : List (SessionId × Nat) := []
  drained : Bool := false
  deriving Repr

namespace Hub

/-! ## sessions -/

/-- the handle of the new session, and the hub with it -/
def create (h : Hub) (id : SessionId) (token : Option Token) (capacity : Nat) : Nat × Hub :=
  (h.sessions.length,
    { h with sessions := h.sessions ++ [{ id, token, events := .ofCapacity capacity }] })

def session? (h : Hub) (handle : Nat) : Option Session := h.sessions[handle]?

def id? (h : Hub) (handle : Nat) : Option SessionId := (h.session? handle).map Session.id

def modify (h : Hub) (handle : Nat) (f : Session → Session) : Hub :=
  { h with sessions := h.sessions.modify handle f }

def close (h : Hub) (handle : Nat) : Hub := h.modify handle Session.close

def isClosed (h : Hub) (handle : Nat) : Bool := (h.session? handle).any Session.closed

def enqueue (h : Hub) (handle : Nat) (d : QueuedFrame) : Bool × Hub :=
  ((h.session? handle).any Session.accepts, h.modify handle fun s => (s.enqueue d).2)

/-! ## members -/

def isMember (h : Hub) (id : SessionId) : Bool := h.members.any (·.1 == id)

def size (h : Hub) : Nat := h.members.length

def member? (h : Hub) (id : SessionId) : Option Nat := h.members.lookup id

/-- a session takes the place of a member with the same id, which stays as it is -/
def join (h : Hub) (handle : Nat) : Bool × Hub :=
  match h.drained, h.session? handle with
  | false, some s =>
    (true, { h with members := h.members.filter (·.1 != s.id) ++ [(s.id, handle)] })
  | _, _ => (false, h)

/-- the member with an id leaves, and is closed -/
def leave (h : Hub) (id : SessionId) : Bool × Hub :=
  match h.member? id with
  | some handle => (true, { h with members := h.members.filter (·.1 != id) }.close handle)
  | none => (false, h)

/-- closes the sessions of some members -/
def closeEach (h : Hub) : List (SessionId × Nat) → Hub
  | [] => h
  | (_, handle) :: members => closeEach (h.close handle) members

/-- all members leave, and no other may join; how many there were -/
def drain (h : Hub) : Nat × Hub :=
  (h.size, { h.closeEach h.members with members := [], drained := true })

/-! ## events -/

/-- whether an event is for a member -/
def isAddressed (h : Hub) (adminOnly : Bool) (handle : Nat) : Bool :=
  (h.session? handle).any fun s => !adminOnly || s.isElevated

/-- the handles of the members that an event is for -/
def audience (h : Hub) (adminOnly : Bool) : List Nat :=
  (h.members.map Prod.snd).filter (h.isAddressed adminOnly)

def enqueueEach (h : Hub) (d : QueuedFrame) : List Nat → Hub
  | [] => h
  | handle :: handles => enqueueEach (h.enqueue handle d).2 d handles

/-- how many members the event was for, whether their queues took it or not; an event that has no frame is
for nobody -/
def publish (h : Hub) (event : Event) (adminOnly : Bool) : Nat × Hub :=
  match frameOf event with
  | .error _ => (0, h)
  | .ok frame =>
    let handles := h.audience adminOnly
    (handles.length, h.enqueueEach ⟨frame, h.deliveryTimeout⟩ handles)

/-! ## time -/

/-- all writers do what they can -/
def settle (h : Hub) : Hub := { h with sessions := h.sessions.map (Session.settle h.clock) }

def advance (h : Hub) (ms : Nat) : Hub := { h with clock := h.clock + ms }.settle

/-- tells every member that the service stops, and waits while they act on it -/
def announceStopping (h : Hub) : Hub :=
  ((h.publish .managerStopping false).2.settle).advance stoppingGrace

def receive (h : Hub) (handle : Nat) (limit : Option Nat) : Bytes × Hub :=
  match h.session? handle with
  | none => ([], h)
  | some s =>
    let (bytes, s) := s.receive h.clock limit
    (bytes, h.modify handle fun _ => s)

/-- the next time at which a writer gives up, if nobody reads -/
def timer (h : Hub) : Option Nat :=
  h.sessions.foldl (fun soonest s =>
    match soonest, s.timer with
    | some a, some b => some (min a b)
    | none, t => t
    | t, none => t) none

theorem size_create (h : Hub) (id : SessionId) (token : Option Token) (capacity : Nat) :
    (h.create id token capacity).2.size = h.size := rfl

theorem size_drain (h : Hub) : h.drain.2.size = 0 := rfl

theorem drained_drain (h : Hub) : h.drain.2.drained = true := rfl

theorem join_drained {h : Hub} (hd : h.drained = true) (handle : Nat) : h.join handle = (false, h) := by
  unfold join
  rw [hd]

end Hub

end TunnelControl
