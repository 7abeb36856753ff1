import TunnelControl.Service.Turns

/-!
# Calls of several clients

Everyone works until nobody can do anything; only then does time pass, up to the next deadline of a call or
of a writer of events.

* `Site.passUntil`   time passes;
* `Site.callAll`     calls, each with a limit to its time.
-/

namespace TunnelControl.Site

/-- time passes until a given one -/
def passUntil (s : Site) (clock : Nat) : Site :=
  settle { s with service := { s.service with hub := { s.service.hub with clock } } }

def clock (s : Site) : Nat := s.service.hub.clock

/-- a call under way: the client that makes it, its number, and the time when it is given up -/
structure Caller where
  client : Nat
  call : Nat
  deadline : Nat
  deriving DecidableEq, Repr

def isPending (s : Site) (c : Caller) : Bool := (s.client? c.client).any (·.isPending c.call)

def result? (s : Site) (c : Caller) : Option (Except PeerError Answer) :=
  (s.client? c.client).bind (·.result? c.call)

def beginEach (s : Site) : List (Nat × Request × Nat) → List Caller × Site
  | [] => ([], s)
  | (k, request, limit) :: requests =>
    let call := ((s.client? k).map fun c => c.calls.length).getD 0
    let (callers, s') := beginEach (s.change k fun c => (c.begin request).2) requests
    (⟨k, call, s.clock + limit⟩ :: callers, s')

/-- gives up the calls whose time is over -/
def expire (s : Site) : List Caller → Site
  | [] => s
  | c :: callers =>
    if c.deadline ≤ s.clock && s.isPending c then
      expire (settle (s.change c.client (·.giveUp c.call))) callers
    else expire s callers

/-- waits for calls to be answered or given up; in each round a call is given up or a writer of events -/
def await : Nat → List Caller → Site → Site
  | 0, _, s => s
  | fuel + 1, callers, s =>
    match ((callers.filter s.isPending).map Caller.deadline).min? with
    | none => s
    | some deadline =>
      let next := (s.service.hub.timer.map (min deadline)).getD deadline
      await fuel callers ((s.passUntil next).expire callers)

/-- makes calls at the same time, each with a limit to its time -/
def callAll (s : Site) (requests : List (Nat × Request × Nat)) :
    List (Option (Except PeerError Answer)) × Site :=
  let (callers, s) := s.beginEach requests
  let hasty := callers.filter fun c => c.deadline ≤ s.clock
  let s := hasty.foldl (fun s c => s.change c.client Client.settleCalls) s
  let s := (s.expire hasty).settle
  let s := await (callers.length + s.service.hub.sessions.length + 1) callers s
  (callers.map s.result?, s)

end TunnelControl.Site
