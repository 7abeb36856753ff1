import TunnelControl.Service.Site

/-!
# Tasks that take turns

A site is at work in many tasks, of which one at a time has its turn: the loops that answer requests, the
relays of progress, the writers of events, and of each client the calls and the reader of events.

A task that can do something waits for its turn behind those that could before it.  It then goes on until it
can do nothing more, or has read and written as often as one turn allows; in the latter case it waits until
all others have had theirs.  Calls are looked after when no other task is ready.

* `Site.stepOf`     what a task does next;
* `Site.turn`       a turn of a task;
* `Site.settle`     turns, as long as there is anything to do.
-/

namespace TunnelControl

inductive Task
  | loop (link : Nat)
  | relay (relay : Nat)
  | writer (session : Nat)
  | notices (client : Nat)
  | calls (client : Nat)
  deriving DecidableEq, Repr

/-- the tasks that wait for their turns, and those that wait for the others to have had theirs -/
structure Turns where
  ready : List Task := []
  later : List Task := []
  deriving DecidableEq, Repr

namespace Site

/-- what a task does next, if it can do anything -/
def stepOf (s : Site) : Task → Option Site
  | .loop link => (s.service.serveStep link).map fun service => { s with service }
  | .relay relay => (s.service.relayStep relay).map fun service => { s with service }
  | .writer session =>
    match s.service.hub.session? session with
    | none => none
    | some w =>
      (w.step s.service.hub.clock).map fun w =>
        { s with
          service := { s.service with hub := s.service.hub.modify session fun _ => w } }
  | .notices client => s.withClient client Client.noticeStep
  | .calls client => s.withClient client Client.callStep

/-- the tasks of some numbered items: those that are wanted, and for whose items a test holds -/
def tasksOf {α : Type} (make : Nat → Task) (wanted : Task → Bool) (test : α → Bool)
    (items : List (Nat × α)) : List Task :=
  items.filterMap fun (n, item) =>
    if wanted (make n) && test item then some (make n) else none

/-- items with their numbers from zero on -/
def numbered {α : Type} (items : List α) : List (Nat × α) := items.zipIdx.map Prod.swap

/-- of the tasks that are wanted, those that can do something; the calls are told apart -/
def active (s : Site) (wanted : Task → Bool) : List Task × List Task :=
  let clients := (List.range s.clients.length).map fun k => (k, k)
  let canStep (task : Task) : Bool := (s.stepOf task).isSome
  (tasksOf .loop wanted Link.canGoOn (numbered s.service.links)
    ++ tasksOf .relay wanted Relay.canGoOn s.service.relays
    ++ tasksOf .writer wanted (Session.canGoOn s.service.hub.clock) (numbered s.service.hub.sessions)
    ++ tasksOf .notices wanted (fun k => canStep (.notices k)) clients,
    tasksOf .calls wanted (fun k => canStep (.calls k)) clients)

/-- the tasks that have become active while one of them has its turn line up -/
def lineUp (s : Site) (current : Option Task) (t : Turns) : Turns :=
  let (tasks, calls) := s.active fun task =>
    current != some task && !t.ready.contains task && !t.later.contains task
  { ready := t.ready ++ tasks, later := calls ++ t.later }

/-- how often a task reads or writes in one turn -/
def turnLength : Nat := 128

/-- a turn of a task, of so many steps at most -/
def turn (task : Task) : Nat → Turns → Site → Turns × Site
  | 0, t, s => (if (s.stepOf task).isSome then { t with later := t.later ++ [task] } else t, s)
  | n + 1, t, s =>
    match s.stepOf task with
    | none => (t, s)
    | some s => turn task n (s.lineUp (some task) t) s

/-- so many turns, as long as there is a task that waits for one -/
def takeTurns : Nat → Turns → Site → Site
  | 0, _, s => s
  | n + 1, t, s =>
    match t.ready, t.later with
    | [], [] => s
    | [], later => takeTurns n { ready := later } s
    | task :: ready, later =>
      let (t, s) := turn task turnLength { ready, later } s
      takeTurns n t s

/-- how many steps one event may cost the writers -/
def eventWork (s : Site) : Nat := 3 * s.service.hub.sessions.length

def linkWork (s : Site) (l : Link) : Nat := (l.requests.size + 4) * (8 + 6 * s.eventWork)

def streamWork (s : Site) (items : List Progress) : Nat := (items.length + 2) * (2 + s.eventWork)

/-- so many steps are enough for all that the service finds to do -/
def serviceWork (s : Site) : Nat :=
  let writers := s.service.hub.sessions.foldl (fun n w => n + w.workLeft) 0
  let loops := s.service.links.foldl (fun n l => n + s.linkWork l) 0
  let relays := s.service.relays.foldl (fun n (_, r) => n + s.streamWork r.stream.waiting) 0
  let runs := match s.service.installer with
    | .unsupported => s.streamWork [] * (1 + loops)
    | .scripted runs _ => runs.foldl (fun n run => n + s.streamWork run) (s.streamWork [] * (1 + loops))
  writers + loops + relays + runs

/-- so many turns are enough for all that is there to be done -/
def workLeft (s : Site) : Nat :=
  let clients := s.clients.foldl (fun n (_, c) => n + c.workLeft) 1
  (s.serviceWork + 2) * (clients + 1) * (10 + 6 * s.eventWork)

/-- all that can be done at a time; observers keep up with their clients -/
def settle (s : Site) : Site :=
  let s := takeTurns (2 * s.workLeft) (s.lineUp none {}) s
  { s with
    clients := s.clients.map fun (n, c) => (n, { c with observers := c.observers.settle }) }

/-- without an active task nothing is done -/
theorem takeTurns_nil (n : Nat) (s : Site) : takeTurns n {} s = s := by
  cases n <;> rfl

end Site

end TunnelControl
