import TunnelControl.Proofs.Service.Operations
import TunnelControl.Proofs.Site.Delivery
import TunnelControl.Service.Turns

/-!
# The minutes of a site

Clients connect, each to a session of its own; then all that may happen, happens in any order: a client makes a call, a
task takes a step, time passes.  The minutes say which methods were carried out, for which session, in their order, and
how they were answered.

* `Arrival`, `Site.opened`        the clients that connect;
* `Minutes.act`, `Minutes.run`    what happens, and what is written down;
* `exists_takeTurns`              the turns that tasks take on their own account are such a run;
* `Site.Paired s k c l`           client `k` has session `k` and the connection with that number;
* `withClient_of_paired`          what a client does concerns its own connection, and nothing that sessions share;
* `agrees_stepOf_aside`           nor do the other tasks that are no loops.
-/

namespace TunnelControl

open Wire (encode)

/-! ## what happens -/

/-- a client that connects, through pipes that can hold so much; requests and answers need some room -/
structure Arrival where
  id : SessionId
  token : Option Token
  requestsCapacity : Nat
  eventsCapacity : Nat
  positive : 0 < requestsCapacity

namespace Site

/-- a client connects and has a session of its own -/
def welcome (s : Site) (a : Arrival) : Site :=
  let (_, n, s) := s.connect a.id a.token a.requestsCapacity a.eventsCapacity
  (s.attach n).2

def opened (s : Service) (arrivals : List Arrival) : Site := arrivals.foldl welcome { service := s }

end Site

/-- a method that was carried out for a session, with its answer -/
structure Entry where
  session : Nat
  method : Method
  answer : Answer
  deriving DecidableEq, Repr

/-- the number of the client for whose calls a task works -/
def Task.errand? : Task → Option Nat
  | .loop k | .calls k => some k
  | _ => none

/-- what is carried out with the next step of a task -/
def Site.entry? (s : Site) : Task → Option Entry
  | .loop n =>
    (s.service.links[n]?).bind fun l =>
      (s.service.request? n).map fun m => ⟨l.session, m, (s.service.dispatch l.session m).1⟩
  | _ => none

/-- a site, and what was written down -/
structure Minutes where
  site : Site
  /-- the methods that were carried out, in their order -/
  entries : List Entry := []
  /-- for whose calls steps were taken -/
  turns : List Nat := []

namespace Minutes

inductive Action
  | call (client : Nat) (method : Method)
  | task (task : Task)
  | wait (ms : Nat)

def act (r : Minutes) : Action → Minutes
  | .call k m => { r with site := r.site.change k fun c => (c.begin (.call m)).2 }
  | .task task =>
    match r.site.stepOf task with
    | none => r
    | some site =>
      { site, entries := r.entries ++ (r.site.entry? task).toList, turns := r.turns ++ task.errand?.toList }
  | .wait ms =>
    let hub := { r.site.service.hub with clock := r.site.service.hub.clock + ms }
    { r with site := { r.site with service := { r.site.service with hub } } }

def run (r : Minutes) (actions : List Action) : Minutes := actions.foldl act r

/-- a request that is called has a frame -/
def Action.Fits : Action → Prop
  | .call _ m => (encode m).length ≤ maxPayload
  | _ => True

instance (a : Action) : Decidable a.Fits :=
  match a with
  | .call _ m => inferInstanceAs (Decidable ((encode m).length ≤ maxPayload))
  | .task _ | .wait _ => isTrue trivial

/-- the method that a client calls -/
def Action.called? (k : Nat) : Action → Option Method
  | .call j m => if j = k then some m else none
  | _ => none

/-- the methods that a client calls -/
def calledBy (k : Nat) (actions : List Action) : List Method := actions.filterMap (Action.called? k)

def operations (r : Minutes) : List (Nat × Method) := r.entries.map fun e => (e.session, e.method)

/-- the methods that were carried out for a session, with their answers -/
def answered (r : Minutes) (k : Nat) : List (Method × Answer) :=
  (r.entries.filter fun e => e.session == k).map fun e => (e.method, e.answer)

theorem answered_of_entries {r r' : Minutes} (h : r'.entries = r.entries) (k : Nat) : r'.answered k = r.answered k := by
  rw [answered, answered, h]

theorem answered_concat {r r' : Minutes} {e : Entry} (h : r'.entries = r.entries ++ [e]) (k : Nat) :
    r'.answered k = r.answered k ++ if e.session = k then [(e.method, e.answer)] else [] := by
  rw [answered, h, List.filter_append, List.map_append]
  refine congrArg (r.answered k ++ ·) ?_
  by_cases he : e.session = k <;> simp [he]

theorem calledBy_concat (k : Nat) (actions : List Action) (a : Action) :
    calledBy k (actions ++ [a]) = calledBy k actions ++ (a.called? k).toList := by
  rw [calledBy, List.filterMap_append, List.filterMap_cons, List.filterMap_nil]
  cases a.called? k <;> rfl

theorem run_append (r : Minutes) (actions actions' : List Action) :
    r.run (actions ++ actions') = (r.run actions).run actions' := List.foldl_append

theorem entries_act (r : Minutes) (a : Action) : r.entries <+: (r.act a).entries := by
  cases a with
  | call k m => exact List.prefix_refl _
  | wait ms => exact List.prefix_refl _
  | task task =>
    unfold act
    simp only
    cases r.site.stepOf task with
    | none => exact List.prefix_refl _
    | some site => exact List.prefix_append _ _

theorem entries_run (r : Minutes) (actions : List Action) : r.entries <+: (r.run actions).entries := by
  induction actions generalizing r with
  | nil => exact List.prefix_refl _
  | cons a actions ih => exact (r.entries_act a).trans (ih (r.act a))

/-- the turns that tasks take on their own account are such a run -/
theorem exists_turn (task : Task) (n : Nat) (t : Turns) (r : Minutes) :
    ∃ tasks : List Task, (Site.turn task n t r.site).2 = (r.run (tasks.map .task)).site := by
  induction n generalizing t r with
  | zero => exact ⟨[], rfl⟩
  | succ n ih =>
    unfold Site.turn
    cases hs : r.site.stepOf task with
    | none => exact ⟨[], rfl⟩
    | some s =>
      have hact : (r.act (.task task)).site = s := by
        unfold act
        simp only [hs]
      obtain ⟨tasks, htasks⟩ := ih (s.lineUp (some task) t) (r.act (.task task))
      rw [hact] at htasks
      exact ⟨task :: tasks, htasks⟩

theorem exists_takeTurns (n : Nat) (t : Turns) (r : Minutes) :
    ∃ tasks : List Task, Site.takeTurns n t r.site = (r.run (tasks.map .task)).site := by
  induction n generalizing t r with
  | zero => exact ⟨[], rfl⟩
  | succ n ih =>
    unfold Site.takeTurns
    obtain ⟨ready, later⟩ := t
    cases ready with
    | nil =>
      cases later with
      | nil => exact ⟨[], rfl⟩
      | cons task later => exact ih _ r
    | cons task ready =>
      -- a turn, and the turns behind it
      obtain ⟨tasks, htasks⟩ := exists_turn task Site.turnLength { ready, later } r
      obtain ⟨more, hmore⟩ := ih (Site.turn task Site.turnLength { ready, later } r.site).1 (r.run (tasks.map .task))
      refine ⟨tasks ++ more, ?_⟩
      rw [List.map_append, run_append, ← hmore, ← htasks]

end Minutes

/-! ## clients and their connections -/

namespace Site

/-- client `k` has session `k` and the connection with that number -/
structure Paired (s : Site) (k : Nat) (c : Client) (l : Link) : Prop where
  client : s.clients[k]? = some (k, c)
  link : s.service.links[k]? = some l
  session : l.session = k
  there : ∃ id, s.service.hub.id? k = some id

variable {s t : Site} {k : Nat} {c : Client} {l : Link}

theorem Paired.wires (h : s.Paired k c l) : ∃ events, wires? s.service k = some ⟨l.requests, l.responses, events⟩ := by
  obtain ⟨id, hid⟩ := h.there
  obtain ⟨x, hx, -⟩ := Option.map_eq_some_iff.mp hid
  refine ⟨x.events, ?_⟩
  unfold wires?
  rw [h.link]
  show (s.service.hub.session? l.session).bind _ = _
  rw [h.session, hx]
  rfl

theorem Paired.exists_withClient (h : s.Paired k c l) (act : Client → Client) :
    ∃ t, s.withClient k (fun c => some (act c)) = some t := by
  obtain ⟨events, hwires⟩ := h.wires
  unfold withClient
  rw [h.client]
  simp only [hwires]
  exact ⟨_, rfl⟩

/-- **What a client does, it does with the pipes of its connection, and it changes that and nothing else that
counts.** -/
theorem withClient_of_paired (h : s.Paired k c l) {act : Client → Option Client} (hact : s.withClient k act = some t) :
    ∃ d c', (d.calls = c.calls ∧ d.inFlight = c.inFlight ∧ l.withWires d.wires = l) ∧ act d = some c' ∧
      t.clients = s.clients.set k (k, c') ∧ t.service.links = s.service.links.set k (l.withWires c'.wires) ∧
        s.service.Agrees t.service := by
  obtain ⟨events, hwires⟩ := h.wires
  unfold withClient at hact
  simp only [h.client, hwires] at hact
  obtain ⟨c', hc', rfl⟩ := Option.map_eq_some_iff.mp hact
  -- with the pipes, the session gets its events back, and stays what it is otherwise
  have hset : setWires s.service k c'.wires = { s.service with
      links := s.service.links.set k (l.withWires c'.wires)
      hub := s.service.hub.modify l.session fun session => { session with events := c'.wires.events } } := by
    unfold setWires
    rw [h.link]
    rfl
  refine ⟨{ c with wires := ⟨l.requests, l.responses, events⟩ }, c', ⟨rfl, rfl, rfl⟩, hc', rfl, ?_, ?_⟩
  · show (setWires s.service k c'.wires).links = _
    rw [hset]
  · show s.service.Agrees (setWires s.service k c'.wires)
    rw [hset]
    exact ⟨s.service.hub.agrees_modify l.session fun _ _ => ⟨rfl, rfl, fun hc => hc⟩, rfl⟩

theorem Paired.of_withClient_eq_none (h : s.Paired k c l) {act : Client → Option Client}
    (hact : s.withClient k act = none) :
    ∃ d, (d.calls = c.calls ∧ d.inFlight = c.inFlight ∧ l.withWires d.wires = l) ∧ act d = none := by
  obtain ⟨events, hwires⟩ := h.wires
  unfold withClient at hact
  simp only [h.client, hwires] at hact
  exact ⟨{ c with wires := ⟨l.requests, l.responses, events⟩ }, ⟨rfl, rfl, rfl⟩, Option.map_eq_none_iff.mp hact⟩

/-- who passes on progress or events touches neither a client nor a connection -/
theorem agrees_stepOf_aside {task : Task} (ht : s.stepOf task = some t)
    (haside : (∃ n, task = .relay n) ∨ ∃ n, task = .writer n) :
    t.clients = s.clients ∧ t.service.links = s.service.links ∧ s.service.Agrees t.service := by
  obtain ⟨n, rfl⟩ | ⟨n, rfl⟩ := haside
  · obtain ⟨service, hservice, rfl⟩ := Option.map_eq_some_iff.mp ht
    have hlinks := (s.service.steady_act_relay n).2.2
    rw [Service.act, hservice] at hlinks
    exact ⟨rfl, hlinks, Service.agrees_relayStep hservice⟩
  · unfold stepOf at ht
    simp only at ht
    cases hw : s.service.hub.session? n with
    | none =>
      rw [hw] at ht
      cases ht
    | some w =>
      rw [hw] at ht
      obtain ⟨w', hstep, rfl⟩ := Option.map_eq_some_iff.mp ht
      refine ⟨rfl, rfl, s.service.hub.agrees_modify n fun x hx => ?_, rfl⟩
      cases hw.symm.trans hx
      exact Session.keeps_step hstep

end Site

theorem Client.begin_call (c : Client) {m : Method} (hm : (encode m).length ≤ maxPayload) :
    (c.begin (.call m)).2 = { c with calls := c.calls ++ [⟨.call m, frame (encode m), .waiting⟩] } := by
  have hframe : frameOf m = .ok (frame (encode m)) := frameOf_eq_ok_iff.mpr ⟨rfl, hm⟩
  simp only [begin, hframe]

theorem set_self {α : Type} {xs : List α} {n : Nat} {x : α} (hx : xs[n]? = some x) : xs.set n x = xs := by
  obtain ⟨hn, rfl⟩ := List.getElem?_eq_some_iff.mp hx
  exact List.set_getElem_self hn

theorem map_set_of_eq {α β : Type} {f : α → β} {xs : List α} {n : Nat} {x y : α} (hx : xs[n]? = some x)
    (hf : f y = f x) : (xs.set n y).map f = xs.map f := by
  rw [List.map_set, hf]
  exact set_self (by rw [List.getElem?_map, hx]; rfl)

theorem Client.CallMove.calls {c d : Client} (h : CallMove c d) :
    ∃ n call phase, c.calls[n]? = some call ∧ d.calls = c.calls.set n { call with phase } := by
  cases h with
  | closes at_ => exact ⟨_, _, _, at_, rfl⟩
  | refuses at_ => exact ⟨_, _, _, at_, rfl⟩
  | takes at_ => exact ⟨_, _, _, at_, rfl⟩
  | receives at_ => exact ⟨_, _, _, at_, rfl⟩
  | writes at_ => exact ⟨_, _, _, at_, rfl⟩
  | reads at_ => exact ⟨_, _, _, at_, rfl⟩
  | answers at_ => exact ⟨_, _, _, at_, rfl⟩
  | fails incoming at_ => exact ⟨_, _, _, at_, rfl⟩

end TunnelControl
