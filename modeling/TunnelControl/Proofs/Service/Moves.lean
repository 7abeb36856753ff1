import Mathlib.Data.List.ReduceOption
import TunnelControl.Proofs.Service.Quit
import TunnelControl.Proofs.Service.Traffic

/-!
# Moves of the service

All that may happen to a service: what comes to it from elsewhere, the turns of its loops and relays, operations that
are carried out at once, and quits, stage by stage.

* `Service.Move`, `move`         what happens;
* `Service.hubActions`           what a move does to the hub; `hub_move` says that it does nothing else;
* `Service.calls`, `produced`, `handed`   what is asked for, produced and handed on of updates in a move;
* `Service.progress_hubActions`  the progress that is published is what relays hand on;
* `Service.carried_cases`        what a request does to the installations and their relays.
-/

namespace TunnelControl

/-- the progress that is published in an action, and whether for the elevated sessions alone -/
def Hub.Action.progress : Hub.Action → List (Progress × Bool)
  | .publish (.updateProgress item) adminOnly => [(item, adminOnly)]
  | _ => []

/-- an installer that was started so many times -/
def Installer.after (i : Installer) : Nat → Installer
  | 0 => i
  | n + 1 => (i.after n).install.2

namespace Service

/-! ## what happens -/

/-- what a deed does to the hub that comes from outside -/
def Deed.fromOutside : Deed → List Hub.Action
  | .act (.hub a) => [a.1]
  | .schedule (.publish event) => [.publish event false]
  | _ => []

inductive Move
  /-- the progress of updates is published by relays alone -/
  | deed (d : { d : Deed // d.fromOutside.flatMap Hub.Action.progress = [] })
  | hub (a : { a : Hub.Action // a.progress = [] })
  /-- an operation is carried out for a session at once -/
  | operate (session : Nat) (m : Method)
  /-- a quit takes one of its stages -/
  | quitStage (session : Nat) (stopTunnels : Bool) (stage : QuitStage)
  /-- an installation will report no more -/
  | endReport (n : Nat)

/-- the relay of an installation goes on -/
def Move.relay (n : Nat) : Move := .deed ⟨.act (.relay n), rfl⟩

def endReport (s : Service) (n : Nat) : Service :=
  match s.relay? n with
  | some r => s.setRelay n r.endStream
  | none => s

def move (s : Service) : Move → Service
  | .deed d => s.perform d.1
  | .hub a => { s with hub := s.hub.act a.1 }
  | .operate session m => (s.dispatch session m).2
  | .quitStage session stopTunnels stage => (s.quitStep session stopTunnels stage).2
  | .endReport n => s.endReport n

/-! ## what is done to the hub -/

def tunnelActions (r : TunnelReply) : List Hub.Action :=
  r.published.map fun state => .publish (.tunnelStateChanged state) false

def methodActions (s : Service) (session : Nat) : Method → List Hub.Action
  | .quit _ => if s.isElevated session && !s.hasQuit then [.close session, .drain] else []
  | .startTunnel config => if s.isElevated session then tunnelActions (s.tunnel.start config) else []
  | .stopTunnel => if s.isElevated session then tunnelActions s.tunnel.stop else []
  | _ => []

def requestActions (s : Service) (session : Nat) (request : Option Method) : List Hub.Action :=
  request.elim [] (s.methodActions session)

/-- a session leaves as its loop ends -/
def leaveActions (s : Service) (session : Nat) : List Hub.Action :=
  (s.hub.session? session).toList.map fun x => .leave x.id

def loopActions (s : Service) (n : Nat) : List Hub.Action :=
  match s.links[n]?, s.serveStep n with
  | some l, some t =>
    s.requestActions l.session (s.request? n) ++
      if t.links[n]?.any (·.serving == .ended) then (s.carried l.session (s.request? n)).leaveActions l.session else []
  | _, _ => []

/-- what a relay hands on with its next step -/
def handedOn (s : Service) (n : Nat) : List Progress :=
  ((s.relay? n).bind Relay.step).elim [] fun step => step.1.toList

def deedActions (s : Service) : Deed → List Hub.Action
  | .act (.serve session _) => [.join session]
  | .act (.loop n) => s.loopActions n
  | .act (.relay n) => (s.handedOn n).map fun item => .publish (.updateProgress item) true
  | d => d.fromOutside

def hubActions (s : Service) : Move → List Hub.Action
  | .deed d => s.deedActions d.1
  | .hub a => [a.1]
  | .operate session m => s.methodActions session m
  | .quitStage session _ stage => stage.hubActions session
  | .endReport _ => []

theorem hub_settleTunnel (s : Service) (r : TunnelReply) :
    (s.settleTunnel r).2.hub = (tunnelActions r).foldl Hub.act s.hub := publishEach_eq r.published s.hub

theorem hub_dispatch (s : Service) (session : Nat) (m : Method) :
    (s.dispatch session m).2.hub = (s.methodActions session m).foldl Hub.act s.hub := by
  cases m with
  | quit stopTunnels =>
    show (s.quit session stopTunnels).2.hub = _
    rw [methodActions]
    cases he : s.isElevated session with
    | false =>
      rw [quit_of_denied he]
      rfl
    | true =>
      cases hq : s.hasQuit with
      | true =>
        rw [quit_of_hasQuit he hq]
        rfl
      | false =>
        rw [quit_of_first he hq]
        rfl
  | queryUpdateState => rfl
  | triggerUpdate =>
    show (s.triggerUpdate session).hub = _
    unfold triggerUpdate
    split <;> rfl
  | startTunnel config =>
    show (s.startTunnel session config).2.hub = _
    rw [methodActions, startTunnel]
    split
    · exact s.hub_settleTunnel _
    · rfl
  | stopTunnel =>
    show (s.stopTunnel session).2.hub = _
    rw [methodActions, stopTunnel]
    split
    · exact s.hub_settleTunnel _
    · rfl
  | queryTunnelState => rfl

theorem hub_carried (s : Service) (session : Nat) (request : Option Method) :
    (s.carried session request).hub = (s.requestActions session request).foldl Hub.act s.hub := by
  cases request with
  | none => rfl
  | some m => exact s.hub_dispatch session m

theorem hub_endLink (s : Service) (n : Nat) (l : Link) :
    (s.endLink n l).hub = (s.leaveActions l.session).foldl Hub.act s.hub := by
  have hhub : (s.setLink n l.hangUp).hub = s.hub := rfl
  unfold endLink leaveActions
  simp only [hhub]
  cases s.hub.session? l.session <;> rfl

theorem hub_loop (s : Service) (n : Nat) :
    ((s.serveStep n).getD s).hub = (s.loopActions n).foldl Hub.act s.hub := by
  rw [loopActions]
  cases hstep : s.serveStep n with
  | none => cases s.links[n]? <;> rfl
  | some t =>
    obtain ⟨l, hl, hturn⟩ := loopTurn_of_serveStep hstep
    have heffect := hturn.effect
    have hlt : n < (s.carried l.session (s.request? n)).links.length := by
      rw [links_carried]
      exact (List.getElem?_eq_some_iff.mp hl).1
    simp only [hl, Option.getD_some]
    rw [List.foldl_append, ← hub_carried]
    cases heffect with
    | goesOn l' session serving =>
      have hself : ((s.carried l.session (s.request? n)).setLink n l').links[n]? = some l' :=
        List.getElem?_set_self hlt
      rw [hself, Option.any_some, beq_eq_false_iff_ne.mpr serving, if_neg Bool.false_ne_true]
      rfl
    | ends l' session =>
      rw [links_endLink, List.getElem?_set_self hlt]
      rw [hub_endLink, session]
      rfl

theorem hub_relay (s : Service) (n : Nat) :
    ((s.relayStep n).getD s).hub
      = ((s.handedOn n).map fun item => Hub.Action.publish (.updateProgress item) true).foldl Hub.act s.hub := by
  rw [relayStep, handedOn]
  cases (s.relay? n).bind Relay.step with
  | none => rfl
  | some step =>
    obtain ⟨item?, r⟩ := step
    cases item? <;> rfl

theorem hub_serve (s : Service) (session capacity : Nat) :
    (s.serve session capacity).2.2.hub = s.hub.act (.join session) := by
  unfold serve
  show _ = (s.hub.join session).2
  generalize s.hub.join session = j
  obtain ⟨taken, j⟩ := j
  cases taken <;> rfl

theorem hub_report (s : Service) (n : Nat) (item : Progress) :
    (Site.report { service := s } n item).2.service.hub = s.hub := by
  unfold Site.report
  split
  · split <;> rfl
  · rfl

/-- **A move does to the hub what its actions do, and nothing else.** -/
theorem hub_move (s : Service) (m : Move) : (s.move m).hub = (s.hubActions m).foldl Hub.act s.hub := by
  cases m with
  | deed d =>
    obtain ⟨d, hd⟩ := d
    cases d with
    | act a =>
      cases a with
      | serve session capacity => exact s.hub_serve session capacity
      | loop n => exact s.hub_loop n
      | relay n => exact s.hub_relay n
      | _ => rfl
    | schedule a => cases a <;> rfl
    | report n item => exact s.hub_report n item
    | _ => rfl
  | hub a => rfl
  | operate session m => exact s.hub_dispatch session m
  | quitStage session stopTunnels stage => exact s.hub_quitStep session stopTunnels stage
  | endReport n =>
    show (s.endReport n).hub = s.hub
    unfold endReport
    split <;> rfl

/-! ## what is told of a move -/

/-- an item that a relay handed on, and the sessions whose queues took its frame -/
structure Handed where
  run : Nat
  item : Progress
  reached : List Nat

def reached (s : Service) (item : Progress) : List Nat :=
  (s.hub.accepts (.publish (.updateProgress item) true)).map Prod.fst

def handed (s : Service) : Move → List Handed
  | .deed ⟨.act (.relay n), _⟩ => (s.handedOn n).map fun item => ⟨n, item, s.reached item⟩
  | _ => []

/-- for whom an update is asked, if it is -/
def callers (s : Service) (session : Nat) : Option Method → List (Option Token)
  | some .triggerUpdate => [s.token? session]
  | _ => []

def calls (s : Service) : Move → List (Option Token)
  | .operate session m => s.callers session (some m)
  | .deed ⟨.act (.loop n), _⟩ => s.links[n]?.elim [] fun l => s.callers l.session (s.request? n)
  | _ => []

/-- what an installation produces as it is started -/
def firstItems (s : Service) (calls : List (Option Token)) : List (Nat × Progress) :=
  calls.reduceOption.flatMap fun _ => s.installer.install.1.waiting.map (s.installs.size, ·)

/-- what installations produce; one whose stream has ended produces nothing -/
def produced (s : Service) : Move → List (Nat × Progress)
  | .deed ⟨.report n item, _⟩ => if Site.canReport { service := s } n then [(n, item)] else []
  | m => s.firstItems (s.calls m)

theorem progress_methodActions (s : Service) (session : Nat) (m : Method) :
    (s.methodActions session m).flatMap Hub.Action.progress = [] := by
  have htunnel (r : TunnelReply) : (tunnelActions r).flatMap Hub.Action.progress = [] := by
    rw [tunnelActions, List.flatMap_map]
    exact List.flatMap_eq_nil_iff.mpr fun _ _ => rfl
  cases m with
  | quit stopTunnels =>
    rw [methodActions]
    split <;> rfl
  | startTunnel config =>
    rw [methodActions]
    split
    · exact htunnel _
    · rfl
  | stopTunnel =>
    rw [methodActions]
    split
    · exact htunnel _
    · rfl
  | _ => rfl

theorem progress_loopActions (s : Service) (n : Nat) : (s.loopActions n).flatMap Hub.Action.progress = [] := by
  have hleave (t : Service) (session : Nat) : (t.leaveActions session).flatMap Hub.Action.progress = [] := by
    rw [leaveActions, List.flatMap_map]
    exact List.flatMap_eq_nil_iff.mpr fun _ _ => rfl
  rw [loopActions]
  split
  · rename_i l t _ _
    rw [List.flatMap_append]
    have hrequest : (s.requestActions l.session (s.request? n)).flatMap Hub.Action.progress = [] := by
      cases s.request? n with
      | none => rfl
      | some m => exact s.progress_methodActions l.session m
    rw [hrequest]
    split
    · exact hleave _ _
    · rfl
  · rfl

/-- **The progress that is published is what the relays hand on**, for the elevated sessions alone. -/
theorem progress_hubActions (s : Service) (m : Move) :
    (s.hubActions m).flatMap Hub.Action.progress = (s.handed m).map fun e => (e.item, true) := by
  cases m with
  | deed d =>
    obtain ⟨d, hd⟩ := d
    cases d with
    | act a =>
      cases a with
      | loop n => exact s.progress_loopActions n
      | relay n =>
        show ((s.handedOn n).map _).flatMap _ = ((s.handedOn n).map _).map _
        rw [List.flatMap_map, List.map_map]
        exact List.map_eq_flatMap.symm
      | serve session capacity => rfl
      | _ => exact hd
    | _ => exact hd
  | hub a => exact (List.append_nil _).trans a.2
  | operate session m => exact s.progress_methodActions session m
  | quitStage session stopTunnels stage => cases stage <;> rfl
  | endReport n => rfl

/-! ## what a move does to the installations and their relays -/

/-- what there is of a service for its updates -/
def updates (s : Service) : Array Token × Installer × List (Nat × Relay) := (s.installs, s.installer, s.relays)

theorem updates_endLink (s : Service) (n : Nat) (l : Link) : (s.endLink n l).updates = s.updates := by
  unfold endLink
  simp only
  split <;> rfl

theorem updates_quitStep (s : Service) (session : Nat) (stopTunnels : Bool) (stage : QuitStage) :
    (s.quitStep session stopTunnels stage).2.updates = s.updates := by
  cases stage with
  | checkPermission =>
    rw [quitStep]
    split <;> rfl
  | claim =>
    rw [quitStep]
    split <;> rfl
  | tearDown => cases stopTunnels <;> rfl
  | _ => rfl

theorem updates_quit (s : Service) (session : Nat) (stopTunnels : Bool) :
    (s.quit session stopTunnels).2.updates = s.updates := by
  cases he : s.isElevated session with
  | false => rw [quit_of_denied he]
  | true =>
    cases hq : s.hasQuit with
    | true => rw [quit_of_hasQuit he hq]
    | false =>
      rw [quit_of_first he hq]
      rfl

/-- a request starts an installation for each one for whom it asks for an update, if he has a token -/
theorem carried_cases (s : Service) (session : Nat) (request : Option Method) :
    ((s.callers session request).reduceOption = [] ∧ (s.carried session request).updates = s.updates) ∨
      ∃ token, s.callers session request = [some token] ∧ s.carried session request = s.triggerUpdate session ∧
        s.token? session = some token := by
  cases request with
  | none => exact .inl ⟨rfl, rfl⟩
  | some m =>
    cases m with
    | triggerUpdate =>
      cases ht : s.token? session with
      | none =>
        refine .inl ⟨?_, ?_⟩
        · rw [callers, ht]
          rfl
        · show (s.triggerUpdate session).updates = _
          simp only [triggerUpdate, ht]
      | some token => exact .inr ⟨token, by rw [callers, ht], rfl, rfl⟩
    | quit stopTunnels => exact .inl ⟨rfl, s.updates_quit session stopTunnels⟩
    | startTunnel config =>
      refine .inl ⟨rfl, ?_⟩
      show (s.startTunnel session config).2.updates = _
      rw [startTunnel]
      split <;> rfl
    | stopTunnel =>
      refine .inl ⟨rfl, ?_⟩
      show (s.stopTunnel session).2.updates = _
      rw [stopTunnel]
      split <;> rfl
    | queryUpdateState => exact .inl ⟨rfl, rfl⟩
    | queryTunnelState => exact .inl ⟨rfl, rfl⟩

/-- the loop of a connection does nothing for updates but what its request comes to -/
theorem updates_loop (s : Service) (n : Nat) :
    ∃ session request, ((s.serveStep n).getD s).updates = (s.carried session request).updates ∧
      s.links[n]?.elim [] (fun l => s.callers l.session (s.request? n)) = s.callers session request := by
  cases hstep : s.serveStep n with
  | none =>
    refine ⟨0, none, rfl, ?_⟩
    cases hl : s.links[n]? with
    | none => rfl
    | some l =>
      have hrequest : s.request? n = none := by
        cases hr : s.request? n with
        | none => rfl
        | some m =>
          obtain ⟨t, ht⟩ := serveStep_of_request? hr
          cases hstep.symm.trans ht
      rw [hrequest]
      rfl
  | some t =>
    obtain ⟨l, hl, hturn⟩ := loopTurn_of_serveStep hstep
    refine ⟨l.session, s.request? n, ?_, by rw [hl]; rfl⟩
    cases hturn.effect with
    | goesOn l' session serving => rfl
    | ends l' session => exact updates_endLink _ n l'

end Service

end TunnelControl
