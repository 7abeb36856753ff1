import TunnelControl.Proofs.Session.Ledger
import TunnelControl.Service.Serving

/-!
# Runs of the service

All that may happen to a service, in any order: sessions are created and taken up, the loops of their connections
go on, their clients write requests, end or drop their streams and read answers, and whatever else befalls the hub.

* `Service.Action`, `act`, `run`   a run, one action after the other;
* `Hub.Steady h k`                 the same members, and the same sessions open and closed;
* `dispatch_cases`                 a method quits, or it leaves the hub steady;
* `serveStep_cases`                what the loop of a connection can do.
-/

namespace TunnelControl

namespace Hub

/-- whether an action leaves it alone who is a member -/
def Action.keepsMembers : Action → Bool
  | .join _ | .leave _ | .drain => false
  | _ => true

/-- the same members, and the same sessions open and closed -/
structure Steady (h k : Hub) : Prop where
  members : k.members = h.members
  drained : k.drained = h.drained
  sessions : ∀ handle, (k.session? handle).map (fun s => (s.id, s.closed))
    = (h.session? handle).map fun s => (s.id, s.closed)

namespace Steady

theorem refl (h : Hub) : h.Steady h := ⟨rfl, rfl, fun _ => rfl⟩

theorem trans {h k m : Hub} (hk : h.Steady k) (km : k.Steady m) : h.Steady m :=
  ⟨km.members.trans hk.members, km.drained.trans hk.drained,
    fun handle => (km.sessions handle).trans (hk.sessions handle)⟩

theorem id? {h k : Hub} (hk : h.Steady k) (handle : Nat) : k.id? handle = h.id? handle := by
  have hs := congrArg (Option.map Prod.fst) (hk.sessions handle)
  rwa [Option.map_map, Option.map_map] at hs

theorem isClosed {h k : Hub} (hk : h.Steady k) (handle : Nat) : k.isClosed handle = h.isClosed handle := by
  have hs := hk.sessions handle
  unfold Hub.isClosed
  cases hh : h.session? handle with
  | none =>
    rw [hh, Option.map_none, Option.map_eq_none_iff] at hs
    rw [hs]
  | some s =>
    rw [hh] at hs
    obtain ⟨t, ht, heq⟩ := Option.map_eq_some_iff.mp hs
    rw [ht]
    exact congrArg Prod.snd heq

end Steady

theorem steady_modify (h : Hub) (target : Nat) {f : Session → Session} (hid : ∀ s, (f s).id = s.id)
    (hclosed : ∀ s, (f s).closed = s.closed) : h.Steady (h.modify target f) := by
  refine ⟨rfl, rfl, fun handle => ?_⟩
  rw [session?_modify]
  split
  · rw [Option.map_map]
    refine congrArg (Option.map · (h.session? handle)) (funext fun s => ?_)
    exact Prod.ext (hid s) (hclosed s)
  · rfl

theorem steady_enqueueEach (d : QueuedFrame) (handles : List Nat) (h : Hub) :
    h.Steady (h.enqueueEach d handles) := by
  induction handles generalizing h with
  | nil => exact .refl h
  | cons handle handles ih =>
    refine (steady_modify h handle (fun s => ?_) fun s => ?_).trans (ih (h.enqueue handle d).2)
    · unfold Session.enqueue
      split <;> rfl
    · unfold Session.enqueue
      split <;> rfl

theorem steady_publish (h : Hub) (event : Event) (adminOnly : Bool) :
    h.Steady (h.publish event adminOnly).2 := by
  unfold publish
  split
  · exact .refl h
  · exact steady_enqueueEach _ _ h

theorem steady_publishEach (states : List TunnelState) (h : Hub) :
    h.Steady (Service.publishEach h states) := by
  induction states generalizing h with
  | nil => exact .refl h
  | cons state states ih => exact (h.steady_publish _ _).trans (ih _)

theorem members_act_of_keeps {h : Hub} {a : Action} (ha : a.keepsMembers = true) :
    (h.act a).members = h.members ∧ (h.act a).drained = h.drained := by
  cases a with
  | join handle => cases ha
  | leave id => cases ha
  | drain => cases ha
  | publish event adminOnly =>
    have hs := h.steady_publish event adminOnly
    exact ⟨hs.members, hs.drained⟩
  | receive handle limit =>
    show (h.receive handle limit).2.members = _ ∧ (h.receive handle limit).2.drained = _
    unfold receive
    split <;> exact ⟨rfl, rfl⟩
  | _ => exact ⟨rfl, rfl⟩

end Hub

namespace Service

/-! ## actions -/

inductive Action
  /-- what befalls the hub: sessions are created, events published, clients read, time passes -/
  | hub (a : { a : Hub.Action // a.keepsMembers = true })
  /-- a session is taken up -/
  | serve (handle capacity : Nat)
  /-- the loop of a connection goes on -/
  | loop (n : Nat)
  | relay (n : Nat)
  /-- a client writes as much as there is room for -/
  | send (n : Nat) (data : Bytes)
  | endRequests (n : Nat)
  /-- a client goes away -/
  | dropRequests (n : Nat)
  | readAnswers (n limit : Nat)

/-- changes the pipes of a connection -/
def changePipes (s : Service) (n : Nat) (requests responses : Pipe → Pipe) : Service :=
  { s with
    links := s.links.modify n fun l =>
      { l with requests := requests l.requests, responses := responses l.responses } }

/-- what a pipe holds when as much as there is room for was written to it -/
def afterWrite (data : Bytes) (p : Pipe) : Pipe :=
  match p.write data with
  | .wrote _ q => q
  | _ => p

def act (s : Service) : Action → Service
  | .hub a => { s with hub := s.hub.act a.1 }
  | .serve handle capacity => (s.serve handle capacity).2.2
  | .loop n => (s.serveStep n).getD s
  | .relay n => (s.relayStep n).getD s
  | .send n data => s.changePipes n (afterWrite data) id
  | .endRequests n => s.changePipes n Pipe.closeWriter id
  | .dropRequests n => s.changePipes n Pipe.closeWriter Pipe.closeReader
  | .readAnswers n limit => s.changePipes n id fun p => (p.take limit).2

def run (s : Service) (as : List Action) : Service := as.foldl act s

theorem run_append (s : Service) (as bs : List Action) : s.run (as ++ bs) = (s.run as).run bs :=
  List.foldl_append

theorem run_concat (s : Service) (as : List Action) (a : Action) : s.run (as ++ [a]) = (s.run as).act a := by
  rw [run_append]
  rfl

/-! ## methods -/

/-- one who may not quit, and one who comes second, changes nothing -/
theorem quit_cases (s : Service) (handle : Nat) (stopTunnels : Bool) :
    (s.quit handle stopTunnels).2.hasQuit = true ∨ (s.quit handle stopTunnels).2 = s := by
  unfold quit
  cases he : s.isElevated handle with
  | false =>
    right
    simp only [quitSteps, quitStep, he, Bool.false_eq_true, if_false]
  | true =>
    cases hq : s.hasQuit with
    | true =>
      left
      simp only [quitSteps, quitStep, he, hq, if_true]
    | false =>
      left
      cases stopTunnels <;>
        simp only [quitSteps, quitStep, sendSignal, he, hq, if_true, if_false, Bool.false_eq_true]

/-- a method quits the service, or leaves the hub steady -/
theorem dispatch_cases (s : Service) (handle : Nat) (m : Method) :
    (s.dispatch handle m).2.hasQuit = true ∨
      ((s.dispatch handle m).2.hasQuit = s.hasQuit ∧ (s.dispatch handle m).2.links = s.links ∧
        s.hub.Steady (s.dispatch handle m).2.hub) := by
  cases m with
  | quit stopTunnels =>
    obtain hq | hs := s.quit_cases handle stopTunnels
    · exact .inl hq
    · rw [show (s.dispatch handle (.quit stopTunnels)).2 = (s.quit handle stopTunnels).2 from rfl, hs]
      exact .inr ⟨rfl, rfl, .refl _⟩
  | queryUpdateState => exact .inr ⟨rfl, rfl, .refl _⟩
  | triggerUpdate =>
    right
    show (s.triggerUpdate handle).hasQuit = _ ∧ (s.triggerUpdate handle).links = _ ∧
      s.hub.Steady (s.triggerUpdate handle).hub
    unfold triggerUpdate
    split <;> exact ⟨rfl, rfl, .refl _⟩
  | startTunnel config =>
    right
    show (s.startTunnel handle config).2.hasQuit = _ ∧ (s.startTunnel handle config).2.links = _ ∧
      s.hub.Steady (s.startTunnel handle config).2.hub
    unfold startTunnel
    split
    · exact ⟨rfl, rfl, Hub.steady_publishEach _ _⟩
    · exact ⟨rfl, rfl, .refl _⟩
  | stopTunnel =>
    right
    show (s.stopTunnel handle).2.hasQuit = _ ∧ (s.stopTunnel handle).2.links = _ ∧
      s.hub.Steady (s.stopTunnel handle).2.hub
    unfold stopTunnel
    split
    · exact ⟨rfl, rfl, Hub.steady_publishEach _ _⟩
    · exact ⟨rfl, rfl, .refl _⟩
  | queryTunnelState => exact .inr ⟨rfl, rfl, .refl _⟩

/-! ## the loop of a connection -/

/-- what ends the service of a session: its connection hangs up, and the member with its id leaves -/
def Leaves (h : Hub) (session : Nat) (k : Hub) : Prop :=
  k = match h.session? session with
    | some s => (h.leave s.id).2
    | none => h

/-- what the step of a loop can do: the service quits, the loop goes on, or it ends -/
inductive LoopStep (s : Service) (n : Nat) (l : Link) (t : Service) : Prop
  | quits (h : t.hasQuit = true)
  | goesOn (l' : Link) (quit : t.hasQuit = s.hasQuit) (session : l'.session = l.session)
      (serving : l'.serving ≠ .ended) (links : t.links = s.links.set n l') (hub : s.hub.Steady t.hub)
  | ends (l' : Link) (k : Hub) (quit : t.hasQuit = s.hasQuit) (session : l'.session = l.session)
      (links : t.links = s.links.set n l'.hangUp) (steady : s.hub.Steady k) (hub : Leaves k l.session t.hub)

theorem hasQuit_endLink (s : Service) (n : Nat) (l : Link) : (s.endLink n l).hasQuit = s.hasQuit := by
  unfold endLink
  simp only
  split <;> rfl

theorem loopStep_endLink {s u : Service} {n : Nat} {l l' : Link} (hq : u.hasQuit = s.hasQuit)
    (hs : l'.session = l.session) (hl : u.links.set n l'.hangUp = s.links.set n l'.hangUp)
    (hk : s.hub.Steady u.hub) : LoopStep s n l (u.endLink n l') := by
  refine .ends l' u.hub ((u.hasQuit_endLink n l').trans hq) hs ?_ hk ?_
  · rw [← hl]
    unfold endLink
    simp only
    split <;> rfl
  · rw [← hs]
    unfold Leaves endLink
    simp only [setLink]
    cases u.hub.session? l'.session <;> rfl

/-- the loop has read a request -/
theorem loopStep_reply {s : Service} {n : Nat} {l l' : Link} (hs : l'.session = l.session) (payload : Bytes) :
    LoopStep s n l (s.reply n l' payload) := by
  unfold reply
  cases hd : decodePayload Method payload with
  | error fault => exact loopStep_endLink rfl hs rfl (.refl _)
  | ok m =>
    simp only
    have hcases := (s.setLink n l').dispatch_cases l'.session m
    generalize (s.setLink n l').dispatch l'.session m = d at hcases
    obtain ⟨answer, u⟩ := d
    obtain hq | ⟨hq, hl, hk⟩ := hcases
    · cases answer.frame with
      | ok frame => exact .quits hq
      | error e => exact .quits ((u.hasQuit_endLink n l').trans hq)
    · have hset (l'' : Link) : u.links.set n l'' = s.links.set n l'' := by
        rw [show u.links = s.links.set n l' from hl, List.set_set]
      cases answer.frame with
      | ok frame => exact .goesOn { l' with serving := .replying frame } hq hs nofun (hset _) hk
      | error e => exact loopStep_endLink hq hs (hset _) hk

theorem serveStep_cases {s t : Service} {n : Nat} (h : s.serveStep n = some t) :
    ∃ l, s.links[n]? = some l ∧ l.serving ≠ .ended ∧ LoopStep s n l t := by
  unfold serveStep at h
  cases hl : s.links[n]? with
  | none =>
    rw [hl] at h
    cases h
  | some l =>
    rw [hl] at h
    refine ⟨l, rfl, ?_⟩
    cases hs : l.serving with
    | ended =>
      simp only [hs] at h
      cases h
    | replying left =>
      simp only [hs] at h
      refine ⟨nofun, ?_⟩
      cases hw : l.responses.write left with
      | broken =>
        simp only [hw] at h
        cases h
        exact loopStep_endLink rfl rfl rfl (.refl _)
      | blocked =>
        simp only [hw] at h
        cases h
      | wrote rest responses =>
        simp only [hw] at h
        cases rest with
        | nil =>
          cases h
          exact .goesOn { l with serving := .reading .start, responses } rfl rfl nofun rfl (.refl _)
        | cons b rest =>
          cases h
          exact .goesOn { l with serving := .replying (b :: rest), responses } rfl rfl nofun rfl (.refl _)
    | reading reader =>
      simp only [hs] at h
      refine ⟨nofun, ?_⟩
      cases ht : l.requests.take reader.wanted with
      | mk piece requests =>
        simp only [ht] at h
        cases piece with
        | nil =>
          simp only at h
          split at h
          · cases h
            exact loopStep_endLink rfl rfl rfl (.refl _)
          · cases h
        | cons b piece =>
          simp only at h
          cases hf : reader.feed (b :: piece) with
          | more reader =>
            simp only [hf] at h
            cases h
            exact .goesOn { l with requests, serving := .reading reader } rfl rfl nofun rfl (.refl _)
          | tooLarge length =>
            simp only [hf] at h
            cases h
            exact loopStep_endLink rfl rfl rfl (.refl _)
          | payload payload =>
            simp only [hf] at h
            cases h
            have hsession : ({ l with requests } : Link).session = l.session := rfl
            rw [← hs]
            exact loopStep_reply hsession payload

end Service

end TunnelControl
