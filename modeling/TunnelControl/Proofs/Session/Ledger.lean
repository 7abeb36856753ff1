import TunnelControl.Proofs.Session.Account
import TunnelControl.Session.Hub

/-!
# The ledger of a hub

A `Ledger` is a hub of which all is written down that its sessions took and that their clients read, while
anything happens to it in any order.

* `Hub.act h a`              what becomes of a hub: the operations of the service, the writers and the clients;
* `Hub.accepts`, `delivers`  the frames that are taken with it, and the bytes that are read;
* `Ledger.leads_act`         each account goes on as accounts may;
* `Hub.membersSound_act`     the members are told by their ids, and no session is a member twice.
-/

namespace TunnelControl

namespace Hub

inductive Action
  | create (id : SessionId) (token : Option Token) (capacity : Nat)
  | join (handle : Nat)
  | leave (id : SessionId)
  | drain
  | publish (event : Event) (adminOnly : Bool)
  | enqueue (handle : Nat) (d : QueuedFrame)
  | close (handle : Nat)
  /-- a client reads, and the writer goes on as it does -/
  | receive (handle : Nat) (limit : Option Nat)
  /-- a client reads before the writer goes on -/
  | take (handle n : Nat)
  | dropClient (handle : Nat)
  /-- a writer takes a step, if it can -/
  | write (handle : Nat)
  /-- time passes before any writer notices it -/
  | tick (ms : Nat)
  /-- all writers do what they can -/
  | settle
  | advance (ms : Nat)
  deriving Repr

def act (h : Hub) : Action → Hub
  | .create id token capacity => (h.create id token capacity).2
  | .join handle => (h.join handle).2
  | .leave id => (h.leave id).2
  | .drain => h.drain.2
  | .publish event adminOnly => (h.publish event adminOnly).2
  | .enqueue handle d => (h.enqueue handle d).2
  | .close handle => h.close handle
  | .receive handle limit => (h.receive handle limit).2
  | .take handle n => h.modify handle fun s => { s with events := (s.events.take n).2 }
  | .dropClient handle => h.modify handle Session.dropClient
  | .write handle => h.modify handle fun s => (s.step h.clock).getD s
  | .tick ms => { h with clock := h.clock + ms }
  | .settle => h.settle
  | .advance ms => h.advance ms

/-- the sessions whose queues take a frame that is queued for each of them, with the frame -/
def acceptsEach (h : Hub) (d : QueuedFrame) : List Nat → List (Nat × Bytes)
  | [] => []
  | handle :: handles =>
    (if (h.enqueue handle d).1 then [(handle, d.frame)] else [])
      ++ acceptsEach (h.enqueue handle d).2 d handles

/-- the frames that sessions take -/
def accepts (h : Hub) : Action → List (Nat × Bytes)
  | .enqueue handle d => h.acceptsEach d [handle]
  | .publish event adminOnly =>
    match frameOf event with
    | .error _ => []
    | .ok frame => h.acceptsEach ⟨frame, h.deliveryTimeout⟩ (h.audience adminOnly)
  | _ => []

/-- the bytes that clients read -/
def delivers (h : Hub) : Action → List (Nat × Bytes)
  | .receive handle limit => (h.session? handle).toList.map fun _ => (handle, (h.receive handle limit).1)
  | .take handle n => (h.session? handle).toList.map fun s => (handle, (s.events.take n).1)
  | _ => []

theorem session?_modify (h : Hub) (target handle : Nat) (f : Session → Session) :
    (h.modify target f).session? handle
      = if target = handle then (h.session? handle).map f else h.session? handle := by
  unfold modify session?
  rw [List.getElem?_modify]
  split
  · rfl
  · cases h.sessions[handle]? <;> rfl

end Hub

/-- what was written down for a session -/
def entriesOf (handle : Nat) (log : List (Nat × Bytes)) : List Bytes :=
  (log.filter (·.1 == handle)).map Prod.snd

theorem entriesOf_append (handle : Nat) (log log' : List (Nat × Bytes)) :
    entriesOf handle (log ++ log') = entriesOf handle log ++ entriesOf handle log' := by
  rw [entriesOf, List.filter_append, List.map_append]
  rfl

theorem entriesOf_self (handle : Nat) (bs : List Bytes) : entriesOf handle (bs.map (handle, ·)) = bs := by
  induction bs with
  | nil => rfl
  | cons b bs ih =>
    rw [List.map_cons, ← List.singleton_append, entriesOf_append, ih, entriesOf]
    simp

theorem entriesOf_of_ne {handle target : Nat} (h : target ≠ handle) (bs : List Bytes) :
    entriesOf handle (bs.map (target, ·)) = [] := by
  induction bs with
  | nil => rfl
  | cons b bs ih =>
    rw [List.map_cons, ← List.singleton_append, entriesOf_append, ih, entriesOf]
    simp [h]

structure Ledger where
  hub : Hub
  /-- the frames that sessions took, in order -/
  accepted : List (Nat × Bytes) := []
  /-- the bytes that clients read, in order -/
  delivered : List (Nat × Bytes) := []

namespace Ledger

/-- the ledger of a hub without sessions -/
def ofTimeout (deliveryTimeout : Nat) : Ledger := { hub := { deliveryTimeout } }

def act (l : Ledger) (a : Hub.Action) : Ledger :=
  { hub := l.hub.act a
    accepted := l.accepted ++ l.hub.accepts a
    delivered := l.delivered ++ l.hub.delivers a }

def run (l : Ledger) (as : List Hub.Action) : Ledger := as.foldl act l

/-- the hub does not know that it is written about -/
theorem hub_run (l : Ledger) (as : List Hub.Action) : (l.run as).hub = as.foldl Hub.act l.hub := by
  induction as generalizing l with
  | nil => rfl
  | cons a as ih => exact ih (l.act a)

theorem run_append (l : Ledger) (as bs : List Hub.Action) : l.run (as ++ bs) = (l.run as).run bs :=
  List.foldl_append

def account? (l : Ledger) (handle : Nat) : Option Account :=
  (l.hub.session? handle).map fun session =>
    { session
      accepted := entriesOf handle l.accepted
      received := (entriesOf handle l.delivered).flatten }

/-- each account goes on as accounts may -/
def Leads (l m : Ledger) : Prop :=
  ∀ handle a, l.account? handle = some a → ∃ b, m.account? handle = some b ∧ a.Leads b

theorem Leads.refl (l : Ledger) : l.Leads l := fun _ a h => ⟨a, h, .refl a⟩

theorem Leads.trans {l m n : Ledger} (hlm : l.Leads m) (hmn : m.Leads n) : l.Leads n := by
  intro handle a ha
  obtain ⟨b, hb, hab⟩ := hlm handle a ha
  obtain ⟨c, hc, hbc⟩ := hmn handle b hb
  exact ⟨c, hc, hab.trans hbc⟩

/-- accounts are kept for sessions alone -/
theorem leads_of_sessions {l m : Ledger} (hs : m.hub.sessions = l.hub.sessions)
    (ha : m.accepted = l.accepted) (hd : m.delivered = l.delivered) : l.Leads m := by
  intro handle a h
  refine ⟨a, ?_, .refl a⟩
  rw [account?, Hub.session?, hs, ha, hd]
  exact h

/-- what happens to one session, with what is written down for it -/
def modify (l : Ledger) (target : Nat) (f : Session → Session) (frames pieces : List Bytes) : Ledger :=
  { hub := l.hub.modify target f
    accepted := l.accepted ++ frames.map (target, ·)
    delivered := l.delivered ++ pieces.map (target, ·) }

theorem leads_modify {l : Ledger} (target : Nat) (f : Session → Session) (frames pieces : List Bytes)
    (h : ∀ a, l.account? target = some a →
      a.Leads ⟨f a.session, a.accepted ++ frames, a.received ++ pieces.flatten⟩) :
    l.Leads (l.modify target f frames pieces) := by
  intro handle a ha
  by_cases ht : target = handle
  · subst ht
    refine ⟨_, ?_, h a ha⟩
    obtain ⟨s, hs, rfl⟩ := Option.map_eq_some_iff.mp ha
    rw [account?, modify, Hub.session?_modify, if_pos rfl, hs, entriesOf_append, entriesOf_append,
      entriesOf_self, entriesOf_self, List.flatten_append]
    rfl
  · refine ⟨a, ?_, .refl a⟩
    rw [account?, modify, Hub.session?_modify, if_neg ht, entriesOf_append, entriesOf_append,
      entriesOf_of_ne ht, entriesOf_of_ne ht, List.append_nil, List.append_nil]
    exact ha

/-- a session does something by itself -/
theorem leads_withSession {l : Ledger} {target : Nat} {f : Session → Session}
    (h : ∀ a, l.account? target = some a → a.Leads (a.withSession (f a.session))) :
    l.Leads { l with hub := l.hub.modify target f } := by
  have hm := leads_modify target f [] [] fun a ha => by
    rw [List.append_nil, List.flatten_nil, List.append_nil]
    exact h a ha
  rw [modify, List.map_nil, List.append_nil, List.append_nil] at hm
  exact hm

theorem leads_enqueueEach (d : QueuedFrame) (handles : List Nat) (l : Ledger) :
    l.Leads { l with
      hub := l.hub.enqueueEach d handles
      accepted := l.accepted ++ l.hub.acceptsEach d handles } := by
  induction handles generalizing l with
  | nil =>
    rw [Hub.acceptsEach, List.append_nil]
    exact .refl l
  | cons handle handles ih =>
    have hfirst : l.Leads { l with
        hub := (l.hub.enqueue handle d).2
        accepted := l.accepted ++ if (l.hub.enqueue handle d).1 then [(handle, d.frame)] else [] } := by
      have hm := leads_modify handle (fun s => (s.enqueue d).2)
        (if (l.hub.enqueue handle d).1 then [d.frame] else []) [] fun a ha => by
          obtain ⟨s, hs, rfl⟩ := Option.map_eq_some_iff.mp ha
          have hfst : (l.hub.enqueue handle d).1 = (s.enqueue d).1 := by
            rw [Session.enqueue_fst, Hub.enqueue, hs]
            rfl
          rw [hfst, List.flatten_nil, List.append_nil]
          exact Account.leads_enqueue _ d
      rw [modify, List.map_nil, List.append_nil] at hm
      cases hb : (l.hub.enqueue handle d).1 with
      | true =>
        rw [hb] at hm
        exact hm
      | false =>
        rw [hb] at hm
        exact hm
    have hrest := ih { l with
      hub := (l.hub.enqueue handle d).2
      accepted := l.accepted ++ if (l.hub.enqueue handle d).1 then [(handle, d.frame)] else [] }
    rw [Hub.acceptsEach, ← List.append_assoc]
    exact hfirst.trans hrest

theorem leads_closeEach (members : List (SessionId × Nat)) (l : Ledger) :
    l.Leads { l with hub := l.hub.closeEach members } := by
  induction members generalizing l with
  | nil => exact .refl l
  | cons m members ih =>
    exact (leads_withSession fun a _ => a.leads_close).trans (ih { l with hub := l.hub.close m.2 })

theorem leads_settle (l : Ledger) : l.Leads { l with hub := l.hub.settle } := by
  intro handle a ha
  obtain ⟨s, hs, rfl⟩ := Option.map_eq_some_iff.mp ha
  refine ⟨_, ?_, Account.leads_settle l.hub.clock _⟩
  show Option.map _ (Hub.session? { l.hub with sessions := _ } handle) = _
  rw [Hub.session?, List.getElem?_map]
  rw [Hub.session?] at hs
  rw [hs]
  rfl

/-- for the most part nothing is written down -/
theorem act_of_silent {l : Ledger} {a : Hub.Action} (ha : l.hub.accepts a = []) (hd : l.hub.delivers a = []) :
    l.act a = { l with hub := l.hub.act a } := by
  rw [act, ha, hd, List.append_nil, List.append_nil]

theorem leads_create (l : Ledger) (id : SessionId) (token : Option Token) (capacity : Nat) :
    l.Leads { l with hub := (l.hub.create id token capacity).2 } := by
  intro handle a ha
  obtain ⟨s, hs, rfl⟩ := Option.map_eq_some_iff.mp ha
  refine ⟨_, ?_, .refl _⟩
  have hlt : handle < l.hub.sessions.length := (List.getElem?_eq_some_iff.mp hs).1
  show Option.map _ ((l.hub.sessions ++ _)[handle]?) = _
  rw [List.getElem?_append_left hlt, show l.hub.sessions[handle]? = some s from hs]
  rfl

/-- an event is queued for each of its audience, or for nobody -/
theorem act_publish (l : Ledger) (event : Event) (adminOnly : Bool) :
    l.act (.publish event adminOnly) = match frameOf event with
      | .error _ => l
      | .ok frame =>
        { l with
          hub := l.hub.enqueueEach ⟨frame, l.hub.deliveryTimeout⟩ (l.hub.audience adminOnly)
          accepted :=
            l.accepted ++ l.hub.acceptsEach ⟨frame, l.hub.deliveryTimeout⟩ (l.hub.audience adminOnly) } := by
  unfold act
  simp only [Hub.act, Hub.publish, Hub.accepts, Hub.delivers, List.append_nil]
  cases frameOf event with
  | error e => simp only [List.append_nil]
  | ok frame => rfl

theorem act_receive (l : Ledger) (handle : Nat) (limit : Option Nat) :
    l.act (.receive handle limit) = match l.hub.session? handle with
      | none => l
      | some s =>
        l.modify handle (fun _ => (s.receive l.hub.clock limit).2) [] [(s.receive l.hub.clock limit).1] := by
  unfold act
  simp only [Hub.act, Hub.accepts, Hub.delivers, Hub.receive, List.append_nil]
  cases l.hub.session? handle with
  | none => simp only [Option.toList_none, List.map_nil, List.append_nil]
  | some s => simp only [modify, List.map_nil, List.append_nil, Option.toList_some, List.map_cons]

theorem act_take (l : Ledger) (handle n : Nat) :
    l.act (.take handle n) = l.modify handle (fun s => { s with events := (s.events.take n).2 }) []
      ((l.hub.session? handle).toList.map fun s => (s.events.take n).1) := by
  unfold act modify
  simp only [Hub.act, Hub.accepts, Hub.delivers, List.append_nil, List.map_nil, List.map_map]
  rfl

theorem leads_receive (l : Ledger) (handle : Nat) (limit : Option Nat) :
    l.Leads (l.act (.receive handle limit)) := by
  rw [act_receive]
  cases hs : l.hub.session? handle with
  | none => exact .refl l
  | some s =>
    refine leads_modify _ _ _ _ fun a ha => ?_
    rw [account?, hs] at ha
    cases ha
    rw [List.append_nil, List.flatten_singleton]
    exact Account.leads_receive l.hub.clock limit _

theorem leads_take (l : Ledger) (handle n : Nat) : l.Leads (l.act (.take handle n)) := by
  rw [act_take]
  refine leads_modify _ _ _ _ fun a ha => ?_
  obtain ⟨s, hs, rfl⟩ := Option.map_eq_some_iff.mp ha
  rw [hs, List.append_nil, Option.toList_some, List.map_cons, List.map_nil, List.flatten_singleton]
  exact Account.leads_take _ n

/-- **Whatever happens, each account goes on as accounts may.** -/
theorem leads_act (l : Ledger) (a : Hub.Action) : l.Leads (l.act a) := by
  cases a with
  | create id token capacity =>
    rw [act_of_silent rfl rfl]
    exact l.leads_create id token capacity
  | join handle =>
    rw [act_of_silent rfl rfl]
    refine leads_of_sessions ?_ rfl rfl
    show (l.hub.join handle).2.sessions = _
    unfold Hub.join
    split <;> rfl
  | leave id =>
    rw [act_of_silent rfl rfl]
    show l.Leads { l with hub := (l.hub.leave id).2 }
    unfold Hub.leave
    cases l.hub.member? id with
    | none => exact .refl l
    | some handle =>
      exact (leads_of_sessions rfl rfl rfl).trans (leads_withSession fun a _ => a.leads_close)
  | drain =>
    rw [act_of_silent rfl rfl]
    exact (leads_closeEach l.hub.members l).trans (leads_of_sessions rfl rfl rfl)
  | publish event adminOnly =>
    rw [act_publish]
    cases frameOf event with
    | error e => exact .refl l
    | ok frame => exact leads_enqueueEach _ _ l
  | enqueue handle d =>
    have h := leads_enqueueEach d [handle] l
    rw [← List.append_nil l.delivered] at h
    exact h
  | close handle =>
    rw [act_of_silent rfl rfl]
    exact leads_withSession fun a _ => a.leads_close
  | receive handle limit => exact l.leads_receive handle limit
  | take handle n => exact l.leads_take handle n
  | dropClient handle =>
    rw [act_of_silent rfl rfl]
    exact leads_withSession fun a _ => a.leads_dropClient
  | write handle =>
    rw [act_of_silent rfl rfl]
    refine leads_withSession fun a _ => ?_
    cases hs : a.session.step l.hub.clock with
    | none => exact .refl a
    | some s => exact Account.leads_step hs
  | tick ms =>
    rw [act_of_silent rfl rfl]
    exact leads_of_sessions rfl rfl rfl
  | settle =>
    rw [act_of_silent rfl rfl]
    exact l.leads_settle
  | advance ms =>
    rw [act_of_silent rfl rfl]
    have htick : l.Leads { l with hub := { l.hub with clock := l.hub.clock + ms } } :=
      leads_of_sessions rfl rfl rfl
    exact htick.trans (leads_settle _)

end Ledger

/-! ## members -/

namespace Hub

/-- each member is a session with its id, and no id stands twice -/
structure MembersSound (h : Hub) : Prop where
  known : ∀ m ∈ h.members, h.id? m.2 = some m.1
  once : (h.members.map Prod.fst).Nodup

theorem lookup_of_mem {members : List (SessionId × Nat)} (hn : (members.map Prod.fst).Nodup)
    {id : SessionId} {handle : Nat} (hm : (id, handle) ∈ members) : members.lookup id = some handle := by
  induction members with
  | nil => cases hm
  | cons x xs ih =>
    obtain ⟨hx, hxs⟩ := List.nodup_cons.mp hn
    obtain rfl | hmem := List.mem_cons.mp hm
    · rw [List.lookup_cons, beq_self_eq_true]
    · have hne : (id == x.1) = false := by
        rw [beq_eq_false_iff_ne]
        exact fun heq => hx (heq ▸ List.mem_map_of_mem hmem)
      rw [List.lookup_cons, hne]
      exact ih hxs hmem

theorem members_enqueueEach (d : QueuedFrame) (handles : List Nat) (h : Hub) :
    (h.enqueueEach d handles).members = h.members := by
  induction handles generalizing h with
  | nil => rfl
  | cons handle handles ih => exact ih (h.enqueue handle d).2

/-- who is a member changes by joining, leaving and draining alone -/
theorem members_act (h : Hub) (a : Action) :
    (h.act a).members = h.members ∨ (h.act a).members = [] ∨
      (∃ id, (h.act a).members = h.members.filter (·.1 != id)) ∨
      ∃ handle s, h.session? handle = some s ∧
        (h.act a).members = h.members.filter (·.1 != s.id) ++ [(s.id, handle)] := by
  cases a with
  | join handle =>
    rw [show h.act (.join handle) = (h.join handle).2 from rfl]
    unfold join
    split
    · rename_i s _ hs
      exact .inr (.inr (.inr ⟨handle, s, hs, rfl⟩))
    · exact .inl rfl
  | leave id =>
    rw [show h.act (.leave id) = (h.leave id).2 from rfl]
    unfold leave
    split
    · exact .inr (.inr (.inl ⟨id, rfl⟩))
    · exact .inl rfl
  | drain => exact .inr (.inl rfl)
  | publish event adminOnly =>
    refine .inl ?_
    show (h.publish event adminOnly).2.members = _
    unfold publish
    split
    · rfl
    · exact members_enqueueEach _ _ _
  | receive handle limit =>
    refine .inl ?_
    show (h.receive handle limit).2.members = _
    unfold receive
    split <;> rfl
  | _ => exact .inl rfl

/-- a session keeps its id -/
theorem id?_act {h : Hub} {handle : Nat} {id : SessionId} (a : Action) (hid : h.id? handle = some id) :
    (h.act a).id? handle = some id := by
  obtain ⟨s, hs, rfl⟩ := Option.map_eq_some_iff.mp hid
  have hacc : (Ledger.mk h [] []).account? handle = some ⟨s, [], []⟩ := by
    rw [Ledger.account?, hs]
    rfl
  obtain ⟨b, hb, hleads⟩ := Ledger.leads_act ⟨h, [], []⟩ a handle _ hacc
  obtain ⟨t, ht, rfl⟩ := Option.map_eq_some_iff.mp hb
  rw [id?, show (h.act a).session? handle = some t from ht]
  exact congrArg some hleads.id

theorem membersSound_act {h : Hub} (hm : h.MembersSound) (a : Action) : (h.act a).MembersSound := by
  have hknown (ms : List (SessionId × Nat)) (hsub : ms.Sublist h.members) :
      ∀ m ∈ ms, (h.act a).id? m.2 = some m.1 := fun m hmem => id?_act a (hm.known m (hsub.subset hmem))
  have honce (ms : List (SessionId × Nat)) (hsub : ms.Sublist h.members) : (ms.map Prod.fst).Nodup :=
    List.Pairwise.sublist (hsub.map Prod.fst) hm.once
  obtain he | he | ⟨id, he⟩ | ⟨handle, s, hs, he⟩ := h.members_act a
  · exact ⟨he ▸ hknown _ (List.Sublist.refl _), he ▸ hm.once⟩
  · exact ⟨he ▸ nofun, he ▸ List.Pairwise.nil⟩
  · exact ⟨he ▸ hknown _ List.filter_sublist, he ▸ honce _ List.filter_sublist⟩
  · have hid : h.id? handle = some s.id := by
      rw [id?, hs]
      rfl
    refine ⟨?_, ?_⟩
    · rw [he]
      intro m hmem
      obtain hmem | hmem := List.mem_append.mp hmem
      · exact hknown _ List.filter_sublist m hmem
      · rw [List.mem_singleton.mp hmem]
        exact id?_act a hid
    · rw [he, List.map_append, List.map_singleton]
      refine List.nodup_append.mpr ⟨honce _ List.filter_sublist, List.pairwise_singleton _ _, ?_⟩
      intro i hi j hj
      obtain ⟨m, hmem, rfl⟩ := List.mem_map.mp hi
      rw [List.mem_singleton.mp hj]
      have hne := (List.mem_filter.mp hmem).2
      rw [bne_iff_ne] at hne
      exact hne

/-- no session is in the audience of an event twice -/
theorem nodup_audience {h : Hub} (hm : h.MembersSound) (adminOnly : Bool) : (h.audience adminOnly).Nodup := by
  have hfst : h.members.Pairwise fun m n => m.1 ≠ n.1 := List.pairwise_map.mp hm.once
  have hsnd : h.members.Pairwise fun m n => m.2 ≠ n.2 := by
    refine hfst.imp_of_mem fun {m n} hmm hmn hne heq => hne ?_
    have h1 := hm.known m hmm
    rw [heq, hm.known n hmn] at h1
    exact (Option.some.inj h1).symm
  exact (List.pairwise_map.mpr hsnd).filter _

end Hub

end TunnelControl
