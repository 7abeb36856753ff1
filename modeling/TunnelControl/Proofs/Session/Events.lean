import TunnelControl.Proofs.Session.Standing

/-!
# The streams of events

Each session's stream is what it took, in order.

* `Hub.entriesOf_acceptsEach`   each session of an audience takes the frame of an event once, or not at all;
* `Ledger.sound_run`            in every run the accounts are sound, and nothing is written down beforehand;
* `Ledger.accepted_publish`     the reasons for which a member misses an event;
* `Ledger.atEnd_of_closed`      the stream of a closed session comes to its end;
* `Ledger.events_in_order`      so the stream of each session is what it took, in order.
-/

namespace TunnelControl

/-! ## which accounts there are -/

namespace Ledger

theorem account?_eq_none_iff {l : Ledger} {handle : Nat} :
    l.account? handle = none ↔ l.hub.sessions.length ≤ handle := by
  rw [account?, Option.map_eq_none_iff, Hub.session?, List.getElem?_eq_none_iff]

end Ledger

namespace Hub

theorem length_enqueueEach (d : QueuedFrame) (handles : List Nat) (h : Hub) :
    (h.enqueueEach d handles).sessions.length = h.sessions.length := by
  induction handles generalizing h with
  | nil => rfl
  | cons handle handles ih =>
    show ((h.enqueue handle d).2.enqueueEach d handles).sessions.length = _
    rw [ih]
    exact List.length_modify _ _ _

theorem length_closeEach (members : List (SessionId × Nat)) (h : Hub) :
    (h.closeEach members).sessions.length = h.sessions.length := by
  induction members generalizing h with
  | nil => rfl
  | cons m members ih =>
    show ((h.close m.2).closeEach members).sessions.length = _
    rw [ih]
    exact List.length_modify _ _ _

/-- how many sessions an action creates -/
def Action.created : Action → Nat
  | .create .. => 1
  | _ => 0

theorem length_act (h : Hub) (a : Action) :
    (h.act a).sessions.length = h.sessions.length + a.created := by
  cases a with
  | create id token capacity => exact List.length_append
  | join handle =>
    show (h.join handle).2.sessions.length = _
    unfold join
    split <;> rfl
  | leave id =>
    show (h.leave id).2.sessions.length = _
    unfold leave
    split
    · exact List.length_modify _ _ _
    · rfl
  | drain => exact length_closeEach _ _
  | publish event adminOnly =>
    show (h.publish event adminOnly).2.sessions.length = _
    unfold publish
    split
    · rfl
    · exact length_enqueueEach _ _ _
  | enqueue handle d => exact List.length_modify _ _ _
  | close handle => exact List.length_modify _ _ _
  | receive handle limit =>
    show (h.receive handle limit).2.sessions.length = _
    unfold receive
    split
    · rfl
    · exact List.length_modify _ _ _
  | take handle n => exact List.length_modify _ _ _
  | dropClient handle => exact List.length_modify _ _ _
  | write handle => exact List.length_modify _ _ _
  | tick ms => rfl
  | settle => exact List.length_map _
  | advance ms => exact List.length_map _

/-! ## who takes a frame -/

theorem entriesOf_acceptsEach_of_not_mem {handle : Nat} (d : QueuedFrame) {handles : List Nat}
    (hn : handle ∉ handles) (h : Hub) : entriesOf handle (h.acceptsEach d handles) = [] := by
  induction handles generalizing h with
  | nil => rfl
  | cons other handles ih =>
    rw [List.mem_cons, not_or] at hn
    rw [acceptsEach, entriesOf_append, ih hn.2, List.append_nil]
    split
    · exact entriesOf_of_ne (Ne.symm hn.1) [d.frame]
    · rfl

/-- each session that a frame is queued for takes it once, unless it takes none -/
theorem entriesOf_acceptsEach {handle : Nat} {s : Session} (d : QueuedFrame) {handles : List Nat}
    (hn : handles.Nodup) (hmem : handle ∈ handles) {h : Hub} (hs : h.session? handle = some s) :
    entriesOf handle (h.acceptsEach d handles) = if s.accepts then [d.frame] else [] := by
  induction handles generalizing h with
  | nil => cases hmem
  | cons other handles ih =>
    obtain ⟨hnot, hn⟩ := List.nodup_cons.mp hn
    rw [acceptsEach, entriesOf_append]
    by_cases heq : other = handle
    · subst heq
      have hfst : (h.enqueue other d).1 = s.accepts := by
        rw [enqueue, hs]
        rfl
      rw [entriesOf_acceptsEach_of_not_mem d hnot, List.append_nil, hfst]
      cases s.accepts with
      | true => exact entriesOf_self other [d.frame]
      | false => rfl
    · have hnext : (h.enqueue other d).2.session? handle = some s := by
        rw [enqueue, session?_modify, if_neg heq, hs]
      rw [ih hn (List.mem_of_ne_of_mem (Ne.symm heq) hmem) hnext]
      have hfirst : entriesOf handle (if (h.enqueue other d).1 then [(other, d.frame)] else []) = [] := by
        split
        · exact entriesOf_of_ne heq [d.frame]
        · rfl
      rw [hfirst, List.nil_append]

theorem entriesOf_eq_nil_of_acceptsEach {handle : Nat} (d : QueuedFrame) (handles : List Nat) {h : Hub}
    (hlen : h.sessions.length ≤ handle) : entriesOf handle (h.acceptsEach d handles) = [] := by
  induction handles generalizing h with
  | nil => rfl
  | cons other handles ih =>
    have hnext : (h.enqueue other d).2.sessions.length ≤ handle := by
      rw [show (h.enqueue other d).2.sessions.length = h.sessions.length from List.length_modify _ _ _]
      exact hlen
    rw [acceptsEach, entriesOf_append, ih hnext, List.append_nil]
    by_cases heq : other = handle
    · subst heq
      have hnone : h.session? other = none := List.getElem?_eq_none_iff.mpr hlen
      rw [enqueue, hnone]
      rfl
    · split
      · exact entriesOf_of_ne heq [d.frame]
      · rfl

/-- nothing is written down for a session before it is created -/
theorem entriesOf_accepts_of_le {h : Hub} {handle : Nat} (hlen : h.sessions.length ≤ handle) (a : Action) :
    entriesOf handle (h.accepts a) = [] := by
  cases a with
  | enqueue target d => exact entriesOf_eq_nil_of_acceptsEach d [target] hlen
  | publish event adminOnly =>
    cases hf : frameOf event with
    | error e =>
      simp only [accepts, hf]
      rfl
    | ok frame =>
      simp only [accepts, hf]
      exact entriesOf_eq_nil_of_acceptsEach _ _ hlen
  | _ => rfl

theorem entriesOf_delivers_of_le {h : Hub} {handle : Nat} (hlen : h.sessions.length ≤ handle) (a : Action) :
    entriesOf handle (h.delivers a) = [] := by
  have hnone : h.session? handle = none := List.getElem?_eq_none_iff.mpr hlen
  have hread (target : Nat) (f : Session → Bytes) :
      entriesOf handle ((h.session? target).toList.map fun s => (target, f s)) = [] := by
    by_cases heq : target = handle
    · subst heq
      rw [hnone]
      rfl
    · have := entriesOf_of_ne heq ((h.session? target).toList.map f)
      rwa [List.map_map] at this
  cases a with
  | receive target limit => exact hread target fun _ => (h.receive target limit).1
  | take target n => exact hread target fun s => (s.events.take n).1
  | _ => rfl

end Hub

namespace Ledger

/-! ## runs -/

structure Sound (l : Ledger) : Prop where
  blank : ∀ handle, l.hub.sessions.length ≤ handle →
    entriesOf handle l.accepted = [] ∧ entriesOf handle l.delivered = []
  accounts : ∀ handle a, l.account? handle = some a → a.Sound
  members : l.hub.MembersSound

theorem sound_ofTimeout (deliveryTimeout : Nat) : (ofTimeout deliveryTimeout).Sound where
  blank := fun _ _ => ⟨rfl, rfl⟩
  accounts := fun _ _ h => nomatch h
  members := ⟨nofun, List.Pairwise.nil⟩

/-- an account that was not there is that of a new session -/
theorem account_of_new {l : Ledger} (h : l.Sound) {action : Hub.Action} {handle : Nat} {a : Account}
    (hnone : l.account? handle = none) (ha : (l.act action).account? handle = some a) : a.Sound := by
  have hlen := account?_eq_none_iff.mp hnone
  have hlt : handle < (l.hub.act action).sessions.length := by
    apply Nat.lt_of_not_le
    intro hle
    rw [account?_eq_none_iff.mpr hle] at ha
    cases ha
  rw [Hub.length_act] at hlt
  cases action with
  | create id token capacity =>
    have heq : handle = l.hub.sessions.length := Nat.le_antisymm (Nat.le_of_lt_succ hlt) hlen
    subst heq
    rw [act_of_silent rfl rfl, account?, (h.blank _ hlen).1, (h.blank _ hlen).2] at ha
    have hnew : (l.hub.act (.create id token capacity)).session? l.hub.sessions.length
        = some { id, token, events := .ofCapacity capacity } := List.getElem?_concat_length
    rw [hnew] at ha
    cases ha
    exact Account.sound_create id token capacity
  | _ => exact absurd hlt (Nat.not_lt.mpr hlen)

theorem sound_act {l : Ledger} (h : l.Sound) (a : Hub.Action) : (l.act a).Sound where
  blank handle hlen := by
    have hlen : l.hub.sessions.length ≤ handle := by
      rw [show (l.act a).hub = l.hub.act a from rfl, Hub.length_act] at hlen
      omega
    obtain ⟨ha, hd⟩ := h.blank handle hlen
    rw [act, entriesOf_append, entriesOf_append, ha, hd, Hub.entriesOf_accepts_of_le hlen,
      Hub.entriesOf_delivers_of_le hlen]
    exact ⟨rfl, rfl⟩
  accounts handle b hb := by
    cases ha : l.account? handle with
    | none => exact account_of_new h ha hb
    | some a' =>
      obtain ⟨b', hb', hleads⟩ := l.leads_act a handle a' ha
      rw [hb] at hb'
      cases hb'
      exact hleads.sound (h.accounts handle a' ha)
  members := Hub.membersSound_act h.members a

theorem sound_run {l : Ledger} (h : l.Sound) (as : List Hub.Action) : (l.run as).Sound := by
  induction as generalizing l with
  | nil => exact h
  | cons a as ih => exact ih (sound_act h a)

theorem leads_run (l : Ledger) (as : List Hub.Action) : l.Leads (l.run as) := by
  induction as generalizing l with
  | nil => exact .refl l
  | cons a as ih => exact (l.leads_act a).trans (ih (l.act a))

/-- an event that is for a session is the next frame of its stream, unless the session is closed or its queue is
full of frames that it took before -/
theorem accepted_publish {l : Ledger} (h : l.Sound) {handle : Nat} {a : Account}
    (ha : l.account? handle = some a) {event : Event} {adminOnly : Bool} {frame : Bytes}
    (hf : frameOf event = .ok frame) (hhears : (l.hub.standing handle).hears adminOnly = true) :
    ∃ b, (l.act (.publish event adminOnly)).account? handle = some b ∧
      (b.accepted = a.accepted ++ [frame] ∨
        b.accepted = a.accepted ∧ (a.session.closed = true ∨
          a.session.queue.length = queueDepth ∧ a.session.waiting <:+ a.accepted)) := by
  obtain ⟨b, hb, -⟩ := l.leads_act (.publish event adminOnly) handle a ha
  refine ⟨b, hb, ?_⟩
  have hsound := h.accounts handle a ha
  obtain ⟨s, hs, rfl⟩ := Option.map_eq_some_iff.mp ha
  obtain ⟨t, -, rfl⟩ := Option.map_eq_some_iff.mp hb
  have hnew := Hub.entriesOf_acceptsEach ⟨frame, l.hub.deliveryTimeout⟩
    (Hub.nodup_audience h.members adminOnly) ((l.hub.mem_audience_iff_hears adminOnly handle).mpr hhears) hs
  rw [act_publish, hf]
  simp only [entriesOf_append, hnew]
  cases hacc : s.accepts with
  | true => exact .inl rfl
  | false =>
    refine .inr ⟨List.append_nil _, ?_⟩
    rw [Session.accepts, Bool.and_eq_false_iff, Bool.not_eq_false', decide_eq_false_iff_not] at hacc
    obtain hc | hq := hacc
    · exact .inl hc
    · exact .inr ⟨Nat.le_antisymm hsound.depth (Nat.le_of_not_lt hq), hsound.waiting⟩

/-- writers that do what they can come to rest -/
theorem step_of_settle {l : Ledger} {handle : Nat} {a : Account}
    (ha : (l.act .settle).account? handle = some a) : a.session.step l.hub.clock = none := by
  obtain ⟨s, hs, rfl⟩ := Option.map_eq_some_iff.mp ha
  have hs : (l.hub.session? handle).map (Session.settle l.hub.clock) = some s := by
    rw [Hub.session?, ← List.getElem?_map]
    exact hs
  obtain ⟨t, -, rfl⟩ := Option.map_eq_some_iff.mp hs
  exact t.step_settle l.hub.clock

/-- the client of a closed session finds the end of its stream behind all that was written -/
theorem atEnd_of_closed (deliveryTimeout : Nat) (before : List Hub.Action) {handle : Nat} {a : Account}
    (ha : ((ofTimeout deliveryTimeout).run before).account? handle = some a) (hc : a.session.closed = true)
    (hs : a.session.step ((ofTimeout deliveryTimeout).run before).hub.clock = none)
    (he : a.session.events.content = []) : a.session.events.atEnd = true ∧ a.received = a.written := by
  have hacc := (sound_run (sound_ofTimeout deliveryTimeout) before).accounts handle a ha
  refine ⟨(Pipe.atEnd_iff _).mpr ⟨he, Account.ended_of_quiet hacc hc hs⟩, ?_⟩
  rw [Account.written, he, List.append_nil]

/-- **The stream of a session is what it took, in order.**  Behind its end nothing more is written, so that no frame
follows one that was cut; no event is missing for another reason than those given; the writers come to rest, and
then who has read all that there is has got it all.  A writer whose pipe can hold nothing rests when its time is
over. -/
theorem events_in_order (deliveryTimeout : Nat) (before : List Hub.Action) {handle : Nat} {a : Account}
    (ha : ((ofTimeout deliveryTimeout).run before).account? handle = some a) :
    a.written <+: a.accepted.flatten ∧
    (∀ after, ∃ b, ((ofTimeout deliveryTimeout).run (before ++ after)).account? handle = some b ∧
      a.accepted <+: b.accepted ∧ a.written <+: b.written ∧ (a.Ended → b.Ended ∧ b.written = a.written)) ∧
    (∀ event adminOnly frame, frameOf event = .ok frame →
      (((ofTimeout deliveryTimeout).run before).hub.standing handle).hears adminOnly = true →
      ∃ b, ((ofTimeout deliveryTimeout).run (before ++ [.publish event adminOnly])).account? handle = some b ∧
        (b.accepted = a.accepted ++ [frame] ∨
          b.accepted = a.accepted ∧ (a.session.closed = true ∨
            a.session.queue.length = queueDepth ∧ a.session.waiting <:+ a.accepted))) ∧
    (∀ b, ((ofTimeout deliveryTimeout).run (before ++ [.settle])).account? handle = some b →
      b.session.step ((ofTimeout deliveryTimeout).run before).hub.clock = none) ∧
    (a.session.closed = false →
      a.session.step ((ofTimeout deliveryTimeout).run before).hub.clock = none →
      a.session.events.content = [] → (a.session.events.capacity = 0 → a.session.timer = none) →
      a.received = a.accepted.flatten) := by
  have hsound := sound_run (sound_ofTimeout deliveryTimeout) before
  have hacc := hsound.accounts handle a ha
  refine ⟨hacc.order, fun after => ?_, fun event adminOnly frame hf hhears => ?_, fun b hb => ?_,
    fun hc hs he ht => ?_⟩
  · rw [run_append]
    obtain ⟨b, hb, hleads⟩ := leads_run _ after handle a ha
    exact ⟨b, hb, hleads.accepted, hleads.written, hleads.ended⟩
  · rw [run_append]
    exact accepted_publish hsound ha hf hhears
  · rw [run_append] at hb
    exact step_of_settle hb
  · exact Account.received_of_quiet hacc hc hs he ht

/-- a client that has read three of the four bytes that its pipe can hold, of a frame of eight, and reads on -/
theorem events_in_order_slow :
    ∃ a b, ((ofTimeout 1000).run [.create ⟨5⟩ none 4, .join 0, .publish .managerStopping false, .settle,
        .take 0 3, .write 0]).account? 0 = some a ∧
      a.accepted = [[4, 0, 0, 0, 2, 0, 0, 0]] ∧ a.received = [4, 0, 0] ∧ a.written = [4, 0, 0, 0, 2, 0, 0] ∧
      a.written <+: a.accepted.flatten ∧
      ((ofTimeout 1000).run [.create ⟨5⟩ none 4, .join 0, .publish .managerStopping false, .settle,
        .take 0 3, .write 0, .take 0 4, .settle, .take 0 4, .settle]).account? 0 = some b ∧
      b.received = b.accepted.flatten := by
  have hslow : ∃ a, ((ofTimeout 1000).run [.create ⟨5⟩ none 4, .join 0, .publish .managerStopping false,
        .settle, .take 0 3, .write 0]).account? 0 = some a ∧
      a.accepted = [[4, 0, 0, 0, 2, 0, 0, 0]] ∧ a.received = [4, 0, 0] ∧
      a.written = [4, 0, 0, 0, 2, 0, 0] := ⟨_, rfl, rfl, rfl, rfl⟩
  have hdone : ∃ b, ((ofTimeout 1000).run [.create ⟨5⟩ none 4, .join 0, .publish .managerStopping false,
        .settle, .take 0 3, .write 0, .take 0 4, .settle, .take 0 4, .settle]).account? 0 = some b ∧
      b.session.closed = false ∧ b.session.step 0 = none ∧ b.session.events.content = [] ∧
      b.session.timer = none := ⟨_, rfl, rfl, rfl, rfl, rfl⟩
  obtain ⟨a, ha, haccepted, hreceived, hwritten⟩ := hslow
  obtain ⟨b, hb, hopen, hstep, hempty, htimer⟩ := hdone
  refine ⟨a, b, ha, haccepted, hreceived, hwritten, (events_in_order 1000 _ ha).1, hb, ?_⟩
  exact (events_in_order 1000 _ hb).2.2.2.2 hopen hstep hempty fun _ => htimer

end Ledger

end TunnelControl
