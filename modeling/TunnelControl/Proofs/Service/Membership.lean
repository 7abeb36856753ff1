import TunnelControl.Proofs.Service.Run

/-!
# Members and the sessions being served

A session is a member exactly as long as it is being served (`Service.InStep`), as long as no session is taken up
under an id that is being served just then.  Members are told by their ids, and so a session that is taken up under
such an id takes the place of the other, and the one whose requests end first takes the membership of both along.

* `Service.registered`, `served`   the sessions that are members, and those that are being served;
* `Service.InStep s`               they are the same, and the end of one leaves the others alone;
* `balanced_act`                   each action keeps to that, unless it takes up a session under such an id;
* `inStep_iff_no_live_id`          the runs in which this holds up to a quit.
-/

namespace TunnelControl.Service

/-- the handles of the members -/
def registered (s : Service) : List Nat := s.hub.members.map Prod.snd

/-- the sessions that some loops serve -/
def servedBy (links : List Link) : List Nat := (links.filter fun l => l.serving ≠ .ended).map Link.session

/-- the handles of the sessions that are being served, one for each loop -/
def served (s : Service) : List Nat := servedBy s.links

/-- the members are the sessions being served -/
structure InStep (s : Service) : Prop where
  members : ∀ handle, handle ∈ s.registered ↔ handle ∈ s.served
  size : s.hub.size = s.served.length
  /-- what is published for all is for these -/
  audience : ∀ handle, handle ∈ s.hub.audience false ↔ handle ∈ s.served
  /-- what one loop does, short of a quit, neither closes another session that is being served nor ends its
  membership -/
  apart : ∀ n l handle, s.links[n]? = some l → handle ≠ l.session → handle ∈ s.served →
    (s.act (.loop n)).hasQuit = false →
      handle ∈ (s.act (.loop n)).registered ∧ (s.act (.loop n)).hub.isClosed handle = s.hub.isClosed handle

/-- a session is being served under the id of this one -/
def IsLive (s : Service) (handle : Nat) : Prop :=
  ∃ other ∈ s.served, ∃ id, s.hub.id? other = some id ∧ s.hub.id? handle = some id

/-! ## loops -/

theorem eq_append_of_getElem? {α : Type} {xs : List α} {n : Nat} {x : α} (h : xs[n]? = some x) :
    xs = xs.take n ++ x :: xs.drop (n + 1) := by
  obtain ⟨hn, rfl⟩ := List.getElem?_eq_some_iff.mp h
  rw [List.getElem_cons_drop, List.take_append_drop]

theorem set_eq_append_of_getElem? {α : Type} {xs : List α} {n : Nat} {x : α} (h : xs[n]? = some x) (y : α) :
    xs.set n y = xs.take n ++ y :: xs.drop (n + 1) :=
  List.set_eq_take_append_cons_drop.trans (if_pos (List.getElem?_eq_some_iff.mp h).1)

theorem servedBy_append (ls ls' : List Link) : servedBy (ls ++ ls') = servedBy ls ++ servedBy ls' := by
  rw [servedBy, List.filter_append, List.map_append]
  rfl

theorem servedBy_cons_of_serving {l : Link} (h : l.serving ≠ .ended) (ls : List Link) :
    servedBy (l :: ls) = l.session :: servedBy ls := by
  rw [servedBy, List.filter_cons_of_pos (by simpa using h)]
  rfl

theorem servedBy_cons_of_ended {l : Link} (h : l.serving = .ended) (ls : List Link) :
    servedBy (l :: ls) = servedBy ls := by
  rw [servedBy, List.filter_cons_of_neg (by simpa using h)]
  rfl

/-- a loop that goes on serves as before -/
theorem servedBy_set {links : List Link} {n : Nat} {l l' : Link} (hl : links[n]? = some l)
    (h : l.serving ≠ .ended) (h' : l'.serving ≠ .ended) (hs : l'.session = l.session) :
    servedBy (links.set n l') = servedBy links := by
  rw [set_eq_append_of_getElem? hl, servedBy_append, servedBy_cons_of_serving h', hs,
    ← servedBy_cons_of_serving h, ← servedBy_append, ← eq_append_of_getElem? hl]

/-- a loop that ends serves its session no more -/
theorem perm_servedBy_set {links : List Link} {n : Nat} {l l' : Link} (hl : links[n]? = some l)
    (h : l.serving ≠ .ended) (h' : l'.serving = .ended) :
    (servedBy links).Perm (l.session :: servedBy (links.set n l')) := by
  rw [set_eq_append_of_getElem? hl, servedBy_append, servedBy_cons_of_ended h']
  have hlinks := congrArg servedBy (eq_append_of_getElem? hl)
  rw [servedBy_append, servedBy_cons_of_serving h] at hlinks
  rw [hlinks]
  exact List.perm_middle

/-- pipes change, and loops serve on -/
theorem servedBy_modify (links : List Link) (n : Nat) {f : Link → Link}
    (h : ∀ l, (f l).serving = l.serving ∧ (f l).session = l.session) :
    servedBy (links.modify n f) = servedBy links := by
  induction links generalizing n with
  | nil => cases n <;> rfl
  | cons l ls ih =>
    have hcons (m m' : Link) (ms ms' : List Link) (hm : m'.serving = m.serving ∧ m'.session = m.session)
        (hms : servedBy ms' = servedBy ms) : servedBy (m' :: ms') = servedBy (m :: ms) := by
      by_cases hs : m.serving = .ended
      · rw [servedBy_cons_of_ended hs, servedBy_cons_of_ended (hm.1.trans hs), hms]
      · rw [servedBy_cons_of_serving hs, servedBy_cons_of_serving (by rw [hm.1]; exact hs), hm.2, hms]
    cases n with
    | zero => exact hcons l (f l) ls ls (h l) rfl
    | succ n => exact hcons l l ls (ls.modify n f) ⟨rfl, rfl⟩ (ih n)

/-! ## members -/

/-- of members with different ids, one goes with its id -/
theorem perm_filter_members {members : List (SessionId × Nat)} (hn : (members.map Prod.fst).Nodup)
    {m : SessionId × Nat} (hm : m ∈ members) : members.Perm (m :: members.filter (·.1 != m.1)) := by
  induction members with
  | nil => cases hm
  | cons x xs ih =>
    obtain ⟨hx, hxs⟩ := List.nodup_cons.mp hn
    obtain rfl | hmem := List.mem_cons.mp hm
    · have hkeep : xs.filter (·.1 != m.1) = xs := by
        refine List.filter_eq_self.mpr fun y hy => ?_
        rw [bne_iff_ne]
        exact fun heq => hx (heq ▸ List.mem_map_of_mem hy)
      rw [List.filter_cons_of_neg (by simp), hkeep]
    · have hne : (x.1 != m.1) = true := by
        rw [bne_iff_ne]
        exact fun heq => hx (heq ▸ List.mem_map_of_mem hmem)
      rw [List.filter_cons_of_pos (p := fun y : SessionId × Nat => y.1 != m.1) hne]
      exact ((ih hxs hmem).cons x).trans (.swap m x _)

theorem membersSound_of_steady {h k : Hub} (hk : h.Steady k) (hm : h.MembersSound) : k.MembersSound := by
  refine ⟨fun m hmem => ?_, ?_⟩
  · rw [hk.members] at hmem
    rw [hk.id? m.2]
    exact hm.known m hmem
  · rw [hk.members]
    exact hm.once

theorem isClosed_modify_of_ne {h : Hub} {target handle : Nat} (hne : target ≠ handle) (f : Session → Session) :
    (h.modify target f).isClosed handle = h.isClosed handle := by
  rw [Hub.isClosed, Hub.session?_modify, if_neg hne]
  rfl

/-- the end of the service of a session changes the members as it changes the sessions being served, as long as the
session is a member -/
theorem leaves_of_registered {h k : Hub} {handle : Nat} (hm : h.MembersSound)
    (hreg : handle ∈ h.members.map Prod.snd) (hk : Leaves h handle k) :
    (h.members.map Prod.snd).Perm (handle :: k.members.map Prod.snd) ∧
      ∀ other, handle ≠ other → k.isClosed other = h.isClosed other := by
  obtain ⟨m, hmem, rfl⟩ := List.mem_map.mp hreg
  obtain ⟨s, hs, hid⟩ := Option.map_eq_some_iff.mp (hm.known m hmem)
  have hlookup : h.member? s.id = some m.2 := by
    rw [hid]
    exact Hub.lookup_of_mem hm.once hmem
  unfold Leaves at hk
  rw [hs] at hk
  simp only [Hub.leave, hlookup] at hk
  subst hk
  refine ⟨?_, fun other hne => isClosed_modify_of_ne hne _⟩
  have hperm := (perm_filter_members hm.once hmem).map Prod.snd
  rw [← hid] at hperm
  exact hperm

theorem leaves_sound {h k : Hub} {handle : Nat} (hm : h.MembersSound) (hk : Leaves h handle k) :
    k.MembersSound ∧ k.drained = h.drained := by
  unfold Leaves at hk
  subst hk
  split
  · rename_i s _
    refine ⟨Hub.membersSound_act hm (.leave s.id), ?_⟩
    unfold Hub.leave
    split <;> rfl
  · exact ⟨hm, rfl⟩

/-! ## what every run keeps until a quit -/

/-- members are told by their ids, and the hub takes more of them -/
structure Sound (s : Service) : Prop where
  members : s.hub.MembersSound
  drained : s.hub.drained = false

theorem Sound.of_steady {s t : Service} (h : s.Sound) (hk : s.hub.Steady t.hub) : t.Sound :=
  ⟨membersSound_of_steady hk h.members, hk.drained.trans h.drained⟩

/-- to pass on an event changes nothing of this -/
theorem steady_act_relay (s : Service) (n : Nat) :
    s.hub.Steady (s.act (.relay n)).hub ∧ (s.act (.relay n)).hasQuit = s.hasQuit ∧
      (s.act (.relay n)).links = s.links := by
  show s.hub.Steady ((s.relayStep n).getD s).hub ∧ ((s.relayStep n).getD s).hasQuit = _ ∧
    ((s.relayStep n).getD s).links = _
  unfold relayStep
  split
  · exact ⟨.refl _, rfl, rfl⟩
  · exact ⟨.refl _, rfl, rfl⟩
  · exact ⟨Hub.steady_publish _ _ _, rfl, rfl⟩

/-- short of a quit, a loop waits, goes on or ends -/
theorem act_loop_cases {s : Service} {n : Nat} (hq : (s.act (.loop n)).hasQuit = false) :
    s.act (.loop n) = s ∨ ∃ l l', s.links[n]? = some l ∧ l.serving ≠ .ended ∧
      ((l'.session = l.session ∧ l'.serving ≠ .ended ∧ (s.act (.loop n)).links = s.links.set n l' ∧
          s.hub.Steady (s.act (.loop n)).hub) ∨
        ∃ k, (s.act (.loop n)).links = s.links.set n l'.hangUp ∧ s.hub.Steady k ∧
          Leaves k l.session (s.act (.loop n)).hub) := by
  cases hs : s.serveStep n with
  | none =>
    left
    show (s.serveStep n).getD s = s
    rw [hs]
    rfl
  | some t =>
    have hact : s.act (.loop n) = t := by
      show (s.serveStep n).getD s = t
      rw [hs]
      rfl
    rw [hact] at hq ⊢
    obtain ⟨l, hl, hserving, hstep⟩ := serveStep_cases hs
    right
    cases hstep with
    | quits hquit =>
      rw [hq] at hquit
      cases hquit
    | goesOn l' _ hsession hserving' hlinks hk =>
      exact ⟨l, l', hl, hserving, .inl ⟨hsession, hserving', hlinks, hk⟩⟩
    | ends l' k _ _ hlinks hk hleave => exact ⟨l, l', hl, hserving, .inr ⟨k, hlinks, hk, hleave⟩⟩

/-- the requests connection of a session that is taken up -/
def newLink (session capacity : Nat) : Link :=
  { session, requests := .ofCapacity capacity, responses := .ofCapacity capacity }

/-- a session that is there is taken up by a hub that was not drained -/
theorem serve_of_session {s : Service} {handle : Nat} {x : Session} (hd : s.hub.drained = false)
    (hx : s.hub.session? handle = some x) (capacity : Nat) :
    (s.act (.serve handle capacity)).hub = s.hub.act (.join handle) ∧
      (s.act (.serve handle capacity)).hasQuit = s.hasQuit ∧
      (s.act (.serve handle capacity)).registered
        = (s.hub.members.filter (·.1 != x.id)).map Prod.snd ++ [handle] ∧
      (s.act (.serve handle capacity)).served = s.served ++ [handle] := by
  have hj : s.hub.join handle
      = (true, { s.hub with members := s.hub.members.filter (·.1 != x.id) ++ [(x.id, handle)] }) := by
    unfold Hub.join
    rw [hd, hx]
    simp only [hd]
  have hact : s.act (.serve handle capacity)
      = { s with hub := (s.hub.join handle).2, links := s.links ++ [newLink handle capacity] } := by
    show (s.serve handle capacity).2.2 = _
    unfold serve
    rw [hj]
    rfl
  rw [hact]
  refine ⟨rfl, rfl, ?_, ?_⟩
  · unfold registered
    rw [hj, List.map_append]
    rfl
  · exact servedBy_append _ _

/-- a session that is not there is refused -/
theorem serve_of_none {s : Service} {handle : Nat} (hx : s.hub.session? handle = none) (capacity : Nat) :
    (s.act (.serve handle capacity)).hub = s.hub ∧ (s.act (.serve handle capacity)).hasQuit = s.hasQuit ∧
      (s.act (.serve handle capacity)).served = s.served := by
  have hj : s.hub.join handle = (false, s.hub) := by
    unfold Hub.join
    rw [hx]
    cases s.hub.drained <;> rfl
  have hact : s.act (.serve handle capacity)
      = { s with links := s.links ++ [(newLink handle capacity).hangUp] } := by
    show (s.serve handle capacity).2.2 = _
    unfold serve
    rw [hj]
    rfl
  rw [hact]
  refine ⟨rfl, rfl, ?_⟩
  show servedBy (_ ++ [_]) = _
  rw [servedBy_append, servedBy_cons_of_ended rfl]
  exact List.append_nil _

theorem hasQuit_act {s : Service} (h : s.hasQuit = true) (a : Action) : (s.act a).hasQuit = true := by
  cases a with
  | serve handle capacity =>
    show (s.serve handle capacity).2.2.hasQuit = true
    unfold serve
    split <;> exact h
  | loop n =>
    show ((s.serveStep n).getD s).hasQuit = true
    cases hs : s.serveStep n with
    | none => exact h
    | some t =>
      obtain ⟨l, -, -, hstep⟩ := serveStep_cases hs
      cases hstep with
      | quits hq => exact hq
      | goesOn l' hq => exact hq.trans h
      | ends l' k hq => exact hq.trans h
  | relay n => exact (s.steady_act_relay n).2.1.trans h
  | _ => exact h

theorem hasQuit_run {s : Service} (h : s.hasQuit = true) (as : List Action) : (s.run as).hasQuit = true := by
  induction as generalizing s with
  | nil => exact h
  | cons a as ih => exact ih (hasQuit_act h a)

/-- before a state in which nobody has quit there was none in which one had -/
theorem hasQuit_of_run {s : Service} {as : List Action} (h : (s.run as).hasQuit = false) : s.hasQuit = false := by
  cases hq : s.hasQuit with
  | false => rfl
  | true =>
    rw [hasQuit_run hq] at h
    cases h

theorem sound_act {s : Service} (h : s.Sound) (a : Action) (hq : (s.act a).hasQuit = false) : (s.act a).Sound := by
  cases a with
  | hub a =>
    exact ⟨Hub.membersSound_act h.members a.1, (Hub.members_act_of_keeps a.2).2.trans h.drained⟩
  | serve handle capacity =>
    cases hx : s.hub.session? handle with
    | none =>
      obtain ⟨hhub, -, -⟩ := serve_of_none hx capacity
      exact ⟨hhub ▸ h.members, hhub ▸ h.drained⟩
    | some x =>
      obtain ⟨hhub, -, -, -⟩ := serve_of_session h.drained hx capacity
      refine ⟨hhub ▸ Hub.membersSound_act h.members _, ?_⟩
      rw [hhub]
      show (s.hub.join handle).2.drained = false
      unfold Hub.join
      split <;> exact h.drained
  | loop n =>
    obtain hwaits | ⟨l, l', -, -, ⟨-, -, -, hk⟩ | ⟨k, -, hk, hleave⟩⟩ := act_loop_cases hq
    · rw [hwaits]
      exact h
    · exact h.of_steady hk
    · obtain ⟨hm, hd⟩ := leaves_sound (membersSound_of_steady hk h.members) hleave
      exact ⟨hm, hd.trans (hk.drained.trans h.drained)⟩
  | relay n => exact h.of_steady (s.steady_act_relay n).1
  | _ => exact ⟨h.members, h.drained⟩

theorem sound_run {s : Service} (h : s.Sound) {as : List Action} (hq : (s.run as).hasQuit = false) :
    (s.run as).Sound := by
  induction as generalizing s with
  | nil => exact h
  | cons a as ih => exact ih (sound_act h a (hasQuit_of_run hq)) hq

/-! ## as long as no id is taken up twice -/

/-- the members are the sessions being served, each as often -/
def Balanced (s : Service) : Prop := s.registered.Perm s.served

theorem balanced_of_eq {s t : Service} (h : s.Balanced) (hm : t.hub.members = s.hub.members)
    (hs : t.served = s.served) : t.Balanced := by
  unfold Balanced registered
  rw [hm, hs]
  exact h

theorem balanced_serve {s : Service} {handle : Nat} (h : s.Sound) (hb : s.Balanced)
    (hlive : ¬s.IsLive handle) (capacity : Nat) : (s.act (.serve handle capacity)).Balanced := by
  cases hx : s.hub.session? handle with
  | none =>
    obtain ⟨hhub, -, hserved⟩ := serve_of_none hx capacity
    exact balanced_of_eq hb (by rw [hhub]) hserved
  | some x =>
    obtain ⟨-, -, hreg, hserved⟩ := serve_of_session h.drained hx capacity
    -- no member has the id, since none of those being served has it
    have hkeep : s.hub.members.filter (·.1 != x.id) = s.hub.members := by
      refine List.filter_eq_self.mpr fun m hmem => ?_
      rw [bne_iff_ne]
      intro heq
      refine hlive ⟨m.2, hb.mem_iff.mp (List.mem_map_of_mem hmem), m.1, h.members.known m hmem, ?_⟩
      rw [Hub.id?, hx, heq]
      rfl
    unfold Balanced
    rw [hreg, hserved, hkeep]
    exact hb.append_right [handle]

/-- a loop that ends takes its own membership along -/
theorem balanced_ends {s t : Service} {n : Nat} {l l' : Link} {k : Hub} (h : s.Sound) (hb : s.Balanced)
    (hl : s.links[n]? = some l) (hserving : l.serving ≠ .ended) (hlinks : t.links = s.links.set n l'.hangUp)
    (hk : s.hub.Steady k) (hleave : Leaves k l.session t.hub) :
    t.Balanced ∧ s.registered.Perm (l.session :: t.registered) ∧
      ∀ other, l.session ≠ other → t.hub.isClosed other = s.hub.isClosed other := by
  have hperm : (servedBy s.links).Perm (l.session :: servedBy (s.links.set n l'.hangUp)) :=
    perm_servedBy_set hl hserving rfl
  rw [← hlinks] at hperm
  have hreg : l.session ∈ k.members.map Prod.snd := by
    rw [hk.members]
    exact hb.mem_iff.mpr (hperm.mem_iff.mpr List.mem_cons_self)
  obtain ⟨hmembers, hclosed⟩ := leaves_of_registered (membersSound_of_steady hk h.members) hreg hleave
  rw [hk.members] at hmembers
  refine ⟨?_, hmembers, fun other hne => (hclosed other hne).trans (hk.isClosed other)⟩
  exact (hmembers.symm.trans (hb.trans hperm)).cons_inv

theorem balanced_act {s : Service} (h : s.Sound) (hb : s.Balanced) (a : Action)
    (hq : (s.act a).hasQuit = false)
    (hlive : ∀ handle capacity, a = .serve handle capacity → ¬s.IsLive handle) : (s.act a).Balanced := by
  cases a with
  | hub a => exact balanced_of_eq hb (Hub.members_act_of_keeps a.2).1 rfl
  | serve handle capacity => exact balanced_serve h hb (hlive handle capacity rfl) capacity
  | loop n =>
    obtain hwaits | ⟨l, l', hl, hserving, ⟨hsession, hserving', hlinks, hk⟩ | ⟨k, hlinks, hk, hleave⟩⟩ :=
      act_loop_cases hq
    · rw [hwaits]
      exact hb
    · refine balanced_of_eq hb hk.members ?_
      show servedBy (s.act (.loop n)).links = servedBy s.links
      rw [hlinks]
      exact servedBy_set hl hserving hserving' hsession
    · exact (balanced_ends h hb hl hserving hlinks hk hleave).1
  | relay n =>
    obtain ⟨hk, -, hlinks⟩ := s.steady_act_relay n
    exact balanced_of_eq hb hk.members (congrArg servedBy hlinks)
  | send n data => exact balanced_of_eq hb rfl (servedBy_modify _ _ fun _ => ⟨rfl, rfl⟩)
  | endRequests n => exact balanced_of_eq hb rfl (servedBy_modify _ _ fun _ => ⟨rfl, rfl⟩)
  | dropRequests n => exact balanced_of_eq hb rfl (servedBy_modify _ _ fun _ => ⟨rfl, rfl⟩)
  | readAnswers n limit => exact balanced_of_eq hb rfl (servedBy_modify _ _ fun _ => ⟨rfl, rfl⟩)

theorem balanced_run {s : Service} (h : s.Sound) (hb : s.Balanced) {as : List Action}
    (hq : (s.run as).hasQuit = false)
    (hlive : ∀ bs handle capacity, bs ++ [.serve handle capacity] <+: as → ¬(s.run bs).IsLive handle) :
    (s.run as).Balanced := by
  induction as generalizing s with
  | nil => exact hb
  | cons a as ih =>
    have hqa : (s.act a).hasQuit = false := hasQuit_of_run hq
    refine ih (sound_act h a hqa) (balanced_act h hb a hqa ?_) hq fun bs handle capacity hbs => ?_
    · rintro handle capacity rfl
      exact hlive [] handle capacity (List.prefix_append [_] as)
    · exact hlive (a :: bs) handle capacity (List.cons_prefix_cons.mpr ⟨rfl, hbs⟩)

/-- what is published for all is for each member -/
theorem mem_audience_iff {h : Hub} (hm : h.MembersSound) (handle : Nat) :
    handle ∈ h.audience false ↔ handle ∈ h.members.map Prod.snd := by
  rw [Hub.audience, List.mem_filter]
  refine ⟨fun hmem => hmem.1, fun hmem => ⟨hmem, ?_⟩⟩
  obtain ⟨m, hm', rfl⟩ := List.mem_map.mp hmem
  obtain ⟨s, hs, -⟩ := Option.map_eq_some_iff.mp (hm.known m hm')
  rw [Hub.isAddressed, hs]
  rfl

theorem inStep_of_balanced {s : Service} (h : s.Sound) (hb : s.Balanced) : s.InStep where
  members handle := hb.mem_iff
  audience handle := (mem_audience_iff h.members handle).trans hb.mem_iff
  size := (List.length_map _).symm.trans hb.length_eq
  apart n l handle hl hne hserved hq := by
    have hreg := hb.mem_iff.mpr hserved
    obtain hwaits | ⟨l', l'', hl', hserving, ⟨-, -, -, hk⟩ | ⟨k, hlinks, hk, hleave⟩⟩ := act_loop_cases hq
    · rw [hwaits]
      exact ⟨hreg, rfl⟩
    · refine ⟨?_, hk.isClosed handle⟩
      show handle ∈ (s.act (.loop n)).hub.members.map Prod.snd
      rw [hk.members]
      exact hreg
    · rw [hl] at hl'
      cases hl'
      obtain ⟨-, hperm, hclosed⟩ := balanced_ends h hb hl hserving hlinks hk hleave
      obtain heq | hmem := List.mem_cons.mp (hperm.mem_iff.mp hreg)
      · exact absurd heq hne
      · exact ⟨hmem, hclosed handle (Ne.symm hne)⟩

/-- a session that takes the place of a member that is being served leaves fewer members than loops -/
theorem not_isLive_of_inStep {s : Service} {handle capacity : Nat} (h : s.Sound) (hs : s.InStep)
    (ht : (s.act (.serve handle capacity)).InStep) : ¬s.IsLive handle := by
  rintro ⟨other, hother, id, hid, hnew⟩
  obtain ⟨x, hx, rfl⟩ := Option.map_eq_some_iff.mp hnew
  obtain ⟨-, -, hreg, hserved⟩ := serve_of_session h.drained hx capacity
  have hsize := ht.size
  rw [Hub.size, ← List.length_map (f := Prod.snd), show List.map Prod.snd _ = _ from hreg, hserved,
    List.length_append, List.length_append, List.length_map, ← hs.size, Hub.size] at hsize
  have hlen : (s.hub.members.filter (·.1 != x.id)).length = s.hub.members.length := Nat.add_right_cancel hsize
  obtain ⟨m, hmem, rfl⟩ := List.mem_map.mp ((hs.members other).mpr hother)
  have hkept := List.length_filter_eq_length_iff.mp hlen m hmem
  rw [bne_iff_ne] at hkept
  refine hkept (Option.some.inj ?_)
  rw [← h.members.known m hmem, hid]

/-- a service that has seen no session -/
def fresh (deliveryTimeout : Nat) (updateState : UpdateState) (tunnel : TunnelBackend)
    (installer : Installer) : Service :=
  { hub := { deliveryTimeout }, updateState, tunnel, installer }

theorem sound_fresh (deliveryTimeout : Nat) (updateState : UpdateState) (tunnel : TunnelBackend)
    (installer : Installer) : (fresh deliveryTimeout updateState tunnel installer).Sound :=
  ⟨⟨nofun, List.Pairwise.nil⟩, rfl⟩

/-- **The members are the sessions being served, up to a quit, in just those runs in which no session is taken up
under an id that is being served then.** -/
theorem inStep_iff_no_live_id (deliveryTimeout : Nat) (updateState : UpdateState) (tunnel : TunnelBackend)
    (installer : Installer) (as : List Action) :
    (∀ bs, bs <+: as → ((fresh deliveryTimeout updateState tunnel installer).run bs).hasQuit = false →
      ((fresh deliveryTimeout updateState tunnel installer).run bs).InStep) ↔
    ∀ bs handle capacity, bs ++ [.serve handle capacity] <+: as →
      ((fresh deliveryTimeout updateState tunnel installer).run bs).hasQuit = false →
      ¬((fresh deliveryTimeout updateState tunnel installer).run bs).IsLive handle := by
  have hsound := sound_fresh deliveryTimeout updateState tunnel installer
  generalize hs : fresh deliveryTimeout updateState tunnel installer = s at hsound
  have hbalanced : s.Balanced := by
    subst hs
    exact .refl _
  constructor
  · intro hall bs handle capacity hbs hq hlive
    have hqt : ((s.run bs).act (.serve handle capacity)).hasQuit = false := by
      obtain ⟨-, -, id, -, hnew⟩ := hlive
      obtain ⟨x, hx, -⟩ := Option.map_eq_some_iff.mp hnew
      exact (serve_of_session (sound_run hsound hq).drained hx capacity).2.1.trans hq
    have hbefore := hall bs ((List.prefix_append _ _).trans hbs) hq
    have hafter := hall _ hbs
    rw [run_concat] at hafter
    exact not_isLive_of_inStep (sound_run hsound hq) hbefore (hafter hqt) hlive
  · intro hnone bs hbs hq
    refine inStep_of_balanced (sound_run hsound hq) (balanced_run hsound hbalanced hq ?_)
    intro cs handle capacity hcs
    refine hnone cs handle capacity (hcs.trans hbs) ?_
    obtain ⟨more, rfl⟩ := hcs
    rw [List.append_assoc, run_append] at hq
    exact hasQuit_of_run hq

/-- two sessions with the same id, of which the first ends its requests: the second is being served, but it is closed
and no member -/
theorem not_inStep_of_shared_id :
    ∃ s : Service, s = (fresh 500 .unknown (.simulated {}) .unsupported).run
        [.hub ⟨.create ⟨5⟩ none 1024, rfl⟩, .hub ⟨.create ⟨5⟩ none 1024, rfl⟩, .serve 0 1024, .serve 1 1024,
          .endRequests 0, .loop 0] ∧
      s.hasQuit = false ∧ s.served = [1] ∧ s.registered = [] ∧ s.hub.isClosed 1 = true ∧ ¬s.InStep := by
  refine ⟨_, rfl, rfl, rfl, rfl, rfl, fun h => ?_⟩
  have hmem := (h.members 1).mpr List.mem_cons_self
  cases hmem

end TunnelControl.Service
