import TunnelControl.Proofs.Service.Docket
import TunnelControl.Proofs.Service.Quit

/-!
# How a session departs

A session becomes a member as it is taken up.  It departs once, when the loop of its connection ends or before that, and
is closed as it does, as long as it is told from all others by its id.

* `Hub.OwnsId`             no other session has the id of this one;
* `includes_perform`       nobody becomes a member but who is taken up;
* `Docket.Enrolled`        what holds all along of the membership of a session on a docket;
* `enrolled_perform`       whatever happens keeps to it;
* `LoopTurn.keepsOthers`   with the end of a loop nobody else departs.
-/

namespace TunnelControl

open Service (Deed LoopTurn)

namespace Hub

variable {h k : Hub} {handle : Nat}

/-! ## ids -/

/-- no other session has the id of this one -/
def OwnsId (h : Hub) (handle : Nat) : Prop :=
  ∀ other id, h.id? other = some id → h.id? handle = some id → other = handle

theorem OwnsId.of_reaches (ho : k.OwnsId handle) (hk : h.Reaches k) : h.OwnsId handle :=
  fun other id hother hid => ho other id (hk.id? hother) (hk.id? hid)

theorem ownsId_of_nodup (hids : (h.sessions.map Session.id).Nodup) (handle : Nat) : h.OwnsId handle := by
  intro other id hother hid
  have hget (n : Nat) : (h.sessions.map Session.id)[n]? = h.id? n := List.getElem?_map
  have hlt := (List.getElem?_eq_some_iff.mp ((hget other).trans hother)).1
  exact (List.getElem?_inj hlt hids).mp ((hget other).trans (hother.trans (hid.symm.trans (hget handle).symm)))

theorem Reaches.membersSound (hk : h.Reaches k) (hm : h.MembersSound) : k.MembersSound := by
  obtain ⟨as, rfl⟩ := hk
  induction as generalizing h with
  | nil => exact hm
  | cons a as ih => exact ih (membersSound_act hm a)

/-- nobody takes the place of a session with an id of its own -/
theorem OwnsId.touch?_ne_giveWay (ho : h.OwnsId handle) (a : Action) : h.touch? handle a ≠ some .giveWay := by
  intro ht
  cases touches_of_touch? ht with
  | giveWay target hne hd =>
    rw [displaces, Bool.and_eq_true, Bool.and_eq_true, beq_iff_eq] at hd
    obtain ⟨⟨-, hsome⟩, hsame⟩ := hd
    obtain ⟨id, hid⟩ := Option.isSome_iff_exists.mp hsome
    exact hne (ho target id (hsame.trans hid) hid)

/-- a session with an id of its own is a member until it is closed -/
theorem Reaches.includes_or_isClosed (hk : h.Reaches k) (hm : h.MembersSound) (ho : k.OwnsId handle)
    (hi : h.includes handle = true ∨ h.isClosed handle = true) :
    k.includes handle = true ∨ k.isClosed handle = true := by
  obtain ⟨as, rfl⟩ := hk
  induction as generalizing h with
  | nil => exact hi
  | cons a as ih =>
    refine ih (membersSound_act hm a) ?_ ho
    have hown : h.OwnsId handle := ho.of_reaches ⟨a :: as, rfl⟩
    obtain hmember | hclosed := hi
    · obtain hmember | hclosed | hgives := includes_act hm hmember a
      · exact .inl hmember
      · exact .inr hclosed
      · exact absurd hgives (hown.touch?_ne_giveWay a)
    · exact .inr (isClosed_act hm hclosed a)

/-! ## members -/

/-- nobody has become a member -/
def Sheds (h k : Hub) : Prop := ∀ handle, k.includes handle = true → h.includes handle = true

theorem Sheds.refl (h : Hub) : h.Sheds h := fun _ hi => hi

theorem Sheds.trans {m : Hub} (hk : h.Sheds k) (km : k.Sheds m) : h.Sheds m :=
  fun handle hi => hk handle (km handle hi)

theorem sheds_of_members (hm : ∀ m ∈ k.members, m ∈ h.members) : h.Sheds k := by
  intro handle hi
  rw [includes, List.any_eq_true] at hi ⊢
  obtain ⟨m, hmem, heq⟩ := hi
  exact ⟨m, hm m hmem, heq⟩

theorem Steady.sheds (hk : h.Steady k) : h.Sheds k := sheds_of_members fun _ hmem => hk.members ▸ hmem

theorem Steady.includes (hk : h.Steady k) (handle : Nat) : k.includes handle = h.includes handle := by
  rw [Hub.includes, hk.members]
  rfl

theorem sheds_leave (h : Hub) (id : SessionId) : h.Sheds (h.leave id).2 := by
  unfold leave
  split
  · exact sheds_of_members fun m hmem => (List.mem_filter.mp hmem).1
  · exact .refl h

theorem includes_join (h : Hub) {target handle : Nat} (hi : (h.join target).2.includes handle = true) :
    h.includes handle = true ∨ handle = target := by
  unfold join at hi
  split at hi
  · rw [includes, List.any_append, Bool.or_eq_true] at hi
    obtain hold | hnew := hi
    · obtain ⟨m, hmem, heq⟩ := List.any_eq_true.mp hold
      exact .inl (List.any_eq_true.mpr ⟨m, (List.mem_filter.mp hmem).1, heq⟩)
    · rw [List.any_cons, List.any_nil, Bool.or_false, beq_iff_eq] at hnew
      exact .inr hnew.symm
  · exact .inl hi

theorem includes_of_joined {target : Nat} (hj : (h.join target).1 = true) :
    (h.join target).2.includes target = true := by
  unfold join at hj ⊢
  split at hj
  · rw [includes, List.any_append, List.any_cons, beq_self_eq_true, Bool.true_or, Bool.or_true]
  · cases hj

end Hub

namespace Service

variable {s t : Service} {n : Nat} {l : Link}

/-! ## what a method does to the members -/

theorem steady_dispatch (s : Service) (handle : Nat) {m : Method} (hm : ∀ stopTunnels, m ≠ .quit stopTunnels) :
    s.hub.Steady (s.dispatch handle m).2.hub := by
  cases m with
  | quit stopTunnels => exact absurd rfl (hm stopTunnels)
  | queryUpdateState => exact .refl _
  | triggerUpdate =>
    show s.hub.Steady (s.triggerUpdate handle).hub
    unfold triggerUpdate
    split <;> exact .refl _
  | startTunnel config =>
    show s.hub.Steady (s.startTunnel handle config).2.hub
    unfold startTunnel
    split
    · exact Hub.steady_publishEach _ _
    · exact .refl _
  | stopTunnel =>
    show s.hub.Steady (s.stopTunnel handle).2.hub
    unfold stopTunnel
    split
    · exact Hub.steady_publishEach _ _
    · exact .refl _
  | queryTunnelState => exact .refl _

theorem sheds_quit (s : Service) (handle : Nat) (stopTunnels : Bool) :
    s.hub.Sheds (s.quit handle stopTunnels).2.hub := by
  cases he : s.isElevated handle with
  | false =>
    rw [quit_of_denied he]
    exact .refl _
  | true =>
    cases hq : s.hasQuit with
    | true =>
      rw [quit_of_hasQuit he hq]
      exact .refl _
    | false =>
      rw [quit_of_first he hq]
      exact Hub.sheds_of_members nofun

theorem sheds_carried (s : Service) (session : Nat) (request : Option Method) :
    s.hub.Sheds (s.carried session request).hub := by
  cases request with
  | none => exact .refl _
  | some m =>
    by_cases hm : ∃ stopTunnels, m = .quit stopTunnels
    · obtain ⟨stopTunnels, rfl⟩ := hm
      exact s.sheds_quit session stopTunnels
    · exact (s.steady_dispatch session fun stopTunnels heq => hm ⟨stopTunnels, heq⟩).sheds

theorem hasFrame_quit (s : Service) (handle : Nat) (stopTunnels : Bool) :
    (s.dispatch handle (.quit stopTunnels)).1.HasFrame := by
  show ∃ frame, (quitAnswer (s.quit handle stopTunnels).1).frame = .ok frame
  cases he : s.isElevated handle with
  | false =>
    rw [quit_of_denied he]
    exact ⟨_, rfl⟩
  | true =>
    cases hq : s.hasQuit with
    | true =>
      rw [quit_of_hasQuit he hq]
      exact ⟨_, rfl⟩
    | false =>
      rw [quit_of_first he hq]
      exact ⟨_, rfl⟩

/-! ## what the end of a loop does to the members -/

theorem leaves_endLink (s : Service) (n : Nat) (l : Link) : Leaves s.hub l.session (s.endLink n l).hub := by
  simp only [Leaves, endLink, setLink]
  cases s.hub.session? l.session <;> rfl

theorem sheds_endLink (s : Service) (n : Nat) (l : Link) : s.hub.Sheds (s.endLink n l).hub := by
  have hleaves := s.leaves_endLink n l
  unfold Leaves at hleaves
  rw [hleaves]
  split
  · exact s.hub.sheds_leave _
  · exact .refl _

/-- who has left is no member -/
theorem includes_of_leaves {h k : Hub} {handle : Nat} (hm : h.MembersSound) (hk : Leaves h handle k) :
    k.includes handle = false := by
  unfold Leaves at hk
  cases hs : h.session? handle with
  | none =>
    rw [hs] at hk
    rw [hk, Bool.eq_false_iff]
    intro hi
    obtain ⟨m, hmem, rfl⟩ := List.mem_map.mp ((h.includes_iff handle).mp hi)
    have hknown := hm.known m hmem
    rw [Hub.id?, hs] at hknown
    cases hknown
  | some x =>
    have hid : h.id? handle = some x.id := by
      rw [Hub.id?, hs]
      rfl
    rw [hs] at hk
    subst hk
    refine (congrArg Standing.isMember (Hub.standing_leave hm x.id handle)).trans ?_
    rw [if_pos hid]
    rfl

/-- the others do not notice that a session leaves which is told from them by its id -/
theorem standing_of_leaves {h k : Hub} {handle other : Nat} (hm : h.MembersSound) (ho : h.OwnsId handle)
    (hk : Leaves h handle k) (hne : other ≠ handle) : k.standing other = h.standing other := by
  unfold Leaves at hk
  cases hs : h.session? handle with
  | none =>
    rw [hs] at hk
    rw [hk]
  | some x =>
    have hid : h.id? handle = some x.id := by
      rw [Hub.id?, hs]
      rfl
    rw [hs] at hk
    rw [hk, Hub.standing_leave hm, if_neg fun hother => hne (ho other x.id hother hid)]

theorem eq_of_setLink {l' l'' : Link} (hl : (s.setLink n l').links[n]? = some l'') : l'' = l' := by
  have hn : n < s.links.length := by
    rw [← List.length_set]
    exact (List.getElem?_eq_some_iff.mp hl).1
  exact Option.some.inj (hl.symm.trans (List.getElem?_set_self hn))

theorem OwnOnly.sheds (h : s.OwnOnly n l t) : s.hub.Sheds t.hub := by
  cases h with
  | goesOn l' => exact .refl _
  | ends l' => exact s.sheds_endLink n l'

/-- a loop ends only behind a request that leaves the hub steady -/
theorem LoopTurn.steady_of_ended {request : Option Method} (h : LoopTurn s n l request t) {l' : Link}
    (hl : t.links[n]? = some l') (he : l'.serving = .ended) : s.hub.Steady (s.carried l.session request).hub := by
  cases h with
  | answers reader payload m frame hs ht hf hd ha =>
    cases eq_of_setLink hl
    cases he
  | unanswerable reader payload m e hs ht hf hd ha =>
    -- a quit drains the hub, but its answer has a frame
    refine s.steady_dispatch l.session fun stopTunnels hm => ?_
    subst hm
    obtain ⟨frame, hframe⟩ := s.hasFrame_quit l.session stopTunnels
    cases hframe.symm.trans ha
  | _ => exact .refl _

/-- a turn that ends the loop ends the membership of its session -/
theorem OwnOnly.of_ended (h : s.OwnOnly n l t) {l' : Link} (hl : t.links[n]? = some l') (he : l'.serving = .ended) :
    Leaves s.hub l.session t.hub := by
  cases h with
  | goesOn l'' hsession hserving =>
    cases eq_of_setLink hl
    exact absurd he hserving
  | ends l'' hsession =>
    rw [← hsession]
    exact s.leaves_endLink n l''

/-- **With the end of a loop nobody departs but its own session**, nor is anybody else closed. -/
theorem LoopTurn.keepsOthers {request : Option Method} (h : LoopTurn s n l request t) (hm : s.hub.MembersSound)
    (ho : s.hub.OwnsId l.session) {l' : Link} (hl : t.links[n]? = some l') (he : l'.serving = .ended) {other : Nat}
    (hne : other ≠ l.session) :
    t.hub.includes other = s.hub.includes other ∧ t.hub.isClosed other = s.hub.isClosed other := by
  have hk := h.steady_of_ended hl he
  have hown : (s.carried l.session request).hub.OwnsId l.session := by
    intro handle id hhandle hid
    rw [hk.id?] at hhandle hid
    exact ho handle id hhandle hid
  have hstanding := standing_of_leaves (membersSound_of_steady hk hm) hown (h.effect.of_ended hl he) hne
  constructor
  · exact (congrArg Standing.isMember hstanding).trans (hk.includes other)
  · exact (congrArg (fun v : Standing => v.session.any Session.closed) hstanding).trans (hk.isClosed other)

/-! ## what everything else does to the members -/

/-- **Nobody becomes a member but who is taken up.** -/
theorem includes_perform {deed : Deed} {handle : Nat} (hi : (s.perform deed).hub.includes handle = true) :
    s.hub.includes handle = true ∨ ∃ capacity, deed = .act (.serve handle capacity) := by
  cases deed with
  | act a =>
    cases a with
    | hub a =>
      have hmembers : (s.hub.act a.1).members = s.hub.members := (Hub.members_act_of_keeps a.2).1
      exact .inl (Hub.sheds_of_members (fun m hmem => hmembers ▸ hmem) handle hi)
    | serve target capacity =>
      have hhub : (s.serve target capacity).2.2.hub = (s.hub.join target).2 := by
        unfold serve
        generalize s.hub.join target = joined
        obtain ⟨taken, hub⟩ := joined
        cases taken <;> rfl
      have hi : (s.serve target capacity).2.2.hub.includes handle = true := hi
      rw [hhub] at hi
      obtain hold | rfl := s.hub.includes_join hi
      · exact .inl hold
      · exact .inr ⟨capacity, rfl⟩
    | loop n =>
      left
      cases ht : s.serveStep n with
      | none => rwa [perform_loop_of_none ht] at hi
      | some t =>
        rw [perform_loop_of_some ht] at hi
        obtain ⟨l, -, hturn⟩ := loopTurn_of_serveStep ht
        exact ((s.sheds_carried _ _).trans hturn.effect.sheds) handle hi
    | relay n => exact .inl ((s.steady_act_relay n).1.sheds handle hi)
    | _ => exact .inl hi
  | schedule a =>
    cases a with
    | publish event => exact .inl ((s.hub.steady_publish event false).sheds handle hi)
    | _ => exact .inl hi
  | report run item =>
    rw [(s.unchanged_report run item).1] at hi
    exact .inl hi
  | endReports => exact .inl hi
  | takeSignal => exact .inl hi

theorem exists_link_perform (hl : s.links[n]? = some l) (deed : Deed) :
    ∃ l' : Link, (s.perform deed).links[n]? = some l' ∧ l'.session = l.session := by
  by_cases hd : deed = .act (.loop n)
  · subst hd
    cases ht : s.serveStep n with
    | none => exact ⟨l, (perform_loop_of_none ht).symm ▸ hl, rfl⟩
    | some t =>
      obtain ⟨k, hk, hturn⟩ := loopTurn_of_serveStep ht
      cases hl.symm.trans hk
      obtain ⟨l', hlinks, hsession⟩ := hturn.effect.links
      refine ⟨l', ?_, hsession⟩
      rw [perform_loop_of_some ht, hlinks, links_carried]
      exact List.getElem?_set_self (List.getElem?_eq_some_iff.mp hl).1
  · exact ⟨_, getElem?_perform hl hd, (used_touched hl deed).session⟩

/-- with the last turn of its loop a session is no member -/
theorem includes_of_ended (hm : s.hub.MembersSound) (hl : s.links[n]? = some l) {deed : Deed} {l' : Link}
    (hl' : (s.perform deed).links[n]? = some l') (he : l'.serving = .ended) :
    l.serving = .ended ∨ (s.perform deed).hub.includes l.session = false := by
  by_cases hd : deed = .act (.loop n)
  · subst hd
    cases ht : s.serveStep n with
    | none =>
      rw [perform_loop_of_none ht, hl] at hl'
      cases hl'
      exact .inl he
    | some t =>
      rw [perform_loop_of_some ht] at hl' ⊢
      obtain ⟨k, hk, hturn⟩ := loopTurn_of_serveStep ht
      cases hl.symm.trans hk
      -- the session leaves behind the request, whatever that has done to the members
      have hcarried := (s.reaches_carried l.session (s.request? n)).membersSound hm
      exact .inr (includes_of_leaves hcarried (hturn.effect.of_ended hl' he))
  · cases (getElem?_perform hl hd).symm.trans hl'
    exact .inl ((used_touched hl deed).serving.symm.trans he)

/-- who is a member now, or departs with this, was one before -/
theorem departures_add (s : Service) {session : Nat} {deed : Deed}
    (hsheds : (s.perform deed).hub.includes session = true → s.hub.includes session = true) :
    s.departures session deed + ((s.perform deed).hub.includes session).toNat = (s.hub.includes session).toNat := by
  unfold departures
  cases hafter : (s.perform deed).hub.includes session with
  | true =>
    rw [hsheds hafter, if_neg fun hboth => by cases hboth.2]
    rfl
  | false => cases s.hub.includes session <;> rfl

end Service

namespace Docket

variable {d : Docket} {l l' : Link}

/-- the session is told from all others by its id, and it is served over this connection alone -/
structure Alone (d : Docket) : Prop where
  id : d.service.hub.OwnsId d.session
  link : ∀ n l, d.service.links[n]? = some l → l.session = d.session → n = d.link

/-- it is so if no id stands for two sessions, and no session was taken up twice -/
theorem alone_of_nodup (hids : (d.service.hub.sessions.map Session.id).Nodup)
    (hlinks : (d.service.links.map Link.session).Nodup)
    (hl : (d.service.links.map Link.session)[d.link]? = some d.session) : d.Alone where
  id := Hub.ownsId_of_nodup hids d.session
  link n k hk hsession := by
    have hget : (d.service.links.map Link.session)[n]? = some d.session := by
      rw [List.getElem?_map, hk, Option.map_some, hsession]
    have hlt := (List.getElem?_eq_some_iff.mp hget).1
    exact (List.getElem?_inj hlt hlinks).mp (hget.trans hl.symm)

/-- what holds of a session that was taken up -/
structure Enrolled (d : Docket) (l : Link) : Prop where
  /-- it departs once -/
  once : d.departures + (d.service.hub.includes d.session).toNat = 1
  /-- and is closed then -/
  closed : d.service.hub.includes d.session = false → d.service.hub.isClosed d.session = true
  /-- as its loop ends, if not before -/
  ended : l.serving = .ended → d.service.hub.includes d.session = false

theorem Alone.of_perform {deed : Deed} (ha : (d.perform deed).Alone) : d.Alone where
  id := ha.id.of_reaches (d.service.reaches_perform deed)
  link n k hk hsession := by
    obtain ⟨k', hk', hsession'⟩ := Service.exists_link_perform hk deed
    exact ha.link n k' hk' (hsession'.trans hsession)

/-- the session is not taken up again -/
theorem Alone.sheds {deed : Deed} (ha : (d.perform deed).Alone) (hl : d.service.links[d.link]? = some l)
    (hi : (d.service.perform deed).hub.includes d.session = true) : d.service.hub.includes d.session = true := by
  obtain hold | ⟨capacity, rfl⟩ := Service.includes_perform hi
  · exact hold
  · have hlast : (d.service.serve d.session capacity).2.2.links[d.service.links.length]?.map Link.session
        = some d.session := by
      unfold Service.serve
      split <;> rw [List.getElem?_concat_length] <;> rfl
    obtain ⟨k, hk, hsession⟩ := Option.map_eq_some_iff.mp hlast
    have hlt := (List.getElem?_eq_some_iff.mp hl).1
    -- its connection would be a second one of the session
    have heq : d.service.links.length = d.link := ha.link _ k hk hsession
    omega

theorem enrolled_perform (he : d.Enrolled l) (hm : d.service.hub.MembersSound)
    (hl : d.service.links[d.link]? = some l) (hsession : l.session = d.session) {deed : Deed}
    (ha : (d.perform deed).Alone) (hl' : (d.perform deed).service.links[d.link]? = some l') :
    (d.perform deed).Enrolled l' := by
  have hsheds := ha.sheds hl
  refine ⟨?_, fun hout => ?_, fun hended => ?_⟩
  · have honce := he.once
    have hdepartures := d.service.departures_add hsheds
    show d.departures + d.service.departures d.session deed
      + ((d.service.perform deed).hub.includes d.session).toNat = 1
    omega
  · have hbefore : d.service.hub.includes d.session = true ∨ d.service.hub.isClosed d.session = true := by
      cases hi : d.service.hub.includes d.session with
      | true => exact .inl rfl
      | false => exact .inr (he.closed hi)
    obtain hi | hclosed := (d.service.reaches_perform deed).includes_or_isClosed hm ha.id hbefore
    · cases hi.symm.trans hout
    · exact hclosed
  · obtain hbefore | hout := Service.includes_of_ended hm hl hl' hended
    · exact Bool.eq_false_iff.mpr fun hi => Bool.eq_false_iff.mp (he.ended hbefore) (hsheds hi)
    · exact hsession ▸ hout

theorem Alone.of_run {deeds : List Deed} (ha : (d.run deeds).Alone) : d.Alone := by
  induction deeds generalizing d with
  | nil => exact ha
  | cons deed deeds ih => exact (ih ha).of_perform

theorem service_run (d : Docket) (deeds : List Deed) :
    (d.run deeds).service = deeds.foldl Service.perform d.service := by
  induction deeds generalizing d with
  | nil => rfl
  | cons deed deeds ih => exact ih (d.perform deed)

theorem membersSound_foldl {s : Service} (hm : s.hub.MembersSound) (deeds : List Deed) :
    (deeds.foldl Service.perform s).hub.MembersSound := by
  induction deeds generalizing s with
  | nil => exact hm
  | cons deed deeds ih => exact ih ((s.reaches_perform deed).membersSound hm)

/-- **Whatever happens, the session departs once, and no later than its loop ends.** -/
theorem enrolled_run {capacity : Nat} (hs : d.Sound capacity l) (he : d.Enrolled l)
    (hm : d.service.hub.MembersSound) {deeds : List Deed} (ha : (d.run deeds).Alone)
    (hl' : (d.run deeds).service.links[(d.run deeds).link]? = some l') : (d.run deeds).Enrolled l' := by
  induction deeds generalizing d l with
  | nil =>
    cases hs.link.symm.trans hl'
    exact he
  | cons deed deeds ih =>
    obtain ⟨k, hk⟩ := sound_perform hs deed
    have halone : (d.perform deed).Alone := Alone.of_run ha
    exact ih hk (enrolled_perform he hm hs.link hs.session halone hk.link)
      ((d.service.reaches_perform deed).membersSound hm) ha hl'

theorem enrolled_opened {s : Service} {session capacity : Nat} (hserved : (s.serve session capacity).1 = true) :
    (opened s session capacity).Enrolled (Service.newLink session capacity) := by
  obtain ⟨hjoined, hserve⟩ := Service.serve_of_joined hserved
  have hmember : (s.serve session capacity).2.2.hub.includes session = true := by
    rw [hserve]
    exact Hub.includes_of_joined hjoined
  refine ⟨?_, fun hout => ?_, nofun⟩
  · show 0 + ((s.serve session capacity).2.2.hub.includes session).toNat = 1
    rw [hmember]
    rfl
  · cases hmember.symm.trans hout

end Docket

end TunnelControl
