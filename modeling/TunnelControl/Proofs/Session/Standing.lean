import TunnelControl.Proofs.Session.Ledger

/-!
# The standing of one session

What a hub does to one of its sessions depends on that session, on its membership, on the clock and on whether the
hub was drained.  These are the `Standing` of the session, and a `Touch` is what may befall it.

* `Hub.touch? h handle a`     what of an action touches a session, if anything does;
* `Hub.standing_act`          its standing changes by what touches it, and by nothing else;
* `Hub.entriesOf_delivers`    so does what its client reads;
* `Hub.keeps_act`             a session that was closed stays closed, and each keeps its id and its token.
-/

namespace TunnelControl

/-- what there is of a hub for one of its sessions -/
structure Standing where
  clock : Nat
  deliveryTimeout : Nat
  drained : Bool
  isMember : Bool
  session : Option Session

/-- what may befall a session -/
inductive Touch
  | create (id : SessionId) (token : Option Token) (capacity : Nat)
  | join
  /-- another session with its id joins -/
  | giveWay
  | leave
  | drain
  /-- an event that is for it -/
  | publish (event : Event)
  | enqueue (d : QueuedFrame)
  | close
  | receive (limit : Option Nat)
  | take (n : Nat)
  | dropClient
  /-- its writer takes a step -/
  | write
  | tick (ms : Nat)
  /-- its writer does what it can -/
  | settle
  | advance (ms : Nat)
  deriving DecidableEq

namespace Standing

/-- something becomes of the session alone -/
def change (v : Standing) (f : Session → Session) : Standing := { v with session := v.session.map f }

/-- a member is closed as its membership ends -/
def depart (v : Standing) : Standing :=
  { v with isMember := false, session := if v.isMember then v.session.map Session.close else v.session }

def settle (v : Standing) : Standing := v.change (Session.settle v.clock)

def act (v : Standing) : Touch → Standing
  | .create id token capacity => { v with session := some { id, token, events := .ofCapacity capacity } }
  | .join => { v with isMember := v.isMember || (!v.drained && v.session.isSome) }
  | .giveWay => { v with isMember := false }
  | .leave => v.depart
  | .drain => { v.depart with drained := true }
  | .publish event =>
    match frameOf event with
    | .error _ => v
    | .ok frame => v.change fun s => (s.enqueue ⟨frame, v.deliveryTimeout⟩).2
  | .enqueue d => v.change fun s => (s.enqueue d).2
  | .close => v.change Session.close
  | .receive limit => v.change fun s => (s.receive v.clock limit).2
  | .take n => v.change fun s => { s with events := (s.events.take n).2 }
  | .dropClient => v.change Session.dropClient
  | .write => v.change fun s => (s.step v.clock).getD s
  | .tick ms => { v with clock := v.clock + ms }
  | .settle => v.settle
  | .advance ms => { v with clock := v.clock + ms }.settle

/-- the pieces that the client reads -/
def delivers (v : Standing) : Touch → List Bytes
  | .receive limit => v.session.toList.map fun s => (s.receive v.clock limit).1
  | .take n => v.session.toList.map fun s => (s.events.take n).1
  | _ => []

/-- whether an event is for the session: it is for the members, or for those of them that have a token -/
def hears (v : Standing) (adminOnly : Bool) : Bool :=
  v.isMember && v.session.any fun s => !adminOnly || s.token.isSome

/-- whether the writer can do anything -/
def isBusy (v : Standing) : Bool := v.session.any (Session.canGoOn v.clock)

end Standing

namespace Hub

def includes (h : Hub) (handle : Nat) : Bool := h.members.any (·.2 == handle)

def standing (h : Hub) (handle : Nat) : Standing :=
  { clock := h.clock
    deliveryTimeout := h.deliveryTimeout
    drained := h.drained
    isMember := h.includes handle
    session := h.session? handle }

/-- whether a session takes the place of another one as it joins -/
def displaces (h : Hub) (joining handle : Nat) : Bool :=
  !h.drained && (h.id? handle).isSome && h.id? joining == h.id? handle

/-- what of an action touches a session -/
def touch? (h : Hub) (handle : Nat) : Action → Option Touch
  | .create id token capacity => if h.sessions.length = handle then some (.create id token capacity) else none
  | .join target =>
    if target = handle then some .join else if h.displaces target handle then some .giveWay else none
  | .leave id => if h.id? handle = some id then some .leave else none
  | .drain => some .drain
  | .publish event adminOnly => if (h.standing handle).hears adminOnly then some (.publish event) else none
  | .enqueue target d => if target = handle then some (.enqueue d) else none
  | .close target => if target = handle then some .close else none
  | .receive target limit => if target = handle then some (.receive limit) else none
  | .take target n => if target = handle then some (.take n) else none
  | .dropClient target => if target = handle then some .dropClient else none
  | .write target => if target = handle ∧ (h.standing handle).isBusy then some .write else none
  | .tick ms => some (.tick ms)
  | .settle => if (h.standing handle).isBusy then some .settle else none
  | .advance ms => some (.advance ms)

theorem includes_iff (h : Hub) (handle : Nat) : h.includes handle = true ↔ handle ∈ h.members.map Prod.snd := by
  rw [includes, List.any_eq_true, List.mem_map]
  simp only [beq_iff_eq]

/-- why an action touches a session -/
inductive Touches (h : Hub) (handle : Nat) : Action → Touch → Prop
  | create (id : SessionId) (token : Option Token) (capacity : Nat) (hlen : h.sessions.length = handle) :
    Touches h handle (.create id token capacity) (.create id token capacity)
  | join : Touches h handle (.join handle) .join
  | giveWay (target : Nat) (hne : target ≠ handle) (hd : h.displaces target handle = true) :
    Touches h handle (.join target) .giveWay
  | leave (id : SessionId) (hid : h.id? handle = some id) : Touches h handle (.leave id) .leave
  | drain : Touches h handle .drain .drain
  | publish (event : Event) (adminOnly : Bool) (hh : (h.standing handle).hears adminOnly = true) :
    Touches h handle (.publish event adminOnly) (.publish event)
  | enqueue (d : QueuedFrame) : Touches h handle (.enqueue handle d) (.enqueue d)
  | close : Touches h handle (.close handle) .close
  | receive (limit : Option Nat) : Touches h handle (.receive handle limit) (.receive limit)
  | take (n : Nat) : Touches h handle (.take handle n) (.take n)
  | dropClient : Touches h handle (.dropClient handle) .dropClient
  | write (hb : (h.standing handle).isBusy = true) : Touches h handle (.write handle) .write
  | tick (ms : Nat) : Touches h handle (.tick ms) (.tick ms)
  | settle (hb : (h.standing handle).isBusy = true) : Touches h handle .settle .settle
  | advance (ms : Nat) : Touches h handle (.advance ms) (.advance ms)

theorem touches_of_touch? {h : Hub} {handle : Nat} {a : Action} {t : Touch} (ht : h.touch? handle a = some t) :
    h.Touches handle a t := by
  have hif {c : Prop} [Decidable c] {u : Touch} (heq : (if c then some u else none) = some t) : c ∧ t = u := by
    split at heq
    · exact ⟨‹c›, (Option.some.inj heq).symm⟩
    · cases heq
  cases a with
  | create id token capacity => obtain ⟨hlen, rfl⟩ := hif ht; exact .create id token capacity hlen
  | join target =>
    simp only [touch?] at ht
    split at ht
    · rename_i heq
      cases ht
      cases heq
      exact .join
    · obtain ⟨hd, rfl⟩ := hif ht
      exact .giveWay target ‹_› hd
  | leave id => obtain ⟨hid, rfl⟩ := hif ht; exact .leave id hid
  | drain => cases ht; exact .drain
  | publish event adminOnly => obtain ⟨hh, rfl⟩ := hif ht; exact .publish event adminOnly hh
  | enqueue target d => obtain ⟨rfl, rfl⟩ := hif ht; exact .enqueue d
  | close target => obtain ⟨rfl, rfl⟩ := hif ht; exact .close
  | receive target limit => obtain ⟨rfl, rfl⟩ := hif ht; exact .receive limit
  | take target n => obtain ⟨rfl, rfl⟩ := hif ht; exact .take n
  | dropClient target => obtain ⟨rfl, rfl⟩ := hif ht; exact .dropClient
  | write target => obtain ⟨⟨rfl, hb⟩, rfl⟩ := hif ht; exact .write hb
  | tick ms => cases ht; exact .tick ms
  | settle => obtain ⟨hb, rfl⟩ := hif ht; exact .settle hb
  | advance ms => cases ht; exact .advance ms

end Hub

/-! ## sessions at rest -/

namespace Session

theorem settle_of_quiet {clock : Nat} {s : Session} (h : s.step clock = none) : s.settle clock = s := by
  show stepTimes clock (3 * s.queue.length + 4 + 1) s = s
  unfold stepTimes
  rw [h]

end Session

namespace Standing

theorem change_of_none {v : Standing} (h : v.session = none) (f : Session → Session) : v.change f = v := by
  unfold change
  rw [h]
  cases v
  cases h
  rfl

theorem change_of_fixed {v : Standing} {f : Session → Session} (h : ∀ s, v.session = some s → f s = s) :
    v.change f = v := by
  cases hs : v.session with
  | none => exact change_of_none hs f
  | some s =>
    unfold change
    rw [hs, Option.map_some, h s hs, ← hs]

theorem step_of_not_busy {v : Standing} (h : v.isBusy = false) (s : Session) (hs : v.session = some s) :
    s.step v.clock = none := by
  rw [isBusy, hs, Option.any_some, Session.canGoOn_eq] at h
  exact Option.isNone_iff_eq_none.mp (by rw [← Option.not_isSome, h]; rfl)

theorem settle_of_not_busy {v : Standing} (h : v.isBusy = false) : v.settle = v :=
  change_of_fixed fun s hs => Session.settle_of_quiet (step_of_not_busy h s hs)

theorem not_busy_settle (v : Standing) : v.settle.isBusy = false := by
  unfold isBusy settle change
  cases v.session with
  | none => rfl
  | some s => rw [Option.map_some, Option.any_some, Session.canGoOn_eq, Session.step_settle]; rfl

end Standing

/-! ## what becomes of a standing -/

namespace Hub

theorem standing_of_eq {h k : Hub} {handle : Nat} (hc : k.clock = h.clock)
    (ht : k.deliveryTimeout = h.deliveryTimeout) (hd : k.drained = h.drained) (hm : k.members = h.members)
    (hs : k.session? handle = h.session? handle) : k.standing handle = h.standing handle := by
  unfold standing includes
  rw [hc, ht, hd, hm, hs]

theorem standing_modify (h : Hub) (target handle : Nat) (f : Session → Session) :
    (h.modify target f).standing handle
      = if target = handle then (h.standing handle).change f else h.standing handle := by
  have hs := session?_modify h target handle f
  split
  · rename_i heq
    rw [if_pos heq] at hs
    unfold standing
    rw [hs]
    rfl
  · rename_i hne
    rw [if_neg hne] at hs
    exact standing_of_eq rfl rfl rfl rfl hs

theorem session?_closeEach (handle : Nat) (members : List (SessionId × Nat)) (h : Hub) :
    (h.closeEach members).session? handle
      = if members.any (·.2 == handle) then (h.session? handle).map Session.close else h.session? handle := by
  induction members generalizing h with
  | nil => rfl
  | cons m members ih =>
    show ((h.close m.2).closeEach members).session? handle = _
    rw [ih, close, session?_modify, List.any_cons]
    by_cases hm : m.2 = handle
    · rw [if_pos hm, beq_iff_eq.mpr hm, Bool.true_or, if_pos rfl, Option.map_map]
      split <;> rfl
    · rw [if_neg hm, beq_eq_false_iff_ne.mpr hm, Bool.false_or]

theorem standing_enqueueEach (d : QueuedFrame) {handles : List Nat} (hn : handles.Nodup) (handle : Nat) (h : Hub) :
    (h.enqueueEach d handles).standing handle
      = if handle ∈ handles then (h.standing handle).change fun s => (s.enqueue d).2 else h.standing handle := by
  induction handles generalizing h with
  | nil => rw [if_neg List.not_mem_nil]; rfl
  | cons target handles ih =>
    obtain ⟨hnot, hn⟩ := List.nodup_cons.mp hn
    show ((h.enqueue target d).2.enqueueEach d handles).standing handle = _
    rw [ih hn, enqueue, standing_modify]
    by_cases ht : target = handle
    · subst ht
      rw [if_neg hnot, if_pos rfl, if_pos List.mem_cons_self]
    · have hmem : handle ∈ target :: handles ↔ handle ∈ handles :=
        List.mem_cons.trans (or_iff_right (Ne.symm ht))
      simp only [if_neg ht, hmem]

theorem standing_settle (h : Hub) (handle : Nat) : h.settle.standing handle = (h.standing handle).settle := by
  have hs : h.settle.session? handle = (h.session? handle).map (Session.settle h.clock) := List.getElem?_map
  unfold standing
  rw [hs]
  rfl

/-! ## members -/

theorem includes_filter {h : Hub} (hm : h.MembersSound) (id : SessionId) (handle : Nat) :
    (h.members.filter (·.1 != id)).any (·.2 == handle)
      = if h.id? handle = some id then false else h.includes handle := by
  rw [List.any_filter, includes]
  split
  · rename_i hid
    rw [List.any_eq_false]
    intro m hmem hkept
    rw [Bool.and_eq_true, bne_iff_ne, beq_iff_eq] at hkept
    have hknown := hm.known m hmem
    rw [hkept.2, hid] at hknown
    exact hkept.1 (Option.some.inj hknown).symm
  · rename_i hid
    rw [Bool.eq_iff_iff, List.any_eq_true, List.any_eq_true]
    refine exists_congr fun m => and_congr_right fun hmem => ?_
    rw [Bool.and_eq_true, bne_iff_ne, beq_iff_eq]
    refine and_iff_right_of_imp fun heq hfst => hid ?_
    rw [← heq, hm.known m hmem, hfst]

theorem member?_of_id {h : Hub} (hm : h.MembersSound) {id : SessionId} {handle : Nat}
    (hid : h.id? handle = some id) (hmem : h.includes handle = true) : h.member? id = some handle := by
  obtain ⟨m, hin, rfl⟩ := List.mem_map.mp ((includes_iff h handle).mp hmem)
  rw [hm.known m hin] at hid
  cases hid
  exact lookup_of_mem hm.once hin

theorem id?_of_member? {h : Hub} (hm : h.MembersSound) {id : SessionId} {handle : Nat}
    (hl : h.member? id = some handle) : h.id? handle = some id ∧ h.includes handle = true := by
  have hmem : (id, handle) ∈ h.members := by
    obtain ⟨l, r, heq, -⟩ := List.lookup_eq_some_iff.mp hl
    rw [heq]
    exact List.mem_append_right _ List.mem_cons_self
  exact ⟨hm.known _ hmem, (includes_iff h handle).mpr (List.mem_map_of_mem hmem)⟩

theorem depart_of_not_member {v : Standing} (h : v.isMember = false) : v.depart = v := by
  unfold Standing.depart
  cases v
  cases h
  rfl

theorem standing_leave {h : Hub} (hm : h.MembersSound) (id : SessionId) (handle : Nat) :
    (h.leave id).2.standing handle
      = if h.id? handle = some id then (h.standing handle).depart else h.standing handle := by
  -- who is not the member with the id loses nothing
  have hother (hl : h.member? id ≠ some handle) (hid : h.id? handle = some id) : h.includes handle = false :=
    Bool.eq_false_iff.mpr fun hin => hl (member?_of_id hm hid hin)
  unfold leave
  cases hl : h.member? id with
  | none =>
    show h.standing handle = _
    split
    · rename_i hid
      exact (depart_of_not_member (hother (by rw [hl]; exact nofun) hid)).symm
    · rfl
  | some target =>
    obtain ⟨htarget, hin⟩ := id?_of_member? hm hl
    have hleft := includes_filter hm id handle
    show (Hub.modify { h with members := h.members.filter (·.1 != id) } target Session.close).standing handle = _
    rw [standing_modify]
    have hmembers : ({ h with members := h.members.filter (·.1 != id) } : Hub).standing handle
        = { h.standing handle with isMember := if h.id? handle = some id then false else h.includes handle } := by
      rw [← hleft]
      rfl
    rw [hmembers]
    by_cases ht : target = handle
    · subst ht
      rw [if_pos rfl, if_pos htarget, if_pos htarget]
      unfold Standing.change Standing.depart
      rw [show (h.standing target).isMember = true from hin]
      rfl
    · rw [if_neg ht]
      split
      · rename_i hid
        have hout := hother (fun heq => ht (Option.some.inj (hl.symm.trans heq))) hid
        rw [depart_of_not_member (v := h.standing handle) hout, ← hout]
        rfl
      · rfl

theorem clock_closeEach (members : List (SessionId × Nat)) (h : Hub) :
    (h.closeEach members).clock = h.clock ∧ (h.closeEach members).deliveryTimeout = h.deliveryTimeout := by
  induction members generalizing h with
  | nil => exact ⟨rfl, rfl⟩
  | cons m members ih => exact ih (h.close m.2)

theorem standing_drain (h : Hub) (handle : Nat) :
    h.drain.2.standing handle = { (h.standing handle).depart with drained := true } := by
  have hs : h.drain.2.session? handle = _ := session?_closeEach handle h.members h
  obtain ⟨hc, ht⟩ := clock_closeEach h.members h
  unfold standing Standing.depart
  rw [hs]
  show Standing.mk (h.closeEach h.members).clock (h.closeEach h.members).deliveryTimeout true false _ = _
  rw [hc, ht]
  rfl

/-- a session that is not there does not join, nor does one join a hub that was drained -/
theorem join_of_refused {h : Hub} {target : Nat} (hr : h.drained = true ∨ h.session? target = none) :
    (h.join target).2 = h := by
  unfold join
  cases hd : h.drained with
  | true => rfl
  | false =>
    cases hs : h.session? target with
    | none => rfl
    | some s => simp [hd, hs] at hr

theorem join_of_session {h : Hub} {target : Nat} {s : Session} (hd : h.drained = false)
    (hs : h.session? target = some s) :
    (h.join target).2 = { h with members := h.members.filter (·.1 != s.id) ++ [(s.id, target)] } := by
  unfold join
  rw [hd, hs]

theorem standing_join {h : Hub} (hm : h.MembersSound) (target handle : Nat) :
    (h.join target).2.standing handle
      = if target = handle then (h.standing handle).act .join
        else if h.displaces target handle then (h.standing handle).act .giveWay else h.standing handle := by
  by_cases hr : h.drained = true ∨ h.session? target = none
  · rw [join_of_refused hr]
    split
    · rename_i ht
      subst ht
      have hno : (!h.drained && (h.session? target).isSome) = false := by
        rcases hr with hd | hs
        · rw [hd]
          rfl
        · rw [hs]
          exact Bool.and_false _
      show _ = { h.standing target with isMember := h.includes target || (!h.drained && (h.session? target).isSome) }
      rw [hno, Bool.or_false]
      rfl
    · have hno : h.displaces target handle = false := by
        unfold displaces id?
        rcases hr with hd | hs
        · rw [hd]
          rfl
        · rw [hs]
          cases h.session? handle <;> simp
      rw [hno]
      rfl
  · rw [not_or, Bool.not_eq_true] at hr
    obtain ⟨hd, hsome⟩ := hr
    obtain ⟨s, hs⟩ := Option.ne_none_iff_exists'.mp hsome
    have hid : h.id? target = some s.id := by
      rw [id?, hs]
      rfl
    have hmembers : (h.join target).2.standing handle
        = { h.standing handle with
            isMember := (if h.id? handle = some s.id then false else h.includes handle) || target == handle } := by
      rw [join_of_session hd hs, ← includes_filter hm s.id handle]
      unfold standing includes
      rw [List.any_append, List.any_cons, List.any_nil, Bool.or_false]
      rfl
    rw [hmembers]
    by_cases ht : target = handle
    · subst ht
      rw [if_pos rfl, beq_self_eq_true, Bool.or_true]
      show _ = { h.standing target with isMember := h.includes target || (!h.drained && (h.session? target).isSome) }
      rw [hd, hs]
      simp
    · rw [if_neg ht, beq_eq_false_iff_ne.mpr ht, Bool.or_false]
      have hdis : h.displaces target handle = true ↔ h.id? handle = some s.id := by
        unfold displaces
        rw [hd, hid]
        cases h.id? handle with
        | none => constructor <;> intro h <;> cases h
        | some id => exact beq_iff_eq.trans eq_comm
      by_cases hsame : h.id? handle = some s.id
      · rw [if_pos hsame, if_pos (hdis.mpr hsame)]
        rfl
      · rw [if_neg hsame, if_neg (fun h' => hsame (hdis.mp h'))]
        rfl

/-! ## all actions -/

theorem session?_create (h : Hub) (id : SessionId) (token : Option Token) (capacity handle : Nat) :
    (h.create id token capacity).2.session? handle
      = if h.sessions.length = handle then some { id, token, events := .ofCapacity capacity }
        else h.session? handle := by
  show (h.sessions ++ [_])[handle]? = _
  split
  · rename_i heq
    subst heq
    exact List.getElem?_concat_length
  · rename_i hne
    rw [List.getElem?_append]
    split
    · rfl
    · rename_i hlt
      have hle : h.sessions.length < handle := Nat.lt_of_le_of_ne (Nat.le_of_not_lt hlt) hne
      rw [session?, List.getElem?_eq_none (Nat.le_of_lt hle), List.getElem?_eq_none]
      simp
      omega

theorem standing_create (h : Hub) (id : SessionId) (token : Option Token) (capacity handle : Nat) :
    (h.create id token capacity).2.standing handle
      = if h.sessions.length = handle then (h.standing handle).act (.create id token capacity)
        else h.standing handle := by
  have hs := h.session?_create id token capacity handle
  split
  · rename_i heq
    rw [if_pos heq] at hs
    unfold standing Standing.act
    rw [hs]
    rfl
  · rename_i hne
    rw [if_neg hne] at hs
    exact standing_of_eq rfl rfl rfl rfl hs

/-- the audience of an event are those that it is for -/
theorem mem_audience_iff_hears (h : Hub) (adminOnly : Bool) (handle : Nat) :
    handle ∈ h.audience adminOnly ↔ (h.standing handle).hears adminOnly = true := by
  rw [audience, List.mem_filter, ← includes_iff, Standing.hears, Bool.and_eq_true]
  rfl

theorem standing_publish {h : Hub} (hm : h.MembersSound) (event : Event) (adminOnly : Bool) (handle : Nat) :
    (h.publish event adminOnly).2.standing handle
      = if (h.standing handle).hears adminOnly then (h.standing handle).act (.publish event)
        else h.standing handle := by
  simp only [publish, Standing.act]
  cases frameOf event with
  | error e => exact (ite_self _).symm
  | ok frame =>
    refine (standing_enqueueEach _ (nodup_audience hm adminOnly) handle h).trans ?_
    simp only [mem_audience_iff_hears]
    rfl

theorem standing_receive (h : Hub) (target : Nat) (limit : Option Nat) (handle : Nat) :
    (h.receive target limit).2.standing handle
      = if target = handle then (h.standing handle).act (.receive limit) else h.standing handle := by
  unfold receive
  cases hs : h.session? target with
  | none =>
    show h.standing handle = _
    split
    · rename_i ht
      subst ht
      exact (Standing.change_of_none hs _).symm
    · rfl
  | some s =>
    show (h.modify target fun _ => (s.receive h.clock limit).2).standing handle = _
    rw [standing_modify]
    split
    · rename_i ht
      subst ht
      simp only [standing, Standing.act, Standing.change, hs, Option.map_some]
    · rfl

/-- **What touches a session is all that changes its standing.** -/
theorem standing_act {h : Hub} (hm : h.MembersSound) (handle : Nat) (a : Action) :
    (h.act a).standing handle = (h.touch? handle a).toList.foldl Standing.act (h.standing handle) := by
  have hif (c : Prop) [Decidable c] (t : Touch) :
      ((if c then some t else none).toList.foldl Standing.act (h.standing handle))
        = if c then (h.standing handle).act t else h.standing handle := by
    split <;> rfl
  cases a with
  | create id token capacity => exact (h.standing_create id token capacity handle).trans (hif _ (.create id token capacity)).symm
  | join target =>
    refine (standing_join hm target handle).trans ?_
    simp only [touch?]
    split
    · rfl
    · exact (hif _ _).symm
  | leave id => exact (standing_leave hm id handle).trans (hif _ .leave).symm
  | drain => exact h.standing_drain handle
  | publish event adminOnly => exact (standing_publish hm event adminOnly handle).trans (hif _ (.publish event)).symm
  | enqueue target d => exact (h.standing_modify target handle _).trans (hif _ (.enqueue d)).symm
  | close target => exact (h.standing_modify target handle _).trans (hif _ .close).symm
  | receive target limit => exact (h.standing_receive target limit handle).trans (hif _ (.receive limit)).symm
  | take target n => exact (h.standing_modify target handle _).trans (hif _ (.take n)).symm
  | dropClient target => exact (h.standing_modify target handle _).trans (hif _ .dropClient).symm
  | write target =>
    refine (h.standing_modify target handle _).trans ?_
    rw [touch?, hif]
    by_cases ht : target = handle
    · rw [if_pos ht]
      cases hb : (h.standing handle).isBusy with
      | true => rw [if_pos ⟨ht, rfl⟩]; rfl
      | false =>
        rw [if_neg (fun h' => nomatch h'.2)]
        exact Standing.change_of_fixed fun s hs => congrArg (·.getD s) (Standing.step_of_not_busy hb s hs)
    · rw [if_neg ht, if_neg (fun h' => ht h'.1)]
  | tick ms => rfl
  | settle =>
    refine (h.standing_settle handle).trans ?_
    rw [touch?, hif]
    cases hb : (h.standing handle).isBusy with
    | true => rfl
    | false => exact Standing.settle_of_not_busy hb
  | advance ms => exact Hub.standing_settle { h with clock := h.clock + ms } handle

/-- the pieces that the client of a session reads are told from its standing -/
theorem entriesOf_delivers (h : Hub) (handle : Nat) (a : Action) :
    entriesOf handle (h.delivers a) = (h.touch? handle a).toList.flatMap (h.standing handle).delivers := by
  have hread (target : Nat) (f : Session → Bytes) (t : Touch)
      (ht : (h.standing handle).delivers t = (h.session? handle).toList.map f) :
      entriesOf handle ((h.session? target).toList.map fun s => (target, f s))
        = (if target = handle then some t else none).toList.flatMap (h.standing handle).delivers := by
    rw [show (h.session? target).toList.map (fun s => (target, f s))
      = ((h.session? target).toList.map f).map (target, ·) from List.map_map.symm]
    split
    · rename_i heq
      subst heq
      rw [entriesOf_self, Option.toList_some, List.flatMap_singleton, ht]
    · rename_i hne
      exact entriesOf_of_ne hne _
  have hsilent (c : Prop) [Decidable c] (t : Touch) (ht : (h.standing handle).delivers t = []) :
      [] = (if c then some t else none).toList.flatMap (h.standing handle).delivers := by
    split
    · rw [Option.toList_some, List.flatMap_singleton, ht]
    · rfl
  cases a with
  | create id token capacity => exact hsilent _ (.create id token capacity) rfl
  | join target =>
    simp only [touch?]
    split
    · rfl
    · exact hsilent _ .giveWay rfl
  | leave id => exact hsilent _ .leave rfl
  | drain => rfl
  | publish event adminOnly => exact hsilent _ (.publish event) rfl
  | enqueue target d => exact hsilent _ (.enqueue d) rfl
  | close target => exact hsilent _ .close rfl
  | receive target limit =>
    refine Eq.trans ?_ (hread target (fun s => (s.receive h.clock limit).1) (.receive limit) rfl)
    simp only [delivers, receive]
    cases h.session? target <;> rfl
  | take target n => exact hread target (fun s => (s.events.take n).1) (.take n) rfl
  | dropClient target => exact hsilent _ .dropClient rfl
  | write target => exact hsilent _ .write rfl
  | tick ms => rfl
  | settle => exact hsilent _ .settle rfl
  | advance ms => rfl

end Hub

/-! ## what stays -/

namespace Session

/-- what a session keeps: its id and its token, and that it is closed once it is -/
structure Keeps (s t : Session) : Prop where
  id : t.id = s.id
  token : t.token = s.token
  closed : s.closed = true → t.closed = true

theorem Keeps.refl (s : Session) : s.Keeps s := ⟨rfl, rfl, fun h => h⟩

theorem Keeps.trans {s t u : Session} (hst : s.Keeps t) (htu : t.Keeps u) : s.Keeps u :=
  ⟨htu.id.trans hst.id, htu.token.trans hst.token, fun h => htu.closed (hst.closed h)⟩

theorem keeps_step {clock : Nat} {s t : Session} (h : s.step clock = some t) : s.Keeps t := by
  obtain ⟨-, rfl | ⟨-, -, d, queue, -, rfl⟩ | ⟨-, left, expires, rest, events, -, -, rfl⟩⟩ := step_cases h
  · exact ⟨rfl, rfl, fun _ => rfl⟩
  · exact ⟨rfl, rfl, fun h => h⟩
  · exact ⟨rfl, rfl, fun h => h⟩

theorem keeps_stepTimes (clock n : Nat) (s : Session) : s.Keeps (s.stepTimes clock n) := by
  induction n generalizing s with
  | zero => exact .refl s
  | succ n ih =>
    unfold stepTimes
    cases h : s.step clock with
    | none => exact .refl s
    | some t => exact (keeps_step h).trans (ih t)

theorem keeps_settle (clock : Nat) (s : Session) : s.Keeps (s.settle clock) := keeps_stepTimes clock _ s

theorem keeps_enqueue (s : Session) (d : QueuedFrame) : s.Keeps (s.enqueue d).2 := by
  unfold enqueue
  split
  · exact ⟨rfl, rfl, fun h => h⟩
  · exact .refl s

theorem keeps_receiveFrom (clock fuel limit : Nat) (pieces : List Bytes) (s : Session) :
    s.Keeps (s.receiveFrom clock fuel pieces limit).2 := by
  induction fuel generalizing s pieces limit with
  | zero => exact .refl s
  | succ fuel ih =>
    unfold receiveFrom
    cases ht : s.events.take limit with
    | mk piece events =>
      cases piece with
      | nil => exact .refl s
      | cons b piece =>
        have hread : s.Keeps { s with events } := ⟨rfl, rfl, fun h => h⟩
        exact (hread.trans (keeps_settle clock _)).trans (ih _ _ _)

theorem keeps_receive (clock : Nat) (limit : Option Nat) (s : Session) : s.Keeps (s.receive clock limit).2 :=
  keeps_receiveFrom clock (s.undelivered + 1) (limit.getD s.undelivered) [] s

end Session

namespace Standing

theorem exists_keeps_change {v : Standing} {s : Session} (hs : v.session = some s) {f : Session → Session}
    (hf : s.Keeps (f s)) : ∃ t, (v.change f).session = some t ∧ s.Keeps t :=
  ⟨f s, by rw [change, hs]; rfl, hf⟩

theorem exists_keeps_depart {v : Standing} {s : Session} (hs : v.session = some s) :
    ∃ t, v.depart.session = some t ∧ s.Keeps t := by
  unfold depart
  rw [hs]
  cases v.isMember with
  | true => exact ⟨s.close, rfl, rfl, rfl, fun _ => rfl⟩
  | false => exact ⟨s, rfl, .refl s⟩

theorem exists_keeps_act {v : Standing} {s : Session} (hs : v.session = some s) {t : Touch}
    (ht : ∀ id token capacity, t ≠ .create id token capacity) : ∃ t', (v.act t).session = some t' ∧ s.Keeps t' := by
  cases t with
  | create id token capacity => exact absurd rfl (ht id token capacity)
  | join => exact ⟨s, hs, .refl s⟩
  | giveWay => exact ⟨s, hs, .refl s⟩
  | leave => exact exists_keeps_depart hs
  | drain => exact exists_keeps_depart hs
  | publish event =>
    simp only [act]
    cases frameOf event with
    | error e => exact ⟨s, hs, .refl s⟩
    | ok frame => exact exists_keeps_change hs (s.keeps_enqueue _)
  | enqueue d => exact exists_keeps_change hs (s.keeps_enqueue d)
  | close => exact exists_keeps_change hs ⟨rfl, rfl, fun _ => rfl⟩
  | receive limit => exact exists_keeps_change hs (s.keeps_receive _ limit)
  | take n => exact exists_keeps_change hs ⟨rfl, rfl, fun h => h⟩
  | dropClient => exact exists_keeps_change hs ⟨rfl, rfl, fun h => h⟩
  | write =>
    refine exists_keeps_change hs ?_
    cases h : s.step v.clock with
    | none => exact .refl s
    | some t => exact Session.keeps_step h
  | tick ms => exact ⟨s, hs, .refl s⟩
  | settle => exact exists_keeps_change hs (s.keeps_settle _)
  | advance ms => exact exists_keeps_change (v := { v with clock := v.clock + ms }) hs (s.keeps_settle _)

end Standing

namespace Hub

theorem keeps_act {h : Hub} (hm : h.MembersSound) {handle : Nat} {s : Session} (hs : h.session? handle = some s)
    (a : Action) : ∃ t, (h.act a).session? handle = some t ∧ s.Keeps t := by
  have hact := standing_act hm handle a
  cases ht : h.touch? handle a with
  | none =>
    rw [ht] at hact
    exact ⟨s, (congrArg Standing.session hact).trans hs, .refl s⟩
  | some t =>
    rw [ht] at hact
    obtain ⟨t', ht', hk⟩ := Standing.exists_keeps_act (v := h.standing handle) hs (t := t) (by
      rintro id token capacity rfl
      obtain ⟨_, _, _, rfl⟩ := touches_of_touch? ht
      exact Nat.lt_irrefl _ (List.getElem?_eq_some_iff.mp hs).1)
    exact ⟨t', (congrArg Standing.session hact).trans ht', hk⟩

end Hub

end TunnelControl
