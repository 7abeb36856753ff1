import TunnelControl.Proofs.Session.Standing

/-!
# Sessions apart from each other

How a session fares, and what its client reads, depends on what touches it in a run and on nothing else: not on how many
other sessions there are, on what their clients do, or on events that are not for it.

A run may be eager: then all writers do what they can behind each action, so that none is ever found busy.  Otherwise
their steps are actions among the others.

* `Ledger.touches eager handle l as`   what touches a session in a run, in order;
* `experience_run`                     how it fares in the run is told from these;
* `isolated`                           so two runs that agree on them are the same to the session.
-/

namespace TunnelControl

/-- how a session fares: its standing, and what its client has read, piece by piece -/
structure Experience where
  standing : Standing
  received : List Bytes

namespace Experience

def act (e : Experience) (t : Touch) : Experience :=
  ⟨e.standing.act t, e.received ++ e.standing.delivers t⟩

def settle (e : Experience) : Experience := { e with standing := e.standing.settle }

/-- a touch, behind which an eager writer does what it can -/
def go (eager : Bool) (e : Experience) (t : Touch) : Experience := if eager then (e.act t).settle else e.act t

end Experience

namespace Ledger

def experience (l : Ledger) (handle : Nat) : Experience := ⟨l.hub.standing handle, entriesOf handle l.delivered⟩

/-- an action, behind which eager writers do what they can -/
def go (eager : Bool) (l : Ledger) (a : Hub.Action) : Ledger := if eager then (l.act a).act .settle else l.act a

def goOn (eager : Bool) (l : Ledger) (as : List Hub.Action) : Ledger := as.foldl (go eager) l

/-- what touches a session in a run -/
def touches (eager : Bool) (handle : Nat) : Ledger → List Hub.Action → List Touch
  | _, [] => []
  | l, a :: as => (l.hub.touch? handle a).toList ++ touches eager handle (l.go eager a) as

/-- a session of one ledger is as a session of another one: as far as its client can tell, and closed or not -/
structure SeenAlike (l : Ledger) (handle : Nat) (m : Ledger) (handle' : Nat) : Prop where
  received : entriesOf handle l.delivered = entriesOf handle' m.delivered
  /-- with the same bytes to read and the same end of the stream -/
  session : l.hub.session? handle = m.hub.session? handle'
  closed : l.hub.isClosed handle = m.hub.isClosed handle'

/-! ## one action -/

theorem experience_act {l : Ledger} (hm : l.hub.MembersSound) (handle : Nat) (a : Hub.Action) :
    (l.act a).experience handle = (l.hub.touch? handle a).toList.foldl Experience.act (l.experience handle) := by
  have hstanding : (l.act a).hub.standing handle = _ := Hub.standing_act hm handle a
  have hreceived : entriesOf handle (l.act a).delivered = _ := entriesOf_append handle l.delivered (l.hub.delivers a)
  rw [Hub.entriesOf_delivers] at hreceived
  unfold experience
  rw [hstanding, hreceived]
  cases l.hub.touch? handle a with
  | none => exact congrArg (Experience.mk _) (List.append_nil _)
  | some t => exact congrArg (Experience.mk _) (congrArg _ (List.append_nil _))

theorem experience_settle (l : Ledger) (handle : Nat) :
    (l.act .settle).experience handle = (l.experience handle).settle := by
  have hstanding : (l.act .settle).hub.standing handle = _ := l.hub.standing_settle handle
  unfold experience Experience.settle
  rw [hstanding]
  exact congrArg (Experience.mk _) (congrArg (entriesOf handle) (List.append_nil _))

theorem membersSound_go {l : Ledger} (hm : l.hub.MembersSound) (eager : Bool) (a : Hub.Action) :
    (l.go eager a).hub.MembersSound := by
  cases eager with
  | true => exact Hub.membersSound_act (Hub.membersSound_act hm a) .settle
  | false => exact Hub.membersSound_act hm a

/-- an eager writer is never found busy -/
def Rested (eager : Bool) (l : Ledger) (handle : Nat) : Prop := eager = true → (l.hub.standing handle).isBusy = false

theorem rested_go (eager : Bool) (l : Ledger) (a : Hub.Action) (handle : Nat) : (l.go eager a).Rested eager handle := by
  rintro rfl
  show ((l.act a).hub.settle.standing handle).isBusy = false
  rw [Hub.standing_settle]
  exact Standing.not_busy_settle _

/-- **How a session fares with an action is told from what touches it.** -/
theorem experience_go {l : Ledger} {eager : Bool} {handle : Nat} (hm : l.hub.MembersSound)
    (hr : l.Rested eager handle) (a : Hub.Action) :
    (l.go eager a).experience handle
      = (l.hub.touch? handle a).toList.foldl (Experience.go eager) (l.experience handle) := by
  have hact := experience_act hm handle a
  cases eager with
  | false =>
    show (l.act a).experience handle = _
    rw [hact]
    cases l.hub.touch? handle a <;> rfl
  | true =>
    show ((l.act a).act .settle).experience handle = _
    rw [experience_settle, hact]
    cases l.hub.touch? handle a with
    | none =>
      -- what does not touch the session leaves its writer at rest
      show { l.experience handle with standing := (l.hub.standing handle).settle } = l.experience handle
      rw [Standing.settle_of_not_busy (hr rfl)]
      rfl
    | some t => rfl

/-! ## runs -/

theorem experience_run {l : Ledger} {eager : Bool} {handle : Nat} (hm : l.hub.MembersSound)
    (hr : l.Rested eager handle) (as : List Hub.Action) :
    (l.goOn eager as).experience handle
      = (l.touches eager handle as).foldl (Experience.go eager) (l.experience handle) := by
  induction as generalizing l with
  | nil => rfl
  | cons a as ih =>
    show ((l.go eager a).goOn eager as).experience handle = _
    rw [ih (membersSound_go hm eager a) (rested_go eager l a handle), experience_go hm hr, touches, List.foldl_append]

theorem touches_append (eager : Bool) (handle : Nat) (l : Ledger) (as bs : List Hub.Action) :
    l.touches eager handle (as ++ bs) = l.touches eager handle as ++ (l.goOn eager as).touches eager handle bs := by
  induction as generalizing l with
  | nil => rfl
  | cons a as ih =>
    show (l.hub.touch? handle a).toList ++ (l.go eager a).touches eager handle (as ++ bs) = _
    rw [ih, ← List.append_assoc]
    rfl

/-- one touch comes after the other, so that a run can be cut behind each -/
theorem exists_cut {eager : Bool} {handle : Nat} {l : Ledger} {as : List Hub.Action} {ts : List Touch}
    (h : ts <+: l.touches eager handle as) : ∃ bs, bs <+: as ∧ l.touches eager handle bs = ts := by
  induction as generalizing l ts with
  | nil => exact ⟨[], List.nil_prefix, (List.prefix_nil.mp h).symm⟩
  | cons a as ih =>
    cases ts with
    | nil => exact ⟨[], List.nil_prefix, rfl⟩
    | cons t ts =>
      rw [touches] at h
      cases ht : l.hub.touch? handle a with
      | none =>
        rw [ht] at h
        obtain ⟨bs, hbs, heq⟩ := ih (l := l.go eager a) h
        refine ⟨a :: bs, List.cons_prefix_cons.mpr ⟨rfl, hbs⟩, ?_⟩
        rw [touches, ht, heq]
        rfl
      | some u =>
        rw [ht] at h
        obtain ⟨rfl, hts⟩ := List.cons_prefix_cons.mp h
        obtain ⟨bs, hbs, heq⟩ := ih (l := l.go eager a) hts
        refine ⟨a :: bs, List.cons_prefix_cons.mpr ⟨rfl, hbs⟩, ?_⟩
        rw [touches, ht, heq]
        rfl

theorem experience_ofTimeout (deliveryTimeout handle handle' : Nat) :
    (ofTimeout deliveryTimeout).experience handle = (ofTimeout deliveryTimeout).experience handle' := rfl

theorem seenAlike_of_experience {l m : Ledger} {handle handle' : Nat}
    (h : l.experience handle = m.experience handle') : l.SeenAlike handle m handle' := by
  have hs : l.hub.session? handle = m.hub.session? handle' := congrArg (·.standing.session) h
  refine ⟨congrArg Experience.received h, hs, ?_⟩
  unfold Hub.isClosed
  rw [hs]

/-! ## what does not touch a session -/

/-- no other session has the id of this one -/
def HasOwnId (l : Ledger) (handle : Nat) : Prop :=
  ∀ other id, other ≠ handle → l.hub.id? other = some id → l.hub.id? handle ≠ some id

theorem id?_goOn {eager : Bool} {l : Ledger} {handle : Nat} {id : SessionId} (h : l.hub.id? handle = some id)
    (as : List Hub.Action) : (l.goOn eager as).hub.id? handle = some id := by
  induction as generalizing l with
  | nil => exact h
  | cons a as ih =>
    refine ih ?_
    cases eager with
    | true => exact Hub.id?_act .settle (Hub.id?_act a h)
    | false => exact Hub.id?_act a h

/-- a session with an id of its own never gives way to another one -/
theorem giveWay_not_mem_touches {eager : Bool} {handle : Nat} {l : Ledger} {as : List Hub.Action}
    (h : (l.goOn eager as).HasOwnId handle) : .giveWay ∉ l.touches eager handle as := by
  induction as generalizing l with
  | nil => exact List.not_mem_nil
  | cons a as ih =>
    rw [touches, List.mem_append, not_or, Option.mem_toList]
    refine ⟨fun ht => ?_, ih h⟩
    cases Hub.touches_of_touch? ht with
    | giveWay target hne hd =>
      unfold Hub.displaces at hd
      rw [Bool.and_eq_true, Bool.and_eq_true, beq_iff_eq] at hd
      obtain ⟨id, hid⟩ := Option.isSome_iff_exists.mp hd.1.2
      exact h target id hne (id?_goOn (hd.2.trans hid) (.join target :: as)) (id?_goOn hid (.join target :: as))

/-- the writer of a session at rest does nothing of which others know -/
theorem write_not_mem_touches {handle : Nat} {l : Ledger} (hr : l.Rested true handle) (as : List Hub.Action) :
    .write ∉ l.touches true handle as ∧ .settle ∉ l.touches true handle as := by
  induction as generalizing l with
  | nil => exact ⟨List.not_mem_nil, List.not_mem_nil⟩
  | cons a as ih =>
    obtain ⟨hw, hs⟩ := ih (rested_go true l a handle)
    rw [touches, List.mem_append, List.mem_append, not_or, not_or, Option.mem_toList, Option.mem_toList]
    refine ⟨⟨fun ht => ?_, hw⟩, fun ht => ?_, hs⟩
    · cases Hub.touches_of_touch? ht with
      | write hb => exact Bool.noConfusion ((hr rfl).symm.trans hb)
    · cases Hub.touches_of_touch? ht with
      | settle hb => exact Bool.noConfusion ((hr rfl).symm.trans hb)

/-- **Two runs that agree on what touches a session are the same to it, at every step.**  To a session with an id of
its own these touches are its own operations, what its client does, the time and the events that are for it
(`Standing.hears`: while it is a member, and not those for elevated sessions if it has no token); and its writer is none
of them if writers are eager. -/
theorem isolated (deliveryTimeout : Nat) (eager : Bool) {as bs : List Hub.Action} {handle handle' : Nat}
    (h : (ofTimeout deliveryTimeout).touches eager handle as
      = (ofTimeout deliveryTimeout).touches eager handle' bs) :
    (∀ as', as' <+: as →
      (∃ bs', bs' <+: bs ∧ (ofTimeout deliveryTimeout).touches eager handle' bs'
        = (ofTimeout deliveryTimeout).touches eager handle as') ∧
      ∀ bs', bs' <+: bs → (ofTimeout deliveryTimeout).touches eager handle' bs'
          = (ofTimeout deliveryTimeout).touches eager handle as' →
        ((ofTimeout deliveryTimeout).goOn eager as').SeenAlike handle
          ((ofTimeout deliveryTimeout).goOn eager bs') handle') ∧
    (((ofTimeout deliveryTimeout).goOn eager as).HasOwnId handle →
      .giveWay ∉ (ofTimeout deliveryTimeout).touches eager handle as) ∧
    (eager = true → .write ∉ (ofTimeout deliveryTimeout).touches eager handle as ∧
      .settle ∉ (ofTimeout deliveryTimeout).touches eager handle as) := by
  have hm : (ofTimeout deliveryTimeout).hub.MembersSound := ⟨nofun, List.Pairwise.nil⟩
  have hr (n : Nat) : (ofTimeout deliveryTimeout).Rested eager n := fun _ => rfl
  refine ⟨fun as' has => ⟨?_, fun bs' _ heq => ?_⟩, giveWay_not_mem_touches, ?_⟩
  · refine exists_cut ?_
    obtain ⟨more, rfl⟩ := has
    rw [← h, touches_append]
    exact List.prefix_append _ _
  · refine seenAlike_of_experience ?_
    rw [experience_run hm (hr handle), experience_run hm (hr handle'), heq,
      experience_ofTimeout deliveryTimeout handle handle']
  · rintro rfl
    exact write_not_mem_touches (hr handle) as

/-- one session by itself, and the same session behind two elevated ones, of which one takes nothing and one goes
away, and which alone hear of the progress of an update -/
theorem isolated_crowded :
    ∃ as bs : List Hub.Action,
      as = [.create ⟨5⟩ none 4, .join 0, .publish .managerStopping false, .take 0 3, .tick 10, .take 0 9] ∧
      bs = [.create ⟨7⟩ (some ⟨0, 0⟩) 0, .create ⟨8⟩ (some ⟨0, 0⟩) 9, .create ⟨5⟩ none 4, .join 0, .join 1, .join 2,
        .publish (.updateProgress { }) true, .publish .managerStopping false, .dropClient 1, .take 2 3,
        .publish (.updateProgress { }) true, .tick 10, .take 2 9] ∧
      (ofTimeout 500).touches true 0 as = (ofTimeout 500).touches true 2 bs ∧
      ((ofTimeout 500).goOn true as).SeenAlike 0 ((ofTimeout 500).goOn true bs) 2 ∧
      (((ofTimeout 500).goOn true bs).hub.session? 2).map (·.events.content) = some [0] := by
  have hsame : (ofTimeout 500).touches true 0 [.create ⟨5⟩ none 4, .join 0, .publish .managerStopping false,
        .take 0 3, .tick 10, .take 0 9]
      = (ofTimeout 500).touches true 2 [.create ⟨7⟩ (some ⟨0, 0⟩) 0, .create ⟨8⟩ (some ⟨0, 0⟩) 9,
        .create ⟨5⟩ none 4, .join 0, .join 1, .join 2, .publish (.updateProgress { }) true,
        .publish .managerStopping false, .dropClient 1, .take 2 3, .publish (.updateProgress { }) true, .tick 10,
        .take 2 9] := by decide +kernel
  refine ⟨_, _, rfl, rfl, hsame, ?_, by decide +kernel⟩
  exact ((isolated 500 true hsame).1 _ (List.prefix_refl _)).2 _ (List.prefix_refl _) hsame.symm

end Ledger

end TunnelControl
