import Mathlib.Data.List.Forall2
import TunnelControl.Proofs.Client.Subscriptions

/-!
# What each observer sees

* `Observers.Tallies`            the observers of a table stand for its subscriptions;
* `Observers.alone id 0 actions` the same actions, but that nobody panics or goes ahead besides one observer;
* `Observers.Attends`            what is promised of a table, and of each observer in it;
* `observers_see_their_events`   it holds behind any actions.
-/

namespace TunnelControl

namespace Observers

variable {s t : Observers}

/-! ## the table -/

theorem next_act (s : Observers) (a : Action) : (s.act a).next = s.next + (a.opened? s.next).toList.length := by
  cases a <;> rfl

theorem all_act (s : Observers) (a : Action) :
    (s.act a).all = s.all.map (·.after a) ++ ((a.opened? s.next).map Subscription.observer).toList := by
  cases a with
  | subscribe kind panicAt =>
    show _ = s.all.map id ++ _
    rw [List.map_id]
    rfl
  | _ => exact (List.append_nil _).symm

/-- observers stand in the table by their numbers -/
def Numbered (s : Observers) : Prop := ∀ (n : Nat) (o : Observer), s.all[n]? = some o → o.id = n

theorem Numbered.observer?_eq (h : s.Numbered) (id : Nat) : s.observer? id = s.all[id]? := by
  unfold observer?
  cases ho : s.all[id]? with
  | none =>
    refine List.find?_eq_none.mpr fun o hmem heq => ?_
    obtain ⟨n, hn⟩ := List.mem_iff_getElem?.mp hmem
    rw [← h n o hn, beq_iff_eq.mp heq, ho] at hn
    cases hn
  | some o =>
    obtain ⟨hlt, hget⟩ := List.getElem?_eq_some_iff.mp ho
    refine List.find?_eq_some_iff_getElem.mpr ⟨beq_iff_eq.mpr (h id o ho), id, hlt, hget, fun j hj => ?_⟩
    have hid := h j _ (List.getElem?_eq_getElem (Nat.lt_trans hj hlt))
    rw [hid, beq_eq_false_iff_ne.mpr (Nat.ne_of_lt hj)]
    rfl

theorem Numbered.isRegistered_eq (h : s.Numbered) (id : Nat) :
    s.isRegistered id = (s.observer? id).any Observer.registered := by
  rw [h.observer?_eq, Bool.eq_iff_iff, isRegistered, List.any_eq_true, Option.any_eq_true]
  constructor
  · rintro ⟨o, hmem, ho⟩
    rw [Bool.and_eq_true, beq_iff_eq] at ho
    obtain ⟨n, hn⟩ := List.mem_iff_getElem?.mp hmem
    obtain rfl := (h n o hn).symm.trans ho.1
    exact ⟨o, hn, ho.2⟩
  · rintro ⟨o, ho, hregistered⟩
    exact ⟨o, List.mem_of_getElem? ho, by rw [h id o ho, beq_self_eq_true, hregistered]; rfl⟩

/-- the subscriptions of a table, and how far their observers have come -/
structure Tallies (bs : List Subscription) (s : Observers) : Prop where
  next : s.next = bs.length
  ids : bs.map Subscription.id = List.range bs.length
  tracks : List.Forall₂ Subscription.Tracks bs s.all

theorem tallies_act {bs : List Subscription} (h : Tallies bs s) (a : Action) :
    Tallies (note bs a) (s.act a) where
  next := by rw [next_act, note, List.length_append, List.length_map, h.next]
  ids := by
    have hlater : (bs.map (.later a)).map Subscription.id = List.range bs.length := by
      rw [List.map_map]
      exact h.ids
    rw [note, List.map_append, List.length_append, List.length_map, hlater]
    cases a with
    | subscribe kind panicAt => exact List.range_succ.symm
    | _ => exact List.append_nil _
  tracks := by
    rw [all_act, h.next]
    refine List.rel_append ?_ ?_
    · rw [List.forall₂_map_left_iff, List.forall₂_map_right_iff]
      exact h.tracks.imp fun b o hb => hb.after a
    · cases a with
      | subscribe kind panicAt => exact .cons (.opened rfl) .nil
      | _ => exact .nil

theorem tallies_foldl {bs : List Subscription} (h : Tallies bs s) (actions : List Action) :
    Tallies (actions.foldl note bs) (actions.foldl act s) := by
  induction actions generalizing bs s with
  | nil => exact h
  | cons a actions ih => exact ih (tallies_act h a)

theorem tallies_run (actions : List Action) : Tallies (subscriptions actions) (run actions) :=
  tallies_foldl ⟨rfl, rfl, .nil⟩ actions

namespace Tallies

variable {bs : List Subscription}

theorem id_eq (h : Tallies bs s) {n : Nat} {b : Subscription} (hb : bs[n]? = some b) : b.id = n := by
  obtain ⟨hlt, -⟩ := List.getElem?_eq_some_iff.mp hb
  have hid := List.getElem?_map (f := Subscription.id) (l := bs) (i := n)
  rw [h.ids, List.getElem?_range hlt, hb] at hid
  exact (Option.some.inj hid).symm

theorem exists_tracks (h : Tallies bs s) {n : Nat} {o : Observer} (ho : s.all[n]? = some o) :
    ∃ b, bs[n]? = some b ∧ b.Tracks o := by
  obtain ⟨hlt, rfl⟩ := List.getElem?_eq_some_iff.mp ho
  have hn : n < bs.length := by
    rw [h.tracks.length_eq]
    exact hlt
  exact ⟨bs[n], List.getElem?_eq_getElem hn, h.tracks.get hn hlt⟩

theorem numbered (h : Tallies bs s) : s.Numbered := by
  intro n o ho
  obtain ⟨b, hb, htracks⟩ := h.exists_tracks ho
  exact htracks.id.trans (h.id_eq hb)

theorem tracks_observer? (h : Tallies bs s) {n : Nat} {b : Subscription} (hb : bs[n]? = some b) :
    ∃ o, s.observer? n = some o ∧ b.Tracks o := by
  obtain ⟨hlt, rfl⟩ := List.getElem?_eq_some_iff.mp hb
  have hn : n < s.all.length := by
    rw [← h.tracks.length_eq]
    exact hlt
  refine ⟨s.all[n], ?_, h.tracks.get hlt hn⟩
  rw [h.numbered.observer?_eq]
  exact List.getElem?_eq_getElem hn

theorem observer?_eq_none (h : Tallies bs s) {n : Nat} (hb : bs[n]? = none) : s.observer? n = none := by
  rw [h.numbered.observer?_eq]
  rw [List.getElem?_eq_none_iff] at hb ⊢
  rwa [← h.tracks.length_eq]

theorem countP_eq (h : Tallies bs s) {p : Subscription → Bool} {q : Observer → Bool}
    (hpq : ∀ b o, b.Tracks o → s.observer? b.id = some o → q o = p b) : s.all.countP q = bs.countP p := by
  have hmap : s.all.map q = bs.map p := by
    refine List.ext_getElem? fun n => ?_
    rw [List.getElem?_map, List.getElem?_map, ← h.numbered.observer?_eq]
    cases hb : bs[n]? with
    | none =>
      rw [h.observer?_eq_none hb]
      rfl
    | some b =>
      obtain ⟨o, ho, htracks⟩ := h.tracks_observer? hb
      rw [ho]
      exact congrArg some (hpq b o htracks ((h.id_eq hb).symm ▸ ho))
  have hcount := congrArg (List.countP id) hmap
  rw [List.countP_map, List.countP_map] at hcount
  exact hcount

theorem count_eq (h : Tallies bs s) (kind : EventKind) :
    s.count kind = bs.countP fun b => b.kind = kind && !b.hasEnded := by
  refine h.countP_eq fun b o htracks _ => ?_
  rw [htracks.registered, htracks.kind, Bool.and_comm]

theorem audience_eq (h : Tallies bs s) (event : Event) :
    s.audience event = bs.countP fun b => b.kind = event.kind && !b.hasEnded && !b.hasPanicked (s.seenBy b.id) := by
  refine h.countP_eq fun b o htracks ho => ?_
  have hpanicked : o.panicked = b.hasPanicked (s.seenBy b.id) := by
    rw [Bool.eq_iff_iff, o.panicked_iff, seenBy, ho, Subscription.hasPanicked, ← htracks.panicAt, Option.map_some,
      Option.getD_some]
    split
    · rename_i n hn
      rw [hn, decide_eq_true_eq]
      exact ⟨fun ⟨m, hm, hlength⟩ => by cases hm; exact hlength, fun hlength => ⟨n, rfl, hlength⟩⟩
    · rename_i hnone
      exact ⟨fun ⟨m, hm, _⟩ => absurd hm (hnone m), nofun⟩
  rw [Observer.wants, htracks.registered, htracks.kind, hpanicked, Bool.and_comm (!b.hasEnded)]

theorem isRegistered_eq (h : Tallies bs s) (id : Nat) : s.isRegistered id = (bs[id]?).any fun b => !b.hasEnded := by
  rw [h.numbered.isRegistered_eq]
  cases hb : bs[id]? with
  | none =>
    rw [h.observer?_eq_none hb]
    rfl
  | some b =>
    obtain ⟨o, ho, htracks⟩ := h.tracks_observer? hb
    rw [ho]
    exact htracks.registered

end Tallies

theorem any_hasEnded_opened (a : Action) (id n : Nat) :
    (((a.opened? id).toList)[n]?).any Subscription.hasEnded = false := by
  cases a with
  | subscribe kind panicAt => cases n <;> rfl
  | _ => rfl

/-- the end of a subscription is confirmed, once -/
theorem confirmations_eq {bs : List Subscription} (h : Tallies bs s) (id : Nat) (actions : List Action) :
    ((bs[id]?).any Subscription.hasEnded).toNat + confirmations id s actions
      = (((actions.foldl note bs)[id]?).any Subscription.hasEnded).toNat := by
  induction actions generalizing bs s with
  | nil => rfl
  | cons a actions ih =>
    rw [List.foldl_cons, ← ih (tallies_act h a), confirmations, ← Nat.add_assoc]
    refine congrArg (· + _) ?_
    rw [h.isRegistered_eq, note, List.getElem?_append, List.length_map, List.getElem?_map]
    cases hb : bs[id]? with
    | none =>
      rw [if_neg (Nat.not_lt.mpr (List.getElem?_eq_none_iff.mp hb)), any_hasEnded_opened,
        if_neg fun hboth => nomatch hboth.2]
      rfl
    | some b =>
      have hid := h.id_eq hb
      rw [if_pos (List.getElem?_eq_some_iff.mp hb).1]
      show b.hasEnded.toNat + (if _ ∧ (!b.hasEnded) = true then 1 else 0) = (b.later a).hasEnded.toNat
      rw [Subscription.hasEnded_later, hid]
      by_cases ha : a = .unsubscribe id
      · rw [ha, beq_self_eq_true, Bool.or_true]
        obtain hended | hended := Bool.eq_false_or_eq_true b.hasEnded
        · rw [if_neg fun hboth => (by rw [hended] at hboth; cases hboth.2), hended]
          rfl
        · rw [if_pos ⟨rfl, by rw [hended]; rfl⟩, hended]
          rfl
      · rw [beq_eq_false_iff_ne.mpr ha, Bool.or_false, if_neg fun hboth => ha hboth.1]
        rfl

/-! ## one observer and the others -/

/-- an action, but that no observer panics or goes ahead besides one -/
def Action.spared? (id next : Nat) : Action → Option Action
  | .subscribe kind panicAt => some (.subscribe kind (if next = id then panicAt else none))
  | .deliver other => if other = id then some (.deliver other) else none
  | a => some a

/-- the same actions, but that no observer panics or goes ahead besides one -/
def alone (id : Nat) : Nat → List Action → List Action
  | _, [] => []
  | next, a :: actions =>
    (a.spared? id next).toList ++ alone id (next + (a.opened? next).toList.length) actions

/-- in two tables one observer stands at the same place, and is the same -/
structure Sharing (id : Nat) (s t : Observers) : Prop where
  next : t.next = s.next
  left : s.all.length = s.next
  right : t.all.length = t.next
  numbered : ∀ o, s.all[id]? = some o → o.id = id
  same : t.all[id]? = s.all[id]?

/-- an action begins an observer, or does something to those that are there -/
theorem getElem?_act (h : s.all.length = s.next) (a : Action) (n : Nat) :
    (s.act a).all[n]? = if n = s.next then (a.opened? n).map Subscription.observer else (s.all[n]?).map (·.after a) := by
  rw [all_act, List.getElem?_append, List.length_map, h, List.getElem?_map]
  obtain hlt | rfl | hlt := Nat.lt_trichotomy n s.next
  · rw [if_pos hlt, if_neg (Nat.ne_of_lt hlt)]
  · rw [if_neg (Nat.lt_irrefl _), if_pos rfl, Nat.sub_self]
    cases (a.opened? s.next) <;> rfl
  · have hbeyond : s.all[n]? = none := List.getElem?_eq_none (h ▸ Nat.le_of_lt hlt)
    obtain ⟨k, rfl⟩ := Nat.exists_eq_add_of_lt hlt
    rw [if_neg (Nat.lt_asymm hlt), if_neg (Nat.ne_of_gt hlt), hbeyond, Nat.add_assoc, Nat.add_sub_cancel_left]
    cases (a.opened? s.next) <;> rfl

theorem length_all_act (h : s.all.length = s.next) (a : Action) : (s.act a).all.length = (s.act a).next := by
  rw [all_act, next_act, List.length_append, List.length_map, h]
  cases a <;> rfl

theorem numbered_act {id : Nat} (h : s.all.length = s.next) (hn : ∀ o, s.all[id]? = some o → o.id = id) (a : Action)
    (o : Observer) (ho : (s.act a).all[id]? = some o) : o.id = id := by
  rw [getElem?_act h] at ho
  split at ho
  · cases a with
    | subscribe kind panicAt =>
      cases ho
      rfl
    | _ => cases ho
  · obtain ⟨o, hold, rfl⟩ := Option.map_eq_some_iff.mp ho
    rw [Observer.id_after, hn o hold]

/-- what the spared action does to the table is the same, at the place of the observer -/
theorem sharing_of_spared {id : Nat} (h : Sharing id s t) {a b : Action} (hb : a.spared? id s.next = some b) :
    Sharing id (s.act a) (t.act b) := by
  have hopened : (b.opened? s.next).toList.length = (a.opened? s.next).toList.length ∧
      (s.next = id → b.opened? s.next = a.opened? s.next) ∧ ∀ o : Observer, o.after b = o.after a := by
    cases a with
    | subscribe kind panicAt =>
      cases hb
      exact ⟨rfl, fun hid => by rw [if_pos hid], fun _ => rfl⟩
    | deliver other =>
      rw [Action.spared?] at hb
      split at hb <;> cases hb
      exact ⟨rfl, fun _ => rfl, fun _ => rfl⟩
    | _ =>
      cases hb
      exact ⟨rfl, fun _ => rfl, fun _ => rfl⟩
  obtain ⟨hlength, hsame, hafter⟩ := hopened
  refine ⟨?_, length_all_act h.left a, length_all_act h.right b, numbered_act h.left h.numbered a, ?_⟩
  · rw [next_act, next_act, h.next, hlength]
  · rw [getElem?_act h.left, getElem?_act h.right, h.next, h.same]
    split
    · rename_i hid
      rw [← hid] at hsame
      rw [hsame rfl]
    · exact congrArg (Option.map · _) (funext hafter)

theorem sharing_act {id : Nat} (h : Sharing id s t) (a : Action) :
    Sharing id (s.act a) (((a.spared? id s.next).map t.act).getD t) := by
  cases hb : a.spared? id s.next with
  | some b => exact sharing_of_spared h hb
  | none =>
    cases a with
    | deliver other =>
      rw [Action.spared?] at hb
      split at hb
      · cases hb
      · rename_i hne
        refine ⟨h.next, length_all_act h.left _, h.right, numbered_act h.left h.numbered _, ?_⟩
        show t.all[id]? = _
        rw [getElem?_act h.left, h.same]
        split
        · rename_i hid
          exact List.getElem?_eq_none (Nat.le_of_eq (h.left.trans hid.symm))
        · cases ho : s.all[id]? with
          | none => rfl
          | some o =>
            have hother : ¬(o.id == other) = true := fun heq => hne ((beq_iff_eq.mp heq).symm.trans (h.numbered o ho))
            exact congrArg some (if_neg hother).symm
    | _ => cases hb

theorem sharing_foldl {id : Nat} (h : Sharing id s t) (actions : List Action) :
    Sharing id (actions.foldl act s) ((alone id s.next actions).foldl act t) := by
  induction actions generalizing s t with
  | nil => exact h
  | cons a actions ih =>
    have hact := ih (sharing_act h a)
    rw [next_act] at hact
    rw [alone, List.foldl_append]
    cases hs : a.spared? id s.next with
    | none =>
      rw [hs] at hact
      exact hact
    | some b =>
      rw [hs] at hact
      exact hact

/-! ## the whole -/

/-- what is true of a table of observers behind some actions -/
structure Attends (actions : List Action) : Prop where
  ids : ∀ (n : Nat) (b : Subscription), (subscriptions actions)[n]? = some b → b.id = n
  /-- once the observers have taken what is there for them, each has seen what it gets -/
  received : ∀ (n : Nat) (b : Subscription), (subscriptions actions)[n]? = some b →
    (run actions).settle.seenBy n = b.received
  /-- and so has one that takes nothing more, whatever the others do; before that it has seen the first of it -/
  early : ∀ (n : Nat) (b : Subscription), (subscriptions actions)[n]? = some b →
    ∃ o, (run actions).observer? n = some o ∧ o.seen <+: b.received ∧ (o.take = o → o.seen = b.received)
  /-- an event goes to so many: those of its kind who are subscribed and have not panicked yet -/
  audience : ∀ event, (run actions).audience event = (subscriptions actions).countP fun b =>
    b.kind = event.kind && !b.hasEnded && !b.hasPanicked ((run actions).seenBy b.id)
  /-- whoever has panicked is counted as well -/
  count : ∀ kind, (run actions).count kind = (subscriptions actions).countP fun b => b.kind = kind && !b.hasEnded
  registered : ∀ id, (run actions).isRegistered id = ((subscriptions actions)[id]?).any fun b => !b.hasEnded
  /-- the end of a subscription is confirmed once -/
  confirmed : ∀ id, confirmations id {} actions = (((subscriptions actions)[id]?).any Subscription.hasEnded).toNat
  /-- and nobody else notices it -/
  others : ∀ id other, other ≠ id → ((run actions).unsubscribe id).observer? other = (run actions).observer? other
  /-- each observer is as if nobody else panicked or went ahead -/
  apart : ∀ id, (run actions).observer? id = (run (alone id 0 actions)).observer? id

theorem take_eq_self_iff (o : Observer) : o.take = o ↔ o.panicked = true ∨ o.queue = [] := by
  unfold Observer.take
  split
  · rename_i hq
    exact ⟨fun _ => .inr hq, fun _ => rfl⟩
  · rename_i event queue hq
    cases hp : o.panicked with
    | true => exact ⟨fun _ => .inl rfl, fun _ => rfl⟩
    | false =>
      refine ⟨fun heq => ?_, fun hidle => ?_⟩
      · have hlength := congrArg (fun o => o.queue.length) heq
        rw [hq] at hlength
        exact absurd hlength (Nat.ne_of_lt (Nat.lt_succ_self _))
      · obtain hpanicked | hempty := hidle
        · cases hpanicked
        · cases hq.symm.trans hempty

theorem queue_takeEach (events : List Event) (o : Observer) : (o.takeEach events).queue = [] := by
  induction events generalizing o with
  | nil => rfl
  | cons event events ih =>
    unfold Observer.takeEach
    split
    · rfl
    · exact ih _

theorem Tallies.seenBy_settle {bs : List Subscription} (h : Tallies bs s) {n : Nat} {b : Subscription}
    (hb : bs[n]? = some b) : s.settle.seenBy n = b.received := by
  obtain ⟨o, ho, htracks⟩ := h.tracks_observer? hb
  have hnumbered : s.settle.Numbered := (tallies_act h .settle).numbered
  have hall : s.settle.observer? n = some o.takeAll := by
    rw [hnumbered.observer?_eq]
    show (s.all.map Observer.takeAll)[n]? = _
    rw [List.getElem?_map, ← h.numbered.observer?_eq, ho]
    rfl
  have htaken : b.Tracks o.takeAll := Subscription.Tracks.takeEach htracks
  rw [seenBy, hall]
  exact htaken.seen_eq_received (.inr (queue_takeEach o.queue o))

theorem Numbered.observer?_unsubscribe (h : s.Numbered) {id other : Nat} (hne : other ≠ id)
    (hn : (s.unsubscribe id).Numbered) : (s.unsubscribe id).observer? other = s.observer? other := by
  rw [hn.observer?_eq, h.observer?_eq]
  show (s.all.map _)[other]? = _
  rw [List.getElem?_map]
  cases ho : s.all[other]? with
  | none => rfl
  | some o =>
    have hother : ¬(o.id == id) = true := fun heq => hne ((h other o ho).symm.trans (beq_iff_eq.mp heq))
    exact congrArg some (if_neg hother)

/-- **Each observer sees the events of its kind that are dispatched while it is subscribed, in order and once, up to the
one on which it panics.**  Nothing that the others do makes a difference to it. -/
theorem observers_see_their_events (actions : List Action) : Attends actions where
  ids := fun n b hb => (tallies_run actions).id_eq hb
  received := fun n b hb => (tallies_run actions).seenBy_settle hb
  early := by
    intro n b hb
    obtain ⟨o, ho, htracks⟩ := (tallies_run actions).tracks_observer? hb
    exact ⟨o, ho, htracks.isPrefix_received, fun hidle => htracks.seen_eq_received ((take_eq_self_iff o).mp hidle)⟩
  audience := (tallies_run actions).audience_eq
  count := (tallies_run actions).count_eq
  registered := (tallies_run actions).isRegistered_eq
  confirmed := by
    intro id
    have hcount := confirmations_eq (tallies_run []) id actions
    rwa [show (subscriptions [])[id]? = none from rfl, Option.any_none, Bool.toNat_false, Nat.zero_add] at hcount
  others := by
    intro id other hne
    have h := tallies_run actions
    exact h.numbered.observer?_unsubscribe hne (tallies_act h (.unsubscribe id)).numbered
  apart := by
    intro id
    have hempty : Sharing id {} {} := ⟨rfl, rfl, rfl, nofun, rfl⟩
    have h := sharing_foldl hempty actions
    rw [(tallies_run actions).numbered.observer?_eq, (tallies_run _).numbered.observer?_eq]
    exact h.same.symm

/-- the first observer panics on its second event, and the last one is unsubscribed before it has taken anything -/
example :
    let quits : List Action := [.subscribe .managerStopping (some 2), .subscribe .updateFound none,
      .subscribe .managerStopping none, .dispatch .managerStopping, .dispatch (.updateFound .available),
      .dispatch .managerStopping, .deliver 0, .deliver 0, .dispatch .managerStopping, .unsubscribe 2,
      .dispatch .managerStopping, .unsubscribe 2]
    (List.range 3).map ((run quits).settle.seenBy ·)
        = [[.managerStopping, .managerStopping], [.updateFound .available],
          [.managerStopping, .managerStopping, .managerStopping]] ∧
      (run quits).count .managerStopping = 1 ∧ (run quits).audience .managerStopping = 0 := by
  decide

end Observers

end TunnelControl
