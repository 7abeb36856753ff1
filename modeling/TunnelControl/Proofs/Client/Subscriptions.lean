import TunnelControl.Client.Observers

/-!
# Subscriptions

Observers are subscribed and unsubscribed, events are dispatched, and each observer takes its events at its own
pace, until it panics perhaps; all that in any order.

* `Observers.run`             a table of observers behind some actions;
* `Observers.subscriptions`   the subscriptions there have been, each with what was done since;
* `Subscription.received`     what its observer gets of that;
* `Observer.after`            what an action does to one observer;
* `Subscription.Tracks`       how far the observer has come, whatever is done.
-/

namespace TunnelControl

namespace Observers

inductive Action
  | subscribe (kind : EventKind) (panicAt : Option Nat)
  | unsubscribe (id : Nat)
  | dispatch (event : Event)
  /-- an observer takes its next event, if there is one -/
  | deliver (id : Nat)
  /-- all observers take what is there for them -/
  | settle
  deriving DecidableEq

/-- the event, if one of a kind is dispatched -/
def Action.event? (kind : EventKind) : Action → Option Event
  | .dispatch event => if event.kind = kind then some event else none
  | _ => none

def act (s : Observers) : Action → Observers
  | .subscribe kind panicAt => (s.subscribe kind panicAt).2
  | .unsubscribe id => s.unsubscribe id
  | .dispatch event => s.dispatch event
  | .deliver id => s.deliverTo id
  | .settle => s.settle

def run (actions : List Action) : Observers := actions.foldl act {}

/-- how often it was confirmed that an observer was removed -/
def confirmations (id : Nat) : Observers → List Action → Nat
  | _, [] => 0
  | s, a :: actions =>
    (if a = .unsubscribe id ∧ s.isRegistered id = true then 1 else 0) + confirmations id (s.act a) actions

end Observers

open Observers (Action)

/-! ## subscriptions -/

/-- the events up to the one on which an observer panics -/
def upToPanic (panicAt : Option Nat) (events : List Event) : List Event :=
  match panicAt with
  | some (n + 1) => events.take (n + 1)
  | _ => events

structure Subscription where
  id : Nat
  kind : EventKind
  panicAt : Option Nat
  /-- all that was done since -/
  since : List Action := []

namespace Subscription

def later (a : Action) (b : Subscription) : Subscription := { b with since := b.since ++ [a] }

def hasEnded (b : Subscription) : Bool := b.since.contains (.unsubscribe b.id)

/-- the events of its kind that were dispatched before it ended -/
def due (b : Subscription) : List Event :=
  (b.since.takeWhile (· != .unsubscribe b.id)).filterMap (Action.event? b.kind)

/-- what its observer gets, in the end -/
def received (b : Subscription) : List Event := upToPanic b.panicAt b.due

/-- its observer has panicked, if these are the events that it has seen -/
def hasPanicked (b : Subscription) (seen : List Event) : Bool :=
  match b.panicAt with
  | some (n + 1) => seen.length = n + 1
  | _ => false

/-- an observer that has not been told anything yet -/
def observer (b : Subscription) : Observer := { id := b.id, kind := b.kind, panicAt := b.panicAt }

theorem hasEnded_later (a : Action) (b : Subscription) :
    (b.later a).hasEnded = (b.hasEnded || a == .unsubscribe b.id) := by
  show (b.since ++ [a]).contains (Action.unsubscribe b.id) = _
  rw [List.contains_append, List.contains_cons, List.contains_nil, Bool.or_false, hasEnded, BEq.comm]

-- what is done last counts only if the subscription did not end before
theorem filterMap_takeWhile_concat (kind : EventKind) (id : Nat) (since : List Action) (a : Action) :
    ((since ++ [a]).takeWhile (· != .unsubscribe id)).filterMap (Action.event? kind)
      = (since.takeWhile (· != .unsubscribe id)).filterMap (Action.event? kind)
        ++ if since.contains (.unsubscribe id) then [] else (a.event? kind).toList := by
  induction since with
  | nil =>
    rw [List.nil_append, List.takeWhile_cons]
    by_cases ha : a = .unsubscribe id
    · subst ha
      rw [if_neg (by simp)]
      rfl
    · rw [if_pos (bne_iff_ne.mpr ha)]
      cases h : a.event? kind with
      | none => exact List.filterMap_cons_none h
      | some event => exact List.filterMap_cons_some h
  | cons c since ih =>
    rw [List.cons_append, List.takeWhile_cons, List.takeWhile_cons, List.contains_cons]
    by_cases hc : c = .unsubscribe id
    · subst hc
      have hstop : ¬(Action.unsubscribe id != .unsubscribe id) = true := by simp
      rw [if_neg hstop, if_neg hstop, beq_self_eq_true, Bool.true_or, if_pos rfl, List.append_nil]
    · have hne : (c != .unsubscribe id) = true := bne_iff_ne.mpr hc
      have hbeq : (Action.unsubscribe id == c) = false := beq_eq_false_iff_ne.mpr (Ne.symm hc)
      rw [if_pos hne, if_pos hne, hbeq, Bool.false_or, List.filterMap_cons, List.filterMap_cons, ih]
      cases c.event? kind <;> rfl

theorem due_later (a : Action) (b : Subscription) :
    (b.later a).due = b.due ++ if b.hasEnded then [] else (a.event? b.kind).toList :=
  filterMap_takeWhile_concat b.kind b.id b.since a

end Subscription

namespace Observers

/-- the subscription with which an action begins one -/
def Action.opened? (id : Nat) : Action → Option Subscription
  | .subscribe kind panicAt => some { id, kind, panicAt }
  | _ => none

/-- the subscriptions behind an action -/
def note (bs : List Subscription) (a : Action) : List Subscription :=
  bs.map (.later a) ++ (a.opened? bs.length).toList

/-- the subscriptions there have been, in order, each with what was done since -/
def subscriptions (actions : List Action) : List Subscription := actions.foldl note []

end Observers

/-! ## how far an observer has come -/

namespace Observer

def after (a : Action) (o : Observer) : Observer :=
  match a with
  | .subscribe .. => o
  | .unsubscribe id => if o.id == id then { o with registered := false } else o
  | .dispatch event => if o.wants event then { o with queue := o.queue ++ [event] } else o
  | .deliver id => if o.id == id then o.take else o
  | .settle => o.takeAll

theorem id_after (a : Action) (o : Observer) : (o.after a).id = o.id := by
  have htakeEach (events : List Event) (o : Observer) : (o.takeEach events).id = o.id := by
    induction events generalizing o with
    | nil => rfl
    | cons event events ih =>
      unfold takeEach
      split
      · rfl
      · exact ih _
  cases a with
  | subscribe kind panicAt => rfl
  | settle => exact htakeEach o.queue o
  | unsubscribe id => exact apply_ite Observer.id .. |>.trans (ite_self _)
  | dispatch event => exact apply_ite Observer.id .. |>.trans (ite_self _)
  | deliver id =>
    unfold after
    simp only
    split
    · unfold take
      split
      · rfl
      · split <;> rfl
    · rfl

theorem panicked_iff (o : Observer) : o.panicked = true ↔ ∃ n, o.panicAt = some (n + 1) ∧ o.seen.length = n + 1 := by
  unfold panicked seen
  rw [List.length_reverse]
  cases o.taken with
  | nil => simp
  | cons event taken => cases o.panicAt <;> simp [eq_comm]

end Observer

/-- how far the observer of a subscription has come -/
structure Subscription.Tracks (b : Subscription) (o : Observer) : Prop where
  id : o.id = b.id
  kind : o.kind = b.kind
  panicAt : o.panicAt = b.panicAt
  registered : o.registered = !b.hasEnded
  seen : o.seen <+: b.due
  /-- all that it has not seen waits for it, as long as it has not panicked -/
  waiting : o.panicked = false → o.seen ++ o.queue = b.due
  bound : ∀ n, o.panicAt = some (n + 1) → o.seen.length ≤ n + 1

namespace Subscription.Tracks

variable {b : Subscription} {o : Observer}

theorem opened {b : Subscription} (hb : b.since = []) : b.Tracks b.observer := by
  have hended : b.hasEnded = false := by rw [hasEnded, hb]; rfl
  have hdue : b.due = [] := by rw [due, hb]; rfl
  exact ⟨rfl, rfl, rfl, by rw [hended]; rfl, List.nil_prefix, fun _ => hdue.symm, fun _ _ => Nat.zero_le _⟩

/-- who has panicked, and who has nothing to take, has seen all that there will ever be for him -/
theorem seen_eq_received (h : b.Tracks o) (hidle : o.panicked = true ∨ o.queue = []) : o.seen = b.received := by
  unfold received upToPanic
  rw [← h.panicAt]
  cases hp : o.panicked with
  | true =>
    obtain ⟨n, hn, hlength⟩ := o.panicked_iff.mp hp
    simp only [hn]
    rw [← hlength]
    exact List.prefix_iff_eq_take.mp h.seen
  | false =>
    obtain hpanicked | hqueue := hidle
    · cases hpanicked.symm.trans hp
    · have hall := h.waiting hp
      rw [hqueue, List.append_nil] at hall
      split
      · rename_i n hn
        rw [← hall]
        exact (List.take_of_length_le (h.bound n hn)).symm
      · exact hall

theorem isPrefix_received (h : b.Tracks o) : o.seen <+: b.received := by
  unfold received upToPanic
  rw [← h.panicAt]
  split
  · rename_i n hn
    exact List.prefix_take_iff.mpr ⟨h.seen, h.bound n hn⟩
  · exact h.seen

theorem later (h : b.Tracks o) {a : Action} (ha : a ≠ .unsubscribe b.id) (he : a.event? b.kind = none) :
    (b.later a).Tracks o := by
  have hended : (b.later a).hasEnded = b.hasEnded := by
    rw [hasEnded_later, beq_eq_false_iff_ne.mpr ha, Bool.or_false]
  have hdue : (b.later a).due = b.due := by
    rw [due_later, he]
    cases b.hasEnded <;> exact List.append_nil _
  exact ⟨h.id, h.kind, h.panicAt, hended ▸ h.registered, hdue ▸ h.seen, fun hp => (h.waiting hp).trans hdue.symm,
    h.bound⟩

theorem ended (h : b.Tracks o) : (b.later (.unsubscribe b.id)).Tracks { o with registered := false } := by
  have hdue : (b.later (.unsubscribe b.id)).due = b.due := by
    rw [due_later]
    cases b.hasEnded <;> exact List.append_nil _
  refine ⟨h.id, h.kind, h.panicAt, ?_, hdue ▸ h.seen, fun hp => (h.waiting hp).trans hdue.symm, h.bound⟩
  show false = !(b.later (.unsubscribe b.id)).hasEnded
  rw [hasEnded_later, beq_self_eq_true, Bool.or_true]
  rfl

theorem dispatched (h : b.Tracks o) (event : Event) :
    (b.later (.dispatch event)).Tracks (o.after (.dispatch event)) := by
  have hne : Action.dispatch event ≠ .unsubscribe b.id := nofun
  have hended : (b.later (.dispatch event)).hasEnded = b.hasEnded := by
    rw [hasEnded_later, beq_eq_false_iff_ne.mpr hne, Bool.or_false]
  have hdue : (b.later (.dispatch event)).due
      = b.due ++ if o.registered && o.kind = event.kind then [event] else [] := by
    rw [due_later, h.registered, h.kind]
    by_cases hk : event.kind = b.kind
    · cases b.hasEnded <;> simp [Action.event?, hk]
    · cases b.hasEnded <;> simp [Action.event?, hk, Ne.symm hk]
  have hregistered : o.registered = !(b.later (.dispatch event)).hasEnded := hended ▸ h.registered
  have hseen : o.seen <+: (b.later (.dispatch event)).due := hdue ▸ h.seen.trans (List.prefix_append ..)
  unfold Observer.after
  by_cases hw : o.wants event = true
  · simp only [if_pos hw]
    rw [Observer.wants, Bool.and_eq_true, Bool.not_eq_true'] at hw
    refine ⟨h.id, h.kind, h.panicAt, hregistered, hseen, fun hp => ?_, h.bound⟩
    rw [hdue, if_pos hw.1, ← h.waiting hp, List.append_assoc]
    rfl
  · simp only [if_neg hw]
    refine ⟨h.id, h.kind, h.panicAt, hregistered, hseen, fun hp => ?_, h.bound⟩
    rw [Observer.wants, hp, Bool.not_false, Bool.and_true] at hw
    rw [hdue, if_neg hw, List.append_nil]
    exact h.waiting hp

theorem takes (h : b.Tracks o) {event : Event} {queue : List Event} (hq : o.queue = event :: queue)
    (hp : o.panicked = false) : b.Tracks { o with queue, taken := event :: o.taken } := by
  have hseen : ({ o with queue, taken := event :: o.taken } : Observer).seen = o.seen ++ [event] :=
    List.reverse_cons
  have hall : (o.seen ++ [event]) ++ queue = b.due := by
    rw [List.append_assoc, List.singleton_append, ← hq]
    exact h.waiting hp
  refine ⟨h.id, h.kind, h.panicAt, h.registered, ?_, fun _ => ?_, fun n hn => ?_⟩
  · rw [hseen, ← hall]
    exact List.prefix_append ..
  · rw [hseen]
    exact hall
  · -- it has not panicked, so that there is one more to see at least
    have hne : o.seen.length ≠ n + 1 := by
      intro hlength
      rw [o.panicked_iff.mpr ⟨n, hn, hlength⟩] at hp
      cases hp
    have hbound := h.bound n hn
    rw [hseen, List.length_append, List.length_singleton]
    omega

theorem take (h : b.Tracks o) : b.Tracks o.take := by
  unfold Observer.take
  cases hq : o.queue with
  | nil => exact h
  | cons event queue =>
    cases hp : o.panicked with
    | true => exact h
    | false => exact h.takes hq hp

theorem takeEach {events : List Event} (h : b.Tracks { o with queue := events }) : b.Tracks (o.takeEach events) := by
  induction events generalizing o with
  | nil => exact h
  | cons event events ih =>
    unfold Observer.takeEach
    cases hp : o.panicked with
    | true => exact ⟨h.id, h.kind, h.panicAt, h.registered, h.seen, fun hnot => (nomatch hnot.symm.trans hp), h.bound⟩
    | false => exact ih (h.takes rfl hp)

theorem after (h : b.Tracks o) (a : Action) : (b.later a).Tracks (o.after a) := by
  cases a with
  | subscribe kind panicAt => exact h.later nofun rfl
  | dispatch event => exact h.dispatched event
  | settle => exact takeEach (h.later nofun rfl)
  | unsubscribe id =>
    unfold Observer.after
    simp only [h.id]
    by_cases hid : b.id = id
    · subst hid
      rw [if_pos (beq_self_eq_true b.id)]
      exact h.id ▸ h.ended
    · rw [if_neg fun heq => hid (beq_iff_eq.mp heq)]
      refine h.later (fun heq => hid ?_) rfl
      cases heq
      rfl
  | deliver id =>
    have hlater := h.later (a := .deliver id) nofun rfl
    unfold Observer.after
    simp only
    split
    · exact hlater.take
    · exact hlater

end Subscription.Tracks

end TunnelControl
