import TunnelControl.Proofs.Control.Watch

/-!
# The order of events in a watch

All events of one kind go through one observer, which hands them on in the order in which they arrive.  The observers
do not wait for each other, so that events of different kinds may change places on their way.

* `Watching.arrived`     the events that arrive in a run, in their order;
* `Watching.Queued`      for each kind, what has arrived has reached the watch, or waits for the observer;
* `printed_isPrefix`     what is printed of a kind is the first of what arrived, in its order;
* `nothing_waits`        if all that arrived is printed, nothing is on its way.
-/

namespace TunnelControl

namespace Watching

/-- what arrives by a move -/
def arrives : Move → List Event
  | .arrive e => [e]
  | _ => []

/-- the events that arrive in a run, in their order -/
def arrived (moves : List Move) : List Event := moves.flatMap arrives

/-- the events of a kind, in their order -/
def ofKind (kind : EventKind) (es : List Event) : List Event := es.filter fun e => e.kind = kind

/-- of each kind, the first of what has arrived has reached the watch, and the rest waits for the observer -/
structure Queued (es reached : List Event) (queue : EventKind → List Event) (w : Watching) : Prop where
  observers : ∃ taken, w.observers = watchers taken queue
  waiting (kind : EventKind) : ofKind kind reached ++ queue kind = ofKind kind es

variable {limit : Option Nat} {es reached : List Event} {queue : EventKind → List Event} {w : Watching}

theorem ofKind_append (kind : EventKind) (es later : List Event) :
    ofKind kind (es ++ later) = ofKind kind es ++ ofKind kind later := List.filter_append ..

theorem ofKind_singleton (kind : EventKind) (e : Event) : ofKind kind [e] = if kind = e.kind then [e] else [] := by
  unfold ofKind
  by_cases h : e.kind = kind
  · rw [List.filter_cons_of_pos (by simpa using h), if_pos h.symm, List.filter_nil]
  · rw [List.filter_cons_of_neg (by simpa using h), if_neg (Ne.symm h), List.filter_nil]

theorem eq_nil_of_ofKind (h : ∀ kind, ofKind kind es = []) : es = [] := by
  rw [List.eq_nil_iff_forall_not_mem]
  intro e he
  have hmem : e ∈ ofKind e.kind es := List.mem_filter.mpr ⟨he, by simp⟩
  rw [h] at hmem
  cases hmem

/-- an observer of a watch is that of a kind -/
theorem observer_cases (taken queue : EventKind → List Event) (observer : Nat) :
    (∃ kind, observer = observerOf kind) ∨ (watchers taken queue).observer? observer = none := by
  match observer with
  | 0 => exact .inl ⟨.updateFound, rfl⟩
  | 1 => exact .inl ⟨.updateProgress, rfl⟩
  | 2 => exact .inl ⟨.managerStopping, rfl⟩
  | 3 => exact .inl ⟨.tunnelStateChanged, rfl⟩
  | n + 4 => exact .inr (by simp [Observers.observer?, watchers, EventKind.all, observerOf])

theorem queued_start (limit : Option Nat) : Queued [] [] (fun _ => []) (start limit) :=
  ⟨⟨_, observers_start limit⟩, fun _ => rfl⟩

theorem Queued.kind_eq (h : Queued es reached queue w) {kind : EventKind} {e : Event} (he : e ∈ queue kind) :
    e.kind = kind := by
  have hmem : e ∈ ofKind kind es := h.waiting kind ▸ List.mem_append_right _ he
  simpa using (List.mem_filter.mp hmem).2

theorem queued_arrive (h : Queued es reached queue w) (e : Event) :
    Queued (es ++ [e]) reached (fun kind => if kind = e.kind then queue kind ++ [e] else queue kind) (w.arrive e) where
  observers := by
    obtain ⟨taken, hobservers⟩ := h.observers
    exact ⟨taken, (congrArg (·.dispatch e) hobservers).trans (dispatch_watchers e)⟩
  waiting kind := by
    rw [ofKind_append, ofKind_singleton, ← h.waiting kind]
    by_cases hkind : kind = e.kind
    · rw [if_pos hkind, if_pos hkind, List.append_assoc]
    · rw [if_neg hkind, if_neg hkind, List.append_nil]

theorem queued_handOn (h : Queued es reached queue w) (observer : Nat) :
    ∃ queue', Queued es (reached ++ w.reaches (.handOn observer)) queue' (w.act (.handOn observer)) := by
  obtain ⟨taken, hobservers⟩ := h.observers
  obtain ⟨kind, rfl⟩ | hnone := observer_cases taken queue observer
  · have hreaches : w.reaches (.handOn (observerOf kind)) = (queue kind).head?.toList := by
      rw [reaches, hobservers, queue_observer?]
    rw [hreaches, act, handOn_watchers hobservers]
    cases hqueue : queue kind with
    | nil =>
      rw [List.head?_nil, Option.toList_none, List.append_nil]
      exact ⟨queue, h⟩
    | cons e rest =>
      obtain ⟨taken', htaken⟩ := deliverTo_watchers taken hqueue
      have he : e.kind = kind := h.kind_eq (hqueue ▸ List.mem_cons_self)
      rw [← hobservers] at htaken
      refine ⟨_, ⟨taken', htaken⟩, fun other => ?_⟩
      rw [List.head?_cons, Option.toList_some, ofKind_append, ofKind_singleton, ← h.waiting other, he]
      by_cases hother : other = kind
      · rw [if_pos hother, if_pos hother, hother, hqueue, List.append_assoc, List.singleton_append]
      · rw [if_neg hother, if_neg hother, List.append_nil]
  · have hreaches : w.reaches (.handOn observer) = [] := by
      rw [reaches, hobservers, hnone]
      rfl
    have hact : w.act (.handOn observer) = w := by
      rw [act, handOn_eq, hobservers, hnone]
      rfl
    rw [hreaches, hact, List.append_nil]
    exact ⟨queue, h⟩

theorem observers_print (w : Watching) : (w.act .print).observers = w.observers := by
  show (w.print.getD w).observers = _
  unfold print
  split <;> rfl

theorem queued_act (h : Queued es reached queue w) (m : Move) :
    ∃ queue', Queued (es ++ arrives m) (reached ++ w.reaches m) queue' (w.act m) := by
  cases m with
  | arrive e =>
    show ∃ queue', Queued (es ++ [e]) (reached ++ []) queue' _
    rw [List.append_nil]
    exact ⟨_, queued_arrive h e⟩
  | handOn observer =>
    show ∃ queue', Queued (es ++ []) _ queue' _
    rw [List.append_nil]
    exact queued_handOn h observer
  | print =>
    show ∃ queue', Queued (es ++ []) (reached ++ []) queue' _
    rw [List.append_nil, List.append_nil]
    exact ⟨queue, observers_print w ▸ h.observers, h.waiting⟩

theorem queued_run (h : Queued es reached queue w) (moves : List Move) :
    ∃ queue', Queued (es ++ arrived moves) (reached ++ w.reached moves) queue' (w.run moves) := by
  induction moves generalizing es reached queue w with
  | nil =>
    refine ⟨queue, ?_⟩
    rw [Watching.reached, arrived, List.flatMap_nil, List.append_nil, List.append_nil]
    exact h
  | cons m moves ih =>
    obtain ⟨queue', hact⟩ := queued_act h m
    rw [Watching.reached, arrived, List.flatMap_cons, ← List.append_assoc, ← List.append_assoc]
    exact ih hact

/-- **Events of one kind are printed in the order in which they arrive**, whoever goes first. -/
theorem printed_isPrefix (limit : Option Nat) (moves : List Move) (kind : EventKind) :
    ofKind kind ((start limit).run moves).printed <+: ofKind kind (arrived moves) := by
  obtain ⟨queue, hqueued⟩ := queued_run (queued_start limit) moves
  have hsound := sound_run (sound_start limit) moves
  have hwaiting := hqueued.waiting kind
  rw [List.nil_append, List.nil_append] at hwaiting
  rw [List.nil_append] at hsound
  rw [← hwaiting, ← hsound.reached, ofKind_append, List.append_assoc]
  exact List.prefix_append ..

/-- the tunnel's news come first, but the news that the service stops overtake them, and end the watch -/
example : ((start none).run [.arrive (.tunnelStateChanged .running), .arrive .managerStopping, .handOn 2, .print,
    .handOn 3, .print]).printed = [.managerStopping] := by decide

/-- when all that arrived is printed, nothing is on its way -/
theorem nothing_waits (hsound : Sound limit reached w) (hqueued : Queued es reached queue w)
    (hprinted : w.printed.Perm es) : w.channel = [] ∧ ∀ kind, queue kind = [] := by
  have hnone (kind : EventKind) : ofKind kind w.channel = [] ∧ queue kind = [] := by
    have hlength : (ofKind kind w.printed).length = (ofKind kind es).length := (hprinted.filter _).length_eq
    rw [← hqueued.waiting kind, ← hsound.reached, ofKind_append, List.length_append, List.length_append] at hlength
    exact ⟨List.eq_nil_of_length_eq_zero (by omega), List.eq_nil_of_length_eq_zero (by omega)⟩
  exact ⟨eq_nil_of_ofKind fun kind => (hnone kind).1, fun kind => (hnone kind).2⟩

end Watching

end TunnelControl
