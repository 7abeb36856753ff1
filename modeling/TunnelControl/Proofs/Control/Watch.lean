import TunnelControl.Control.Perform
import TunnelControl.Proofs.Control.Quota

/-!
# A watch and its count

Events arrive for the observers of a watch, which hand them on, and the watch prints them; all that in any order.

* `Watching.Move`, `Watching.run`  a watch behind some moves;
* `Watching.reached`               the events that have reached it, in their order;
* `Watching.Sound`                 what it has printed is what the loop prints, in every run;
* `Watching.Counts limit wanted`   a watch with a limit keeps to the count that is wanted, in every run;
* `arriveEach_eq_run`              events that come one at a time reach the watch in their order;
* `watch_counts`                   it keeps to its limit unless that is nothing, for which it takes one.
-/

namespace TunnelControl

/-! ## runs of a watch -/

namespace Watching

inductive Move
  /-- an event arrives for its observer -/
  | arrive (e : Event)
  /-- an observer hands its next event on, if it has one -/
  | handOn (observer : Nat)
  /-- the next event is printed, if there is one and the watch has not ended -/
  | print

def act (w : Watching) : Move → Watching
  | .arrive e => w.arrive e
  | .handOn observer => (w.handOn observer).getD w
  | .print => w.print.getD w

def run (w : Watching) (moves : List Move) : Watching := moves.foldl act w

/-- what reaches the watch by a move: the event that an observer hands on -/
def reaches (w : Watching) : Move → List Event
  | .handOn observer => ((w.observers.observer? observer).bind fun o => o.queue.head?).toList
  | _ => []

/-- the events that reach the watch in a run, in their order -/
def reached (w : Watching) : List Move → List Event
  | [] => []
  | m :: moves => w.reaches m ++ (w.act m).reached moves

/-- the watch prints so many of the events that have reached it, the first ones in their order, and ends with the
last of them -/
structure PrintsFirst (wanted : Option Nat) (es : List Event) (w : Watching) : Prop where
  isPrefix : w.printed <+: es.take (quota wanted es)
  complete (h : w.print = none) : w.printed = es.take (quota wanted es)
  ended : w.ended = true ↔ IsOver wanted w.printed

/-- a watch with a limit prints as many events as are wanted, whatever arrives and whoever goes first -/
def Counts (limit wanted : Option Nat) : Prop :=
  ∀ moves, PrintsFirst wanted ((start limit).reached moves) ((start limit).run moves)

/-- what was printed is what the loop prints of it, and what has reached the watch besides is in the channel -/
structure Sound (limit : Option Nat) (es : List Event) (w : Watching) : Prop where
  limit_eq : w.limit = limit
  reached : w.printed ++ w.channel = es
  watched : TunnelControl.watched limit w.printed = (w.printed, w.ended)

variable {limit : Option Nat} {es : List Event} {w : Watching}

theorem sound_start (limit : Option Nat) : Sound limit [] (start limit) := ⟨rfl, rfl, rfl⟩

theorem handOn_eq (w : Watching) (observer : Nat) :
    w.handOn observer = ((w.observers.observer? observer).bind fun o => o.queue.head?).map fun e =>
      { w with observers := w.observers.deliverTo observer, channel := w.channel ++ [e] } := by
  unfold handOn
  cases w.observers.observer? observer with
  | none => rfl
  | some o => cases ho : o.queue <;> simp [ho]

theorem sound_act (h : Sound limit es w) (m : Move) : Sound limit (es ++ w.reaches m) (w.act m) := by
  cases m with
  | arrive e =>
    show Sound limit (es ++ []) (w.arrive e)
    rw [List.append_nil]
    exact ⟨h.limit_eq, h.reached, h.watched⟩
  | handOn observer =>
    rw [act, handOn_eq, reaches]
    cases (w.observers.observer? observer).bind fun o => o.queue.head? with
    | none =>
      rw [Option.map_none, Option.getD_none, Option.toList_none, List.append_nil]
      exact h
    | some e => exact ⟨h.limit_eq, by rw [← h.reached, List.append_assoc]; rfl, h.watched⟩
  | print =>
    show Sound limit (es ++ []) (w.print.getD w)
    rw [List.append_nil]
    obtain ⟨limit', observers, channel, printed, ended⟩ := w
    obtain ⟨rfl, hreached, hwatched⟩ := h
    cases ended with
    | true => exact ⟨rfl, hreached, hwatched⟩
    | false =>
      cases channel with
      | nil => exact ⟨rfl, hreached, hwatched⟩
      | cons e channel =>
        refine ⟨rfl, ?_, watched_concat hwatched e⟩
        show printed ++ [e] ++ channel = es
        rw [← hreached, List.append_assoc, List.singleton_append]

theorem sound_run (h : Sound limit es w) (moves : List Move) : Sound limit (es ++ w.reached moves) (w.run moves) := by
  induction moves generalizing es w with
  | nil =>
    rw [reached, List.append_nil]
    exact h
  | cons m moves ih =>
    rw [reached, ← List.append_assoc]
    exact ih (sound_act h m)

theorem Sound.watched_of_print_eq_none (h : Sound limit es w) (hprint : w.print = none) :
    TunnelControl.watched limit es = (w.printed, w.ended) := by
  obtain ⟨limit', observers, channel, printed, ended⟩ := w
  obtain ⟨rfl, rfl, hwatched⟩ := h
  cases ended with
  | true =>
    rw [TunnelControl.watched, watchedFrom_append, ← TunnelControl.watched, hwatched]
    rfl
  | false =>
    cases channel with
    | nil =>
      rw [List.append_nil]
      exact hwatched
    | cons e channel => cases hprint

theorem Sound.printsFirst (h : Sound limit es w) : PrintsFirst (limit.map (max 1)) es w := by
  have hquota : (TunnelControl.watched limit es).1 = es.take (quota (limit.map (max 1)) es) :=
    (watchedFrom_eq limit 0 es).1
  constructor
  · rw [← hquota, ← h.reached]
    exact isPrefix_watched_append h.watched w.channel
  · intro hprint
    rw [← hquota, h.watched_of_print_eq_none hprint]
  · have hended := (watchedFrom_eq limit 0 w.printed).2
    rw [← TunnelControl.watched, h.watched] at hended
    exact hended

theorem counts_max (limit : Option Nat) : Counts limit (limit.map (max 1)) := by
  intro moves
  exact (sound_run (sound_start limit) moves).printsFirst

/-! ## events that come one at a time -/

/-- the observer of a kind -/
def observerOf : EventKind → Nat
  | .updateFound => 0
  | .updateProgress => 1
  | .managerStopping => 2
  | .tunnelStateChanged => 3

/-- the observers of a watch, with what they have taken and what waits for them -/
def watchers (taken queue : EventKind → List Event) : Observers where
  next := 4
  all := EventKind.all.map fun kind => { id := observerOf kind, kind, queue := queue kind, taken := taken kind }

theorem observers_start (limit : Option Nat) : (start limit).observers = watchers (fun _ => []) (fun _ => []) := rfl

theorem observerOf_inj {k l : EventKind} : observerOf k = observerOf l ↔ k = l := by
  cases k <;> cases l <;> decide

section
variable {taken queue : EventKind → List Event} {kind : EventKind}

theorem queue_observer? (taken queue : EventKind → List Event) (kind : EventKind) :
    (((watchers taken queue).observer? (observerOf kind)).bind fun o => o.queue.head?) = (queue kind).head? := by
  cases kind <;> rfl

theorem dispatch_watchers (e : Event) : (watchers taken queue).dispatch e =
    watchers taken fun kind => if kind = e.kind then queue kind ++ [e] else queue kind := by
  simp only [Observers.dispatch, watchers, List.map_map, Observers.mk.injEq, true_and]
  refine List.map_congr_left fun kind _ => ?_
  by_cases h : kind = e.kind <;> simp [Observer.wants, Observer.panicked, h]

theorem deliverTo_watchers (taken : EventKind → List Event) {e : Event} {rest : List Event}
    (h : queue kind = e :: rest) :
    ∃ taken', (watchers taken queue).deliverTo (observerOf kind) =
      watchers taken' fun other => if other = kind then rest else queue other := by
  refine ⟨fun other => if other = kind then e :: taken other else taken other, ?_⟩
  simp only [Observers.deliverTo, watchers, List.map_map, Observers.mk.injEq, true_and]
  refine List.map_congr_left fun other _ => ?_
  by_cases hother : other = kind
  · subst hother
    simp [Observer.take, Observer.panicked, h]
  · simp [hother, observerOf_inj]

end

/-- nothing waits for an observer, and nothing can be printed -/
structure Idle (w : Watching) : Prop where
  observers : ∃ taken, w.observers = watchers taken fun _ => []
  print : w.print = none

/-- an event is seen to: its observer hands it on, and it is printed if the watch goes on -/
def seeTo (e : Event) : List Move := [.arrive e, .handOn (observerOf e.kind), .print]

theorem handOn_watchers {taken queue : EventKind → List Event} (hw : w.observers = watchers taken queue)
    (kind : EventKind) : w.handOn (observerOf kind) = (queue kind).head?.map fun e =>
      { w with observers := w.observers.deliverTo (observerOf kind), channel := w.channel ++ [e] } := by
  rw [handOn_eq, hw, queue_observer?]

theorem map_id_watchers {taken queue : EventKind → List Event} (hw : w.observers = watchers taken queue) :
    w.observers.all.map Observer.id = EventKind.all.map observerOf := by
  rw [hw]
  rfl

theorem next_of_idle {taken : EventKind → List Event} (hw : w.observers = watchers taken fun _ => []) :
    w.next = w.print := by
  have hnone : (EventKind.all.map observerOf).findSome? w.handOn = none := by
    rw [List.findSome?_eq_none_iff]
    intro observer hobserver
    obtain ⟨kind, -, rfl⟩ := List.mem_map.mp hobserver
    rw [handOn_watchers hw]
    rfl
  rw [next, map_id_watchers hw, hnone]

/-- one event waits, for the observer of its kind, which is the one that goes first -/
theorem next_of_waiting {taken queue : EventKind → List Event} (hw : w.observers = watchers taken queue)
    {kind : EventKind} {e : Event} (hkind : queue kind = [e]) (hothers : ∀ other, other ≠ kind → queue other = []) :
    ∃ w', w.next = some w' ∧ w.handOn (observerOf kind) = some w' ∧
      (∃ taken', w'.observers = watchers taken' fun _ => []) ∧ w'.channel = w.channel ++ [e] ∧ w'.ended = w.ended := by
  obtain ⟨taken', htaken⟩ := deliverTo_watchers taken hkind
  have hqueue : (fun other => if other = kind then [] else queue other) = fun _ => [] := by
    funext other
    split
    · rfl
    · rename_i hother
      exact hothers other hother
  rw [hqueue, ← hw] at htaken
  have hhand := handOn_watchers hw kind
  rw [hkind, htaken] at hhand
  have hnone (other : EventKind) (hother : other ≠ kind) : w.handOn (observerOf other) = none := by
    rw [handOn_watchers hw, hothers other hother]
    rfl
  refine ⟨_, ?_, hhand, ⟨taken', rfl⟩, rfl, rfl⟩
  rw [next, map_id_watchers hw, List.findSome?_map]
  cases kind <;> simp [EventKind.all, hhand, hnone]

theorem nextTimes_of_next_eq_none (h : w.next = none) (n : Nat) : nextTimes n w = w := by
  cases n with
  | zero => rfl
  | succ n => rw [nextTimes, h]

theorem print_eq_none_iff : w.print = none ↔ w.ended = true ∨ w.channel = [] := by
  unfold print
  cases w.ended <;> cases w.channel <;> simp

theorem exists_print {e : Event} {rest : List Event} (hended : w.ended = false) (hchannel : w.channel = e :: rest) :
    ∃ w', w.print = some w' ∧ w'.observers = w.observers ∧ w'.channel = rest := by
  rw [print, hended, hchannel]
  exact ⟨_, rfl, rfl, rfl⟩

theorem settle_arrive (h : Idle w) (e : Event) :
    (w.arrive e).settle = w.run (seeTo e) ∧ Idle (w.run (seeTo e)) ∧ w.reached (seeTo e) = [e] := by
  obtain ⟨⟨taken, hobservers⟩, hprint⟩ := h
  have harrive : (w.arrive e).observers = watchers taken fun kind => if kind = e.kind then [e] else [] := by
    show w.observers.dispatch e = _
    rw [hobservers]
    exact dispatch_watchers e
  obtain ⟨w', hnext, hhand, ⟨taken', hobservers'⟩, hchannel', hended'⟩ :=
    next_of_waiting harrive (if_pos rfl) fun other hother => if_neg hother
  have hreaches : (w.arrive e).reaches (.handOn (observerOf e.kind)) = [e] := by
    rw [reaches, harrive, queue_observer?, if_pos rfl]
    rfl
  have hreached : w.reached (seeTo e) = [e] := by
    show [] ++ ((w.arrive e).reaches _ ++ ([] ++ [])) = [e]
    rw [hreaches]
    rfl
  have hrun : w.run (seeTo e) = w'.print.getD w' := by
    show act (act (w.arrive e) (.handOn (observerOf e.kind))) .print = _
    rw [act, act, hhand, Option.getD_some]
  have hfuel :
      (w.arrive e).observers.all.foldl (fun n o => n + o.queue.length) w.channel.length = w.channel.length + 1 := by
    rw [harrive]
    generalize e.kind = kind
    cases kind <;> rfl
  have hsettle : (w.arrive e).settle = nextTimes (2 * w.channel.length + 1) w' := by
    show nextTimes (2 * List.foldl _ w.channel.length _) _ = _
    rw [hfuel, Nat.mul_add, nextTimes, hnext]
  rw [hsettle, hrun]
  by_cases hended : w.ended = true
  · have hstops : w'.print = none := print_eq_none_iff.mpr (.inl (hended'.trans hended))
    rw [nextTimes_of_next_eq_none ((next_of_idle hobservers').trans hstops), hstops]
    exact ⟨rfl, ⟨⟨taken', hobservers'⟩, hstops⟩, hreached⟩
  · have hnil : w.channel = [] := (print_eq_none_iff.mp hprint).resolve_left hended
    have hlast : w'.channel = [e] := hchannel'.trans (congrArg (· ++ [e]) hnil)
    obtain ⟨v, hv, hobservers'', hchannel''⟩ := exists_print (hended'.trans (eq_false_of_ne_true hended)) hlast
    rw [hnil, hv]
    refine ⟨?_, ⟨⟨taken', hobservers''.trans hobservers'⟩, print_eq_none_iff.mpr (.inr hchannel'')⟩, hreached⟩
    show nextTimes 1 w' = v
    rw [nextTimes, next_of_idle hobservers', hv]
    rfl

theorem idle_start (limit : Option Nat) : Idle (start limit) := ⟨⟨fun _ => [], rfl⟩, rfl⟩

theorem run_append (w : Watching) (before later : List Move) : w.run (before ++ later) = (w.run before).run later :=
  List.foldl_append

theorem reached_append (w : Watching) (before later : List Move) :
    w.reached (before ++ later) = w.reached before ++ (w.run before).reached later := by
  induction before generalizing w with
  | nil => rfl
  | cons m before ih => rw [List.cons_append, reached, reached, ih, List.append_assoc]; rfl

/-- events that come one at a time reach the watch in their order -/
theorem arriveEach_eq_run (h : Idle w) (es : List Event) :
    w.arriveEach es = w.run (es.flatMap seeTo) ∧ w.reached (es.flatMap seeTo) = es ∧ Idle (w.arriveEach es) := by
  induction es generalizing w with
  | nil => exact ⟨rfl, rfl, h⟩
  | cons e es ih =>
    obtain ⟨hsettle, hidle, hreached⟩ := settle_arrive h e
    obtain ⟨hrun, hrest, hlast⟩ := ih hidle
    have heach : w.arriveEach (e :: es) = (w.run (seeTo e)).arriveEach es := congrArg (arriveEach · es) hsettle
    rw [List.flatMap_cons, run_append, reached_append, heach, hreached, hrest]
    exact ⟨hrun, rfl, hlast⟩

theorem printed_arriveEach (limit : Option Nat) (es : List Event) :
    ((start limit).arriveEach es).printed = es.take (quota (limit.map (max 1)) es) := by
  obtain ⟨hrun, hreached, hidle⟩ := arriveEach_eq_run (idle_start limit) es
  have hprints := counts_max limit (es.flatMap seeTo)
  rw [← hrun, hreached] at hprints
  exact hprints.complete hidle.print

/-- **A watch prints as many events as it was asked for, up to the news that the service stops.  One that was asked for
none prints one.** -/
theorem watch_counts (limit : Option Nat) :
    Counts limit (limit.map (max 1)) ∧
      (∀ last observer arrived far, (ControlCommand.watch limit).conclude last observer arrived far =
        (arrived.take (quota (limit.map (max 1)) arrived)).map .event) ∧
      (Counts limit limit ↔ limit ≠ some 0) := by
  refine ⟨counts_max limit, ?_, ?_, ?_⟩
  · intro last observer arrived far
    rw [← printed_arriveEach]
    rfl
  · rintro hcounts rfl
    -- with nothing printed it should have ended
    have hended := (hcounts []).ended
    cases hended.mpr (.inl ⟨0, rfl, Nat.le_refl 0⟩)
  · intro hlimit
    have hmax : limit.map (max 1) = limit := by
      cases limit with
      | none => rfl
      | some n =>
        have hn : n ≠ 0 := fun hn => hlimit (congrArg some hn)
        rw [Option.map_some, Nat.max_eq_right (Nat.one_le_iff_ne_zero.mpr hn)]
    have hcounts := counts_max limit
    rwa [hmax] at hcounts

/-- an event arrives, is handed on and printed -/
def oneEvent : List Move := [.arrive (.tunnelStateChanged .running), .handOn 3, .print]

theorem not_counts_of_none_wanted :
    (start (some 0)).reached oneEvent = [.tunnelStateChanged .running] ∧
      ((start (some 0)).run oneEvent).printed = [.tunnelStateChanged .running] ∧
      quota (some 0) [.tunnelStateChanged .running] = 0 ∧ ¬Counts (some 0) (some 0) := by
  have hreached : (start (some 0)).reached oneEvent = [.tunnelStateChanged .running] := by decide
  have hprinted : ((start (some 0)).run oneEvent).printed = [.tunnelStateChanged .running] := by decide
  refine ⟨hreached, hprinted, by decide, ?_⟩
  intro hcounts
  have hprefix := (hcounts oneEvent).isPrefix
  rw [hprinted, hreached] at hprefix
  revert hprefix
  decide

end Watching

end TunnelControl
