import TunnelControl.Control.Lookout
import TunnelControl.Control.Perform
import TunnelControl.Proofs.Client.Notices
import TunnelControl.Proofs.Control.Order

/-!
# A watch whose events have ended

The client of a watch reads events from a stream, until it ends or breaks, or something comes that is no event.  The
watch does not come to know of it: its client keeps the table of observers, so that all of them are there to the end.

* `Lookout.Move`, `run`       a watch with its client behind some moves;
* `Lookout.dispatched`        the events that the client has dispatched, in their order;
* `Lookout.exists_watch`      what happens is a run of the watch alone, for which those events arrive;
* `Lookout.WaitsInVain`       the reading has ended, all is printed, and the watch goes on;
* `Lookout.waitsInVain_iff`   when that is so, and that it stays so.
-/

namespace TunnelControl

namespace Lookout

/-! ## runs -/

inductive Move
  /-- the far end sends some bytes -/
  | feed (data : Bytes)
  /-- the stream of events ends -/
  | endEvents
  /-- it breaks -/
  | breakEvents
  /-- the client reads the next event, or a part of it -/
  | read
  /-- an observer hands its next event on, if it has one -/
  | handOn (observer : Nat)
  /-- the next event is printed, if there is one and the watch has not ended -/
  | print
  /-- the watch ends if nobody is left -/
  | hangUp
  deriving DecidableEq

def act (l : Lookout) : Move → Lookout
  | .feed data => (l.feed data).getD l
  | .endEvents => l.endEvents
  | .breakEvents => l.breakEvents
  | .read => l.read.getD l
  | .handOn observer => (l.handOn observer).getD l
  | .print => l.print.getD l
  | .hangUp => l.hangUp.getD l

def run (l : Lookout) (moves : List Move) : Lookout := moves.foldl act l

/-- the event that is dispatched by a move, if it is one -/
def dispatches (l : Lookout) : Move → List Event
  | .read => l.client.announced?.toList
  | _ => []

/-- the events that are dispatched in a run, in their order -/
def dispatched (l : Lookout) : List Move → List Event
  | [] => []
  | m :: moves => l.dispatches m ++ (l.act m).dispatched moves

/-- the client reads no more and all that it dispatched is printed, but the watch has not ended -/
structure WaitsInVain (dispatched : List Event) (l : Lookout) : Prop where
  reader : l.client.isReceiving = false
  printed : l.printed.Perm dispatched
  waits : l.ended = false

/-- a watch that ends when its events have ended, whatever comes before -/
def NeverInVain (limit : Option Nat) : Prop :=
  ∀ client moves, ¬WaitsInVain ((start limit client).dispatched moves) ((start limit client).run moves)

theorem run_append (l : Lookout) (before later : List Move) : l.run (before ++ later) = (l.run before).run later :=
  List.foldl_append

theorem dispatched_append (l : Lookout) (before later : List Move) :
    l.dispatched (before ++ later) = l.dispatched before ++ (l.run before).dispatched later := by
  induction before generalizing l with
  | nil => rfl
  | cons m before ih =>
    rw [List.cons_append, dispatched, dispatched, ih, List.append_assoc]
    rfl

/-! ## nobody hangs up -/

variable {l : Lookout} {taken queue : EventKind → List Event}

/-- as long as the watch goes on, its client keeps the table, and so all observers -/
theorem hangUp_eq_none (h : l.client.observers = Watching.watchers taken queue) : l.hangUp = none := by
  unfold hangUp
  cases hended : l.ended with
  | true => rfl
  | false =>
    have hopen : l.isOpen = true := by
      rw [isOpen, h, Watching.watchers, List.any_map, List.any_eq_true]
      refine ⟨.updateFound, List.mem_cons_self, ?_⟩
      simp [goesOn, keepsTable, hended, Observer.panicked]
    rw [hopen]
    simp

/-! ## the watch alone -/

/-- what a move is for the watch alone: a dispatched event arrives -/
def watchMoves (l : Lookout) : Move → List Watching.Move
  | .read => l.client.announced?.toList.map .arrive
  | .handOn observer => [.handOn observer]
  | .print => [.print]
  | _ => []

theorem arrived_watchMoves (l : Lookout) (m : Move) : Watching.arrived (l.watchMoves m) = l.dispatches m := by
  cases m with
  | read =>
    rw [watchMoves, dispatches]
    cases l.client.announced? <;> rfl
  | _ => rfl

theorem watching_withWatching (l : Lookout) {w : Watching} (h : w.limit = l.limit) :
    (l.withWatching w).watching = w := by
  obtain ⟨limit, observers, channel, printed, ended⟩ := w
  obtain rfl := h
  rfl

theorem limit_handOn {w w' : Watching} {observer : Nat} (h : w.handOn observer = some w') : w'.limit = w.limit := by
  rw [Watching.handOn_eq] at h
  obtain ⟨e, -, rfl⟩ := Option.map_eq_some_iff.mp h
  rfl

theorem limit_print {w w' : Watching} (h : w.print = some w') : w'.limit = w.limit := by
  unfold Watching.print at h
  split at h
  · cases h
    rfl
  · cases h

theorem watching_read (l : Lookout) : (l.read.getD l).watching = l.watching.run (l.watchMoves .read) := by
  rw [read, watchMoves]
  cases hstep : l.client.noticeStep with
  | none =>
    rw [Client.announced?_of_noticeStep hstep]
    rfl
  | some client =>
    obtain ⟨reader, -, hnoticed⟩ := Client.noticed_of_noticeStep hstep
    rw [Option.map_some, Option.getD_some]
    generalize l.client.announced? = e? at hnoticed
    cases hnoticed <;> rfl

theorem watching_act (h : l.client.observers = Watching.watchers taken queue) (m : Move) :
    (l.act m).watching = l.watching.run (l.watchMoves m) := by
  cases m with
  | feed data =>
    show ((l.feed data).getD l).watching = l.watching
    unfold feed
    split <;> rfl
  | endEvents => rfl
  | breakEvents => rfl
  | read => exact watching_read l
  | handOn observer =>
    show ((l.handOn observer).getD l).watching = (l.watching.handOn observer).getD l.watching
    rw [handOn]
    cases hhand : l.watching.handOn observer with
    | none => rfl
    | some w => exact watching_withWatching l (limit_handOn hhand)
  | print =>
    show (l.print.getD l).watching = l.watching.print.getD l.watching
    rw [print]
    cases hprint : l.watching.print with
    | none => rfl
    | some w => exact watching_withWatching l (limit_print hprint)
  | hangUp =>
    show (l.hangUp.getD l).watching = l.watching
    rw [hangUp_eq_none h]
    rfl

/-- the moves of a run for the watch alone -/
def watchRun (l : Lookout) : List Move → List Watching.Move
  | [] => []
  | m :: moves => l.watchMoves m ++ (l.act m).watchRun moves

theorem arrived_watchRun (l : Lookout) (moves : List Move) : Watching.arrived (l.watchRun moves) = l.dispatched moves := by
  induction moves generalizing l with
  | nil => rfl
  | cons m moves ih =>
    rw [watchRun, Watching.arrived, List.flatMap_append, dispatched, ← ih, ← arrived_watchMoves]
    rfl

theorem watching_run {es reached : List Event} (h : Watching.Queued es reached queue l.watching) (moves : List Move) :
    (l.run moves).watching = l.watching.run (l.watchRun moves) := by
  induction moves generalizing l es reached queue with
  | nil => rfl
  | cons m moves ih =>
    obtain ⟨taken, hobservers⟩ := h.observers
    have hact := watching_act hobservers m
    obtain ⟨queue', hlater⟩ := Watching.queued_run h (l.watchMoves m)
    rw [← hact] at hlater
    rw [watchRun, Watching.run_append, ← hact]
    exact ih hlater

/-- **For the watch alone, a run with the client is a run in which the dispatched events arrive.** -/
theorem exists_watch (limit : Option Nat) (client : Client) (moves : List Move) :
    ∃ alone, ((start limit client).run moves).watching = (Watching.start limit).run alone ∧
      Watching.arrived alone = (start limit client).dispatched moves :=
  ⟨(start limit client).watchRun moves, watching_run (Watching.queued_start limit) moves, arrived_watchRun ..⟩

/-! ## once the events have ended -/

/-- the client reads no more, and nothing is on its way to the watch, which goes on -/
structure Deserted (l : Lookout) : Prop where
  reader : l.client.notices = none
  observers : ∃ taken, l.client.observers = Watching.watchers taken fun _ => []
  channel : l.channel = []
  waits : l.ended = false

theorem isReceiving_eq_false_iff {c : Client} : c.isReceiving = false ↔ c.notices = none := by
  rw [Client.isReceiving, Option.isSome_eq_false_iff, Option.isNone_iff_eq_none]

theorem Deserted.handOn_eq_none (h : l.Deserted) (observer : Nat) : l.handOn observer = none := by
  obtain ⟨taken, hobservers⟩ := h.observers
  rw [handOn, Watching.handOn_eq]
  show Option.map _ (Option.map _ ((l.client.observers.observer? observer).bind _)) = none
  rw [hobservers]
  obtain ⟨kind, rfl⟩ | hnone := Watching.observer_cases taken (fun _ => []) observer
  · rw [Watching.queue_observer?]
    rfl
  · rw [hnone]
    rfl

theorem Deserted.print_eq_none (h : l.Deserted) : l.print = none := by
  rw [print, Watching.print_eq_none_iff.mpr (.inr h.channel), Option.map_none]

theorem Deserted.act (h : l.Deserted) (m : Move) :
    (l.act m).Deserted ∧ (l.act m).printed = l.printed ∧ l.dispatches m = [] := by
  cases m with
  | feed data =>
    show ((l.feed data).getD l).Deserted ∧ ((l.feed data).getD l).printed = l.printed ∧ _
    unfold feed
    split
    · exact ⟨⟨h.reader, h.observers, h.channel, h.waits⟩, rfl, rfl⟩
    · exact ⟨h, rfl, rfl⟩
  | endEvents => exact ⟨⟨h.reader, h.observers, h.channel, h.waits⟩, rfl, rfl⟩
  | breakEvents => exact ⟨⟨h.reader, h.observers, h.channel, h.waits⟩, rfl, rfl⟩
  | read =>
    have hstep := Client.noticeStep_of_stopped h.reader
    rw [Lookout.act, read, dispatches, hstep, Client.announced?_of_noticeStep hstep]
    exact ⟨h, rfl, rfl⟩
  | handOn observer =>
    rw [Lookout.act, h.handOn_eq_none]
    exact ⟨h, rfl, rfl⟩
  | print =>
    rw [Lookout.act, h.print_eq_none]
    exact ⟨h, rfl, rfl⟩
  | hangUp =>
    obtain ⟨taken, hobservers⟩ := h.observers
    rw [Lookout.act, hangUp_eq_none hobservers]
    exact ⟨h, rfl, rfl⟩

theorem Deserted.run (h : l.Deserted) (moves : List Move) :
    (l.run moves).Deserted ∧ (l.run moves).printed = l.printed ∧ l.dispatched moves = [] := by
  induction moves generalizing l with
  | nil => exact ⟨h, rfl, rfl⟩
  | cons m moves ih =>
    obtain ⟨hact, hprinted, hnone⟩ := h.act m
    obtain ⟨hrun, hlast, hrest⟩ := ih hact
    refine ⟨hrun, hlast.trans hprinted, ?_⟩
    rw [dispatched, hnone, hrest, List.append_nil]

theorem deserted_of_waitsInVain {limit : Option Nat} {client : Client} {moves : List Move}
    (h : WaitsInVain ((start limit client).dispatched moves) ((start limit client).run moves)) :
    ((start limit client).run moves).Deserted := by
  obtain ⟨alone, hwatch, harrived⟩ := exists_watch limit client moves
  obtain ⟨queue, hqueued⟩ := Watching.queued_run (Watching.queued_start limit) alone
  have hsound := Watching.sound_run (Watching.sound_start limit) alone
  rw [List.nil_append, harrived, ← hwatch] at hqueued
  rw [← hwatch] at hsound
  obtain ⟨hchannel, hqueue⟩ := Watching.nothing_waits hsound hqueued h.printed
  obtain ⟨taken, hobservers⟩ := hqueued.observers
  rw [funext hqueue] at hobservers
  exact ⟨isReceiving_eq_false_iff.mp h.reader, ⟨taken, hobservers⟩, hchannel, h.waits⟩

/-! ## when a watch waits in vain -/

theorem isOver_of_sublist {limit : Option Nat} {printed es : List Event} (h : printed.Sublist es)
    (hover : IsOver limit printed) : IsOver limit es := by
  obtain ⟨n, hlimit, hn⟩ | hstop := hover
  · exact .inl ⟨n, hlimit, Nat.le_trans hn h.length_le⟩
  · exact .inr (h.subset hstop)

theorem isOver_perm {limit : Option Nat} {printed es : List Event} (h : printed.Perm es) :
    IsOver limit printed ↔ IsOver limit es := by
  unfold IsOver
  rw [h.length_eq, h.mem_iff]

theorem ended_iff (limit : Option Nat) (client : Client) (moves : List Move) :
    ((start limit client).run moves).ended = true ↔
      IsOver (limit.map (max 1)) ((start limit client).run moves).printed := by
  obtain ⟨alone, hwatch, -⟩ := exists_watch limit client moves
  have hended := (Watching.counts_max limit alone).ended
  rw [← hwatch] at hended
  exact hended

/-- a watch to which events come one at a time waits for more of them unless they end it -/
theorem isWaiting_watch (limit : Option Nat) (arrived : List Event) :
    (ControlCommand.watch limit).isWaiting arrived = true ↔ ¬IsOver (limit.map (max 1)) arrived := by
  obtain ⟨hrun, hreached, hidle⟩ := Watching.arriveEach_eq_run (Watching.idle_start limit) arrived
  have hprints := Watching.counts_max limit (arrived.flatMap Watching.seeTo)
  have hsound := Watching.sound_run (Watching.sound_start limit) (arrived.flatMap Watching.seeTo)
  rw [List.nil_append] at hsound
  rw [← hrun, hreached] at hprints hsound
  have hwatched := hsound.watched_of_print_eq_none hidle.print
  show (!((Watching.start limit).arriveEach arrived).ended) = true ↔ _
  rw [Bool.not_eq_true', ← Bool.not_eq_true]
  refine not_congr ⟨fun hended => ?_, fun hover => ?_⟩
  · have hsublist := (hprints.isPrefix.trans (List.take_prefix ..)).sublist
    exact isOver_of_sublist hsublist (hprints.ended.mp hended)
  · by_contra hgoes
    have hall : (watched limit arrived).1 = arrived :=
      watchedFrom_fst_of_goesOn ((congrArg Prod.snd hwatched).trans (eq_false_of_ne_true hgoes))
    have hprinted : ((Watching.start limit).arriveEach arrived).printed = arrived :=
      (congrArg Prod.fst hwatched).symm.trans hall
    refine hgoes (hprints.ended.mpr ?_)
    rw [hprinted]
    exact hover

/-- **A watch whose events have ended waits for more of them, for ever, unless it has printed what ends it.** -/
theorem waitsInVain_iff (limit : Option Nat) (client : Client) (moves : List Move) :
    (WaitsInVain ((start limit client).dispatched moves) ((start limit client).run moves) ↔
        ((start limit client).run moves).client.isReceiving = false ∧
          ((start limit client).run moves).printed.Perm ((start limit client).dispatched moves) ∧
          ¬IsOver (limit.map (max 1)) ((start limit client).dispatched moves)) ∧
      (WaitsInVain ((start limit client).dispatched moves) ((start limit client).run moves) → ∀ later,
        WaitsInVain ((start limit client).dispatched (moves ++ later)) ((start limit client).run (moves ++ later)) ∧
          ((start limit client).run (moves ++ later)).printed = ((start limit client).run moves).printed) ∧
      (∀ arrived, (ControlCommand.watch limit).isWaiting arrived = true ↔ ¬IsOver (limit.map (max 1)) arrived) := by
  refine ⟨⟨fun h => ⟨h.reader, h.printed, ?_⟩, fun ⟨hreader, hprinted, hgoes⟩ => ⟨hreader, hprinted, ?_⟩⟩,
    fun h later => ?_, isWaiting_watch limit⟩
  · rw [← isOver_perm h.printed, ← ended_iff, h.waits]
    exact Bool.false_ne_true
  · rw [← isOver_perm hprinted, ← ended_iff] at hgoes
    exact eq_false_of_ne_true hgoes
  · obtain ⟨hlater, hprinted, hnone⟩ := (deserted_of_waitsInVain h).run later
    rw [run_append, dispatched_append, hnone, List.append_nil]
    exact ⟨⟨isReceiving_eq_false_iff.mpr hlater.reader, hprinted ▸ h.printed, hlater.waits⟩, hprinted⟩

/-- a client that has connected -/
def connected : Client := { wires := ⟨.ofCapacity 64, .ofCapacity 64, .ofCapacity 64⟩ }

/-- the service closes the stream of events at once, and the client finds that out -/
theorem waits_of_closed :
    WaitsInVain ((start none connected).dispatched [.endEvents, .read]) ((start none connected).run [.endEvents, .read]) := by
  have hnone : (start none connected).dispatched [.endEvents, .read] = [] := by decide
  rw [hnone]
  exact ⟨by decide, .refl [], by decide⟩

theorem waitsInVain_iff_closed :
    ¬IsOver none ((start none connected).dispatched [.endEvents, .read]) ∧ ∀ later,
      WaitsInVain ((start none connected).dispatched ([.endEvents, .read] ++ later))
        ((start none connected).run ([.endEvents, .read] ++ later)) := by
  obtain ⟨hiff, hforever, -⟩ := waitsInVain_iff none connected [.endEvents, .read]
  exact ⟨(hiff.mp waits_of_closed).2.2, fun later => (hforever waits_of_closed later).1⟩

theorem not_neverInVain_of_closed :
    (start none connected).dispatched [.endEvents, .read] = [] ∧
      ((start none connected).run [.endEvents, .read]).ended = false ∧ ¬NeverInVain none :=
  ⟨by decide, by decide, fun hnever => hnever connected [.endEvents, .read] waits_of_closed⟩

end Lookout

end TunnelControl
