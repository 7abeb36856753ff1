import Mathlib.Data.List.TakeWhile
import TunnelControl.Proofs.Client.Audience
import TunnelControl.Proofs.Client.Listening

/-!
# Observers and calls of a client that listens

* `sameRequests_run`   what becomes of the calls, as if there were no events;
* `observers_run`      what becomes of the observers: they are told what is dispatched, and nothing else;
* `seenBy_run`         what each of them sees in the end;
* `notices_exact`      all that is promised of a client and its stream of events.
-/

namespace TunnelControl

open Wire FrameReader
open Observers (Action)
open Client (SameRequests)

/-! ## one step of the reading -/

namespace Client.Noticed

variable {c c' : Client} {reader : FrameReader} {e? : Option Event}

/-- the reading leaves the requests as they are -/
theorem sameRequests (h : c.Noticed reader c' e?) : SameRequests c c' := by
  cases h <;> exact ⟨rfl, rfl, rfl, rfl⟩

/-- the observers are told the event, if there is one -/
theorem observers (h : c.Noticed reader c' e?) :
    c'.observers = (e?.map Action.dispatch).toList.foldl Observers.act c.observers := by
  cases h <;> rfl

end Client.Noticed

/-! ## subscriptions in advance -/

namespace Observers

/-- nobody is subscribed by it, and nobody goes -/
def Action.Keeps (a : Action) : Prop := (∀ id, a.opened? id = none) ∧ ∀ id, a ≠ .unsubscribe id

theorem Action.Takes.keeps {a : Action} (h : a.Takes) : a.Keeps := by
  obtain rfl | ⟨id, rfl⟩ := h
  · exact ⟨fun _ => rfl, nofun⟩
  · exact ⟨fun _ => rfl, nofun⟩

theorem foldl_note_of_keeps {log : List Action} (h : ∀ a ∈ log, a.Keeps) (bs : List Subscription) :
    log.foldl note bs = bs.map fun b => { b with since := b.since ++ log } := by
  induction log generalizing bs with
  | nil =>
    simp only [List.append_nil, List.foldl_nil]
    exact (List.map_id bs).symm
  | cons a log ih =>
    have hnote : note bs a = bs.map (.later a) := by
      rw [note, (h a List.mem_cons_self).1, Option.toList_none, List.append_nil]
    rw [List.foldl_cons, hnote, ih (fun a' ha' => h a' (List.mem_cons_of_mem a ha')), List.map_map]
    refine List.map_congr_left fun b _ => ?_
    show Subscription.mk b.id b.kind b.panicAt ((b.since ++ [a]) ++ log) = ⟨b.id, b.kind, b.panicAt, b.since ++ a :: log⟩
    rw [List.append_assoc, List.singleton_append]

/-- a subscription that was made in advance; since then there have been others, and nothing else -/
structure Opened (b : Subscription) (sub : EventKind × Option Nat) : Prop where
  kind : b.kind = sub.1
  panicAt : b.panicAt = sub.2
  since : ∀ a ∈ b.since, ∃ kind panicAt, a = .subscribe kind panicAt

theorem opened_note {bs : List Subscription} {subs : List (EventKind × Option Nat)} (h : List.Forall₂ Opened bs subs)
    (sub : EventKind × Option Nat) : List.Forall₂ Opened (note bs (.subscribe sub.1 sub.2)) (subs ++ [sub]) := by
  refine List.rel_append ?_ (.cons ⟨rfl, rfl, nofun⟩ .nil)
  rw [List.forall₂_map_left_iff]
  refine h.imp fun b old hb => ⟨hb.kind, hb.panicAt, fun a ha => ?_⟩
  obtain ha | ha := List.mem_append.mp ha
  · exact hb.since a ha
  · exact ⟨sub.1, sub.2, List.mem_singleton.mp ha⟩

theorem opened_subscribing (subs : List (EventKind × Option Nat)) :
    List.Forall₂ Opened (subscriptions (Listening.subscribing subs)) subs := by
  suffices ∀ bs olds, List.Forall₂ Opened bs olds →
      List.Forall₂ Opened ((Listening.subscribing subs).foldl note bs) (olds ++ subs) from this [] [] .nil
  induction subs with
  | nil =>
    intro bs olds h
    rw [List.append_nil]
    exact h
  | cons sub subs ih =>
    intro bs olds h
    have hrest := ih _ _ (opened_note h sub)
    rwa [List.append_assoc] at hrest

theorem filterMap_event? (kind : EventKind) (log : List Action) :
    log.filterMap (Action.event? kind) = (log.filterMap Action.dispatched?).filter fun e => e.kind = kind := by
  rw [List.filter_filterMap]
  congr 1
  funext a
  cases a with
  | dispatch e =>
    show (if e.kind = kind then some e else none) = Option.filter _ (some e)
    simp only [Option.filter_some, decide_eq_true_eq]
  | _ => rfl

theorem Opened.received {b : Subscription} {sub : EventKind × Option Nat} (h : Opened b sub) {log : List Action}
    (hlog : ∀ a ∈ log, a.Keeps) : ({ b with since := b.since ++ log } : Subscription).received
      = upToPanic sub.2 ((log.filterMap Action.dispatched?).filter fun e => e.kind = sub.1) := by
  have hstays : ∀ a ∈ b.since ++ log, (a != .unsubscribe b.id) = true := by
    intro a ha
    rw [bne_iff_ne]
    obtain ha | ha := List.mem_append.mp ha
    · obtain ⟨kind, panicAt, rfl⟩ := h.since a ha
      exact nofun
    · exact (hlog a ha).2 b.id
  have hsince : b.since.filterMap (Action.event? b.kind) = [] := by
    refine List.filterMap_eq_nil_iff.mpr fun a ha => ?_
    obtain ⟨kind, panicAt, rfl⟩ := h.since a ha
    rfl
  rw [← h.kind, ← h.panicAt, ← filterMap_event?]
  show upToPanic b.panicAt (((b.since ++ log).takeWhile (· != .unsubscribe b.id)).filterMap (Action.event? b.kind)) = _
  rw [List.takeWhile_eq_self_iff.mpr hstays, List.filterMap_append, hsince, List.nil_append]

end Observers

namespace Listening

variable {r s : Listening}

/-! ## observers -/

/-- the observers have been told what the log says -/
structure Observed (start : Observers) (r : Listening) : Prop where
  observers : r.client.observers = r.log.foldl Observers.act start
  keeps : ∀ a ∈ r.log, a.Keeps

variable {start : Observers}

theorem Observed.tell (h : Observed start r) (log : List Action) (hlog : ∀ a ∈ log, a.Keeps)
    (hs : s.client.observers = log.foldl Observers.act r.client.observers) (hall : s.log = r.log ++ log) :
    Observed start s where
  observers := by rw [hs, hall, List.foldl_append, h.observers]
  keeps := by
    intro a ha
    rw [hall, List.mem_append] at ha
    exact ha.elim (h.keeps a) (hlog a)

theorem observed_notice (h : Observed start r) (hs : r.notice = some s) : Observed start s := by
  obtain ⟨reader, -, hnoticed, -, -, -, hlog⟩ := eq_of_notice hs
  refine h.tell _ ?_ hnoticed.observers hlog
  intro a ha
  obtain ⟨e, -, rfl⟩ := Option.map_eq_some_iff.mp (Option.mem_toList.mp ha)
  exact ⟨fun _ => rfl, nofun⟩

theorem observed_act (h : Observed start r) (m : Move) : Observed start (r.act m) := by
  have hsame {s : Listening} (hs : s.client.observers = r.client.observers) (hlog : s.log = r.log) :
      Observed start s := h.tell [] nofun hs (hlog.trans (List.append_nil _).symm)
  refine act_cases r m h ?send ?finish ?notice ?observe ?request
  case send =>
    intro n s hs
    obtain ⟨left, events, -, -, rfl⟩ := eq_of_send hs
    exact hsame rfl rfl
  case finish =>
    intro s hs
    obtain ⟨-, -, -, ⟨-, rfl⟩ | ⟨reason, -, rfl⟩⟩ := eq_of_finish hs
    · exact hsame rfl rfl
    · exact hsame rfl rfl
  case notice => exact fun s hs => observed_notice h hs
  case observe => exact fun a ha => h.tell [a] (List.forall_mem_singleton.mpr ha.keeps) rfl rfl
  case request =>
    intro q _
    refine hsame ((r.client.sameEvents_move q).observers.trans ?_) rfl
    obtain hbesides | ⟨-, hbesides⟩ := r.client.besides_cases q
    · rw [hbesides]
    · rw [hbesides]
      rfl

theorem observed_run (h : Observed start r) (moves : List Move) : Observed start (run moves r) := by
  induction moves generalizing r with
  | nil => exact h
  | cons m moves ih => exact ih (observed_act h m)

/-- **Each observer sees the events of its kind that are dispatched, in order and once, up to the one on which it
panics.** -/
theorem seenBy_settle_of_observed {subs : List (EventKind × Option Nat)}
    (h : Observed (Observers.run (subscribing subs)) r) {n : Nat} {sub : EventKind × Option Nat}
    (hn : subs[n]? = some sub) :
    r.client.observers.settle.seenBy n = upToPanic sub.2 (r.dispatched.filter fun e => e.kind = sub.1) := by
  have htallies := Observers.tallies_foldl (Observers.tallies_run (subscribing subs)) r.log
  rw [← h.observers, Observers.foldl_note_of_keeps h.keeps] at htallies
  have hopened := Observers.opened_subscribing subs
  obtain ⟨hlt, rfl⟩ := List.getElem?_eq_some_iff.mp hn
  have hlt' : n < (Observers.subscriptions (subscribing subs)).length := by
    rw [hopened.length_eq]
    exact hlt
  have hreceived := (hopened.get hlt' hlt).received h.keeps
  refine Eq.trans (htallies.seenBy_settle ?_) hreceived
  rw [List.getElem?_map, List.getElem?_eq_getElem hlt']
  rfl

/-! ## calls -/

/-- what becomes of the events leaves the requests as they are -/
theorem sameRequests_act (r : Listening) {m : Move} (hm : m.isRequest = false) :
    SameRequests r.client (r.act m).client ∧ (r.act m).heard = r.heard := by
  refine act_cases (P := fun s => SameRequests r.client s.client ∧ s.heard = r.heard) r m ⟨.refl r.client, rfl⟩ ?send
    ?finish ?notice ?observe ?request
  case send =>
    intro n s hs
    obtain ⟨left, events, -, -, rfl⟩ := eq_of_send hs
    exact ⟨⟨rfl, rfl, rfl, rfl⟩, rfl⟩
  case finish =>
    intro s hs
    obtain ⟨-, -, -, ⟨-, rfl⟩ | ⟨reason, -, rfl⟩⟩ := eq_of_finish hs
    · exact ⟨⟨rfl, rfl, rfl, rfl⟩, rfl⟩
    · exact ⟨⟨rfl, rfl, rfl, rfl⟩, rfl⟩
  case notice =>
    intro s hs
    obtain ⟨reader, -, hnoticed, -, -, hheard, -⟩ := eq_of_notice hs
    exact ⟨hnoticed.sameRequests, hheard⟩
  case observe => exact fun a _ => ⟨⟨rfl, rfl, rfl, rfl⟩, rfl⟩
  case request =>
    rintro q rfl
    cases hm

/-- **The calls come to the same as if nothing had become of the events.** -/
theorem sameRequests_run (h : SameRequests s.client r.client) (hheard : r.heard = s.heard) (moves : List Move) :
    SameRequests (run (moves.filter Move.isRequest) s).client (run moves r).client ∧
      (run moves r).heard = (run (moves.filter Move.isRequest) s).heard := by
  induction moves generalizing r s with
  | nil => exact ⟨h, hheard⟩
  | cons m moves ih =>
    cases hm : m.isRequest with
    | false =>
      obtain ⟨hsame, hread⟩ := sameRequests_act r hm
      rw [List.filter_cons_of_neg (by rw [hm]; exact Bool.false_ne_true)]
      exact ih (h.trans hsame) (hread.trans hheard)
    | true =>
      rw [List.filter_cons_of_pos hm]
      cases m with
      | request m =>
        obtain ⟨hmove, hread⟩ := h.move m
        refine ih hmove ?_
        show r.heard ++ _ = s.heard ++ _
        rw [hheard, hread]
      | _ => cases hm

theorem result?_of_sameRequests {c d : Client} (h : SameRequests c d) (n : Nat) : d.result? n = c.result? n := by
  rw [Client.result?, h.calls, Client.result?]

/-! ## all together -/

/-- what is promised of a client that begins to listen, in the middle of all this; `events` are those that its stream
begins with, `rest` is what is behind them, and `still` is the same client without any stream -/
structure Listens (events : List Event) (rest : Bytes) (subs : List (EventKind × Option Nat)) (start still : Listening)
    (moves : List Move) : Prop where
  /-- no other events are dispatched, none out of order, and none twice -/
  order : (run moves start).dispatched <+: events
  /-- all are, unless the client is closed before, and it reads on only for want of bytes -/
  settled : .request (.begin .close) ∉ moves → (run moves start).Quiet →
    (run moves start).dispatched = events ∧
      ((run moves start).client.isReceiving = true ↔ Unfinished rest ∧ start.ending = none)
  /-- the stream does not go on forever: a byte is sent once and read once, and both sides end once -/
  bounded : advances moves start ≤ 2 * start.unsent.length + 2
  /-- and it can always come to its end, whatever the calls wait for -/
  ends : ∃ later : List Move, (∀ m ∈ later, m.isRequest = false) ∧ (run (moves ++ later) start).Quiet
  /-- a client that reads no more never does so again, and dispatches nothing further -/
  silent : (run moves start).client.isReceiving = false → ∀ later,
    (run (moves ++ later) start).client.isReceiving = false ∧
      (run (moves ++ later) start).dispatched = (run moves start).dispatched
  /-- each observer sees what is dispatched of its kind, up to the event on which it panics -/
  seen : ∀ n kind panicAt, subs[n]? = some (kind, panicAt) →
    (run moves start).client.observers.settle.seenBy n
      = upToPanic panicAt ((run moves start).dispatched.filter fun e => e.kind = kind)
  /-- all calls come to the same without any events, and so do the two streams that they use -/
  results : ∀ n, (run moves start).client.result? n = (run (moves.filter Move.isRequest) still).client.result? n
  requests : SameRequests (run (moves.filter Move.isRequest) still).client (run moves start).client
  heard : (run moves start).heard = (run (moves.filter Move.isRequest) still).heard

theorem run_append (moves later : List Move) (r : Listening) : run (moves ++ later) r = run later (run moves r) :=
  List.foldl_append

/-- **A client dispatches the events that its stream begins with, and its calls do not notice.**  That is so for all
bytes, however the stream ends, in whatever pieces it comes, and whatever else is done with the client meanwhile. -/
theorem notices_exact (bs : Bytes) (ending : Option Ending) :
    ∃ events rest, EventStream bs events rest ∧
      ∀ (outgoing incoming capacity : Nat) (subs : List (EventKind × Option Nat)) (moves : List Move), 0 < capacity →
        Listens events rest subs (fresh outgoing incoming capacity subs bs ending)
          (fresh outgoing incoming 0 [] [] none) moves := by
  obtain ⟨events, rest, hstream⟩ := exists_eventStream bs
  refine ⟨events, rest, hstream, fun outgoing incoming capacity subs moves hc => ?_⟩
  have hfollowing := following_run (following_fresh outgoing incoming capacity subs bs ending) moves
  have hobserved : Observed (Observers.run (subscribing subs))
      (run moves (fresh outgoing incoming capacity subs bs ending)) :=
    observed_run ⟨rfl, List.forall_mem_nil _⟩ moves
  have hsame : SameRequests (fresh outgoing incoming 0 [] [] none).client
      (fresh outgoing incoming capacity subs bs ending).client := ⟨rfl, rfl, rfl, rfl⟩
  obtain ⟨hrequests, hheard⟩ := sameRequests_run hsame rfl moves
  constructor
  case order =>
    obtain ⟨left, hbytes, hframed⟩ := hfollowing.exists_bytes
    exact hstream.longest _ left hframed hbytes
  case settled =>
    intro hopen hquiet
    have hstays : Following bs capacity False _ := hfollowing.mono fun h => h.elim id hopen
    obtain ⟨rest', hstream', hreceiving⟩ := settled_of_quiet hstays hquiet hc
    obtain ⟨hevents, rfl⟩ := hstream'.unique hstream
    rw [ending_run] at hreceiving
    exact ⟨hevents, hreceiving⟩
  case bounded =>
    have hweight := weight_run moves (fresh outgoing incoming capacity subs bs ending)
    rw [weight_fresh] at hweight
    exact Nat.le_trans (Nat.le_add_right _ _) hweight
  case ends =>
    obtain ⟨later, hlater, hquiet⟩ := exists_quiet (run moves (fresh outgoing incoming capacity subs bs ending))
    exact ⟨later, hlater, by rwa [run_append]⟩
  case silent =>
    intro hover later
    rw [run_append]
    obtain ⟨hnotices, hdispatched⟩ := notices_run (Option.isNone_iff_eq_none.mp (Option.isSome_eq_false_iff.mp hover)) later
    exact ⟨congrArg Option.isSome hnotices, hdispatched⟩
  case seen => exact fun n kind panicAt hn => seenBy_settle_of_observed hobserved hn
  case results => exact result?_of_sameRequests hrequests
  case requests => exact hrequests
  case heard => exact hheard

/-- a stream that has ended comes to nothing more, once the client reads no further -/
theorem quiet_of_ended (hnotices : r.client.notices = none) (hunsent : r.unsent = [])
    (hwriter : r.client.wires.events.writerOpen = false) : r.Quiet := by
  intro m
  cases m with
  | send n =>
    show r.send n = none
    rw [send, hunsent, List.take_nil]
    rfl
  | finish =>
    show r.finish = none
    rw [finish, hunsent, hwriter]
    rfl
  | notice =>
    show r.notice = none
    rw [notice, Client.noticeStep_of_stopped hnotices]
    rfl
  | _ => rfl

/-- behind one event the stream is cut off in the middle of a frame, while a call is under way that gets its answer -/
theorem notices_exact_cut_off :
    let bs := frame (encode Event.managerStopping) ++ [1, 0]
    let reply := frame (encode UpdateState.unknown)
    let moves : List Move := [.send 6, .request (.begin (.call .queryUpdateState)), .notice, .request .call, .send 9,
      .notice, .notice, .request .call, .send 9, .notice, .finish, .notice, .request .call, .request (.reply reply),
      .request .call, .request .call]
    let still := run (moves.filter Move.isRequest) (fresh 64 64 0 [] [] none)
    0 < 8 ∧ .request (.begin .close) ∉ moves ∧ (run moves (fresh 64 64 8 [] bs (some .clean))).Quiet ∧
      EventStream bs [.managerStopping] [1, 0] ∧
      (run moves (fresh 64 64 8 [] bs (some .clean))).client.isReceiving = false ∧
      still.client.result? 0 = some (.ok (.updateState .unknown)) := by
  intro bs reply moves still
  obtain ⟨events, rest, hstream, hlistens⟩ := notices_exact bs (some .clean)
  have hlistens := hlistens 64 64 8 [] moves (by decide)
  have hopen : .request (.begin .close) ∉ moves := by decide
  have hquiet : (run moves (fresh 64 64 8 [] bs (some .clean))).Quiet :=
    quiet_of_ended (Option.isNone_iff_eq_none.mp (by decide +kernel)) (by decide +kernel) (by decide +kernel)
  obtain ⟨hevents, hreceiving⟩ := hlistens.settled hopen hquiet
  have hdispatched : (run moves (fresh 64 64 8 [] bs (some .clean))).dispatched = [.managerStopping] := by
    decide +kernel
  obtain rfl := hdispatched.symm.trans hevents
  obtain rfl : [1, 0] = rest := List.append_cancel_left hstream.bytes
  refine ⟨by decide, hopen, hquiet, hstream, ?_, ?_⟩
  · exact Bool.eq_false_iff.mpr fun h => nomatch (hreceiving.mp h).2
  · rw [← hlistens.results 0]
    decide +kernel

end Listening

end TunnelControl
