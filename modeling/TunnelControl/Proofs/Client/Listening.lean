import TunnelControl.Proofs.Client.Subscriptions
import TunnelControl.Proofs.Client.EventStream
import TunnelControl.Proofs.Client.Notices
import TunnelControl.Proofs.Client.Requests

/-!
# A client that listens for events

A client reads events from a connection of their own and hands them to its observers, until something comes that is
no event, or the stream ends.  All the while calls are made with it, and its observers take what is there for them.

* `Listening`             a client on its way through a stream of events;
* `Following`             how far it has come, and `following_run` it keeps to that;
* `weight_run`, `exists_quiet`   the stream comes to an end;
* `settled_of_quiet`      what has been dispatched by then.
-/

namespace TunnelControl

open Wire FrameReader
open Observers (Action)

/-! ## a client and its stream of events -/

/-- the event that is dispatched, if it is one -/
def Observers.Action.dispatched? : Action → Option Event
  | .dispatch e => some e
  | _ => none

/-- observers take events by it -/
def Observers.Action.Takes (a : Action) : Prop := a = .settle ∨ ∃ id, a = .deliver id

/-- a client on its way through a stream of events -/
structure Listening where
  client : Client
  /-- the bytes of the events that are still to be sent -/
  unsent : Bytes
  /-- how the stream ends behind them, if it does -/
  ending : Option Ending
  /-- all that was done to the observers since the client began to listen -/
  log : List Action := []
  /-- all that was read of the requests -/
  heard : Bytes := []

namespace Listening

inductive Move
  /-- the far end sends some of the next bytes of the events, as many as there is room for -/
  | send (n : Nat)
  /-- the stream of events ends behind its last byte -/
  | finish
  /-- the client reads the next event, or a part of it -/
  | notice
  /-- an observer takes its next event, if there is one -/
  | deliver (id : Nat)
  /-- all observers take what is there for them -/
  | settle
  | request (m : RequestMove)
  deriving DecidableEq

def Move.isRequest : Move → Bool
  | .request _ => true
  | _ => false

def send (r : Listening) (n : Nat) : Option Listening :=
  if (r.unsent.take n).isEmpty then none
  else
    match r.client.wires.events.write (r.unsent.take n) with
    | .wrote left events => some { r with client := r.client.setEvents events, unsent := left ++ r.unsent.drop n }
    | _ => none

def finish (r : Listening) : Option Listening :=
  if r.unsent.isEmpty && r.client.wires.events.writerOpen && !r.client.eventsBroken then
    match r.ending with
    | none => none
    | some .clean => some { r with client := r.client.endEvents }
    | some (.broken _) => some { r with client := r.client.breakEvents }
  else none

def notice (r : Listening) : Option Listening :=
  r.client.noticeStep.map fun client => { r with client, log := r.log ++ (r.client.announced?.map .dispatch).toList }

/-- something is done to the observers -/
def observe (r : Listening) (a : Action) : Listening :=
  { r with client := { r.client with observers := r.client.observers.act a }, log := r.log ++ [a] }

/-- what becomes of the stream, if anything does -/
def advance (r : Listening) : Move → Option Listening
  | .send n => r.send n
  | .finish => r.finish
  | .notice => r.notice
  | _ => none

def act (r : Listening) (m : Move) : Listening :=
  match m with
  | .deliver id => r.observe (.deliver id)
  | .settle => r.observe .settle
  | .request m => { r with client := (r.client.move m).1, heard := r.heard ++ (r.client.move m).2 }
  | m => (r.advance m).getD r

def run (moves : List Move) (r : Listening) : Listening := moves.foldl act r

/-- how many of some moves bring the stream forward -/
def advances : List Move → Listening → Nat
  | [], _ => 0
  | m :: moves, r => (r.advance m).isSome.toNat + advances moves (r.act m)

/-- all events that were dispatched, in order -/
def dispatched (r : Listening) : List Event := r.log.filterMap Action.dispatched?

/-- the bytes that the client has not read yet -/
def remaining (r : Listening) : Bytes := r.client.wires.events.content ++ r.unsent

/-- nothing brings the stream forward -/
def Quiet (r : Listening) : Prop := ∀ m, r.advance m = none

/-- the far end has ended the stream -/
def HasEnded (r : Listening) : Prop := r.client.wires.events.writerOpen = false ∨ r.client.eventsBroken = true

/-- the subscriptions of some observers, to a kind of events each, and the number of the event on which it panics -/
def subscribing (subs : List (EventKind × Option Nat)) : List Action := subs.map fun sub => .subscribe sub.1 sub.2

/-- a new client, whose pipes hold so many bytes, with some observers -/
def fresh (outgoing incoming events : Nat) (subs : List (EventKind × Option Nat)) (bs : Bytes)
    (ending : Option Ending) : Listening :=
  { client :=
      { wires := ⟨.ofCapacity outgoing, .ofCapacity incoming, .ofCapacity events⟩
        observers := Observers.run (subscribing subs) }
    unsent := bs
    ending }

variable {r s : Listening}

/-! ## what a move does -/

theorem eq_of_send {n : Nat} (h : r.send n = some s) :
    ∃ left events, r.unsent.take n ≠ [] ∧ r.client.wires.events.write (r.unsent.take n) = .wrote left events ∧
      s = { r with client := r.client.setEvents events, unsent := left ++ r.unsent.drop n } := by
  unfold send at h
  split at h
  · cases h
  · rename_i hne
    split at h
    · rename_i left events hw
      cases h
      exact ⟨left, events, fun heq => hne (List.isEmpty_iff.mpr heq), hw, rfl⟩
    · cases h

theorem eq_of_finish (h : r.finish = some s) :
    r.unsent = [] ∧ r.client.wires.events.writerOpen = true ∧ r.client.eventsBroken = false ∧
      ((r.ending = some .clean ∧ s = { r with client := r.client.endEvents }) ∨
        ∃ reason, r.ending = some (.broken reason) ∧ s = { r with client := r.client.breakEvents }) := by
  unfold finish at h
  split at h
  · rename_i hc
    rw [Bool.and_eq_true, Bool.and_eq_true, List.isEmpty_iff, Bool.not_eq_true'] at hc
    refine ⟨hc.1.1, hc.1.2, hc.2, ?_⟩
    split at h
    · cases h
    · rename_i he
      cases h
      exact .inl ⟨he, rfl⟩
    · rename_i reason he
      cases h
      exact .inr ⟨reason, he, rfl⟩
  · cases h

theorem dispatched_append (log : List Action) (e? : Option Event) :
    (log ++ (e?.map Action.dispatch).toList).filterMap Action.dispatched? = log.filterMap Action.dispatched? ++ e?.toList := by
  rw [List.filterMap_append]
  cases e? <;> rfl

theorem eq_of_notice (h : r.notice = some s) :
    ∃ reader, r.client.notices = some reader ∧ r.client.Noticed reader s.client r.client.announced? ∧
      s.unsent = r.unsent ∧ s.ending = r.ending ∧ s.heard = r.heard ∧
      s.log = r.log ++ (r.client.announced?.map .dispatch).toList := by
  obtain ⟨client, hc, rfl⟩ := Option.map_eq_some_iff.mp h
  obtain ⟨reader, hn, hnoticed⟩ := Client.noticed_of_noticeStep hc
  exact ⟨reader, hn, hnoticed, rfl, rfl, rfl, rfl⟩

theorem dispatched_notice (h : r.notice = some s) : s.dispatched = r.dispatched ++ r.client.announced?.toList := by
  obtain ⟨-, -, -, -, -, -, hlog⟩ := eq_of_notice h
  rw [dispatched, hlog, dispatched_append, dispatched]

/-- what an observer takes is not dispatched -/
theorem dispatched_observe {a : Action} (ha : a.Takes) : (r.observe a).dispatched = r.dispatched := by
  have hnone : a.dispatched? = none := by obtain rfl | ⟨id, rfl⟩ := ha <;> rfl
  show (r.log ++ [a]).filterMap Action.dispatched? = _
  rw [List.filterMap_append, List.filterMap_cons_none hnone, List.filterMap_nil, List.append_nil]
  rfl

/-- what may become of a client -/
theorem act_cases {P : Listening → Prop} (r : Listening) (m : Move) (stays : P r)
    (send : ∀ n s, r.send n = some s → P s) (finish : ∀ s, r.finish = some s → P s)
    (notice : ∀ s, r.notice = some s → P s) (observe : ∀ a : Action, a.Takes → P (r.observe a))
    (request : ∀ q, m = .request q → P (r.act (.request q))) : P (r.act m) := by
  have hadvance (s? : Option Listening) (hs : ∀ s, s? = some s → P s) : P (s?.getD r) := by
    cases s? with
    | none => exact stays
    | some s => exact hs s rfl
  cases m with
  | send n => exact hadvance (r.send n) (send n)
  | finish => exact hadvance r.finish finish
  | notice => exact hadvance r.notice notice
  | deliver id => exact observe (.deliver id) (.inr ⟨id, rfl⟩)
  | settle => exact observe .settle (.inl rfl)
  | request q => exact request q rfl

/-! ## how far the client has come -/

/-- where a client is in a stream; `closed` allows that it was closed -/
inductive Following (bs : Bytes) (capacity : Nat) (closed : Prop) (r : Listening) : Prop
  /-- behind the events that it has dispatched it holds a part of the next one -/
  | reading {held : Bytes} (notices : r.client.notices = some (holding held)) (unfinished : Unfinished held)
      (bytes : bs = eventBytes r.dispatched ++ (held ++ r.remaining)) (framed : Framed r.dispatched)
      (stays : r.client.wires.events.readerOpen = true) (room : r.client.wires.events.capacity = capacity)
      (ended : r.HasEnded → r.unsent = [] ∧ r.ending ≠ none)
  /-- behind those events there is no other, and it reads no more -/
  | past {rest : Bytes} (notices : r.client.notices = none) (bytes : bs = eventBytes r.dispatched ++ rest)
      (framed : Framed r.dispatched) (last : NoEvent rest) (why : Unfinished rest → r.ending ≠ none)
  | closed (h : closed) {left : Bytes} (notices : r.client.notices = none)
      (bytes : bs = eventBytes r.dispatched ++ left) (framed : Framed r.dispatched)

variable {bs : Bytes} {capacity : Nat} {closed : Prop}

/-- the client reads nothing, and dispatches nothing -/
theorem Following.congr (h : Following bs capacity closed r) (hnotices : s.client.notices = r.client.notices)
    (hremaining : s.remaining = r.remaining)
    (hreader : s.client.wires.events.readerOpen = r.client.wires.events.readerOpen)
    (hcapacity : s.client.wires.events.capacity = r.client.wires.events.capacity)
    (hended : (r.HasEnded → r.unsent = [] ∧ r.ending ≠ none) → s.HasEnded → s.unsent = [] ∧ s.ending ≠ none)
    (hending : s.ending = r.ending) (hdispatched : s.dispatched = r.dispatched) : Following bs capacity closed s := by
  cases h with
  | reading notices unfinished bytes framed stays room ended =>
    refine .reading (hnotices.trans notices) unfinished ?_ (hdispatched ▸ framed) (hreader.trans stays)
      (hcapacity.trans room) (hended ended)
    rwa [hdispatched, hremaining]
  | past notices bytes framed last why =>
    exact .past (hnotices.trans notices) (hdispatched ▸ bytes) (hdispatched ▸ framed) last (hending ▸ why)
  | closed h notices bytes framed =>
    exact .closed h (hnotices.trans notices) (hdispatched ▸ bytes) (hdispatched ▸ framed)

theorem Following.mono {closed' : Prop} (h : Following bs capacity closed r) (hc : closed → closed') :
    Following bs capacity closed' r := by
  cases h with
  | reading notices unfinished bytes framed stays room ended =>
    exact .reading notices unfinished bytes framed stays room ended
  | past notices bytes framed last why => exact .past notices bytes framed last why
  | closed h notices bytes framed => exact .closed (hc h) notices bytes framed

/-- in any case the stream begins with what it has dispatched -/
theorem Following.exists_bytes (h : Following bs capacity closed r) :
    ∃ left, bs = eventBytes r.dispatched ++ left ∧ Framed r.dispatched := by
  cases h with
  | reading notices unfinished bytes framed stays room ended => exact ⟨_, bytes, framed⟩
  | past notices bytes framed last why => exact ⟨_, bytes, framed⟩
  | closed h notices bytes framed => exact ⟨_, bytes, framed⟩

theorem following_fresh (outgoing incoming events : Nat) (subs : List (EventKind × Option Nat)) (bs : Bytes)
    (ending : Option Ending) : Following bs events False (fresh outgoing incoming events subs bs ending) :=
  .reading rfl unfinished_nil rfl nofun rfl rfl fun h => by cases h <;> contradiction

theorem following_send {n : Nat} (h : Following bs capacity closed r) (hs : r.send n = some s) :
    Following bs capacity closed s := by
  obtain ⟨left, events, hne, hw, rfl⟩ := eq_of_send hs
  obtain ⟨hreader, hwriter⟩ := Pipe.ends_write hw
  refine h.congr rfl ?_ hreader (Pipe.capacity_write hw) ?_ rfl rfl
  · show events.content ++ (left ++ r.unsent.drop n) = r.client.wires.events.content ++ r.unsent
    rw [← List.append_assoc, Pipe.content_write hw, List.append_assoc, List.take_append_drop]
  · -- who has ended the stream has nothing to send
    intro ended hend
    obtain ⟨hunsent, -⟩ := ended (hend.imp_left hwriter.symm.trans)
    rw [hunsent, List.take_nil] at hne
    exact absurd rfl hne

theorem following_finish (h : Following bs capacity closed r) (hs : r.finish = some s) :
    Following bs capacity closed s := by
  obtain ⟨hunsent, -, -, ⟨hending, rfl⟩ | ⟨reason, hending, rfl⟩⟩ := eq_of_finish hs
  · exact h.congr rfl rfl rfl rfl (fun _ _ => ⟨hunsent, hending ▸ nofun⟩) rfl rfl
  · exact h.congr rfl rfl rfl rfl (fun _ _ => ⟨hunsent, hending ▸ nofun⟩) rfl rfl

/-- what is left when some of the events were read -/
theorem remaining_of_taken {n : Nat} (hevents : s.client.wires.events = (r.client.wires.events.take n).2)
    (hunsent : s.unsent = r.unsent) : s.remaining = r.client.wires.events.content.drop n ++ r.unsent := by
  rw [remaining, hevents, hunsent]
  exact congrArg (· ++ r.unsent) (r.client.wires.events.content_take _)

/-- a frame that ends in what is read next lies before all that is left -/
theorem cutFrame_remaining {held : Bytes} (hu : Unfinished held) {o : Outcome}
    (hfeed : (holding held).feed (r.client.wires.events.content.take (holding held).wanted) = o)
    (ho : ∀ reader, o ≠ .more reader) : cutFrame (held ++ r.remaining)
      = (o, r.client.wires.events.content.drop (holding held).wanted ++ r.unsent) := by
  rw [remaining, ← List.append_assoc]
  exact cutFrame_append (cutFrame_of_feed_take hu hfeed ho) ho r.unsent

/-- some of the events were read, and the client holds what may become an event -/
theorem following_of_taken {n : Nat} {held : Bytes} (stays : r.client.wires.events.readerOpen = true)
    (room : r.client.wires.events.capacity = capacity) (ended : r.HasEnded → r.unsent = [] ∧ r.ending ≠ none)
    (hevents : s.client.wires.events = (r.client.wires.events.take n).2)
    (hbroken : s.client.eventsBroken = r.client.eventsBroken) (hunsent : s.unsent = r.unsent)
    (hending : s.ending = r.ending) (notices : s.client.notices = some (holding held)) (unfinished : Unfinished held)
    (bytes : bs = eventBytes s.dispatched ++ (held ++ (r.client.wires.events.content.drop n ++ r.unsent)))
    (framed : Framed s.dispatched) : Following bs capacity closed s := by
  refine .reading notices unfinished ?_ framed ?_ ?_ ?_
  · rw [remaining_of_taken hevents hunsent]
    exact bytes
  · rw [hevents]
    exact stays
  · rw [hevents]
    exact (r.client.wires.events.capacity_take _).trans room
  · rw [HasEnded, hevents, hbroken, hunsent, hending]
    exact ended

/-- **A step of the reading dispatches the next event, or ends where there is none.** -/
theorem following_notice (h : Following bs capacity closed r) (hs : r.notice = some s) :
    Following bs capacity closed s := by
  obtain ⟨reader, hnotices, hnoticed, hunsent, hending, -, -⟩ := eq_of_notice hs
  have hdispatched := dispatched_notice hs
  cases h with
  | past notices bytes framed last why => cases hnotices.symm.trans notices
  | closed h notices bytes framed => cases hnotices.symm.trans notices
  | @reading held notices unfinished bytes framed stays room ended =>
    cases hnotices.symm.trans notices
    generalize r.client.announced? = e? at hnoticed hdispatched
    generalize hclient : s.client = client at hnoticed
    cases hnoticed with
    | ended hempty hend =>
      rw [Option.toList_none, List.append_nil] at hdispatched
      obtain ⟨hnone, hends⟩ := ended hend.symm
      have hnil : r.remaining = [] := by
        have hcontent := (r.client.wires.events.take_eq_nil_iff (wanted_pos unfinished)).mp
          ((r.client.wires.events.take_fst _).trans hempty)
        rw [remaining, hcontent, hnone]
        rfl
      rw [hnil, List.append_nil, ← hdispatched] at bytes
      exact .past (by rw [hclient]; rfl) bytes (hdispatched ▸ framed) (noEvent_of_unfinished unfinished) fun _ =>
        hending ▸ hends
    | more hpiece hfeed =>
      rw [Option.toList_none, List.append_nil] at hdispatched
      obtain ⟨hunfinished, rfl⟩ := unfinished_of_feed_take unfinished hfeed
      refine following_of_taken stays room ended (by rw [hclient]; rfl) (by rw [hclient]; rfl) hunsent hending
        (by rw [hclient]) hunfinished ?_ (hdispatched ▸ framed)
      rw [hdispatched, List.append_assoc, ← List.append_assoc (List.take ..), List.take_append_drop]
      exact bytes
    | tooLarge hpiece hfeed =>
      rw [Option.toList_none, List.append_nil] at hdispatched
      obtain ⟨hlast, hnot⟩ := noEvent_of_tooLarge (cutFrame_remaining unfinished hfeed nofun)
      rw [← hdispatched] at bytes
      exact .past (by rw [hclient]; rfl) bytes (hdispatched ▸ framed) hlast fun hu => absurd hu hnot
    | undecodable hpiece hfeed hdecode =>
      rw [Option.toList_none, List.append_nil] at hdispatched
      obtain ⟨hlast, hnot⟩ := noEvent_of_undecodable (cutFrame_remaining unfinished hfeed nofun) hdecode
      rw [← hdispatched] at bytes
      exact .past (by rw [hclient]; rfl) bytes (hdispatched ▸ framed) hlast fun hu => absurd hu hnot
    | @event payload e hpiece hfeed hdecode =>
      rw [Option.toList_some] at hdispatched
      have hfirst : Ending.clean.firstFrame (held ++ r.remaining)
          = (.payload payload, r.client.wires.events.content.drop (holding held).wanted ++ r.unsent) := by
        rw [Ending.firstFrame, cutFrame_remaining unfinished hfeed nofun]
      obtain ⟨heq, hl⟩ := eq_frame_append_of_firstFrame hfirst
      obtain rfl := eq_encode_of_decodePayload hdecode
      refine following_of_taken stays room ended (by rw [hclient]; rfl) (by rw [hclient]; rfl) hunsent hending
        (by rw [hclient]; rfl) unfinished_nil ?_ (hdispatched ▸ framed_concat framed hl)
      rw [hdispatched, eventBytes_concat, List.append_assoc, List.nil_append, ← heq]
      exact bytes

theorem following_stopped (h : Following bs capacity closed r) (hc : closed) (hnotices : s.client.notices = none)
    (hdispatched : s.dispatched = r.dispatched) : Following bs capacity closed s := by
  obtain ⟨left, hbytes, hframed⟩ := h.exists_bytes
  rw [← hdispatched] at hbytes hframed
  exact .closed hc hnotices hbytes hframed

/-- what is done with the requests leaves the stream as it is, unless it closes the client -/
theorem following_request (h : Following bs capacity closed r) (m : RequestMove) :
    Following bs capacity (closed ∨ m = .begin .close) (r.act (.request m)) := by
  have hsame : Client.SameEvents (r.client.besides m) (r.act (.request m)).client := r.client.sameEvents_move m
  obtain hbesides | ⟨hm, hbesides⟩ := r.client.besides_cases m
  · rw [hbesides] at hsame
    refine Following.mono (h.congr hsame.notices ?_ ?_ ?_ ?_ rfl rfl) .inl
    · exact congrArg (·.content ++ r.unsent) hsame.events
    · exact congrArg Pipe.readerOpen hsame.events
    · exact congrArg Pipe.capacity hsame.events
    · intro ended hend
      rw [HasEnded, hsame.events, hsame.broken] at hend
      exact ended hend
  · rw [hbesides] at hsame
    exact following_stopped (h.mono .inl) (.inr hm) hsame.notices rfl

theorem following_observe (h : Following bs capacity closed r) {a : Action} (ha : a.Takes) :
    Following bs capacity closed (r.observe a) := h.congr rfl rfl rfl rfl id rfl (dispatched_observe ha)

theorem following_act (h : Following bs capacity closed r) (m : Move) :
    Following bs capacity (closed ∨ m = .request (.begin .close)) (r.act m) := by
  refine act_cases r m ?stays ?send ?finish ?notice ?observe ?request
  case stays => exact h.mono .inl
  case send => exact fun n s hs => (following_send h hs).mono .inl
  case finish => exact fun s hs => (following_finish h hs).mono .inl
  case notice => exact fun s hs => (following_notice h hs).mono .inl
  case observe => exact fun a ha => (following_observe h ha).mono .inl
  case request =>
    rintro q rfl
    exact (following_request h q).mono (Or.imp_right (congrArg Move.request))

/-- **Whatever happens, the client keeps to the stream.** -/
theorem following_run (h : Following bs capacity closed r) (moves : List Move) :
    Following bs capacity (closed ∨ .request (.begin .close) ∈ moves) (run moves r) := by
  induction moves generalizing r closed with
  | nil => exact h.mono .inl
  | cons m moves ih =>
    refine (ih (following_act h m)).mono ?_
    rw [List.mem_cons, or_assoc, eq_comm]
    exact id

/-! ## once the client reads no more -/

theorem notices_act (h : r.client.notices = none) (m : Move) :
    (r.act m).client.notices = none ∧ (r.act m).dispatched = r.dispatched := by
  refine act_cases (P := fun s => s.client.notices = none ∧ s.dispatched = r.dispatched) r m ⟨h, rfl⟩ ?send ?finish
    ?notice ?observe ?request
  case send =>
    intro n s hs
    obtain ⟨left, events, -, -, rfl⟩ := eq_of_send hs
    exact ⟨h, rfl⟩
  case finish =>
    intro s hs
    obtain ⟨-, -, -, ⟨-, rfl⟩ | ⟨reason, -, rfl⟩⟩ := eq_of_finish hs
    · exact ⟨h, rfl⟩
    · exact ⟨h, rfl⟩
  case notice =>
    intro s hs
    rw [notice, Client.noticeStep_of_stopped h] at hs
    cases hs
  case observe => exact fun a ha => ⟨h, dispatched_observe ha⟩
  case request =>
    intro q _
    refine ⟨(r.client.sameEvents_move q).notices.trans ?_, rfl⟩
    obtain hbesides | ⟨-, hbesides⟩ := r.client.besides_cases q
    · rw [hbesides, h]
    · rw [hbesides]
      rfl

/-- **A client that reads no more dispatches no more.** -/
theorem notices_run (h : r.client.notices = none) (moves : List Move) :
    (run moves r).client.notices = none ∧ (run moves r).dispatched = r.dispatched := by
  induction moves generalizing r with
  | nil => exact ⟨h, rfl⟩
  | cons m moves ih =>
    obtain ⟨hnotices, hdispatched⟩ := notices_act h m
    obtain ⟨hlast, hall⟩ := ih hnotices
    exact ⟨hlast, hall.trans hdispatched⟩

/-! ## the stream comes to an end -/

/-- what is still to be done about the stream: a byte is sent once and read once, and both sides end once -/
def weight (r : Listening) : Nat :=
  2 * r.unsent.length + r.client.wires.events.content.length
    + (r.client.wires.events.writerOpen && !r.client.eventsBroken).toNat + r.client.notices.isSome.toNat

theorem weight_send {n : Nat} (h : r.send n = some s) : s.weight < r.weight := by
  obtain ⟨left, events, hne, hw, rfl⟩ := eq_of_send h
  obtain ⟨⟨-, -, hroom⟩, rfl, hcontent, -, hwriter⟩ := Pipe.eq_of_write hne hw
  have hpos := List.length_pos_iff.mpr hne
  have hcut := congrArg List.length (List.take_append_drop n r.unsent)
  rw [List.length_append] at hcut
  show 2 * List.length (_ ++ _) + events.content.length + (events.writerOpen && !r.client.eventsBroken).toNat
    + r.client.notices.isSome.toNat < _
  rw [hwriter, hcontent, weight]
  simp only [List.length_append, List.length_take, List.length_drop] at hpos hcut ⊢
  omega

theorem weight_finish (h : r.finish = some s) : s.weight < r.weight := by
  obtain ⟨-, hwriter, hbroken, ⟨-, rfl⟩ | ⟨reason, -, rfl⟩⟩ := eq_of_finish h
  · unfold weight
    rw [hwriter, hbroken]
    exact Nat.add_lt_add_right (Nat.lt_succ_self _) _
  · unfold weight
    rw [hwriter, hbroken]
    show _ + (r.client.wires.events.writerOpen && !true).toNat + _ < _
    rw [hwriter]
    exact Nat.add_lt_add_right (Nat.lt_succ_self _) _

theorem weight_notice (h : r.notice = some s) : s.weight < r.weight := by
  obtain ⟨reader, hnotices, hnoticed, hunsent, -, -, -⟩ := eq_of_notice h
  -- what is taken is no longer there, whether the client reads on or not
  have hless (hpiece : r.client.wires.events.content.take reader.wanted ≠ []) (n : Nat) :
      2 * r.unsent.length + (r.client.wires.events.take reader.wanted).2.content.length + n
        < 2 * r.unsent.length + r.client.wires.events.content.length + n :=
    Nat.add_lt_add_right (Nat.add_lt_add_left (r.client.wires.events.length_content_take_lt hpiece) _) _
  unfold weight
  rw [hunsent, hnotices]
  generalize r.client.announced? = e? at hnoticed
  generalize s.client = client at hnoticed
  cases hnoticed with
  | ended hempty hend => exact Nat.lt_succ_self _
  | more hpiece hfeed => exact Nat.add_lt_add_right (hless hpiece _) 1
  | tooLarge hpiece hfeed => exact Nat.add_lt_add_of_lt_of_le (hless hpiece _) (Nat.zero_le 1)
  | undecodable hpiece hfeed hdecode => exact Nat.add_lt_add_of_lt_of_le (hless hpiece _) (Nat.zero_le 1)
  | event hpiece hfeed hdecode => exact Nat.add_lt_add_right (hless hpiece _) 1

theorem weight_act (r : Listening) (m : Move) : (r.advance m).isSome.toNat + (r.act m).weight ≤ r.weight := by
  have hadvance (s? : Option Listening) (hs : ∀ s, s? = some s → s.weight < r.weight) :
      s?.isSome.toNat + (s?.getD r).weight ≤ r.weight := by
    cases s? with
    | none => exact Nat.le_of_eq (Nat.zero_add _)
    | some s =>
      have hlt := hs s rfl
      show 1 + s.weight ≤ r.weight
      omega
  cases m with
  | send n => exact hadvance (r.send n) fun _ => weight_send
  | finish => exact hadvance r.finish fun _ => weight_finish
  | notice => exact hadvance r.notice fun _ => weight_notice
  | deliver id => exact Nat.le_of_eq (Nat.zero_add _)
  | settle => exact Nat.le_of_eq (Nat.zero_add _)
  | request m =>
    show 0 + (r.act (.request m)).weight ≤ r.weight
    have hsame : Client.SameEvents (r.client.besides m) (r.act (.request m)).client := r.client.sameEvents_move m
    rw [Nat.zero_add, weight, hsame.events, hsame.broken, hsame.notices]
    obtain hbesides | ⟨-, hbesides⟩ := r.client.besides_cases m
    · rw [hbesides]
      exact Nat.le_refl _
    · rw [hbesides]
      exact Nat.add_le_add_left (Nat.zero_le _) _

/-- **The stream comes to an end.** -/
theorem weight_run (moves : List Move) (r : Listening) : advances moves r + (run moves r).weight ≤ r.weight := by
  induction moves generalizing r with
  | nil => exact Nat.le_of_eq (Nat.zero_add _)
  | cons m moves ih =>
    have hact := weight_act r m
    have hrest := ih (r.act m)
    rw [advances]
    show _ + (run moves (r.act m)).weight ≤ _
    omega

/-- wherever the stream is, it can come to its end without the requests -/
theorem exists_quiet (r : Listening) : ∃ later : List Move, (∀ m ∈ later, m.isRequest = false) ∧ (run later r).Quiet := by
  induction hw : r.weight using Nat.strongRecOn generalizing r with
  | ind w ih =>
    by_cases hquiet : r.Quiet
    · exact ⟨[], List.forall_mem_nil _, hquiet⟩
    · obtain ⟨m, hm⟩ := Classical.not_forall.mp hquiet
      obtain ⟨s, hs⟩ := Option.ne_none_iff_exists'.mp hm
      have hweight := weight_act r m
      rw [hs] at hweight
      have hlt : (r.act m).weight < w := by
        rw [← hw]
        exact Nat.lt_of_lt_of_le (Nat.lt_add_of_pos_left Nat.one_pos) hweight
      obtain ⟨later, hlater, hend⟩ := ih _ hlt (r.act m) rfl
      refine ⟨m :: later, List.forall_mem_cons.mpr ⟨?_, hlater⟩, hend⟩
      cases m with
      | request q => cases hs
      | _ => rfl

theorem weight_fresh (outgoing incoming events : Nat) (subs : List (EventKind × Option Nat)) (bs : Bytes)
    (ending : Option Ending) : (fresh outgoing incoming events subs bs ending).weight = 2 * bs.length + 2 := rfl

/-! ## at the end of the stream -/

theorem ending_act (r : Listening) (m : Move) : (r.act m).ending = r.ending := by
  refine act_cases (P := fun s => s.ending = r.ending) r m rfl ?send ?finish ?notice ?observe ?request
  case send =>
    intro n s hs
    obtain ⟨left, events, -, -, rfl⟩ := eq_of_send hs
    rfl
  case finish =>
    intro s hs
    obtain ⟨-, -, -, ⟨-, rfl⟩ | ⟨reason, -, rfl⟩⟩ := eq_of_finish hs <;> rfl
  case notice =>
    intro s hs
    obtain ⟨-, -, -, -, hending, -, -⟩ := eq_of_notice hs
    exact hending
  case observe => exact fun a _ => rfl
  case request => exact fun q _ => rfl

theorem ending_run (moves : List Move) (r : Listening) : (run moves r).ending = r.ending := by
  induction moves generalizing r with
  | nil => rfl
  | cons m moves ih => exact (ih (r.act m)).trans (ending_act r m)

/-- **When nothing brings the stream forward, all its events are dispatched.**  The client reads on as long as what is
behind them is a part of an event, and may be made whole. -/
theorem settled_of_quiet (h : Following bs capacity False r) (hquiet : r.Quiet) (hc : 0 < capacity) :
    ∃ rest, EventStream bs r.dispatched rest ∧ (r.client.isReceiving = true ↔ Unfinished rest ∧ r.ending = none) := by
  cases h with
  | closed h _ _ _ => exact h.elim
  | @past rest notices bytes framed last why =>
    refine ⟨rest, eventStream_of_noEvent bytes framed last, ?_⟩
    rw [Client.isReceiving, notices]
    exact ⟨nofun, fun h => absurd h.2 (why h.1)⟩
  | @reading held notices unfinished bytes framed stays room ended =>
    obtain ⟨hempty, hbroken, hwriter⟩ := Client.waits_of_noticeStep notices (wanted_pos unfinished)
      (Option.map_eq_none_iff.mp (hquiet .notice))
    -- there is room for what is unsent, so that there is nothing
    have hunsent : r.unsent = [] := by
      refine Decidable.byContradiction fun hne => ?_
      have hroom : 0 < r.client.wires.events.room := by
        rw [r.client.wires.events.room_pos_iff, hempty, room]
        exact hc
      obtain ⟨left, events, hw⟩ := Pipe.write_of_room stays hwriter hroom r.unsent
      have hsend : r.send r.unsent.length = none := hquiet (.send r.unsent.length)
      rw [send, List.take_length, if_neg fun hempty => hne (List.isEmpty_iff.mp hempty), hw] at hsend
      cases hsend
    have hending : r.ending = none := by
      have hfinish : r.finish = none := hquiet .finish
      rw [finish, hunsent, hwriter, hbroken] at hfinish
      cases hend : r.ending with
      | none => rfl
      | some ending =>
        rw [hend] at hfinish
        cases ending <;> cases hfinish
    have hremaining : r.remaining = [] := by rw [remaining, hempty, hunsent]; rfl
    rw [hremaining, List.append_nil] at bytes
    refine ⟨held, eventStream_of_noEvent bytes framed (noEvent_of_unfinished unfinished), ?_⟩
    rw [Client.isReceiving, notices]
    exact ⟨fun _ => ⟨unfinished, hending⟩, fun _ => rfl⟩

end Listening

end TunnelControl
