import TunnelControl.Client.FarEnd
import TunnelControl.Proofs.Client.Turns
import TunnelControl.Proofs.Message.Stream
import TunnelControl.Proofs.Stream.Pipe

/-!
# A client and the service at its far end

The service reads the requests stream as it likes and answers each whole request once, in the order in which
they came; the answers go out in pieces of any size, or stop anywhere.  All the while calls are made and given
up, and the one that has its turn goes on.

* `Dialogue.act`, `run`      what becomes of a dialogue with each move, and with some of them;
* `Dialogue.turns`           the calls that have taken the stream;
* `Dialogue.IsBroken`        one of these failed, or was given up;
* `Books`                    what holds of the calls, the requests and the answers one by one;
* `Exchange`, `Stage`        what the bytes on their way are;
* `Stage.beside`             the service does not disturb that.
-/

namespace TunnelControl

open Wire FrameReader

theorem concat_isPrefix {α : Type} {xs ys : List α} {y : α} (h : xs <+: ys) (hy : ys[xs.length]? = some y) :
    xs ++ [y] <+: ys := by
  obtain ⟨rest, rfl⟩ := h
  rw [List.getElem?_append_right (Nat.le_refl _), Nat.sub_self] at hy
  cases rest with
  | nil => cases hy
  | cons z rest =>
    cases hy
    exact ⟨rest, List.append_assoc ..⟩

theorem Client.noticeStep_keeps {c c' : Client} (h : c.noticeStep = some c') :
    c'.calls = c.calls ∧ c'.inFlight = c.inFlight ∧ c'.wires.outgoing = c.wires.outgoing ∧
      c'.wires.incoming = c.wires.incoming := by
  unfold noticeStep at h
  split at h
  · cases h
  · split at h
    · split at h <;> cases h
      exact ⟨rfl, rfl, rfl, rfl⟩
    · simp only at h
      split at h
      · cases h
        exact ⟨rfl, rfl, rfl, rfl⟩
      · cases h
        exact ⟨rfl, rfl, rfl, rfl⟩
      · split at h <;> cases h <;> exact ⟨rfl, rfl, rfl, rfl⟩

structure Dialogue where
  client : Client
  /-- all that the service has read -/
  heard : Bytes := []
  /-- the answers, each behind the request that it is for -/
  answers : List (Bytes × Bytes) := []
  /-- what the service has yet to write of its answers -/
  outbox : Bytes := []
  /-- the calls that have taken the stream, in this order -/
  turns : List (Nat × Method) := []

namespace Dialogue

inductive Move
  | begin (request : Request)
  | giveUp (n : Nat)
  /-- the call that has its turn goes on, or the next one gets it -/
  | call
  /-- the client reads the next event, or a part of it -/
  | notice
  /-- anything else becomes of the events and those who observe them -/
  | events (pipe : Pipe) (observers : Observers)
  /-- the service reads so many bytes, or all there are -/
  | hear (n : Nat)
  /-- the service answers the first request that has no answer yet -/
  | answer (payload : Bytes)
  /-- the service writes so many bytes of its answers, or as many as it can -/
  | reply (n : Nat)
  | endAnswers
  | leaveRequests

def Move.isCall : Move → Bool
  | .call => true
  | _ => false

/-- the service does something to the requests stream -/
def Move.isService : Move → Bool
  | .begin _ | .giveUp _ | .call | .notice | .events .. => false
  | _ => true

/-- neither a call is made or given up, nor does one go on -/
def Move.isAside : Move → Bool
  | .begin _ | .giveUp _ | .call => false
  | _ => true

def withTurn (d : Dialogue) (turn : Nat × Method) : Dialogue := { d with turns := d.turns ++ [turn] }

def call (d : Dialogue) : Dialogue :=
  match d.client.callStep with
  | some client => { d with client, turns := d.turns ++ d.client.taker?.toList }
  | none => d

def hear (d : Dialogue) (n : Nat) : Dialogue :=
  let (piece, outgoing) := d.client.wires.outgoing.take n
  { d with client := { d.client with wires := { d.client.wires with outgoing } }, heard := d.heard ++ piece }

/-- the length of an answer has to fit into the header of its frame, even if it is more than the client takes -/
def answer (d : Dialogue) (payload : Bytes) : Dialogue :=
  match (wholeFrames d.heard)[d.answers.length]? with
  | some request =>
    if payload.length < byteRange 4 then
      { d with answers := d.answers ++ [(request, payload)], outbox := d.outbox ++ frame payload }
    else d
  | none => d

def reply (d : Dialogue) (n : Nat) : Dialogue :=
  match d.client.wires.incoming.write (d.outbox.take n) with
  | .wrote left incoming => { d with client := d.client.setAnswers incoming, outbox := left ++ d.outbox.drop n }
  | _ => d

def act (d : Dialogue) : Move → Dialogue
  | .begin request => { d with client := (d.client.begin request).2 }
  | .giveUp n => { d with client := d.client.giveUp n }
  | .call => d.call
  | .notice => { d with client := d.client.noticeStep.getD d.client }
  | .events pipe observers => { d with client := { d.client.setEvents pipe with observers } }
  | .hear n => d.hear n
  | .answer payload => d.answer payload
  | .reply n => d.reply n
  | .endAnswers => { d with client := d.client.endAnswers }
  | .leaveRequests => { d with client := d.client.leaveRequests }

def run (moves : List Move) (d : Dialogue) : Dialogue := moves.foldl act d

/-- a new client, whose pipes hold so many bytes -/
def fresh (outgoing incoming events : Nat) : Dialogue :=
  { client := { wires := ⟨.ofCapacity outgoing, .ofCapacity incoming, .ofCapacity events⟩ } }

/-- the payloads of the requests, in the order in which the calls took the stream -/
def requests (d : Dialogue) : List Bytes := d.turns.map fun turn => encode turn.2

def asked (d : Dialogue) : Bytes := (d.requests.map frame).flatten

/-- all that the calls have written -/
def written (d : Dialogue) : Bytes := d.heard ++ d.client.wires.outgoing.content

/-- what the client has yet to read of the answers -/
def due (d : Dialogue) : Bytes := d.client.wires.incoming.content ++ d.outbox

/-- a call took the stream, and then failed or was given up -/
def IsBroken (d : Dialogue) : Prop :=
  ∃ n m call, (n, m) ∈ d.turns ∧ d.client.calls[n]? = some call ∧ call.hasFailed = true

/-- a value is what the answer to a call says: the answer to the request of the same turn -/
def Own (d : Dialogue) (n : Nat) (m : Method) (v : Answer) : Prop :=
  ∃ (j : Nat) (payload : Bytes) (a : Answer), d.turns[j]? = some (n, m) ∧
    d.answers[j]? = some (encode m, payload) ∧ m.readAnswer payload = .ok a ∧ a.surface = .ok v

/-- the bytes of some answers -/
def told (answers : List (Bytes × Bytes)) : Bytes := (answers.map fun answer => frame answer.2).flatten

theorem told_append (as bs : List (Bytes × Bytes)) : told (as ++ bs) = told as ++ told bs := by
  rw [told, List.map_append, List.flatten_append]
  rfl

/-- what holds of the calls, the requests and the answers one by one -/
structure Books (d : Dialogue) : Prop where
  framed : ∀ (n : Nat) (call : Call) (m : Method), d.client.calls[n]? = some call → call.request = .call m →
    call.isPending = true → frameOf m = .ok call.frame
  took : ∀ (n : Nat) (m : Method), (n, m) ∈ d.turns → (encode m).length ≤ maxPayload ∧
    ∃ call, d.client.calls[n]? = some call ∧ call.request = .call m ∧ call.isWaiting = false
  once : (d.turns.map Prod.fst).Nodup
  answered : d.answers.map Prod.fst <+: d.requests
  short : ∀ answer ∈ d.answers, answer.2.length < byteRange 4
  own : ∀ (n : Nat) (call : Call) (m : Method) (v : Answer), d.client.calls[n]? = some call →
    call.request = .call m → call.phase = .done (.ok v) → d.Own n m v

/-- what a call that has its turn has yet to write, and what it has read -/
inductive Underway : CallPhase → Bytes → Bytes → Prop
  | sending (left : Bytes) : Underway (.sending left) left []
  | receiving {got : Bytes} (unfinished : Unfinished got) : Underway (.receiving (holding got)) [] got

/-- call `n` has its turn: of its request `left` is still to be written, and of the answer to it `got` is read -/
structure Exchange (d : Dialogue) (earlier : List (Nat × Method)) (n : Nat) (m : Method) (call : Call)
    (left got : Bytes) : Prop where
  turns : d.turns = earlier ++ [(n, m)]
  at_ : d.client.calls[n]? = some call
  request : call.request = .call m
  underway : Underway call.phase left got
  alone : ∀ (k : Nat) (other : Call), d.client.calls[k]? = some other → other.hasTurn = true → k = n
  flight : d.client.inFlight = true
  sound : ¬d.IsBroken
  written : d.written ++ left = d.asked
  cut : left <:+ frame (encode m)
  answered : earlier.length ≤ d.answers.length
  due : got ++ d.due = told (d.answers.drop earlier.length)

/-- how far the stream has come -/
inductive Stage (d : Dialogue) : Prop
  | idle (turn : ∀ call ∈ d.client.calls, call.hasTurn = false) (flight : d.client.inFlight = false)
    (sound : ¬d.IsBroken) (written : d.written = d.asked) (answered : d.turns.length ≤ d.answers.length)
    (due : d.due = [])
  | exchange {earlier : List (Nat × Method)} {n : Nat} {m : Method} {call : Call} {left got : Bytes}
    (now : Exchange d earlier n m call left got)
  | broken (turn : ∀ call ∈ d.client.calls, call.hasTurn = false) (flight : d.client.inFlight = true)
    (broken : d.IsBroken) (earlier : List (Nat × Method)) (last : Nat × Method) (turns : d.turns = earlier ++ [last])
    (left : Bytes) (written : d.written ++ left = d.asked) (cut : left <:+ frame (encode last.2))

/-- what happens while no call goes on: the service may give a further answer -/
structure Beside (d d' : Dialogue) (more : Option (Bytes × Bytes)) : Prop where
  calls : d'.client.calls = d.client.calls
  flight : d'.client.inFlight = d.client.inFlight
  turns : d'.turns = d.turns
  written : d'.written = d.written
  answers : d'.answers = d.answers ++ more.toList
  due : d'.due = d.due ++ told more.toList
  asked : ∀ answer ∈ more,
    (wholeFrames d.heard)[d.answers.length]? = some answer.1 ∧ answer.2.length < byteRange 4

variable {d d' : Dialogue}

/-! ## requests and answers -/

theorem Own.mono {n : Nat} {m : Method} {v : Answer} (h : d.Own n m v) (ht : d.turns <+: d'.turns)
    (ha : d.answers <+: d'.answers) : d'.Own n m v := by
  obtain ⟨j, payload, a, hj, hp, hr, hs⟩ := h
  obtain ⟨hlt, -⟩ := List.getElem?_eq_some_iff.mp hj
  obtain ⟨hla, -⟩ := List.getElem?_eq_some_iff.mp hp
  obtain ⟨turns, ht⟩ := ht
  obtain ⟨answers, ha⟩ := ha
  refine ⟨j, payload, a, ?_, ?_, hr, hs⟩
  · rw [← ht, List.getElem?_append_left hlt]
    exact hj
  · rw [← ha, List.getElem?_append_left hla]
    exact hp

theorem Own.of_eq {n : Nat} {m : Method} {v : Answer} (h : d.Own n m v) (ht : d'.turns = d.turns)
    (ha : d'.answers = d.answers) : d'.Own n m v := by
  unfold Own
  rw [ht, ha]
  exact h

theorem isBroken_of_eq (hc : d'.client.calls = d.client.calls) (ht : d'.turns = d.turns) :
    d'.IsBroken ↔ d.IsBroken := by
  unfold IsBroken
  rw [hc, ht]

theorem asked_of_eq (ht : d'.turns = d.turns) : d'.asked = d.asked := by
  unfold asked requests
  rw [ht]

/-! ## what the service does, and what becomes of the events -/

theorem beside_of_client {c : Client} (hc : c.calls = d.client.calls) (hf : c.inFlight = d.client.inFlight)
    (ho : c.wires.outgoing.content = d.client.wires.outgoing.content)
    (hi : c.wires.incoming.content = d.client.wires.incoming.content) :
    Beside d { d with client := c } none where
  calls := hc
  flight := hf
  turns := rfl
  written := by
    unfold written
    rw [ho]
  answers := (List.append_nil _).symm
  due := by
    unfold due
    rw [hi]
    exact (List.append_nil _).symm
  asked := nofun

theorem beside_hear (d : Dialogue) (n : Nat) : Beside d (d.hear n) none where
  calls := rfl
  flight := rfl
  turns := rfl
  written := by
    have h := d.client.wires.outgoing.take_append n
    unfold written
    rw [← h, ← List.append_assoc]
    rfl
  answers := (List.append_nil _).symm
  due := (List.append_nil _).symm
  asked := nofun

theorem beside_answer (d : Dialogue) (payload : Bytes) : ∃ more, Beside d (d.answer payload) more := by
  unfold answer
  cases hr : (wholeFrames d.heard)[d.answers.length]? with
  | none => exact ⟨none, beside_of_client rfl rfl rfl rfl⟩
  | some request =>
    by_cases hl : payload.length < byteRange 4
    · simp only [if_pos hl]
      refine ⟨some (request, payload), rfl, rfl, rfl, rfl, rfl, ?_, ?_⟩
      · have ht : told [(request, payload)] = frame payload := List.append_nil _
        rw [Option.toList_some, ht]
        exact (List.append_assoc ..).symm
      · rintro answer ⟨⟩
        exact ⟨hr, hl⟩
    · simp only [if_neg hl]
      exact ⟨none, beside_of_client rfl rfl rfl rfl⟩

theorem beside_reply (d : Dialogue) (n : Nat) : Beside d (d.reply n) none := by
  unfold reply
  cases hw : d.client.wires.incoming.write (d.outbox.take n) with
  | broken => exact beside_of_client rfl rfl rfl rfl
  | blocked => exact beside_of_client rfl rfl rfl rfl
  | wrote left incoming =>
    refine ⟨rfl, rfl, rfl, rfl, (List.append_nil _).symm, ?_, nofun⟩
    have hc := Pipe.content_write hw
    have hdue : incoming.content ++ (left ++ d.outbox.drop n) = d.due := by
      rw [← List.append_assoc, hc, List.append_assoc, List.take_append_drop]
      rfl
    exact hdue.trans (List.append_nil _).symm

theorem beside_notice (d : Dialogue) : Beside d (d.act .notice) none := by
  unfold act
  cases h : d.client.noticeStep with
  | none => exact beside_of_client rfl rfl rfl rfl
  | some c =>
    obtain ⟨hc, hf, ho, hi⟩ := Client.noticeStep_keeps h
    exact beside_of_client hc hf (congrArg Pipe.content ho) (congrArg Pipe.content hi)

/-! ## the service and the exchanges -/

theorem Books.size (hb : Books d) : ∀ request ∈ d.requests, request.length ≤ maxPayload := by
  intro request hr
  obtain ⟨⟨n, m⟩, ht, rfl⟩ := List.mem_map.mp hr
  exact (hb.took n m ht).1

theorem Stage.heard (hs : Stage d) : d.heard <+: d.asked := by
  have hpre {left : Bytes} (h : d.written ++ left = d.asked) : d.heard <+: d.asked := by
    rw [← h, written, List.append_assoc]
    exact List.prefix_append ..
  cases hs with
  | idle turn flight sound written answered due => exact hpre ((List.append_nil _).trans written)
  | exchange now => exact hpre now.written
  | broken turn flight broken earlier last turns left written cut => exact hpre written

/-- the service answers requests of the calls, in their order -/
theorem Books.beside (hb : Books d) (hs : Stage d) {more : Option (Bytes × Bytes)} (h : Beside d d' more) :
    Books d' where
  framed := by
    rw [h.calls]
    exact hb.framed
  took := by
    rw [h.calls, h.turns]
    exact hb.took
  once := by
    rw [h.turns]
    exact hb.once
  answered := by
    have hr : d'.requests = d.requests := by
      unfold requests
      rw [h.turns]
    rw [hr, h.answers, List.map_append]
    cases hm : more with
    | none =>
      rw [Option.toList_none, List.map_nil, List.append_nil]
      exact hb.answered
    | some answer =>
      obtain ⟨hw, -⟩ := h.asked answer hm
      obtain ⟨rest, hrest⟩ := wholeFrames_of_prefix hb.size hs.heard
      obtain ⟨hlt, -⟩ := List.getElem?_eq_some_iff.mp hw
      refine concat_isPrefix hb.answered ?_
      rw [List.length_map, ← hrest, List.getElem?_append_left hlt]
      exact hw
  short := by
    intro answer ha
    rw [h.answers, List.mem_append] at ha
    obtain ha | ha := ha
    · exact hb.short answer ha
    · exact (h.asked answer (Option.mem_toList.mp ha)).2
  own := by
    intro n call m v hn hr hp
    rw [h.calls] at hn
    have hturns : d.turns <+: d'.turns := ⟨[], (List.append_nil _).trans h.turns.symm⟩
    exact (hb.own n call m v hn hr hp).mono hturns ⟨more.toList, h.answers.symm⟩

theorem Books.length_answers (hb : Books d) : d.answers.length ≤ d.turns.length := by
  have h := hb.answered.length_le
  rwa [List.length_map, requests, List.length_map] at h

/-- what the service answers meanwhile belongs to the call that has its turn -/
theorem Exchange.beside {earlier : List (Nat × Method)} {n : Nat} {m : Method} {call : Call} {left got : Bytes}
    (now : Exchange d earlier n m call left got) {more : Option (Bytes × Bytes)} (h : Beside d d' more) :
    Exchange d' earlier n m call left got where
  turns := h.turns.trans now.turns
  at_ := by
    rw [h.calls]
    exact now.at_
  request := now.request
  underway := now.underway
  alone := by
    rw [h.calls]
    exact now.alone
  flight := h.flight.trans now.flight
  sound := (not_congr (isBroken_of_eq h.calls h.turns)).mpr now.sound
  written := by
    rw [h.written, asked_of_eq h.turns]
    exact now.written
  cut := now.cut
  answered := by
    rw [h.answers, List.length_append]
    exact Nat.le_add_right_of_le now.answered
  due := by
    rw [h.due, h.answers, List.drop_append_of_le_length now.answered, told_append, ← now.due, List.append_assoc]

/-- **The service does not disturb the exchanges.** -/
theorem Stage.beside (hs : Stage d) {more : Option (Bytes × Bytes)} (h : Beside d d' more) (hb' : Books d') :
    Stage d' := by
  have hbroken := isBroken_of_eq h.calls h.turns
  have hasked := asked_of_eq h.turns
  cases hs with
  | idle turn flight sound written answered due =>
    -- every turn has its answer already
    have hmore : more.toList = [] := by
      have hlen := hb'.length_answers
      rw [h.answers, h.turns, List.length_append] at hlen
      exact List.length_eq_zero_iff.mp (by omega)
    refine .idle ?_ (h.flight.trans flight) ((not_congr hbroken).mpr sound) ?_ ?_ ?_
    · rw [h.calls]
      exact turn
    · rw [h.written, hasked, written]
    · rw [h.answers, h.turns, hmore, List.append_nil]
      exact answered
    · rw [h.due, hmore, due]
      rfl
  | exchange now => exact .exchange (now.beside h)
  | broken turn flight broken earlier last turns left written cut =>
    refine .broken ?_ (h.flight.trans flight) (hbroken.mpr broken) earlier last (h.turns.trans turns) left ?_ cut
    · rw [h.calls]
      exact turn
    · rw [h.written, hasked, written]

end Dialogue

end TunnelControl
