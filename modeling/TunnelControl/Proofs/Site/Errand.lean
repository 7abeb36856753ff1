import TunnelControl.Proofs.Client.Stages
import TunnelControl.Proofs.Client.Turns
import TunnelControl.Proofs.Message.Payload
import TunnelControl.Proofs.Message.Size
import TunnelControl.Proofs.Stream.Pipe

/-!
# The errands of a client

The calls of a client go over one connection, whose loop answers them.  As long as neither side closes it and all
requests and answers have frames, one call at a time is on its way there and back: what is left to write of it, what
is in the pipe and what was read make up one frame.

* `Errand.Stage`       how far the calls and the loop have come, with the answers that the loop has given so far;
* `Errand`             besides, the pipes are open;
* `Errand.begin`       a call is made;
* `Errand.callStep`    what the calls do next.
-/

namespace TunnelControl

open FrameReader (holding Unfinished holding_nil unfinished_nil wanted_pos)
open Dialogue (Underway)
open Wire (encode)

/-! ## answers -/

/-- an answer that belongs to a method is read as what it is -/
theorem Method.readAnswer_of_frame {m : Method} {a : Answer} {bs : Bytes} (ht : m.isAnsweredBy a = true)
    (hf : a.frame = .ok bs) : ∃ payload, bs = frame payload ∧ payload.length ≤ maxPayload ∧
      m.readAnswer payload = .ok a := by
  have hread {α : Type} [Wire α] [LawfulWire α] (v : α) (f : α → Answer) (hv : frameOf v = .ok bs) :
      ∃ payload, bs = frame payload ∧ payload.length ≤ maxPayload ∧ f <$> decodePayload α payload = .ok (f v) := by
    obtain ⟨hbytes, hsize⟩ := frameOf_eq_ok_iff.mp hv
    refine ⟨encode v, hbytes, hsize, ?_⟩
    rw [decodePayload_encode (Nat.lt_of_le_of_lt hsize (by decide))]
    rfl
  match m, a, ht with
  | .quit _, .quit response, _ => exact hread response .quit hf
  | .queryUpdateState, .updateState state, _ => exact hread state .updateState hf
  | .triggerUpdate, .acknowledged, _ => exact hread () (fun _ => .acknowledged) hf
  | .startTunnel _, .operation response, _ => exact hread response .operation hf
  | .stopTunnel, .operation response, _ => exact hread response .operation hf
  | .queryTunnelState, .tunnelState state, _ => exact hread state .tunnelState hf

/-! ## calls in a row -/

def longestFrame : Nat := 4 + maxPayload

namespace Call

/-- no call takes more steps, its own and those of the loop: it begins to write and to read, and each byte of the
request and of the answer is written once and read once -/
def cost (c : Call) : Nat := 2 + 2 * c.frame.length + 2 * longestFrame

/-- the step with which a call that writes begins to read -/
def turning (c : Call) : Nat :=
  match c.phase with
  | .sending _ => 1
  | _ => 0

/-- a call that waits for its turn, and has a frame -/
structure IsReady (c : Call) : Prop where
  phase : c.phase = .waiting
  framed : ∃ m, c.request = .call m ∧ frameOf m = .ok c.frame

end Call

namespace Errand

/-- calls that have their results, which are what the answers to them say -/
def Settled (calls : List Call) (answered : List (Method × Answer)) : Prop :=
  calls.map (fun c => (c.request, c.phase)) = answered.map fun entry => (.call entry.1, .done entry.2.surface)

def costs (calls : List Call) : Nat := (calls.map Call.cost).sum

/-- one call has its turn: those before it have their results, and those behind it wait -/
structure Turn (calls : List Call) (inFlight : Bool) (answered : List (Method × Answer)) (past : List Call) (now : Call)
    (future : List Call) (m : Method) : Prop where
  calls : calls = past ++ now :: future
  settled : Settled past answered
  request : now.request = .call m
  ready : ∀ c ∈ future, c.IsReady
  flight : inFlight = true

variable {calls past future : List Call} {now : Call} {inFlight : Bool} {answered : List (Method × Answer)}
  {m : Method} {a : Answer} {spent : Nat}

theorem Settled.phase (h : Settled calls answered) {c : Call} (hc : c ∈ calls) : ∃ r, c.phase = .done r := by
  have hmem := List.mem_map_of_mem (f := fun c : Call => (c.request, c.phase)) hc
  rw [h] at hmem
  obtain ⟨⟨m, a⟩, -, heq⟩ := List.mem_map.mp hmem
  exact ⟨a.surface, (Prod.mk.inj heq).2.symm⟩

theorem Settled.concat (h : Settled past answered) (hr : now.request = .call m) (hp : now.phase = .done a.surface) :
    Settled (past ++ [now]) (answered ++ [(m, a)]) := by
  unfold Settled at h ⊢
  rw [List.map_append, List.map_append, h, List.map_singleton, List.map_singleton, hr, hp]

theorem Settled.test_eq_false (h : Settled past answered) {test : Call → Bool}
    (ht : ∀ c : Call, ∀ r, c.phase = .done r → test c = false) : ∀ c ∈ past, test c = false := by
  intro c hc
  obtain ⟨r, hr⟩ := h.phase hc
  exact ht c r hr

theorem costs_concat (calls : List Call) (c : Call) : costs (calls ++ [c]) = costs calls + c.cost := by
  rw [costs, List.map_append, List.sum_append, List.map_singleton, List.sum_singleton]
  rfl

theorem costs_append (calls more : List Call) : costs (calls ++ more) = costs calls + costs more := by
  rw [costs, List.map_append, List.sum_append]
  rfl

theorem Turn.goesOn (h : Turn calls inFlight answered past now future m) (phase : CallPhase) :
    Turn (calls.set past.length { now with phase }) true answered past { now with phase } future m where
  calls := by rw [h.calls, List.set_append_right _ _ (Nat.le_refl _), Nat.sub_self, List.set_cons_zero]
  settled := h.settled
  request := h.request
  ready := h.ready
  flight := rfl

end Errand

theorem Client.findCall_of_append {c : Client} {test : Call → Bool} {past future : List Call} {now : Call}
    (hc : c.calls = past ++ now :: future) (hp : ∀ d ∈ past, test d = false) (hn : test now = true) :
    c.findCall test = some (past.length, now) := by
  have hidx : c.calls.findIdx? test = some past.length := by
    rw [hc, List.findIdx?_append, List.findIdx?_eq_none_iff.mpr hp, Option.none_or, List.findIdx?_cons, hn]
    simp
  have hget : c.calls[past.length]? = some now := by
    rw [hc, List.getElem?_append_right (Nat.le_refl _), Nat.sub_self]
    rfl
  unfold findCall
  rw [hidx]
  show (c.calls[past.length]?).bind _ = _
  rw [hget]
  rfl

/-- a call that reads finds something there, as long as the service does not close the stream -/
theorem Client.exchangeStep_receiving {c c' : Client} {n : Nat} {call : Call} {reader : FrameReader}
    (hp : call.phase = .receiving reader) (ho : c.wires.incoming.IsOpen) (hs : c.exchangeStep n call = some c') :
    (c.wires.incoming.take reader.wanted).1 ≠ [] ∧
      ((∃ next, reader.feed (c.wires.incoming.take reader.wanted).1 = .more next ∧
          c' = { c with wires := { c.wires with incoming := (c.wires.incoming.take reader.wanted).2 } }.setCall n
            { call with phase := .receiving next }) ∨
        (∃ length, reader.feed (c.wires.incoming.take reader.wanted).1 = .tooLarge length) ∨
        ∃ payload, reader.feed (c.wires.incoming.take reader.wanted).1 = .payload payload ∧
          c' = { c with wires := { c.wires with incoming := (c.wires.incoming.take reader.wanted).2 } }.judge n call
            payload) := by
  unfold exchangeStep at hs
  simp only [hp] at hs
  generalize c.wires.incoming.take reader.wanted = taken at hs ⊢
  obtain ⟨piece, incoming⟩ := taken
  cases piece with
  | nil =>
    have hend : c.wires.incoming.atEnd = false := by rw [Pipe.atEnd, ho.writer, Bool.not_true, Bool.and_false]
    simp only [hend, Bool.false_eq_true, if_false] at hs
    cases hs
  | cons b piece =>
    refine ⟨List.cons_ne_nil b piece, ?_⟩
    simp only at hs ⊢
    cases hf : reader.feed (b :: piece) with
    | more next =>
      rw [hf] at hs
      cases hs
      exact .inl ⟨next, rfl, rfl⟩
    | tooLarge length => exact .inr (.inl ⟨length, rfl⟩)
    | payload payload =>
      rw [hf] at hs
      cases hs
      exact .inr (.inr ⟨payload, rfl, rfl⟩)

/-! ## frames on their way -/

/-- a reader that has read enough of a frame has all of it -/
theorem whole_of_feed {held content left payload : Bytes} {o : FrameReader.Outcome} (hu : Unfinished held)
    (hsize : payload.length ≤ maxPayload) (hb : held ++ content ++ left = frame payload)
    (hf : (holding held).feed (content.take (holding held).wanted) = o) (ho : ∀ reader, o ≠ .more reader) :
    o = .payload payload ∧ content.drop (holding held).wanted = [] ∧ left = [] := by
  have hc := FrameReader.cutFrame_append (FrameReader.cutFrame_of_feed_take hu hf ho) ho left
  rw [hb, cutFrame_frame hsize] at hc
  obtain ⟨ho, hrest⟩ := Prod.mk.inj hc
  obtain ⟨hdrop, hleft⟩ := List.append_eq_nil_iff.mp hrest.symm
  exact ⟨ho.symm, hdrop, hleft⟩

def Link.withWires (l : Link) (w : Wires) : Link := { l with requests := w.outgoing, responses := w.incoming }

namespace Errand

theorem phase_of_asks {phase : CallPhase} {left : Bytes} (h : Underway phase left []) :
    phase = .sending left ∨ left = [] ∧ phase = .receiving .start := by
  generalize hg : ([] : Bytes) = got at h
  cases h with
  | sending => exact .inl rfl
  | receiving =>
    subst hg
    exact .inr ⟨rfl, rfl⟩

theorem phase_of_tells {phase : CallPhase} {got : Bytes} (h : Underway phase [] got) :
    phase = .sending [] ∧ got = [] ∨ phase = .receiving (holding got) ∧ Unfinished got := by
  generalize hl : ([] : Bytes) = left at h
  cases h with
  | sending =>
    subst hl
    exact .inl ⟨rfl, rfl⟩
  | receiving unfinished => exact .inr ⟨rfl, unfinished⟩

/-! ## stages -/

/-- nothing is on its way -/
structure Idle (calls : List Call) (inFlight : Bool) (l : Link) (answered : List (Method × Answer)) (spent : Nat)
    (past future : List Call) : Prop where
  calls : calls = past ++ future
  settled : Settled past answered
  ready : ∀ c ∈ future, c.IsReady
  flight : inFlight = false
  serving : l.serving = .reading .start
  requests : l.requests.content = []
  responses : l.responses.content = []
  paced : spent ≤ costs past

/-- a request is on its way; `left` is to be written, and `held` was read -/
structure Asks (calls : List Call) (inFlight : Bool) (l : Link) (answered : List (Method × Answer)) (spent : Nat)
    (past : List Call) (now : Call) (future : List Call) (m : Method) (left held : Bytes) : Prop where
  turn : Turn calls inFlight answered past now future m
  phase : Underway now.phase left []
  serving : l.serving = .reading (holding held)
  unfinished : Unfinished held
  bytes : held ++ l.requests.content ++ left = frame (encode m)
  short : (encode m).length ≤ maxPayload
  responses : l.responses.content = []
  paced : spent + now.turning + 2 * left.length + l.requests.content.length + 2 * longestFrame
    ≤ costs past + now.cost

/-- the answer to it is on its way; `left` is to be written, and `got` was read -/
structure Tells (calls : List Call) (inFlight : Bool) (l : Link) (answered : List (Method × Answer)) (spent : Nat)
    (past : List Call) (now : Call) (future : List Call) (m : Method) (a : Answer) (before : List (Method × Answer))
    (left got payload : Bytes) : Prop where
  turn : Turn calls inFlight before past now future m
  last : answered = before ++ [(m, a)]
  phase : Underway now.phase [] got
  serving : l.serving = if left = [] then .reading .start else .replying left
  bytes : got ++ l.responses.content ++ left = frame payload
  short : payload.length ≤ maxPayload
  reads : m.readAnswer payload = .ok a
  requests : l.requests.content = []
  paced : spent + now.turning + 2 * left.length + l.responses.content.length ≤ costs past + now.cost

/-- how far the calls and the loop have come, with so many steps -/
inductive Stage (calls : List Call) (inFlight : Bool) (l : Link) (answered : List (Method × Answer)) (spent : Nat) : Prop
  | idle {past future : List Call} (h : Idle calls inFlight l answered spent past future)
  | asks {past future : List Call} {now : Call} {m : Method} {left held : Bytes}
      (h : Asks calls inFlight l answered spent past now future m left held)
  | tells {past future : List Call} {now : Call} {m : Method} {a : Answer} {before : List (Method × Answer)}
      {left got payload : Bytes} (h : Tells calls inFlight l answered spent past now future m a before left got payload)

end Errand

/-- the calls of a client and the connection that carries them, with the answers that were given over it, and how many
steps were taken for it -/
structure Errand (calls : List Call) (inFlight : Bool) (l : Link) (answered : List (Method × Answer)) (spent : Nat) :
    Prop where
  stage : Errand.Stage calls inFlight l answered spent
  requests : l.requests.IsOpen
  responses : l.responses.IsOpen

namespace Errand

variable {calls past future : List Call} {now call : Call} {inFlight : Bool} {answered : List (Method × Answer)}
  {m : Method} {a : Answer} {spent n : Nat} {l l' : Link}

/-! ## a call is made -/

theorem Turn.begin (h : Turn calls inFlight answered past now future m) (hc : call.IsReady) :
    Turn (calls ++ [call]) inFlight answered past now (future ++ [call]) m where
  calls := by rw [h.calls, List.append_assoc, List.cons_append]
  settled := h.settled
  request := h.request
  ready := List.forall_mem_append.mpr ⟨h.ready, List.forall_mem_singleton.mpr hc⟩
  flight := h.flight

theorem begin (h : Errand calls inFlight l answered spent) (hc : call.IsReady) :
    Errand (calls ++ [call]) inFlight l answered spent := by
  refine ⟨?_, h.requests, h.responses⟩
  cases h.stage with
  | idle h =>
    refine .idle { h with calls := ?_, ready := List.forall_mem_append.mpr ⟨h.ready, List.forall_mem_singleton.mpr hc⟩ }
    rw [h.calls, List.append_assoc]
  | asks h => exact .asks { h with turn := h.turn.begin hc }
  | tells h => exact .tells { h with turn := h.turn.begin hc }

/-! ## the calls go on -/

section
variable {c c' : Client}

theorem Turn.findCall (h : Turn c.calls inFlight answered past now future m) (ht : now.hasTurn = true) :
    c.findCall Call.hasTurn = some (past.length, now) := by
  refine Client.findCall_of_append h.calls (h.settled.test_eq_false fun c r hr => ?_) ht
  rw [Call.hasTurn, hr]

theorem Turn.callStep (h : Turn c.calls inFlight answered past now future m) (ht : now.hasTurn = true) :
    c.callStep = c.exchangeStep past.length now := by
  rw [Client.callStep, h.findCall ht]

theorem Idle.findCall (h : Idle c.calls c.inFlight l answered spent past future) :
    c.findCall Call.hasTurn = none := by
  refine Client.findCall_eq_none fun d hd => ?_
  rw [h.calls] at hd
  obtain hd | hd := List.mem_append.mp hd
  · exact h.settled.test_eq_false (fun c r hr => by rw [Call.hasTurn, hr]) d hd
  · rw [Call.hasTurn, (h.ready d hd).phase]

theorem Idle.callStep_nil (h : Idle c.calls c.inFlight l answered spent past []) : c.callStep = none := by
  have hwaits : c.findCall Call.isWaiting = none := by
    refine Client.findCall_eq_none fun d hd => ?_
    rw [h.calls, List.append_nil] at hd
    exact h.settled.test_eq_false (fun c r hr => by rw [Call.isWaiting, hr]) d hd
  rw [Client.callStep, h.findCall, hwaits]
  rfl

theorem Idle.callStep_cons (h : Idle c.calls c.inFlight l answered spent past (now :: future)) :
    c.callStep = some (c.taken past.length now) := by
  obtain ⟨hphase, m, hr, -⟩ := h.ready now List.mem_cons_self
  have hwaits : c.findCall Call.isWaiting = some (past.length, now) :=
    Client.findCall_of_append h.calls (h.settled.test_eq_false fun c r hr => by rw [Call.isWaiting, hr])
      (by rw [Call.isWaiting, hphase])
  rw [Client.callStep, h.findCall, hwaits]
  refine congrArg some ?_
  show c.takeTurn past.length now = _
  unfold Client.takeTurn
  split
  · rename_i hclose
    rw [hr] at hclose
    cases hclose
  · rw [h.flight]
    rfl

theorem Idle.taken (h : Idle c.calls c.inFlight l answered spent past (now :: future)) :
    Stage (c.taken past.length now).calls (c.taken past.length now).inFlight l answered (spent + 1) := by
  obtain ⟨-, m, hr, hframe⟩ := h.ready now List.mem_cons_self
  have turn : Turn c.calls true answered past now future m :=
    ⟨h.calls, h.settled, hr, fun d hd => h.ready d (List.mem_cons_of_mem _ hd), rfl⟩
  obtain ⟨hbytes, hsize⟩ := frameOf_eq_ok_iff.mp hframe
  refine .asks (show Asks _ _ _ _ _ past _ future m now.frame [] from
    { turn := turn.goesOn (.sending now.frame), phase := .sending _, serving := holding_nil ▸ h.serving
      unfinished := unfinished_nil, bytes := ?_, short := hsize, responses := h.responses, paced := ?_ })
  · rw [h.requests, ← hbytes]
    rfl
  · have hpaced := h.paced
    rw [h.requests]
    show spent + 1 + 1 + 2 * now.frame.length + 0 + 2 * longestFrame
      ≤ costs past + (2 + 2 * now.frame.length + 2 * longestFrame)
    omega

theorem Asks.exchangeStep {left held : Bytes}
    (h : Asks c.calls c.inFlight (l.withWires c.wires) answered spent past now future m left held)
    (hopen : c.wires.outgoing.IsOpen) (hpipe : c.wires.incoming.IsOpen)
    (hs : c.exchangeStep past.length now = some c') :
    Errand c'.calls c'.inFlight (l.withWires c'.wires) answered (spent + 1) := by
  unfold Client.exchangeStep at hs
  obtain hphase | ⟨rfl, hphase⟩ := phase_of_asks h.phase
  · have hpaced := h.paced
    rw [show now.turning = 1 by rw [Call.turning, hphase]] at hpaced
    simp only [hphase] at hs
    cases left with
    | nil =>
      -- all is written
      cases hs
      have turn := h.turn.goesOn (.receiving .start)
      rw [← h.turn.flight] at turn
      exact ⟨.asks { h with turn := turn, phase := .receiving unfinished_nil, paced := hpaced }, hopen, hpipe⟩
    | cons b left =>
      simp only [List.isEmpty_cons, Bool.false_eq_true, if_false] at hs
      cases hw : c.wires.outgoing.write (b :: left) with
      | blocked =>
        rw [hw] at hs
        cases hs
      | broken => exact absurd hw (hopen.write_ne_broken _)
      | wrote rest outgoing =>
        rw [hw] at hs
        cases hs
        have hcontent := Pipe.content_write hw
        have hlonger := Pipe.length_content_write (List.cons_ne_nil b left) hw
        have turn := h.turn.goesOn (.sending rest)
        rw [← h.turn.flight] at turn
        refine ⟨.asks { h with turn := turn, phase := .sending rest, bytes := ?_, paced := ?_ }, hopen.write hw, hpipe⟩
        · have hbytes := h.bytes
          rw [List.append_assoc] at hbytes
          show held ++ outgoing.content ++ rest = _
          rw [List.append_assoc, hcontent]
          exact hbytes
        · have hlength := congrArg List.length hcontent
          rw [List.length_append, List.length_append] at hlength
          show spent + 1 + 1 + 2 * rest.length + outgoing.content.length + 2 * longestFrame ≤ costs past + now.cost
          have hpaced : spent + 1 + 2 * (b :: left).length + c.wires.outgoing.content.length + 2 * longestFrame
            ≤ costs past + now.cost := hpaced
          omega
  · -- no answer is there yet
    obtain ⟨hsome, -⟩ := Client.exchangeStep_receiving hphase hpipe hs
    exact absurd ((c.wires.incoming.take_eq_nil_iff (by decide)).mpr h.responses) hsome

theorem Tells.exchangeStep {before : List (Method × Answer)} {left got payload : Bytes}
    (h : Tells c.calls c.inFlight (l.withWires c.wires) answered spent past now future m a before left got payload)
    (hopen : c.wires.outgoing.IsOpen) (hpipe : c.wires.incoming.IsOpen)
    (hs : c.exchangeStep past.length now = some c') :
    Errand c'.calls c'.inFlight (l.withWires c'.wires) answered (spent + 1) := by
  obtain ⟨hphase, rfl⟩ | ⟨hphase, hunfinished⟩ := phase_of_tells h.phase
  · -- the call turns to its answer
    have hpaced := h.paced
    rw [show now.turning = 1 by rw [Call.turning, hphase]] at hpaced
    unfold Client.exchangeStep at hs
    simp only [hphase] at hs
    cases hs
    have turn := h.turn.goesOn (.receiving .start)
    rw [← h.turn.flight] at turn
    exact ⟨.tells { h with turn := turn, phase := .receiving unfinished_nil, paced := hpaced }, hopen, hpipe⟩
  · -- the call has read some of its answer, and reads more of it or the rest
    have hpaced := h.paced
    rw [show now.turning = 0 by rw [Call.turning, hphase]] at hpaced
    obtain ⟨hsome, hcase⟩ := Client.exchangeStep_receiving hphase hpipe hs
    rw [Pipe.take_fst] at hsome hcase
    have hread := c.wires.incoming.length_content_take_lt hsome
    have hbytes : got ++ c.wires.incoming.content ++ left = frame payload := h.bytes
    obtain ⟨reader, hfed, rfl⟩ | ⟨length, hfed⟩ | ⟨payload', hfed, rfl⟩ := hcase
    · obtain ⟨hunfinished', rfl⟩ := FrameReader.unfinished_of_feed_take hunfinished hfed
      have turn := h.turn.goesOn
        (.receiving (holding (got ++ c.wires.incoming.content.take (holding got).wanted)))
      rw [← h.turn.flight] at turn
      refine ⟨.tells { h with turn := turn, phase := .receiving hunfinished', bytes := ?_, paced := ?_ }, hopen,
        hpipe.take _⟩
      · show got ++ c.wires.incoming.content.take _ ++ (c.wires.incoming.take _).2.content ++ left = _
        rw [Pipe.content_take, List.append_assoc got, List.take_append_drop]
        exact hbytes
      · show spent + 1 + 0 + 2 * left.length + (c.wires.incoming.take _).2.content.length ≤ costs past + now.cost
        have hpaced : spent + 0 + 2 * left.length + c.wires.incoming.content.length ≤ costs past + now.cost := hpaced
        omega
    · obtain ⟨hout, -⟩ := whole_of_feed hunfinished h.short hbytes hfed nofun
      cases hout
    · obtain ⟨hout, hdrop, rfl⟩ := whole_of_feed hunfinished h.short hbytes hfed nofun
      cases hout
      have hjudge (d : Client) : d.judge past.length now payload
          = { d with inFlight := false }.finish past.length now a.surface := by
        unfold Client.judge
        split
        · rename_i hclose
          rw [h.turn.request] at hclose
          cases hclose
        · rename_i m' hr
          rw [h.turn.request] at hr
          cases hr
          rw [h.reads]
      rw [hjudge]
      have turn := h.turn.goesOn (.done a.surface)
      refine ⟨.idle (show Idle _ _ _ _ _ (past ++ [{ now with phase := .done a.surface }]) future from
        { calls := ?_, settled := ?_, ready := turn.ready, flight := rfl, serving := h.serving, requests := h.requests
          responses := ?_, paced := ?_ }), hopen, hpipe.take _⟩
      · rw [List.append_assoc]
        exact turn.calls
      · rw [h.last]
        exact turn.settled.concat turn.request rfl
      · exact (Pipe.content_take _ _).trans hdrop
      · rw [costs_concat]
        have hpaced : spent + 0 + 2 * 0 + c.wires.incoming.content.length ≤ costs past + now.cost := hpaced
        show spent + 1 ≤ costs past + now.cost
        omega

/-- **Whatever the calls do next, they stay at one with the loop.** -/
theorem callStep (h : Errand c.calls c.inFlight (l.withWires c.wires) answered spent) (hs : c.callStep = some c') :
    Errand c'.calls c'.inFlight (l.withWires c'.wires) answered (spent + 1) := by
  cases h.stage with
  | @idle past future hidle =>
    cases future with
    | nil => cases hidle.callStep_nil.symm.trans hs
    | cons now future =>
      cases hidle.callStep_cons.symm.trans hs
      exact ⟨hidle.taken, h.requests, h.responses⟩
  | asks hasks =>
    rw [hasks.turn.callStep hasks.phase.hasTurn] at hs
    exact hasks.exchangeStep h.requests h.responses hs
  | tells htells =>
    rw [htells.turn.callStep htells.phase.hasTurn] at hs
    exact htells.exchangeStep h.requests h.responses hs

end

end Errand

end TunnelControl
