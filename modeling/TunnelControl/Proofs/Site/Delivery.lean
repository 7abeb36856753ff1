import TunnelControl.Proofs.Service.Turn
import TunnelControl.Proofs.Site.Errand

/-!
# The errands of a client are run

* `Errand.serveStep`    what the loop does next: it answers the request of the call whose turn it is;
* `Errand.isDone`       when neither the calls nor the loop can do anything, all calls have their results;
* `Errand.told`         these are what the answers say.
-/

namespace TunnelControl

open FrameReader (holding Unfinished wanted_pos)
open Service (LoopTurn)
open Wire (encode)

namespace Errand

variable {calls past future : List Call} {now : Call} {inFlight : Bool} {answered : List (Method × Answer)}
  {m : Method} {a : Answer} {spent n : Nat} {l : Link}

/-! ## the loop goes on -/

section
variable {s t : Service} {request : Option Method}

/-- the answer to a request that the loop completes, if it completes one -/
def given (s : Service) (session : Nat) (request : Option Method) : List (Method × Answer) :=
  (request.map fun m => (m, (s.dispatch session m).1)).toList

theorem not_turned {reader : FrameReader} (hs : l.serving = .reading reader) (hc : l.requests.content = [])
    (hopen : l.requests.IsOpen) : ¬LoopTurn s n l request t := by
  have hnone (reader : FrameReader) : (l.requests.take reader.wanted).1 = [] := by
    rw [Pipe.take_fst, hc, List.take_nil]
  intro hturn
  cases hturn with
  | writes left rest responses hs' => cases hs.symm.trans hs'
  | written left responses hs' => cases hs.symm.trans hs'
  | unwritten left hs' => cases hs.symm.trans hs'
  | stops reader hs ht he =>
    rw [Pipe.atEnd, hopen.writer, Bool.not_true, Bool.and_false] at he
    cases he
  | reads reader next hs ht => exact ht (hnone reader)
  | tooLarge reader length hs ht => exact ht (hnone reader)
  | undecodable reader payload fault hs ht => exact ht (hnone reader)
  | answers reader payload request frame hs ht => exact ht (hnone reader)
  | unanswerable reader payload request e hs ht => exact ht (hnone reader)

theorem Asks.turned {left held : Bytes} (h : Asks calls inFlight l answered spent past now future m left held)
    (hopen : l.requests.IsOpen) (hpipe : l.responses.IsOpen) (hturn : LoopTurn s n l request t)
    (hframe : ∀ m ∈ request, (s.dispatch l.session m).1.HasFrame) :
    ∃ l', t = (s.carried l.session request).setLink n l' ∧ l'.session = l.session ∧
      Errand calls inFlight l' (answered ++ given s l.session request) (spent + 1) := by
  have hpaced := h.paced
  have hdecode : decodePayload Method (encode m) = .ok m :=
    decodePayload_encode (Nat.lt_of_le_of_lt h.short (by decide))
  have hwhole {o : FrameReader.Outcome} {reader : FrameReader} (hs : l.serving = .reading reader)
      (hf : reader.feed (l.requests.take reader.wanted).1 = o) (ho : ∀ next, o ≠ .more next) :
      o = .payload (encode m) ∧ (l.requests.take reader.wanted).2.content = [] ∧ left = [] := by
    cases h.serving.symm.trans hs
    rw [Pipe.take_fst] at hf
    rw [Pipe.content_take]
    exact whole_of_feed h.unfinished h.short h.bytes hf ho
  cases hturn with
  | writes left rest responses hs => cases h.serving.symm.trans hs
  | written left responses hs => cases h.serving.symm.trans hs
  | unwritten left hs => cases h.serving.symm.trans hs
  | stops reader hs ht he =>
    rw [Pipe.atEnd, hopen.writer, Bool.not_true, Bool.and_false] at he
    cases he
  | reads reader next hs ht hf =>
    cases h.serving.symm.trans hs
    rw [Pipe.take_fst] at ht hf
    have hread := l.requests.length_content_take_lt ht
    obtain ⟨hunfinished, rfl⟩ := FrameReader.unfinished_of_feed_take h.unfinished hf
    rw [show answered ++ given s l.session none = answered from List.append_nil _]
    refine ⟨_, rfl, rfl, .asks { h with
      serving := rfl, unfinished := hunfinished, bytes := ?_, paced := ?_ }, hopen.take _, hpipe⟩
    · rw [Pipe.content_take, List.append_assoc held, List.take_append_drop]
      exact h.bytes
    · show spent + 1 + now.turning + 2 * left.length + (l.requests.take (holding held).wanted).2.content.length
        + 2 * longestFrame ≤ costs past + now.cost
      omega
  | tooLarge reader length hs ht hf =>
    obtain ⟨hout, -⟩ := hwhole hs hf (by simp)
    cases hout
  | undecodable reader payload fault hs ht hf hd =>
    obtain ⟨hout, -⟩ := hwhole hs hf (by simp)
    cases hout
    cases hdecode.symm.trans hd
  | answers reader payload request frame hs ht hf hd ha =>
    obtain ⟨hout, hnothing, rfl⟩ := hwhole hs hf (by simp)
    cases hout
    cases hdecode.symm.trans hd
    -- the steps that were set aside for the longest frame are enough for the answer
    have hread : 0 < l.requests.content.length := by
      rw [Pipe.take_fst] at ht
      exact Nat.lt_of_le_of_lt (Nat.zero_le _) (l.requests.length_content_take_lt ht)
    obtain ⟨payload, rfl, hsize, hreads⟩ := Method.readAnswer_of_frame (s.isAnsweredBy_dispatch l.session m) ha
    refine ⟨_, rfl, rfl, .tells (show Tells _ _ _ _ _ past now future m _ _ (frame payload) [] payload from
      { turn := h.turn, last := rfl, phase := h.phase, serving := (if_neg (Answer.ne_nil_of_frame ha)).symm, bytes := ?_
        short := hsize, reads := hreads, requests := hnothing, paced := ?_ }), hopen.take _, hpipe⟩
    · rw [h.responses, List.append_nil, List.nil_append]
    · show spent + 1 + now.turning + 2 * (frame payload).length + l.responses.content.length ≤ costs past + now.cost
      have hpaced : spent + now.turning + 2 * 0 + l.requests.content.length + 2 * longestFrame
        ≤ costs past + now.cost := hpaced
      rw [h.responses, List.length_nil, length_frame]
      have hlongest : longestFrame = 4 + maxPayload := rfl
      omega
  | unanswerable reader payload request e hs ht hf hd ha =>
    obtain ⟨frame, hframe⟩ := hframe request rfl
    cases hframe.symm.trans ha

theorem Tells.writes {before : List (Method × Answer)} {left rest got payload : Bytes} {responses : Pipe}
    (h : Tells calls inFlight l answered spent past now future m a before left got payload) (hne : left ≠ [])
    (hopen : l.requests.IsOpen) (hpipe : l.responses.IsOpen) (hw : l.responses.write left = .wrote rest responses) :
    Errand calls inFlight
      { l with responses, serving := if rest = [] then .reading .start else .replying rest } answered (spent + 1) := by
  have hpaced := h.paced
  have hcontent := Pipe.content_write hw
  have hlonger := Pipe.length_content_write hne hw
  have hlength := congrArg List.length hcontent
  rw [List.length_append, List.length_append] at hlength
  refine ⟨.tells { h with serving := rfl, bytes := ?_, paced := ?_ }, hopen, hpipe.write hw⟩
  · have hbytes := h.bytes
    rw [List.append_assoc] at hbytes
    show got ++ responses.content ++ rest = _
    rw [List.append_assoc, hcontent]
    exact hbytes
  · show spent + 1 + now.turning + 2 * rest.length + responses.content.length ≤ costs past + now.cost
    omega

theorem Tells.turned {before : List (Method × Answer)} {left got payload : Bytes}
    (h : Tells calls inFlight l answered spent past now future m a before left got payload)
    (hopen : l.requests.IsOpen) (hpipe : l.responses.IsOpen) (hturn : LoopTurn s n l request t) :
    ∃ l', t = (s.carried l.session request).setLink n l' ∧ l'.session = l.session ∧
      Errand calls inFlight l' (answered ++ given s l.session request) (spent + 1) := by
  have hnone : answered ++ given s l.session none = answered := List.append_nil _
  by_cases hne : left = []
  · exact absurd hturn (not_turned (h.serving.trans (if_pos hne)) h.requests hopen)
  · have hserving : l.serving = .replying left := h.serving.trans (if_neg hne)
    cases hturn with
    | writes rest more responses hs hw hr =>
      cases hserving.symm.trans hs
      have hwrites := h.writes hne hopen hpipe hw
      rw [if_neg hr] at hwrites
      rw [hnone]
      exact ⟨_, rfl, rfl, hwrites⟩
    | written rest responses hs hw =>
      cases hserving.symm.trans hs
      rw [hnone]
      exact ⟨_, rfl, rfl, h.writes hne hopen hpipe hw⟩
    | unwritten rest hs hw => exact absurd hw (hpipe.write_ne_broken rest)
    | stops reader hs => cases hserving.symm.trans hs
    | reads reader next hs => cases hserving.symm.trans hs
    | tooLarge reader length hs => cases hserving.symm.trans hs
    | undecodable reader payload fault hs => cases hserving.symm.trans hs
    | answers reader payload request frame hs => cases hserving.symm.trans hs
    | unanswerable reader payload request e hs => cases hserving.symm.trans hs

/-- **Whatever the loop does next, it stays at one with the calls.** -/
theorem serveStep (h : Errand calls inFlight l answered spent) (hl : s.links[n]? = some l)
    (hs : s.serveStep n = some t) (hframe : ∀ m ∈ s.request? n, (s.dispatch l.session m).1.HasFrame) :
    ∃ l', t = (s.carried l.session (s.request? n)).setLink n l' ∧ l'.session = l.session ∧
      Errand calls inFlight l' (answered ++ given s l.session (s.request? n)) (spent + 1) := by
  obtain ⟨k, hk, hturn⟩ := Service.loopTurn_of_serveStep hs
  cases hl.symm.trans hk
  cases h.stage with
  | idle hidle => exact absurd hturn (not_turned hidle.serving hidle.requests h.requests)
  | asks hasks => exact hasks.turned h.requests h.responses hturn hframe
  | tells htells => exact htells.turned h.requests h.responses hturn

end

end Errand

/-! ## waiting -/

/-- a loop that waits while it reads has read all there is -/
theorem Service.content_eq_nil_of_waits {s : Service} {n : Nat} {l : Link} {held : Bytes} (hl : s.links[n]? = some l)
    (hs : l.serving = .reading (holding held)) (hu : Unfinished held) (hwaits : s.serveStep n = none) :
    l.requests.content = [] := by
  unfold serveStep at hwaits
  simp only [hl, hs] at hwaits
  rw [← l.requests.take_eq_nil_iff (wanted_pos hu)]
  generalize l.requests.take (holding held).wanted = taken at hwaits
  obtain ⟨piece, requests⟩ := taken
  cases piece with
  | nil => rfl
  | cons b piece =>
    simp only at hwaits
    split at hwaits <;> cases hwaits

/-- a loop that waits while it writes has no room to -/
theorem Service.blocked_of_waits {s : Service} {n : Nat} {l : Link} {left : Bytes} (hl : s.links[n]? = some l)
    (hs : l.serving = .replying left) (hwaits : s.serveStep n = none) : l.responses.write left = .blocked := by
  unfold serveStep at hwaits
  simp only [hl, hs] at hwaits
  cases hw : l.responses.write left with
  | blocked => rfl
  | broken =>
    rw [hw] at hwaits
    cases hwaits
  | wrote rest responses =>
    rw [hw] at hwaits
    cases rest <;> cases hwaits

theorem Client.blocked_of_waits {c : Client} {n : Nat} {call : Call} {left : Bytes} (hp : call.phase = .sending left)
    (hwaits : c.exchangeStep n call = none) : left ≠ [] ∧ c.wires.outgoing.write left = .blocked := by
  unfold exchangeStep at hwaits
  simp only [hp] at hwaits
  cases left with
  | nil => cases hwaits
  | cons b left =>
    refine ⟨List.cons_ne_nil b left, ?_⟩
    simp only [List.isEmpty_cons, Bool.false_eq_true, if_false] at hwaits
    cases hw : c.wires.outgoing.write (b :: left) with
    | blocked => rfl
    | broken =>
      rw [hw] at hwaits
      cases hwaits
    | wrote rest outgoing =>
      rw [hw] at hwaits
      cases hwaits

theorem Client.content_eq_nil_of_waits {c : Client} {n : Nat} {call : Call} {got : Bytes}
    (hp : call.phase = .receiving (holding got)) (hu : Unfinished got) (hwaits : c.exchangeStep n call = none) :
    c.wires.incoming.content = [] := by
  unfold exchangeStep at hwaits
  simp only [hp] at hwaits
  rw [← c.wires.incoming.take_eq_nil_iff (wanted_pos hu)]
  generalize c.wires.incoming.take (holding got).wanted = taken at hwaits
  obtain ⟨piece, incoming⟩ := taken
  cases piece with
  | nil => rfl
  | cons b piece =>
    simp only at hwaits
    split at hwaits <;> cases hwaits

namespace Errand

variable {calls past future : List Call} {now : Call} {inFlight : Bool} {answered : List (Method × Answer)}
  {m : Method} {a : Answer} {spent n : Nat} {l : Link} {c : Client} {s : Service}

/-- a request cannot come to a halt -/
theorem Asks.goesOn {left held : Bytes}
    (h : Asks c.calls c.inFlight (l.withWires c.wires) answered spent past now future m left held)
    (hopen : c.wires.outgoing.IsOpen) (hl : s.links[n]? = some (l.withWires c.wires)) (hcall : c.callStep = none)
    (hserve : s.serveStep n = none) : False := by
  have hempty : c.wires.outgoing.content = [] := Service.content_eq_nil_of_waits hl h.serving h.unfinished hserve
  rw [h.turn.callStep h.phase.hasTurn] at hcall
  obtain hphase | ⟨rfl, hphase⟩ := phase_of_asks h.phase
  · obtain ⟨-, hblocked⟩ := Client.blocked_of_waits hphase hcall
    exact hopen.content_ne_nil_of_blocked hblocked hempty
  · -- all was written and read, but no whole frame
    have hbytes : held ++ c.wires.outgoing.content ++ [] = frame (encode m) := h.bytes
    rw [hempty, List.append_nil, List.append_nil] at hbytes
    exact not_unfinished_frame h.short (hbytes ▸ h.unfinished)

theorem Tells.goesOn {before : List (Method × Answer)} {left got payload : Bytes}
    (h : Tells c.calls c.inFlight (l.withWires c.wires) answered spent past now future m a before left got payload)
    (hpipe : c.wires.incoming.IsOpen) (hl : s.links[n]? = some (l.withWires c.wires)) (hcall : c.callStep = none)
    (hserve : s.serveStep n = none) : False := by
  rw [h.turn.callStep h.phase.hasTurn] at hcall
  obtain ⟨hphase, rfl⟩ | ⟨hphase, hunfinished⟩ := phase_of_tells h.phase
  · exact (Client.blocked_of_waits hphase hcall).1 rfl
  · have hempty := Client.content_eq_nil_of_waits hphase hunfinished hcall
    have hbytes : got ++ c.wires.incoming.content ++ left = frame payload := h.bytes
    rw [hempty, List.append_nil] at hbytes
    by_cases hne : left = []
    · rw [hne, List.append_nil] at hbytes
      exact not_unfinished_frame h.short (hbytes ▸ hunfinished)
    · have hblocked := Service.blocked_of_waits hl (h.serving.trans (if_neg hne)) hserve
      exact hpipe.content_ne_nil_of_blocked hblocked hempty

/-- **When neither the calls nor their loop can do anything, all calls have their results.** -/
theorem isDone (h : Errand c.calls c.inFlight (l.withWires c.wires) answered spent)
    (hl : s.links[n]? = some (l.withWires c.wires)) (hcall : c.callStep = none) (hserve : s.serveStep n = none) :
    ∀ call ∈ c.calls, call.result?.isSome = true := by
  cases h.stage with
  | @idle past future hidle =>
    cases future with
    | nil =>
      intro call hmem
      rw [hidle.calls, List.append_nil] at hmem
      obtain ⟨r, hr⟩ := hidle.settled.phase hmem
      rw [Call.result?, hr]
      rfl
    | cons now future => cases hidle.callStep_cons.symm.trans hcall
  | asks hasks => exact (hasks.goesOn h.requests hl hcall hserve).elim
  | tells htells => exact (htells.goesOn h.responses hl hcall hserve).elim

/-! ## results -/

theorem Settled.requests (h : Settled past answered) :
    past.map Call.request = answered.map fun entry => .call entry.1 := by
  have heq := congrArg (List.map Prod.fst) h
  rwa [List.map_map, List.map_map] at heq

theorem result?_of_isReady (h : ∀ c ∈ future, c.IsReady) : ∀ c ∈ future, c.result? = none :=
  fun c hc => by rw [Call.result?, (h c hc).phase]

/-- the calls that have their results come first; the answers to them stand in the log, in the same order -/
theorem Stage.exists_settled (h : Stage calls inFlight l answered spent) :
    ∃ past rest before, calls = past ++ rest ∧ Settled past before ∧ before <+: answered ∧
      ∀ c ∈ rest, c.result? = none := by
  cases h with
  | idle h => exact ⟨_, _, _, h.calls, h.settled, List.prefix_refl _, result?_of_isReady h.ready⟩
  | asks h =>
    refine ⟨_, _, _, h.turn.calls, h.turn.settled, List.prefix_refl _,
      List.forall_mem_cons.mpr ⟨?_, result?_of_isReady h.turn.ready⟩⟩
    obtain hphase | ⟨-, hphase⟩ := phase_of_asks h.phase <;> rw [Call.result?, hphase]
  | tells h =>
    refine ⟨_, _, _, h.turn.calls, h.turn.settled, h.last ▸ List.prefix_append _ _,
      List.forall_mem_cons.mpr ⟨?_, result?_of_isReady h.turn.ready⟩⟩
    obtain ⟨hphase, -⟩ | ⟨hphase, -⟩ := phase_of_tells h.phase <;> rw [Call.result?, hphase]

/-- the loop carries out the calls in the order in which they were made, each once -/
theorem Stage.asked (h : Stage calls inFlight l answered spent) :
    (answered.map fun entry => Request.call entry.1) <+: calls.map Call.request := by
  cases h with
  | idle h =>
    rw [h.calls, List.map_append, h.settled.requests]
    exact List.prefix_append _ _
  | asks h =>
    rw [h.turn.calls, List.map_append, h.turn.settled.requests]
    exact List.prefix_append _ _
  | tells h =>
    rw [h.turn.calls, h.last, List.map_append, List.map_append, h.turn.settled.requests, List.map_cons,
      List.map_cons, h.turn.request]
    exact (List.prefix_append_right_inj _).mpr (List.prefix_append [_] _)

theorem Stage.spent_le (h : Stage calls inFlight l answered spent) : spent ≤ costs calls := by
  cases h with
  | idle h =>
    rw [h.calls, costs_append]
    exact Nat.le_trans h.paced (Nat.le_add_right _ _)
  | asks h =>
    have hpaced := h.paced
    rw [h.turn.calls, List.append_cons, costs_append, costs_concat]
    omega
  | tells h =>
    have hpaced := h.paced
    rw [h.turn.calls, List.append_cons, costs_append, costs_concat]
    omega

/-- a result is what the answer says that has the same place in the log as the call among the calls -/
theorem told (h : Errand calls inFlight l answered spent) {j : Nat} {call : Call} {r : Except PeerError Answer}
    (hj : calls[j]? = some call) (hr : call.result? = some r) :
    ∃ m a, answered[j]? = some (m, a) ∧ call.request = .call m ∧ r = a.surface := by
  obtain ⟨past, rest, before, rfl, hsettled, hbefore, hnone⟩ := h.stage.exists_settled
  have hlt : j < past.length := by
    refine Nat.lt_of_not_le fun hle => ?_
    rw [List.getElem?_append_right hle] at hj
    rw [hnone call (List.mem_of_getElem? hj)] at hr
    cases hr
  rw [List.getElem?_append_left hlt] at hj
  have hentry := congrArg (·[j]?) hsettled
  simp only [List.getElem?_map, hj, Option.map_some] at hentry
  obtain ⟨⟨m, a⟩, ha, heq⟩ := Option.map_eq_some_iff.mp hentry.symm
  obtain ⟨hrequest, hphase⟩ := Prod.mk.inj heq
  refine ⟨m, a, ?_, hrequest.symm, ?_⟩
  · obtain ⟨more, rfl⟩ := hbefore
    rw [List.getElem?_append_left (List.getElem?_eq_some_iff.mp ha).1]
    exact ha
  · rw [Call.result?, ← hphase] at hr
    exact (Option.some.inj hr).symm

end Errand

end TunnelControl
