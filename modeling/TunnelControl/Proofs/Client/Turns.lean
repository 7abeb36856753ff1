import TunnelControl.Client.Exchange

/-!
# What a call does in its turn

* `Client.taker?`          the call that takes the stream with the next step, and its method;
* `Client.CallMove c d`    all that the next step of the calls may do;
* `callStep_cases`         the step of the calls is one of these.
-/

namespace TunnelControl

/-- an error that the service reports in an answer, as it should -/
def PeerError.isReported : PeerError → Bool
  | .manager _ => true
  | _ => false

theorem Answer.isReported_of_surface {a : Answer} {e : PeerError} (h : a.surface = .error e) :
    e.isReported = true := by
  unfold surface at h
  split at h <;> cases h <;> rfl

/-- the call was given up, or failed for another reason than one that the service reports -/
def Call.hasFailed (c : Call) : Bool :=
  match c.phase with
  | .givenUp => true
  | .done (.error e) => !e.isReported
  | _ => false

namespace Call

variable {call : Call}

theorem phase_of_isWaiting (h : call.isWaiting = true) : call.phase = .waiting := by
  unfold isWaiting at h
  cases hp : call.phase <;> rw [hp] at h <;> first | rfl | cases h

theorem hasFailed_of_isPending (h : call.isPending = true) : call.hasFailed = false := by
  unfold isPending isWaiting hasTurn at h
  unfold hasFailed
  cases hp : call.phase <;> rw [hp] at h <;> first | rfl | cases h

theorem hasTurn_of_hasFailed (h : call.hasFailed = true) : call.hasTurn = false := by
  unfold hasFailed at h
  unfold hasTurn
  cases hp : call.phase <;> rw [hp] at h <;> first | rfl | cases h

theorem hasTurn_of_isWaiting (h : call.isWaiting = true) : call.hasTurn = false := by
  rw [hasTurn, phase_of_isWaiting h]

theorem isPending_of_isWaiting (h : call.isWaiting = true) : call.isPending = true := by
  rw [isPending, h, Bool.true_or]

theorem isPending_of_hasTurn (h : call.hasTurn = true) : call.isPending = true := by
  rw [isPending, h, Bool.or_true]

theorem hasTurn_of_sending {left : Bytes} (h : call.phase = .sending left) :
    call.hasTurn = true := by
  rw [hasTurn, h]

theorem hasTurn_of_receiving {reader : FrameReader} (h : call.phase = .receiving reader) :
    call.hasTurn = true := by
  rw [hasTurn, h]

theorem hasFailed_surface (call : Call) (a : Answer) :
    ({ call with phase := .done a.surface } : Call).hasFailed = false := by
  cases hs : a.surface with
  | ok v => rfl
  | error e =>
    have h := Answer.isReported_of_surface hs
    unfold hasFailed
    simp only [h, Bool.not_true]

end Call

namespace Client

/-- the client behind the step with which a call takes the stream -/
def taken (c : Client) (n : Nat) (call : Call) : Client :=
  { c with inFlight := true }.setCall n { call with phase := .sending call.frame }

/-- the call that takes the stream with the next step, and its method -/
def taker? (c : Client) : Option (Nat × Method) :=
  match c.findCall Call.hasTurn, c.findCall Call.isWaiting with
  | none, some (n, call) =>
    match call.request with
    | .call m => if c.inFlight then none else some (n, m)
    | .close => none
  | _, _ => none

theorem of_findCall_eq_some {c : Client} {test : Call → Bool} {n : Nat} {call : Call}
    (h : c.findCall test = some (n, call)) :
    c.calls[n]? = some call ∧ test call = true ∧ ∀ j d, j < n → c.calls[j]? = some d → test d = false := by
  unfold findCall at h
  obtain ⟨m, hm, h⟩ := Option.bind_eq_some_iff.mp h
  obtain ⟨d, hd, h⟩ := Option.bind_eq_some_iff.mp h
  cases h
  obtain ⟨hlt, htest, hfirst⟩ := List.findIdx?_eq_some_iff_getElem.mp hm
  obtain ⟨hlt', hget⟩ := List.getElem?_eq_some_iff.mp hd
  refine ⟨hd, hget ▸ htest, fun j d hj hjd => ?_⟩
  obtain ⟨hj', rfl⟩ := List.getElem?_eq_some_iff.mp hjd
  exact Bool.eq_false_iff.mpr (hfirst j hj)

theorem of_findCall_eq_none {c : Client} {test : Call → Bool} (h : c.findCall test = none) :
    ∀ d ∈ c.calls, test d = false := by
  unfold findCall at h
  cases hn : c.calls.findIdx? test with
  | none =>
    intro d hd
    exact List.findIdx?_eq_none_iff.mp hn d hd
  | some n =>
    obtain ⟨hlt, -⟩ := List.findIdx?_eq_some_iff_getElem.mp hn
    rw [hn, Option.bind_eq_bind, Option.bind_some, List.getElem?_eq_getElem hlt] at h
    cases h

theorem findCall_eq_none {c : Client} {test : Call → Bool} (h : ∀ call ∈ c.calls, test call = false) : c.findCall test = none := by
  cases hf : c.findCall test with
  | none => rfl
  | some found =>
    obtain ⟨hn, ht, -⟩ := of_findCall_eq_some hf
    rw [h found.2 (List.mem_of_getElem? hn)] at ht
    cases ht

theorem of_taker?_eq_some {c : Client} {n : Nat} {m : Method} (h : c.taker? = some (n, m)) :
    ∃ call, c.calls[n]? = some call ∧ call.isWaiting = true ∧ call.request = .call m ∧
      (∀ d ∈ c.calls, d.hasTurn = false) ∧ c.inFlight = false ∧
        c.callStep = some (c.taken n call) := by
  unfold taker? at h
  split at h
  · rename_i k call hturn hwaits
    obtain ⟨hn, hw, -⟩ := of_findCall_eq_some hwaits
    split at h
    · rename_i m' hr
      split at h
      · cases h
      · rename_i hflight
        cases h
        have hflight := Bool.eq_false_iff.mpr hflight
        refine ⟨call, hn, hw, hr, of_findCall_eq_none hturn, hflight, ?_⟩
        unfold callStep
        simp only [hturn, hwaits, Option.map_some, takeTurn, hr, hflight, Bool.false_eq_true, if_false, taken]
    · cases h
  · cases h

/-- what the next step of the calls may do -/
inductive CallMove (c : Client) : Client → Prop
  | closes {n : Nat} {call : Call} (at_ : c.calls[n]? = some call) (waits : call.isWaiting = true)
      (request : call.request = .close) (taker : c.taker? = none) :
    CallMove c ({ c with wires := { c.wires with outgoing := c.wires.outgoing.closeWriter } }.finish n call
      (.ok .acknowledged))
  | refuses {n : Nat} {call : Call} {m : Method} (at_ : c.calls[n]? = some call) (waits : call.isWaiting = true)
      (request : call.request = .call m) (flight : c.inFlight = true) (taker : c.taker? = none) :
    CallMove c (c.finish n call (.error .closed))
  | takes {n : Nat} {call : Call} {m : Method} (at_ : c.calls[n]? = some call) (waits : call.isWaiting = true)
      (request : call.request = .call m) (turn : ∀ d ∈ c.calls, d.hasTurn = false) (flight : c.inFlight = false)
      (taker : c.taker? = some (n, m)) :
    CallMove c (c.taken n call)
  | receives {n : Nat} {call : Call} (at_ : c.calls[n]? = some call) (phase : call.phase = .sending [])
      (taker : c.taker? = none) :
    CallMove c (c.setCall n { call with phase := .receiving .start })
  | writes {n : Nat} {call : Call} {left rest : Bytes} {outgoing : Pipe} (at_ : c.calls[n]? = some call)
      (phase : call.phase = .sending left) (wrote : c.wires.outgoing.write left = .wrote rest outgoing)
      (taker : c.taker? = none) :
    CallMove c ({ c with wires := { c.wires with outgoing } }.setCall n { call with phase := .sending rest })
  | reads {n : Nat} {call : Call} {reader reader' : FrameReader} (at_ : c.calls[n]? = some call)
      (phase : call.phase = .receiving reader)
      (fed : reader.feed (c.wires.incoming.take reader.wanted).1 = .more reader') (taker : c.taker? = none) :
    CallMove c ({ c with wires := { c.wires with incoming := (c.wires.incoming.take reader.wanted).2 } }.setCall n
      { call with phase := .receiving reader' })
  | answers {n : Nat} {call : Call} {m : Method} {reader : FrameReader} {payload : Bytes} {a : Answer}
      (at_ : c.calls[n]? = some call) (phase : call.phase = .receiving reader) (request : call.request = .call m)
      (fed : reader.feed (c.wires.incoming.take reader.wanted).1 = .payload payload)
      (some_ : (c.wires.incoming.take reader.wanted).1 ≠ [])
      (answer : m.readAnswer payload = .ok a) (taker : c.taker? = none) :
    CallMove c ({ c with
      wires := { c.wires with incoming := (c.wires.incoming.take reader.wanted).2 }, inFlight := false }.finish n call
        a.surface)
  | fails {n : Nat} {call : Call} (incoming : Pipe) {e : PeerError} (at_ : c.calls[n]? = some call)
      (turn : call.hasTurn = true) (reported : e.isReported = false) (taker : c.taker? = none) :
    CallMove c ({ c with wires := { c.wires with incoming } }.finish n call (.error e))

theorem isReported_endOfAnswers (reader : FrameReader) : (endOfAnswers reader).isReported = false := by
  unfold endOfAnswers
  split <;> rfl

theorem exchangeStep_cases {c d : Client} {n : Nat} {call : Call} (hn : c.calls[n]? = some call) {m : Method}
    (hr : call.request = .call m) (ht : c.taker? = none) (h : c.exchangeStep n call = some d) : CallMove c d := by
  cases hp : call.phase with
  | sending left =>
    have hturn : call.hasTurn = true := by
      unfold Call.hasTurn
      rw [hp]
    simp only [exchangeStep, hp] at h
    cases left with
    | nil =>
      cases h
      exact .receives hn hp ht
    | cons b left =>
      simp only [List.isEmpty_cons, Bool.false_eq_true, if_false] at h
      cases hw : c.wires.outgoing.write (b :: left) with
      | wrote rest outgoing =>
        simp only [hw] at h
        cases h
        exact .writes hn hp hw ht
      | blocked =>
        simp only [hw] at h
        cases h
      | broken =>
        simp only [hw] at h
        cases h
        exact .fails c.wires.incoming hn hturn rfl ht
  | receiving reader =>
    have hturn : call.hasTurn = true := by
      unfold Call.hasTurn
      rw [hp]
    simp only [exchangeStep, hp] at h
    cases hk : c.wires.incoming.take reader.wanted with
    | mk piece incoming =>
      simp only [hk] at h
      cases piece with
      | nil =>
        simp only at h
        split at h
        · cases h
          exact .fails c.wires.incoming hn hturn (isReported_endOfAnswers reader) ht
        · cases h
      | cons b piece =>
        simp only at h
        have hpiece : (c.wires.incoming.take reader.wanted).1 = b :: piece := by rw [hk]
        have hrest : (c.wires.incoming.take reader.wanted).2 = incoming := by rw [hk]
        cases hf : reader.feed (b :: piece) with
        | more reader' =>
          rw [hf] at h
          cases h
          rw [← hrest]
          exact .reads hn hp (hpiece ▸ hf) ht
        | tooLarge length =>
          rw [hf] at h
          cases h
          exact .fails incoming hn hturn rfl ht
        | payload payload =>
          rw [hf] at h
          simp only [judge, hr] at h
          cases ha : m.readAnswer payload with
          | ok a =>
            rw [ha] at h
            cases h
            rw [← hrest]
            exact .answers hn hp hr (hpiece ▸ hf) (hpiece ▸ nofun) ha ht
          | error fault =>
            rw [ha] at h
            cases h
            exact .fails incoming hn hturn rfl ht
  | waiting =>
    simp only [exchangeStep, hp] at h
    cases h
  | done r =>
    simp only [exchangeStep, hp] at h
    cases h
  | givenUp =>
    simp only [exchangeStep, hp] at h
    cases h

theorem callStep_cases {c d : Client} (hm : ∀ call ∈ c.calls, call.hasTurn = true → ∃ m, call.request = .call m)
    (h : c.callStep = some d) : CallMove c d := by
  unfold callStep at h
  cases ht : c.findCall Call.hasTurn with
  | some found =>
    obtain ⟨n, call⟩ := found
    obtain ⟨hn, hturn, -⟩ := of_findCall_eq_some ht
    obtain ⟨m, hr⟩ := hm call (List.mem_of_getElem? hn) hturn
    have htaker : c.taker? = none := by
      unfold taker?
      rw [ht]
    rw [ht] at h
    exact exchangeStep_cases hn hr htaker h
  | none =>
    have hturn := of_findCall_eq_none ht
    rw [ht] at h
    obtain ⟨⟨n, call⟩, hw, h⟩ := Option.map_eq_some_iff.mp h
    obtain ⟨hn, hwaits, -⟩ := of_findCall_eq_some hw
    simp only [takeTurn] at h
    split at h
    · rename_i hr
      cases h
      refine .closes hn hwaits hr ?_
      unfold taker?
      simp only [ht, hw, hr]
    · rename_i m hr
      split at h
      · rename_i hflight
        cases h
        refine .refuses hn hwaits hr hflight ?_
        unfold taker?
        simp only [ht, hw, hr, hflight, if_true]
      · rename_i hflight
        cases h
        refine .takes hn hwaits hr hturn (Bool.eq_false_iff.mpr hflight) ?_
        unfold taker?
        simp only [ht, hw, hr, Bool.eq_false_iff.mpr hflight, Bool.false_eq_true, if_false]

end Client

end TunnelControl
