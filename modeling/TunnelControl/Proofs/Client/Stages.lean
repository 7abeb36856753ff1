import TunnelControl.Proofs.Client.Dialogue

/-!
# The exchanges of a client

The calls take the stream one after the other, and whoever has it leaves it as it was found, or broken.

* `Moved`, `Made`          a call comes into another phase, or is made;
* `Stage.waiting`          what becomes of a call that waits makes no difference to the stream;
* `Exchange.goesOn`, `ends`, `breaks`   what one that has its turn does to it;
* `Exchange.answer_cases`  of the answer to its request nothing has been given, or all;
* `Exchange.of_payload`    so that what it reads is the answer to its own request.
-/

namespace TunnelControl

open Wire FrameReader

theorem getElem?_set_cases {α : Type} {xs : List α} {n k : Nat} {x y : α} (h : (xs.set n x)[k]? = some y) :
    k = n ∧ y = x ∨ k ≠ n ∧ xs[k]? = some y := by
  by_cases hk : n = k
  · subst hk
    rw [List.getElem?_set_self'] at h
    obtain ⟨z, -, hz⟩ := Option.map_eq_some_iff.mp h
    exact .inl ⟨rfl, hz.symm⟩
  · rw [List.getElem?_set_ne hk] at h
    exact .inr ⟨Ne.symm hk, h⟩

namespace Dialogue

theorem Underway.hasTurn {call : Call} {left got : Bytes} (h : Underway call.phase left got) :
    call.hasTurn = true := by
  unfold Call.hasTurn
  generalize call.phase = phase at h ⊢
  cases h <;> rfl

/-- call `n` comes into another phase -/
structure Moved (d d' : Dialogue) (n : Nat) (call : Call) (phase : CallPhase) : Prop where
  at_ : d.client.calls[n]? = some call
  calls : d'.client.calls = d.client.calls.set n { call with phase }
  turns : d'.turns = d.turns
  answers : d'.answers = d.answers
  pending : call.isPending = true
  waits : ({ call with phase } : Call).isWaiting = false
  own : ∀ (m : Method) (v : Answer), call.request = .call m → phase = .done (.ok v) → d.Own n m v

section
variable {d d' : Dialogue} {n : Nat} {call : Call} {phase : CallPhase}

theorem Moved.cases_at (h : Moved d d' n call phase) {k : Nat} {other : Call}
    (hk : d'.client.calls[k]? = some other) :
    k = n ∧ other = { call with phase } ∨ k ≠ n ∧ d.client.calls[k]? = some other := by
  rw [h.calls] at hk
  exact getElem?_set_cases hk

theorem Moved.at_self (h : Moved d d' n call phase) : d'.client.calls[n]? = some { call with phase } := by
  rw [h.calls, List.getElem?_set_self (List.getElem?_eq_some_iff.mp h.at_).1]

theorem Moved.at_other (h : Moved d d' n call phase) {k : Nat} (hk : k ≠ n) :
    d'.client.calls[k]? = d.client.calls[k]? := by
  rw [h.calls, List.getElem?_set_ne (Ne.symm hk)]

theorem Moved.isBroken_cases (h : Moved d d' n call phase) (hb : d'.IsBroken) :
    d.IsBroken ∨ ({ call with phase } : Call).hasFailed = true ∧ ∃ m, (n, m) ∈ d.turns := by
  obtain ⟨k, m, other, ht, hk, hother⟩ := hb
  rw [h.turns] at ht
  obtain ⟨rfl, rfl⟩ | ⟨-, hk⟩ := h.cases_at hk
  · exact .inr ⟨hother, m, ht⟩
  · exact .inl ⟨k, m, other, ht, hk, hother⟩

theorem Moved.not_isBroken (h : Moved d d' n call phase) (hs : ¬d.IsBroken)
    (hf : ({ call with phase } : Call).hasFailed = false) : ¬d'.IsBroken := by
  intro hb
  obtain hb | ⟨hfailed, -⟩ := h.isBroken_cases hb
  · exact hs hb
  · rw [hf] at hfailed
    cases hfailed

theorem Moved.isBroken (h : Moved d d' n call phase) (hb : d.IsBroken) : d'.IsBroken := by
  obtain ⟨k, m, other, ht, hk, hother⟩ := hb
  refine ⟨k, m, other, h.turns ▸ ht, ?_, hother⟩
  have hne : k ≠ n := by
    rintro rfl
    rw [h.at_] at hk
    cases hk
    rw [Call.hasFailed_of_isPending h.pending] at hother
    cases hother
  rw [h.at_other hne]
  exact hk

theorem Moved.turn (h : Moved d d' n call phase) (ht : ({ call with phase } : Call).hasTurn = false)
    (hothers : ∀ (k : Nat) (other : Call), k ≠ n → d.client.calls[k]? = some other → other.hasTurn = false) :
    ∀ other ∈ d'.client.calls, other.hasTurn = false := by
  intro other hother
  obtain ⟨k, hk⟩ := List.getElem?_of_mem hother
  obtain ⟨-, rfl⟩ | ⟨hne, hk⟩ := h.cases_at hk
  · exact ht
  · exact hothers k other hne hk

theorem Books.moved (hb : Books d) (h : Moved d d' n call phase) : Books d' where
  framed := by
    intro k other m hk hr hp
    obtain ⟨rfl, rfl⟩ | ⟨-, hk⟩ := h.cases_at hk
    · exact hb.framed k call m h.at_ hr h.pending
    · exact hb.framed k other m hk hr hp
  took := by
    intro k m ht
    rw [h.turns] at ht
    obtain ⟨hl, other, hk, hr, hw⟩ := hb.took k m ht
    refine ⟨hl, ?_⟩
    by_cases hne : k = n
    · subst hne
      rw [h.at_] at hk
      cases hk
      exact ⟨_, h.at_self, hr, h.waits⟩
    · exact ⟨other, (h.at_other hne).trans hk, hr, hw⟩
  once := by
    rw [h.turns]
    exact hb.once
  answered := by
    unfold requests
    rw [h.answers, h.turns]
    exact hb.answered
  short := by
    rw [h.answers]
    exact hb.short
  own := by
    intro k other m v hk hr hp
    obtain ⟨rfl, rfl⟩ | ⟨-, hk⟩ := h.cases_at hk
    · exact (h.own m v hr hp).of_eq h.turns h.answers
    · exact (hb.own k other m v hk hr hp).of_eq h.turns h.answers

theorem Books.not_mem_turns (hb : Books d) (hn : d.client.calls[n]? = some call) (hw : call.isWaiting = true)
    (m : Method) : (n, m) ∉ d.turns := by
  intro ht
  obtain ⟨-, other, hother, -, hwaits⟩ := hb.took n m ht
  rw [hn] at hother
  cases hother
  rw [hw] at hwaits
  cases hwaits

theorem Moved.isBroken_iff (h : Moved d d' n call phase) (hb : Books d) (hw : call.isWaiting = true) :
    d'.IsBroken ↔ d.IsBroken := by
  constructor
  · intro hbroken
    obtain hbroken | ⟨-, m, ht⟩ := h.isBroken_cases hbroken
    · exact hbroken
    · exact absurd ht (hb.not_mem_turns h.at_ hw m)
  · exact h.isBroken

/-- **What becomes of a call that waits leaves the stream as it was.** -/
theorem Stage.waiting (hs : Stage d) (hb : Books d) (h : Moved d d' n call phase) (hw : call.isWaiting = true)
    (ht : ({ call with phase } : Call).hasTurn = false) (hf : d'.client.inFlight = d.client.inFlight)
    (hwritten : d'.written = d.written) (hdue : d'.due = d.due) : Stage d' := by
  have hbroken := h.isBroken_iff hb hw
  have hasked := asked_of_eq h.turns
  have hturn (hnone : ∀ call ∈ d.client.calls, call.hasTurn = false) :
      ∀ call ∈ d'.client.calls, call.hasTurn = false :=
    h.turn ht fun k other _ hk => hnone other (List.mem_of_getElem? hk)
  cases hs with
  | idle turn flight sound written answered due =>
    refine .idle (hturn turn) (hf.trans flight) ((not_congr hbroken).mpr sound) ?_ ?_ (hdue.trans due)
    · rw [hwritten, hasked, written]
    · rw [h.turns, h.answers]
      exact answered
  | @exchange earlier k m other left got now =>
    have hne : k ≠ n := by
      rintro rfl
      have hat := now.at_
      rw [h.at_] at hat
      cases hat
      have hturn := now.underway.hasTurn
      rw [Call.hasTurn_of_isWaiting hw] at hturn
      cases hturn
    refine .exchange ⟨h.turns.trans now.turns, (h.at_other hne).trans now.at_, now.request, now.underway, ?_,
      hf.trans now.flight, (not_congr hbroken).mpr now.sound, ?_, now.cut, ?_, ?_⟩
    · intro j third hj hthird
      obtain ⟨rfl, rfl⟩ | ⟨-, hj⟩ := h.cases_at hj
      · rw [ht] at hthird
        cases hthird
      · exact now.alone j third hj hthird
    · rw [hwritten, hasked]
      exact now.written
    · rw [h.answers]
      exact now.answered
    · rw [hdue, h.answers]
      exact now.due
  | broken turn flight broken earlier last turns left written cut =>
    refine .broken (hturn turn) (hf.trans flight) (hbroken.mpr broken) earlier last (h.turns.trans turns) left ?_ cut
    rw [hwritten, hasked, written]

/-! ## the exchange of a call -/

variable {earlier : List (Nat × Method)} {m : Method} {left got : Bytes}

theorem Stage.exchange_of_hasTurn (hs : Stage d) (hn : d.client.calls[n]? = some call)
    (ht : call.hasTurn = true) : ∃ earlier m left got, Exchange d earlier n m call left got := by
  have hnot (hnone : ∀ call ∈ d.client.calls, call.hasTurn = false) : False := by
    rw [hnone call (List.mem_of_getElem? hn)] at ht
    cases ht
  cases hs with
  | idle turn => exact (hnot turn).elim
  | @exchange earlier k m other left got now =>
    obtain rfl := now.alone n call hn ht
    have hat := now.at_
    rw [hn] at hat
    cases hat
    exact ⟨earlier, m, left, got, now⟩
  | broken turn => exact (hnot turn).elim

theorem Exchange.others (h : Exchange d earlier n m call left got) :
    ∀ (k : Nat) (other : Call), k ≠ n → d.client.calls[k]? = some other → other.hasTurn = false := by
  intro k other hne hk
  apply Bool.eq_false_iff.mpr
  intro ht
  exact hne (h.alone k other hk ht)

/-- the call goes on -/
theorem Exchange.goesOn (h : Exchange d earlier n m call left got) (hm : Moved d d' n call phase)
    {left' got' : Bytes} (hu : Underway phase left' got') (hf : d'.client.inFlight = d.client.inFlight)
    (hw : d'.written ++ left' = d.written ++ left) (hc : left' <:+ left) (hd : got' ++ d'.due = got ++ d.due) :
    Exchange d' earlier n m { call with phase } left' got' := by
  have hfailed : ({ call with phase } : Call).hasFailed = false := by
    cases hu <;> rfl
  refine ⟨hm.turns.trans h.turns, hm.at_self, h.request, hu, ?_, hf.trans h.flight,
    hm.not_isBroken h.sound hfailed, ?_, hc.trans h.cut, ?_, ?_⟩
  · intro k other hk ht
    obtain ⟨rfl, -⟩ | ⟨-, hk⟩ := hm.cases_at hk
    · rfl
    · exact h.alone k other hk ht
  · rw [hw, asked_of_eq hm.turns]
    exact h.written
  · rw [hm.answers]
    exact h.answered
  · rw [hd, hm.answers]
    exact h.due

/-- the call fails, or is given up -/
theorem Exchange.breaks (h : Exchange d earlier n m call left got) (hm : Moved d d' n call phase)
    (hfailed : ({ call with phase } : Call).hasFailed = true) (hf : d'.client.inFlight = d.client.inFlight)
    (hw : d'.written = d.written) : Stage d' := by
  have hmem : (n, m) ∈ d'.turns := by
    rw [hm.turns, h.turns]
    exact List.mem_append_right _ List.mem_cons_self
  refine .broken (hm.turn (Call.hasTurn_of_hasFailed hfailed) h.others) (hf.trans h.flight)
    ⟨n, m, _, hmem, hm.at_self, hfailed⟩ earlier (n, m) (hm.turns.trans h.turns) left ?_ h.cut
  rw [hw, asked_of_eq hm.turns]
  exact h.written

/-- the call has its answer -/
theorem Exchange.ends (h : Exchange d earlier n m call [] got) (hm : Moved d d' n call phase)
    (hfailed : ({ call with phase } : Call).hasFailed = false) (ht : ({ call with phase } : Call).hasTurn = false)
    (hf : d'.client.inFlight = false) (hw : d'.written = d.written) (hans : d.turns.length ≤ d.answers.length)
    (hd : d'.due = []) : Stage d' := by
  refine .idle (hm.turn ht h.others) hf (hm.not_isBroken h.sound hfailed) ?_ ?_ hd
  · rw [hw, asked_of_eq hm.turns, ← h.written, List.append_nil]
  · rw [hm.turns, hm.answers]
    exact hans

theorem Books.request_of_answer (hb : Books d) {j : Nat} {answer : Bytes × Bytes} {turn : Nat × Method}
    (ha : d.answers[j]? = some answer) (ht : d.turns[j]? = some turn) : answer.1 = encode turn.2 := by
  obtain ⟨rest, hrest⟩ := hb.answered
  have hj : (d.answers.map Prod.fst)[j]? = some answer.1 := by
    rw [List.getElem?_map, ha]
    rfl
  have hr : d.requests[j]? = some (encode turn.2) := by
    rw [requests, List.getElem?_map, ht]
    rfl
  obtain ⟨hlt, -⟩ := List.getElem?_eq_some_iff.mp hj
  rw [← hrest, List.getElem?_append_left hlt, hj] at hr
  exact Option.some.inj hr

/-- of the answer to the request nothing has been given, or all -/
theorem Exchange.answer_cases (h : Exchange d earlier n m call left got) (hb : Books d) :
    d.answers.length = earlier.length ∧ got ++ d.due = [] ∨ ∃ payload, d.answers.length = earlier.length + 1 ∧
      d.answers[earlier.length]? = some (encode m, payload) ∧ payload.length < byteRange 4 ∧
        got ++ d.due = frame payload := by
  have hdue := h.due
  have hlen := hb.length_answers
  rw [h.turns, List.length_append, List.length_singleton] at hlen
  have hdrop : (d.answers.drop earlier.length).length = d.answers.length - earlier.length := List.length_drop
  have hle := h.answered
  cases hd : d.answers.drop earlier.length with
  | nil =>
    rw [hd] at hdue hdrop
    rw [List.length_nil] at hdrop
    exact .inl ⟨by omega, hdue⟩
  | cons answer rest =>
    rw [hd, List.length_cons] at hdrop
    obtain rfl : rest = [] := List.length_eq_zero_iff.mp (by omega)
    rw [List.length_nil] at hdrop
    have hget : d.answers[earlier.length]? = some answer := by
      have hg : (d.answers.drop earlier.length)[0]? = d.answers[earlier.length]? := List.getElem?_drop
      rw [hd] at hg
      exact hg.symm
    have hturn : d.turns[earlier.length]? = some (n, m) := by
      rw [h.turns, List.getElem?_append_right (Nat.le_refl _), Nat.sub_self]
      rfl
    have hrequest : answer.1 = encode m := hb.request_of_answer hget hturn
    refine .inr ⟨answer.2, by omega, ?_, hb.short answer (List.mem_of_getElem? hget), ?_⟩
    · rw [hget, ← hrequest]
    · rw [hdue, hd]
      exact List.append_nil _

/-- **A payload that is read is that of the answer to the request of the call, and nothing is behind it.** -/
theorem Exchange.of_payload (h : Exchange d earlier n m call [] got) (hb : Books d) (hu : Unfinished got)
    {payload : Bytes} (hp : (d.client.wires.incoming.take (holding got).wanted).1 ≠ [])
    (hf : (holding got).feed (d.client.wires.incoming.take (holding got).wanted).1 = .payload payload) :
    d.answers[earlier.length]? = some (encode m, payload) ∧ d.answers.length = d.turns.length ∧
      (d.client.wires.incoming.take (holding got).wanted).2.content ++ d.outbox = [] := by
  rw [Pipe.take_fst] at hp hf
  rw [Pipe.content_take]
  obtain ⟨-, hnil⟩ | ⟨payload', hlen, hget, hsize, hframe⟩ := h.answer_cases hb
  · -- without an answer there is nothing to read
    obtain ⟨-, hdue⟩ := List.append_eq_nil_iff.mp hnil
    obtain ⟨hcontent, -⟩ := List.append_eq_nil_iff.mp hdue
    rw [hcontent, List.take_nil] at hp
    exact absurd rfl hp
  · have hcut := cutFrame_append (cutFrame_of_feed_take hu hf nofun) nofun d.outbox
    have hbytes : got ++ d.client.wires.incoming.content ++ d.outbox = frame payload' := by
      rw [List.append_assoc]
      exact hframe
    rw [hbytes] at hcut
    obtain ⟨rfl, hnil⟩ := eq_of_cutFrame_frame hsize hcut
    refine ⟨hget, ?_, hnil⟩
    rw [hlen, h.turns, List.length_append]
    rfl

/-! ## a call that is made -/

structure Made (d d' : Dialogue) (call : Call) : Prop where
  calls : d'.client.calls = d.client.calls ++ [call]
  flight : d'.client.inFlight = d.client.inFlight
  turns : d'.turns = d.turns
  answers : d'.answers = d.answers
  written : d'.written = d.written
  due : d'.due = d.due
  turn : call.hasTurn = false
  framed : ∀ m, call.request = .call m → call.isPending = true → frameOf m = .ok call.frame
  waits : ∀ m f, call.request = .call m → frameOf m = .ok f → call.isWaiting = true
  result : ∀ v, call.phase ≠ .done (.ok v)

theorem Made.cases_at (h : Made d d' call) {k : Nat} {other : Call} (hk : d'.client.calls[k]? = some other) :
    d.client.calls[k]? = some other ∨ k = d.client.calls.length ∧ other = call := by
  rw [h.calls] at hk
  by_cases hlt : k < d.client.calls.length
  · rw [List.getElem?_append_left hlt] at hk
    exact .inl hk
  · obtain ⟨hle, -⟩ := List.getElem?_eq_some_iff.mp hk
    rw [List.length_append, List.length_singleton] at hle
    obtain rfl : k = d.client.calls.length := by omega
    rw [List.getElem?_append_right (Nat.le_refl _), Nat.sub_self] at hk
    cases hk
    exact .inr ⟨rfl, rfl⟩

theorem Made.at_other (h : Made d d' call) {k : Nat} {other : Call} (hk : d.client.calls[k]? = some other) :
    d'.client.calls[k]? = some other := by
  rw [h.calls, List.getElem?_append_left (List.getElem?_eq_some_iff.mp hk).1]
  exact hk

theorem Books.made (hb : Books d) (h : Made d d' call) : Books d' where
  framed := by
    intro k other m hk hr hp
    obtain hk | ⟨-, rfl⟩ := h.cases_at hk
    · exact hb.framed k other m hk hr hp
    · exact h.framed m hr hp
  took := by
    intro k m ht
    rw [h.turns] at ht
    obtain ⟨hl, other, hk, hother⟩ := hb.took k m ht
    exact ⟨hl, other, h.at_other hk, hother⟩
  once := by
    rw [h.turns]
    exact hb.once
  answered := by
    unfold requests
    rw [h.answers, h.turns]
    exact hb.answered
  short := by
    rw [h.answers]
    exact hb.short
  own := by
    intro k other m v hk hr hp
    obtain hk | ⟨-, rfl⟩ := h.cases_at hk
    · exact (hb.own k other m v hk hr hp).of_eq h.turns h.answers
    · exact absurd hp (h.result v)

theorem Made.isBroken_iff (h : Made d d' call) (hb : Books d) : d'.IsBroken ↔ d.IsBroken := by
  constructor
  · rintro ⟨k, m, other, ht, hk, hother⟩
    rw [h.turns] at ht
    obtain ⟨-, third, hthird, -⟩ := hb.took k m ht
    rw [h.at_other hthird] at hk
    cases hk
    exact ⟨k, m, other, ht, hthird, hother⟩
  · rintro ⟨k, m, other, ht, hk, hother⟩
    exact ⟨k, m, other, h.turns ▸ ht, h.at_other hk, hother⟩

theorem Stage.made (hs : Stage d) (hb : Books d) (h : Made d d' call) : Stage d' := by
  have hbroken := h.isBroken_iff hb
  have hasked := asked_of_eq h.turns
  have hturn (hnone : ∀ call ∈ d.client.calls, call.hasTurn = false) :
      ∀ call ∈ d'.client.calls, call.hasTurn = false := by
    rw [h.calls]
    exact List.forall_mem_append.mpr ⟨hnone, List.forall_mem_singleton.mpr h.turn⟩
  cases hs with
  | idle turn flight sound written answered due =>
    refine .idle (hturn turn) (h.flight.trans flight) ((not_congr hbroken).mpr sound) ?_ ?_ (h.due.trans due)
    · rw [h.written, hasked, written]
    · rw [h.turns, h.answers]
      exact answered
  | exchange now =>
    refine .exchange ⟨h.turns.trans now.turns, h.at_other now.at_, now.request, now.underway, ?_,
      h.flight.trans now.flight, (not_congr hbroken).mpr now.sound, ?_, now.cut, ?_, ?_⟩
    · intro k other hk ht
      obtain hk | ⟨-, rfl⟩ := h.cases_at hk
      · exact now.alone k other hk ht
      · rw [h.turn] at ht
        cases ht
    · rw [h.written, hasked]
      exact now.written
    · rw [h.answers]
      exact now.answered
    · rw [h.due, h.answers]
      exact now.due
  | broken turn flight broken earlier last turns left written cut =>
    refine .broken (hturn turn) (h.flight.trans flight) (hbroken.mpr broken) earlier last (h.turns.trans turns) left
      ?_ cut
    rw [h.written, hasked, written]

end

end Dialogue

end TunnelControl
