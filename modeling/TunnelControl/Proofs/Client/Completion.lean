import TunnelControl.Proofs.Client.Steps

/-!
# An exchange that is carried through

The stream serves the next call as long as none that took it has failed: whatever the capacities of the pipes
are, the steps of the call and of the service bring its answer to it.

* `Carried d d'`        such steps lead from one dialogue to the other;
* `Going`               call `n` has its turn, and its streams are open;
* `Going.send`          the request goes out;
* `Going.receive`       the answer comes in;
* `carried_of_taker`    both, for the call that takes the stream next.
-/

namespace TunnelControl

open Wire FrameReader

theorem Client.findCall_of_alone {c : Client} {test : Call → Bool} {n : Nat} {call : Call}
    (hn : c.calls[n]? = some call) (ht : test call = true)
    (halone : ∀ (k : Nat) (other : Call), c.calls[k]? = some other → test other = true → k = n) :
    c.findCall test = some (n, call) := by
  cases hf : c.findCall test with
  | none =>
    rw [of_findCall_eq_none hf call (List.mem_of_getElem? hn)] at ht
    cases ht
  | some found =>
    obtain ⟨k, other⟩ := found
    obtain ⟨hk, hother, -⟩ := of_findCall_eq_some hf
    obtain rfl := halone k other hk hother
    rw [hn] at hk
    cases hk
    rfl

namespace Dialogue

/-- a step of the call that has its turn, or of the service towards it -/
def Move.isExchange : Move → Bool
  | .call | .hear _ | .answer _ | .reply _ => true
  | _ => false

def Carried (d d' : Dialogue) : Prop :=
  ∃ moves : List Move, (∀ move ∈ moves, move.isExchange = true) ∧ run moves d = d'

structure IsOpen (d : Dialogue) : Prop where
  outgoing : d.client.wires.outgoing.IsOpen
  incoming : d.client.wires.incoming.IsOpen

variable {d d' d'' : Dialogue}

theorem Carried.refl (d : Dialogue) : Carried d d := ⟨[], nofun, rfl⟩

theorem Carried.trans (h : Carried d d') (h' : Carried d' d'') : Carried d d'' := by
  obtain ⟨moves, hm, rfl⟩ := h
  obtain ⟨moves', hm', rfl⟩ := h'
  exact ⟨moves ++ moves', List.forall_mem_append.mpr ⟨hm, hm'⟩, List.foldl_append⟩

theorem carried_act (d : Dialogue) (move : Move) (h : move.isExchange = true) : Carried d (d.act move) :=
  ⟨[move], List.forall_mem_singleton.mpr h, rfl⟩

/-- call `n` has its turn, and its streams are open -/
structure Going (d : Dialogue) (earlier : List (Nat × Method)) (n : Nat) (m : Method) (call : Call)
    (left got : Bytes) : Prop where
  books : Books d
  open_ : d.IsOpen
  now : Exchange d earlier n m call left got

variable {earlier : List (Nat × Method)} {n : Nat} {m : Method} {call : Call} {left got : Bytes}

/-- the step of the calls is one of the call that has its turn -/
theorem Exchange.act_call (now : Exchange d earlier n m call left got) {c : Client}
    (hc : d.client.exchangeStep n call = some c) : d.act .call = { d with client := c } := by
  have hfind := Client.findCall_of_alone now.at_ now.underway.hasTurn now.alone
  have hstep : d.client.callStep = some c := by
    unfold Client.callStep
    rw [hfind]
    exact hc
  have htaker : d.client.taker? = none := by
    unfold Client.taker?
    rw [hfind]
  have hcall : d.act .call = { d with client := c, turns := d.turns ++ d.client.taker?.toList } := by
    unfold act Dialogue.call
    rw [hstep]
  rw [hcall, htaker, Option.toList_none, List.append_nil]

theorem Going.beside (h : Going d earlier n m call left got) {more : Option (Bytes × Bytes)} (hb : Beside d d' more)
    (ho : d'.IsOpen) : Going d' earlier n m call left got :=
  ⟨h.books.beside (.exchange h.now) hb, ho, h.now.beside hb⟩

/-- the service reads all there is -/
theorem Going.hear (h : Going d earlier n m call left got) :
    Going (d.act (.hear d.client.wires.outgoing.size)) earlier n m call left got :=
  h.beside (beside_hear d _) ⟨h.open_.outgoing.take _, h.open_.incoming⟩

theorem content_act_hear (d : Dialogue) :
    (d.act (.hear d.client.wires.outgoing.size)).client.wires.outgoing.content = [] := by
  have hc : (d.act (.hear d.client.wires.outgoing.size)).client.wires.outgoing.content =
      d.client.wires.outgoing.content.drop d.client.wires.outgoing.size := Pipe.content_take ..
  rw [hc, Pipe.size_eq, List.drop_length]

/-! ## the request goes out -/

/-- some more of the request is written, once the service has made room for it -/
theorem Going.write (h : Going d earlier n m call left got) (hp : call.phase = .sending left) (hne : left ≠ []) :
    ∃ d' rest, Carried d d' ∧ Going d' earlier n m { call with phase := .sending rest } rest [] ∧
      rest.length < left.length ∧ d'.answers = d.answers := by
  have h₁ := h.hear
  have hempty := content_act_hear d
  have hcarried := carried_act d (.hear d.client.wires.outgoing.size) rfl
  have hanswers : (d.act (.hear d.client.wires.outgoing.size)).answers = d.answers := rfl
  generalize d.act (.hear d.client.wires.outgoing.size) = d₁ at h₁ hempty hcarried hanswers
  have hroom : 0 < d₁.client.wires.outgoing.room := by
    rw [Pipe.room_pos_iff, hempty]
    exact h₁.open_.outgoing.capacity
  obtain ⟨rest, outgoing, hw⟩ := Pipe.write_of_room h₁.open_.outgoing.reader h₁.open_.outgoing.writer hroom left
  have hrest : rest.length < left.length := by
    obtain ⟨-, rfl, -⟩ := Pipe.eq_of_write hne hw
    have hpos := List.length_pos_iff.mpr hne
    rw [List.length_drop]
    omega
  obtain ⟨c, hstep, hcalls, hflight, hwires⟩ : ∃ c, d₁.client.exchangeStep n call = some c ∧
      c.calls = d₁.client.calls.set n { call with phase := .sending rest } ∧
        c.inFlight = d₁.client.inFlight ∧ c.wires = { d₁.client.wires with outgoing } := by
    simp only [Client.exchangeStep, hp]
    rw [if_neg (by simpa using hne), hw]
    exact ⟨_, rfl, rfl, rfl, rfl⟩
  have hm := h₁.now.moved hcalls rfl fun _ hv => by cases hv
  have hopen : IsOpen { d₁ with client := c } := by
    constructor
    · exact hwires ▸ h₁.open_.outgoing.write hw
    · exact hwires ▸ h₁.open_.incoming
  have hcall := carried_act d₁ .call rfl
  rw [h₁.now.act_call hstep] at hcall
  exact ⟨{ d₁ with client := c }, rest, hcarried.trans hcall,
    ⟨h₁.books.moved hm, hopen, h₁.now.writes hp hw hm hflight hwires⟩, hrest, hanswers⟩

/-- **The whole request is written.** -/
theorem Going.send (h : Going d earlier n m call left got) (hp : call.phase = .sending left) :
    ∃ d', Carried d d' ∧ Going d' earlier n m { call with phase := .sending [] } [] [] ∧ d'.answers = d.answers := by
  induction hk : left.length using Nat.strongRecOn generalizing d call left got with
  | ind k ih =>
    by_cases hne : left = []
    · subst hne
      have hu := h.now.underway
      have hcall : { call with phase := .sending [] } = call := by rw [← hp]
      rw [hp] at hu
      cases hu
      rw [hcall]
      exact ⟨d, .refl d, h, rfl⟩
    · obtain ⟨d₁, rest, hcarried, h₁, hlt, hanswers⟩ := h.write hp hne
      obtain ⟨d₂, hcarried', h₂, hanswers'⟩ := ih rest.length (hk ▸ hlt) h₁ rfl rfl
      exact ⟨d₂, hcarried.trans hcarried', h₂, hanswers'.trans hanswers⟩

/-! ## the answer comes in -/

/-- the service reads the request to its end, and answers it -/
theorem Going.answer (h : Going d earlier n m call [] got) (hp : call.phase = .sending [])
    (hans : d.answers.length = earlier.length) {payload : Bytes} (hl : payload.length < byteRange 4) :
    ∃ d', Carried d d' ∧ Going d' earlier n m { call with phase := .receiving .start } [] [] ∧
      d'.answers = d.answers ++ [(encode m, payload)] := by
  have hstep : d.client.exchangeStep n call = some (d.client.setCall n { call with phase := .receiving .start }) := by
    simp only [Client.exchangeStep, hp]
    rfl
  have hm := h.now.moved (c := d.client.setCall n { call with phase := .receiving .start }) rfl rfl fun _ hv => by
    cases hv
  have h₁ : Going (d.act .call) earlier n m { call with phase := .receiving .start } [] [] := by
    rw [h.now.act_call hstep]
    exact ⟨h.books.moved hm, ⟨h.open_.outgoing, h.open_.incoming⟩, h.now.receives hp hm rfl rfl⟩
  have hcarried := carried_act d .call rfl
  have hanswers : (d.act .call).answers = d.answers := by rw [h.now.act_call hstep]
  generalize d.act .call = d₁ at h₁ hcarried hanswers
  have h₂ := h₁.hear
  have hempty := content_act_hear d₁
  have hcarried' := carried_act d₁ (.hear d₁.client.wires.outgoing.size) rfl
  have hanswers' : (d₁.act (.hear d₁.client.wires.outgoing.size)).answers = d₁.answers := rfl
  generalize d₁.act (.hear d₁.client.wires.outgoing.size) = d₂ at h₂ hempty hcarried' hanswers'
  have hheard : d₂.heard = d₂.asked := by
    have hw := h₂.now.written
    rwa [written, hempty, List.append_nil, List.append_nil] at hw
  have hrequest : (wholeFrames d₂.heard)[d₂.answers.length]? = some (encode m) := by
    have hw := wholeFrames_frames h₂.books.size
    rw [hheard, asked, hw, hanswers', hanswers, hans, requests, h₂.now.turns, List.getElem?_map,
      List.getElem?_append_right (Nat.le_refl _), Nat.sub_self]
    rfl
  have hact : d₂.act (.answer payload) =
      { d₂ with answers := d₂.answers ++ [(encode m, payload)], outbox := d₂.outbox ++ frame payload } := by
    unfold act Dialogue.answer
    simp only [hrequest, if_pos hl]
  obtain ⟨more, hb⟩ := beside_answer d₂ payload
  have h₃ : Going (d₂.act (.answer payload)) earlier n m { call with phase := .receiving .start } [] [] := by
    refine h₂.beside hb ?_
    rw [hact]
    exact ⟨h₂.open_.outgoing, h₂.open_.incoming⟩
  refine ⟨_, (hcarried.trans hcarried').trans (carried_act d₂ (.answer payload) rfl), h₃, ?_⟩
  have hthird : (d₂.act (.answer payload)).answers = d₂.answers ++ [(encode m, payload)] := by rw [hact]
  rw [hthird, hanswers', hanswers]

/-- the service writes what it can, and then something is there to read -/
theorem Going.reply (h : Going d earlier n m call left got) (hdue : d.due ≠ []) :
    Going (d.act (.reply d.outbox.length)) earlier n m call left got ∧
      (d.act (.reply d.outbox.length)).client.wires.incoming.content ≠ [] := by
  have hb := beside_reply d d.outbox.length
  have hact : d.act (.reply d.outbox.length) = d.reply d.outbox.length := rfl
  rw [hact]
  have hopen := h.open_.incoming
  cases hw : d.client.wires.incoming.write d.outbox with
  | wrote rest incoming =>
    have hreply : d.reply d.outbox.length =
        { d with client := d.client.setAnswers incoming, outbox := rest ++ d.outbox.drop d.outbox.length } := by
      unfold Dialogue.reply
      rw [List.take_length, hw]
    rw [hreply] at hb ⊢
    exact ⟨h.beside hb ⟨h.open_.outgoing, hopen.write hw⟩, Pipe.content_write_ne_nil hdue hw⟩
  | blocked =>
    have hreply : d.reply d.outbox.length = d := by
      unfold Dialogue.reply
      rw [List.take_length, hw]
    rw [hreply]
    exact ⟨h, hopen.content_ne_nil_of_blocked hw⟩
  | broken => exact absurd hw (hopen.write_ne_broken d.outbox)

theorem Underway.unfinished {reader : FrameReader} (h : Underway (.receiving reader) left got) :
    left = [] ∧ reader = holding got ∧ Unfinished got := by
  cases h with
  | receiving hu => exact ⟨rfl, rfl, hu⟩

theorem Exchange.due_of_answer (now : Exchange d earlier n m call left got) (hb : Books d) {payload : Bytes}
    (hget : d.answers[earlier.length]? = some (encode m, payload)) : got ++ d.due = frame payload := by
  obtain ⟨hlen, -⟩ | ⟨payload', -, hget', -, hframe⟩ := now.answer_cases hb
  · obtain ⟨hlt, -⟩ := List.getElem?_eq_some_iff.mp hget
    omega
  · rw [hget'] at hget
    cases hget
    exact hframe

/-- the call reads some more of its answer, or has it -/
theorem Going.read (h : Going d earlier n m call left got) {reader : FrameReader}
    (hp : call.phase = .receiving reader) {payload : Bytes} {a : Answer}
    (hget : d.answers[earlier.length]? = some (encode m, payload)) (hl : payload.length ≤ maxPayload)
    (ha : m.readAnswer payload = .ok a) (hsome : d.client.wires.incoming.content ≠ []) :
    (d.act .call).client.calls[n]? = some { call with phase := .done a.surface } ∨
      ∃ reader' got', Going (d.act .call) earlier n m { call with phase := .receiving reader' } [] got' ∧
        got.length < got'.length ∧ (d.act .call).answers = d.answers := by
  have hunderway := h.now.underway
  rw [hp] at hunderway
  obtain ⟨rfl, rfl, hu⟩ := hunderway.unfinished
  have hpiece : (d.client.wires.incoming.take (holding got).wanted).1 ≠ [] := by
    intro hnil
    exact hsome ((Pipe.take_eq_nil_iff _ (wanted_pos hu)).mp hnil)
  have hframe := h.now.due_of_answer h.books hget
  have hbytes : got ++ d.client.wires.incoming.content ++ d.outbox = frame payload := by
    rw [List.append_assoc]
    exact hframe
  cases hk : d.client.wires.incoming.take (holding got).wanted with
  | mk piece incoming =>
  have hfst : (d.client.wires.incoming.take (holding got).wanted).1 = piece := by rw [hk]
  have htake : piece = d.client.wires.incoming.content.take (holding got).wanted := hfst.symm.trans (Pipe.take_fst ..)
  rw [hfst] at hpiece
  cases hf : (holding got).feed piece with
  | more reader' =>
    obtain ⟨c, hstep, hcalls, hflight, hwires⟩ : ∃ c, d.client.exchangeStep n call = some c ∧
        c.calls = d.client.calls.set n { call with phase := .receiving reader' } ∧
          c.inFlight = d.client.inFlight ∧ c.wires = { d.client.wires with incoming } := by
      obtain ⟨b, piece, rfl⟩ := List.exists_cons_of_ne_nil hpiece
      simp only [Client.exchangeStep, hp, hk, hf]
      exact ⟨_, rfl, rfl, rfl, rfl⟩
    have hm := h.now.moved hcalls rfl fun _ hv => by cases hv
    have hopen : IsOpen { d with client := c } := by
      constructor
      · exact hwires ▸ h.open_.outgoing
      · have hincoming : incoming = (d.client.wires.incoming.take (holding got).wanted).2 := by rw [hk]
        rw [hwires, hincoming]
        exact h.open_.incoming.take _
    have hnow := h.now.reads hp (hfst ▸ hf) hm hflight (by rw [hwires, hk])
    rw [hfst] at hnow
    have hlt : got.length < (got ++ piece).length := by
      have hpos := List.length_pos_iff.mpr hpiece
      rw [List.length_append]
      omega
    rw [h.now.act_call hstep]
    exact .inr ⟨reader', got ++ piece, ⟨h.books.moved hm, hopen, hnow⟩, hlt, rfl⟩
  | tooLarge length =>
    -- the frame of the answer is not too large
    rw [htake] at hf
    have hwhole (reader : FrameReader) : Outcome.tooLarge length ≠ .more reader := fun hr => by cases hr
    have hcut := cutFrame_append (cutFrame_of_feed_take hu hf hwhole) hwhole d.outbox
    rw [hbytes, cutFrame_frame hl] at hcut
    cases hcut
  | payload payload' =>
    obtain ⟨hget', -, -⟩ := h.now.of_payload h.books hu (hfst ▸ hpiece) (hfst ▸ hf)
    rw [hget] at hget'
    cases hget'
    obtain ⟨c, hstep, hcalls⟩ : ∃ c, d.client.exchangeStep n call = some c ∧
        c.calls = d.client.calls.set n { call with phase := .done a.surface } := by
      obtain ⟨b, piece, rfl⟩ := List.exists_cons_of_ne_nil hpiece
      simp only [Client.exchangeStep, hp, hk, hf]
      refine ⟨_, rfl, ?_⟩
      unfold Client.judge
      split
      · rename_i hr
        rw [h.now.request] at hr
        cases hr
      · rename_i m' hr
        rw [h.now.request] at hr
        cases hr
        simp only [ha]
        rfl
    rw [h.now.act_call hstep]
    refine .inl ?_
    rw [hcalls, List.getElem?_set_self (List.getElem?_eq_some_iff.mp h.now.at_).1]

/-- **The whole answer is read.** -/
theorem Going.receive (h : Going d earlier n m call left got) {reader : FrameReader}
    (hp : call.phase = .receiving reader) {payload : Bytes} {a : Answer}
    (hget : d.answers[earlier.length]? = some (encode m, payload)) (hl : payload.length ≤ maxPayload)
    (ha : m.readAnswer payload = .ok a) :
    ∃ d', Carried d d' ∧ d'.client.calls[n]? = some { call with phase := .done a.surface } := by
  induction hk : (frame payload).length - got.length using Nat.strongRecOn generalizing d call left got reader with
  | ind k ih =>
    have hframe := h.now.due_of_answer h.books hget
    have hunderway := h.now.underway
    rw [hp] at hunderway
    obtain ⟨-, -, hu⟩ := hunderway.unfinished
    have hdue : d.due ≠ [] := by
      intro hnil
      rw [hnil, List.append_nil] at hframe
      rw [hframe] at hu
      exact not_unfinished_frame hl hu
    obtain ⟨h₁, hsome⟩ := h.reply hdue
    have hcarried := carried_act d (.reply d.outbox.length) rfl
    have hget₁ : (d.act (.reply d.outbox.length)).answers[earlier.length]? = some (encode m, payload) := by
      have hanswers : (d.act (.reply d.outbox.length)).answers = d.answers :=
        (beside_reply d d.outbox.length).answers.trans (List.append_nil _)
      rw [hanswers]
      exact hget
    generalize d.act (.reply d.outbox.length) = d₁ at h₁ hsome hcarried hget₁
    have hcarried' := hcarried.trans (carried_act d₁ .call rfl)
    obtain hdone | ⟨reader', got', h₂, hlt, hanswers⟩ := h₁.read hp hget₁ hl ha hsome
    · exact ⟨_, hcarried', hdone⟩
    · rw [← hanswers] at hget₁
      have hframe' := h₂.now.due_of_answer h₂.books hget₁
      have hle : got'.length ≤ (frame payload).length := by
        rw [← hframe', List.length_append]
        omega
      obtain ⟨d', hcarried'', hdone⟩ := ih ((frame payload).length - got'.length) (by omega) h₂ rfl hget₁ rfl
      exact ⟨d', hcarried'.trans hcarried'', hdone⟩

/-- **The call that takes the stream next can have its answer**, whatever this is. -/
theorem carried_of_taker (h : Sound d) (ho : d.IsOpen) (ht : d.client.taker? = some (n, m)) {payload : Bytes}
    {a : Answer} (hl : payload.length ≤ maxPayload) (ha : m.readAnswer payload = .ok a) :
    ∃ d' call, Carried d d' ∧ d'.client.calls[n]? = some call ∧ call.phase = .done a.surface := by
  obtain ⟨call, hn, hw, hr, hturn, hflight, hstep⟩ := Client.of_taker?_eq_some ht
  obtain ⟨-, -, hanswered, -⟩ := h.stage.of_free hturn hflight
  have hanswers : d.answers.length = d.turns.length := Nat.le_antisymm h.books.length_answers hanswered
  have hm : Moved d { d with client := d.client.taken n call } n call (.sending call.frame) :=
    ⟨hn, rfl, rfl, rfl, Call.isPending_of_isWaiting hw, rfl, nofun⟩
  obtain ⟨h₁, now⟩ := h.takes hm hw hr hturn hflight rfl rfl rfl
  have hcarried₁ := carried_act d .call rfl
  have hact : d.act .call = Dialogue.withTurn { d with client := d.client.taken n call } (n, m) := by
    unfold act Dialogue.call
    rw [hstep, ht]
    rfl
  rw [hact] at hcarried₁
  have hgoing := Going.mk h₁.books ⟨ho.outgoing, ho.incoming⟩ now
  obtain ⟨d₂, hcarried₂, h₂, hanswers₂⟩ := hgoing.send rfl
  have hlen : d₂.answers.length = d.turns.length := (congrArg List.length hanswers₂).trans hanswers
  obtain ⟨d₃, hcarried₃, h₃, hanswers₃⟩ := h₂.answer rfl hlen (lt_byteRange_of_le hl)
  have hget : d₃.answers[d.turns.length]? = some (encode m, payload) := by
    rw [hanswers₃, List.getElem?_append_right (Nat.le_of_eq hlen), hlen, Nat.sub_self]
    rfl
  obtain ⟨d₄, hcarried₄, hdone⟩ := h₃.receive rfl hget hl ha
  exact ⟨d₄, _, ((hcarried₁.trans hcarried₂).trans hcarried₃).trans hcarried₄, hdone, rfl⟩

/-- however little the pipes hold -/
example : ∃ d' call, Carried (run [.begin (.call .queryUpdateState)] (fresh 1 1 1)) d' ∧
    d'.client.calls[0]? = some call ∧ call.phase = .done (.ok (.updateState .available)) := by
  have hs := sound_run (sound_fresh 1 1 1) [.begin (.call .queryUpdateState)]
  have hopen : IsOpen (run [.begin (.call .queryUpdateState)] (fresh 1 1 1)) :=
    ⟨⟨rfl, rfl, by decide⟩, ⟨rfl, rfl, by decide⟩⟩
  have hsize : (encode UpdateState.available).length ≤ maxPayload := by decide
  have hread : Method.queryUpdateState.readAnswer (encode UpdateState.available) = .ok (.updateState .available) := rfl
  exact carried_of_taker hs hopen rfl hsize hread

end Dialogue

end TunnelControl
