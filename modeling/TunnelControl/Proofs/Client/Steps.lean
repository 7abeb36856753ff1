import TunnelControl.Proofs.Client.Stages

/-!
# The moves of a dialogue

* `Sound d`                the books are right, and the stream is in one of its stages;
* `made_begin`, `giveUp_cases`, `beside_act`   what the moves are, other than the steps of the calls;
* `Sound.takes`            a call takes the stream;
* `Exchange.writes`, `receives`, `reads`       what it does in its turn;
* `sound_callMove`         each step of the calls keeps a dialogue sound;
* `sound_act`, `sound_run` and so does every move.
-/

namespace TunnelControl.Dialogue

open Wire FrameReader

structure Sound (d : Dialogue) : Prop where
  books : Books d
  stage : Stage d

section
variable {d d' : Dialogue}

theorem Sound.beside (h : Sound d) {more : Option (Bytes × Bytes)} (hm : Beside d d' more) : Sound d' := by
  have hb := h.books.beside h.stage hm
  exact ⟨hb, h.stage.beside hm hb⟩

theorem Sound.made (h : Sound d) {call : Call} (hm : Made d d' call) : Sound d' :=
  ⟨h.books.made hm, h.stage.made h.books hm⟩

theorem Sound.moved (h : Sound d) {n : Nat} {call : Call} {phase : CallPhase} (hm : Moved d d' n call phase)
    (hs : Moved d d' n call phase → Stage d') : Sound d' :=
  ⟨h.books.moved hm, hs hm⟩

theorem made_of_client {c : Client} {call : Call} (hc : c.calls = d.client.calls ++ [call])
    (hf : c.inFlight = d.client.inFlight) (ho : c.wires.outgoing = d.client.wires.outgoing)
    (hi : c.wires.incoming = d.client.wires.incoming) (ht : call.hasTurn = false)
    (hframed : ∀ m, call.request = .call m → call.isPending = true → frameOf m = .ok call.frame)
    (hw : ∀ m f, call.request = .call m → frameOf m = .ok f → call.isWaiting = true)
    (hr : ∀ v, call.phase ≠ .done (.ok v)) : Made d { d with client := c } call where
  calls := hc
  flight := hf
  turns := rfl
  answers := rfl
  written := by
    unfold written
    rw [ho]
  due := by
    unfold due
    rw [hi]
  turn := ht
  framed := hframed
  waits := hw
  result := hr

theorem made_begin (d : Dialogue) (request : Request) : ∃ call, Made d (d.act (.begin request)) call := by
  cases request with
  | close => exact ⟨_, made_of_client rfl rfl rfl rfl rfl nofun nofun nofun⟩
  | call m =>
    unfold act Client.begin
    simp only
    cases hf : frameOf m with
    | ok frame =>
      refine ⟨_, made_of_client rfl rfl rfl rfl rfl ?_ (fun _ _ _ _ => rfl) nofun⟩
      rintro _ ⟨⟩ -
      exact hf
    | error e =>
      refine ⟨_, made_of_client rfl rfl rfl rfl rfl nofun ?_ nofun⟩
      rintro _ f ⟨⟩ hok
      rw [hf] at hok
      cases hok

/-- nothing else than the call changes that is given up, if it was not finished before -/
theorem giveUp_cases (d : Dialogue) (n : Nat) :
    d.act (.giveUp n) = d ∨ ∃ call, Moved d (d.act (.giveUp n)) n call .givenUp ∧
      d.act (.giveUp n) = { d with client := d.client.setCall n { call with phase := .givenUp } } := by
  unfold act Client.giveUp
  simp only
  cases hn : d.client.calls[n]? with
  | none => exact .inl rfl
  | some call =>
    simp only
    by_cases hp : call.isPending = true
    · rw [if_pos hp]
      exact .inr ⟨call, ⟨hn, rfl, rfl, rfl, hp, rfl, nofun⟩, rfl⟩
    · rw [if_neg hp]
      exact .inl rfl

theorem sound_giveUp (h : Sound d) (n : Nat) : Sound (d.act (.giveUp n)) := by
  obtain hd | ⟨call, hm, hd⟩ := giveUp_cases d n
  · rw [hd]
    exact h
  · refine h.moved hm fun hm => ?_
    have hp := hm.pending
    rw [hd] at hm ⊢
    cases hw : call.isWaiting with
    | true => exact h.stage.waiting h.books hm hw rfl rfl rfl rfl
    | false =>
      have ht : call.hasTurn = true := by rwa [Call.isPending, hw, Bool.false_or] at hp
      obtain ⟨earlier, m, left, got, now⟩ := h.stage.exchange_of_hasTurn hm.at_ ht
      exact now.breaks hm rfl rfl rfl

/-! ## a call that takes the stream -/

section
variable {n : Nat} {call : Call} {m : Method}

theorem mem_turns_withTurn {turn other : Nat × Method} :
    other ∈ (d.withTurn turn).turns ↔ other ∈ d.turns ∨ other = turn := by
  rw [withTurn, List.mem_append, List.mem_singleton]

theorem requests_withTurn (d : Dialogue) (turn : Nat × Method) :
    (d.withTurn turn).requests = d.requests ++ [encode turn.2] := List.map_append

theorem asked_withTurn (d : Dialogue) (turn : Nat × Method) :
    (d.withTurn turn).asked = d.asked ++ frame (encode turn.2) := by
  rw [asked, requests_withTurn, List.map_append, List.flatten_append]
  exact congrArg (d.asked ++ ·) (List.append_nil _)

theorem Books.withTurn (hb : Books d) (hn : d.client.calls[n]? = some call) (hr : call.request = .call m)
    (hw : call.isWaiting = false) (hsize : (encode m).length ≤ maxPayload) (hnot : ∀ m, (n, m) ∉ d.turns) :
    Books (d.withTurn (n, m)) where
  framed := hb.framed
  took := by
    intro k m' ht
    obtain ht | ht := mem_turns_withTurn.mp ht
    · exact hb.took k m' ht
    · cases ht
      exact ⟨hsize, call, hn, hr, hw⟩
  once := by
    rw [Dialogue.withTurn, List.map_append, List.map_singleton]
    refine List.nodup_append.mpr ⟨hb.once, List.pairwise_singleton .., ?_⟩
    rintro k hk _ hlast rfl
    obtain ⟨⟨k', m'⟩, hmem, rfl⟩ := List.mem_map.mp hk
    cases List.mem_singleton.mp hlast
    exact hnot m' hmem
  answered := by
    rw [requests_withTurn]
    exact hb.answered.trans (List.prefix_append ..)
  short := hb.short
  own := by
    intro k other m' v hk hr' hp
    exact (hb.own k other m' v hk hr' hp).mono (List.prefix_append ..) (List.prefix_refl _)

/-- nothing is on its way while nobody has the stream -/
theorem Stage.of_free (hs : Stage d) (hturn : ∀ call ∈ d.client.calls, call.hasTurn = false)
    (hflight : d.client.inFlight = false) :
    ¬d.IsBroken ∧ d.written = d.asked ∧ d.turns.length ≤ d.answers.length ∧ d.due = [] := by
  cases hs with
  | idle turn flight sound written answered due => exact ⟨sound, written, answered, due⟩
  | exchange now =>
    have ht := now.underway.hasTurn
    rw [hturn _ (List.mem_of_getElem? now.at_)] at ht
    cases ht
  | broken turn flight =>
    rw [hflight] at flight
    cases flight

/-- a call that begins to write, and counts among those that took the stream -/
theorem Sound.takes (h : Sound d) (hm : Moved d d' n call (.sending call.frame)) (hw : call.isWaiting = true)
    (hr : call.request = .call m) (hturn : ∀ call ∈ d.client.calls, call.hasTurn = false)
    (hflight : d.client.inFlight = false) (hf : d'.client.inFlight = true) (hwritten : d'.written = d.written)
    (hdue : d'.due = d.due) :
    Sound (d'.withTurn (n, m)) ∧
      Exchange (d'.withTurn (n, m)) d.turns n m { call with phase := .sending call.frame } call.frame [] := by
  obtain ⟨hframe, hsize⟩ := frameOf_eq_ok_iff.mp (h.books.framed n call m hm.at_ hr hm.pending)
  obtain ⟨hsound, hall, hanswered, hnone⟩ := h.stage.of_free hturn hflight
  have hnot (m : Method) : (n, m) ∉ d'.turns := by
    rw [hm.turns]
    exact h.books.not_mem_turns hm.at_ hw m
  have now : Exchange (d'.withTurn (n, m)) d.turns n m { call with phase := .sending call.frame } call.frame [] := by
    refine ⟨congrArg (· ++ [(n, m)]) hm.turns, hm.at_self, hr, .sending call.frame, ?_, hf, ?_, ?_, ⟨[], hframe⟩, ?_, ?_⟩
    · intro k other hk ht
      obtain ⟨rfl, -⟩ | ⟨-, hk⟩ := hm.cases_at hk
      · rfl
      · rw [hturn other (List.mem_of_getElem? hk)] at ht
        cases ht
    · rintro ⟨k, m', other, ht, hk, hother⟩
      obtain ⟨-, rfl⟩ | ⟨hne, hk⟩ := hm.cases_at hk
      · cases hother
      · obtain ht | ht := mem_turns_withTurn.mp ht
        · exact hsound ⟨k, m', other, hm.turns ▸ ht, hk, hother⟩
        · cases ht
          exact hne rfl
    · rw [asked_withTurn, asked_of_eq hm.turns, ← hall, ← hwritten, ← hframe]
      rfl
    · exact hm.answers ▸ hanswered
    · have hlen : d'.answers.drop d.turns.length = [] := by
        rw [hm.answers]
        exact List.drop_eq_nil_of_le h.books.length_answers
      have hd : (d'.withTurn (n, m)).due = [] := hdue.trans hnone
      rw [hd]
      exact (congrArg told hlen).symm
  exact ⟨⟨(h.books.moved hm).withTurn hm.at_self hr rfl hsize hnot, .exchange now⟩, now⟩

end

/-! ## what a call does in its turn -/

section
variable {n : Nat} {call : Call} {earlier : List (Nat × Method)} {m : Method} {left got : Bytes}

theorem Exchange.pending (now : Exchange d earlier n m call left got) : call.isPending = true :=
  Call.isPending_of_hasTurn now.underway.hasTurn

theorem Exchange.moved (now : Exchange d earlier n m call left got) {c : Client} {phase : CallPhase}
    (hc : c.calls = d.client.calls.set n { call with phase }) (hw : ({ call with phase } : Call).isWaiting = false)
    (hp : ∀ v, phase ≠ .done (.ok v)) : Moved d { d with client := c } n call phase :=
  ⟨now.at_, hc, rfl, rfl, now.pending, hw, fun _ v _ h => absurd h (hp v)⟩

theorem Exchange.writes (now : Exchange d earlier n m call left got) {data rest : Bytes} {outgoing : Pipe}
    (hp : call.phase = .sending data) (hw : d.client.wires.outgoing.write data = .wrote rest outgoing) {c : Client}
    (hm : Moved d { d with client := c } n call (.sending rest)) (hf : c.inFlight = d.client.inFlight)
    (hwires : c.wires = { d.client.wires with outgoing }) :
    Exchange { d with client := c } earlier n m { call with phase := .sending rest } rest [] := by
  have hu := now.underway
  rw [hp] at hu
  cases hu
  have hwritten : d.heard ++ c.wires.outgoing.content ++ rest = d.written ++ left := by
    rw [hwires, Dialogue.written, List.append_assoc, List.append_assoc, ← Pipe.content_write hw]
  have hdue : c.wires.incoming.content ++ d.outbox = d.due := by
    rw [hwires]
    rfl
  exact now.goesOn hm (.sending rest) hf hwritten (Pipe.isSuffix_of_write hw) hdue

theorem Exchange.receives (now : Exchange d earlier n m call left got) (hp : call.phase = .sending []) {c : Client}
    (hm : Moved d { d with client := c } n call (.receiving .start)) (hf : c.inFlight = d.client.inFlight)
    (hwires : c.wires = d.client.wires) :
    Exchange { d with client := c } earlier n m { call with phase := .receiving .start } [] [] := by
  have hu := now.underway
  rw [hp] at hu
  cases hu
  have hwritten : d.heard ++ c.wires.outgoing.content ++ [] = d.written ++ [] := by
    rw [hwires]
    rfl
  have hdue : c.wires.incoming.content ++ d.outbox = d.due := by
    rw [hwires]
    rfl
  exact now.goesOn hm (.receiving unfinished_nil) hf hwritten (List.suffix_refl _) hdue

theorem Exchange.reads (now : Exchange d earlier n m call left got) {reader reader' : FrameReader}
    (hp : call.phase = .receiving reader)
    (hfed : reader.feed (d.client.wires.incoming.take reader.wanted).1 = .more reader') {c : Client}
    (hm : Moved d { d with client := c } n call (.receiving reader')) (hf : c.inFlight = d.client.inFlight)
    (hwires : c.wires = { d.client.wires with incoming := (d.client.wires.incoming.take reader.wanted).2 }) :
    Exchange { d with client := c } earlier n m { call with phase := .receiving reader' } []
      (got ++ (d.client.wires.incoming.take reader.wanted).1) := by
  have hu := now.underway
  rw [hp] at hu
  cases hu with
  | receiving hgot =>
    rw [Pipe.take_fst] at hfed ⊢
    obtain ⟨hgot', rfl⟩ := unfinished_of_feed_take hgot hfed
    have hwritten : d.heard ++ c.wires.outgoing.content ++ [] = d.written ++ [] := by
      rw [hwires]
      rfl
    have hdue : got ++ d.client.wires.incoming.content.take (holding got).wanted ++
        (c.wires.incoming.content ++ d.outbox) = got ++ d.due := by
      rw [hwires, Dialogue.due, Pipe.content_take, List.append_assoc, ← List.append_assoc (List.take _ _),
        List.take_append_drop]
    exact now.goesOn hm (.receiving hgot') hf hwritten (List.suffix_refl _) hdue

end

theorem sound_callMove (h : Sound d) {c : Client} (hc : Client.CallMove d.client c) :
    Sound { d with client := c, turns := d.turns ++ d.client.taker?.toList } := by
  cases hc with
  | closes at_ waits request taker =>
    rw [taker, Option.toList_none, List.append_nil]
    refine h.moved ⟨at_, rfl, rfl, rfl, Call.isPending_of_isWaiting waits, rfl, ?_⟩ fun hm =>
      h.stage.waiting h.books hm waits rfl rfl rfl rfl
    intro m v hr
    rw [request] at hr
    cases hr
  | refuses at_ waits request flight taker =>
    rw [taker, Option.toList_none, List.append_nil]
    exact h.moved ⟨at_, rfl, rfl, rfl, Call.isPending_of_isWaiting waits, rfl, nofun⟩ fun hm =>
      h.stage.waiting h.books hm waits rfl rfl rfl rfl
  | @takes n call m at_ waits request turn flight taker =>
    rw [taker, Option.toList_some]
    have hm : Moved d { d with client := d.client.taken n call } n call (.sending call.frame) :=
      ⟨at_, rfl, rfl, rfl, Call.isPending_of_isWaiting waits, rfl, nofun⟩
    exact (h.takes hm waits request turn flight rfl rfl rfl).1
  | receives at_ phase taker =>
    rw [taker, Option.toList_none, List.append_nil]
    obtain ⟨earlier, m, left, got, now⟩ := h.stage.exchange_of_hasTurn at_ (Call.hasTurn_of_sending phase)
    exact h.moved (now.moved rfl rfl nofun) fun hm => .exchange (now.receives phase hm rfl rfl)
  | writes at_ phase wrote taker =>
    rw [taker, Option.toList_none, List.append_nil]
    obtain ⟨earlier, m, left', got, now⟩ := h.stage.exchange_of_hasTurn at_ (Call.hasTurn_of_sending phase)
    exact h.moved (now.moved rfl rfl nofun) fun hm => .exchange (now.writes phase wrote hm rfl rfl)
  | reads at_ phase fed taker =>
    rw [taker, Option.toList_none, List.append_nil]
    obtain ⟨earlier, m, left', got, now⟩ := h.stage.exchange_of_hasTurn at_ (Call.hasTurn_of_receiving phase)
    exact h.moved (now.moved rfl rfl nofun) fun hm => .exchange (now.reads phase fed hm rfl rfl)
  | @answers n call m reader payload a at_ phase request fed some_ answer taker =>
    rw [taker, Option.toList_none, List.append_nil]
    have ht := Call.hasTurn_of_receiving phase
    obtain ⟨earlier, m', left, got, now⟩ := h.stage.exchange_of_hasTurn at_ ht
    have hu := now.underway
    rw [phase] at hu
    cases hu with
    | receiving hgot =>
      obtain ⟨hans, hlen, hdue⟩ := now.of_payload h.books hgot some_ fed
      refine h.moved ⟨at_, rfl, rfl, rfl, Call.isPending_of_hasTurn ht, rfl, ?_⟩ fun hm =>
        now.ends hm (Call.hasFailed_surface call a) rfl rfl rfl (Nat.le_of_eq hlen.symm) hdue
      intro k v hr hv
      have hk := now.request
      rw [request] at hr hk
      cases hr
      cases hk
      refine ⟨earlier.length, payload, a, ?_, hans, answer, CallPhase.done.inj hv⟩
      rw [now.turns, List.getElem?_append_right (Nat.le_refl _), Nat.sub_self]
      rfl
  | fails incoming at_ turn reported taker =>
    rw [taker, Option.toList_none, List.append_nil]
    obtain ⟨earlier, m, left, got, now⟩ := h.stage.exchange_of_hasTurn at_ turn
    refine h.moved ⟨at_, rfl, rfl, rfl, Call.isPending_of_hasTurn turn, rfl, nofun⟩ fun hm =>
      now.breaks hm ?_ rfl rfl
    unfold Call.hasFailed
    simp only [reported, Bool.not_false]

/-- what the service does, and what becomes of the events -/
theorem beside_act (d : Dialogue) {move : Move} (h : move.isAside = true) : ∃ more, Beside d (d.act move) more := by
  cases move with
  | begin request => cases h
  | giveUp n => cases h
  | call => cases h
  | notice => exact ⟨none, beside_notice d⟩
  | events pipe observers => exact ⟨none, beside_of_client rfl rfl rfl rfl⟩
  | hear n => exact ⟨none, beside_hear d n⟩
  | answer payload => exact beside_answer d payload
  | reply n => exact ⟨none, beside_reply d n⟩
  | endAnswers => exact ⟨none, beside_of_client rfl rfl rfl rfl⟩
  | leaveRequests => exact ⟨none, beside_of_client rfl rfl rfl rfl⟩

theorem Sound.call_hasMethod (h : Sound d) :
    ∀ call ∈ d.client.calls, call.hasTurn = true → ∃ m, call.request = .call m := by
  intro call hmem ht
  obtain ⟨n, hn⟩ := List.getElem?_of_mem hmem
  obtain ⟨earlier, m, left, got, now⟩ := h.stage.exchange_of_hasTurn hn ht
  exact ⟨m, now.request⟩

theorem sound_call (h : Sound d) : Sound d.call := by
  unfold call
  cases hc : d.client.callStep with
  | none => exact h
  | some c => exact sound_callMove h (Client.callStep_cases h.call_hasMethod hc)

theorem sound_act (h : Sound d) (move : Move) : Sound (d.act move) := by
  cases ha : move.isAside with
  | true =>
    obtain ⟨more, hm⟩ := beside_act d ha
    exact h.beside hm
  | false =>
    cases move with
    | begin request =>
      obtain ⟨call, hm⟩ := made_begin d request
      exact h.made hm
    | giveUp n => exact sound_giveUp h n
    | call => exact sound_call h
    | notice | events | hear | answer | reply | endAnswers | leaveRequests => cases ha

theorem sound_run (h : Sound d) (moves : List Move) : Sound (run moves d) := by
  induction moves generalizing d with
  | nil => exact h
  | cons move moves ih => exact ih (sound_act h move)

theorem sound_fresh (outgoing incoming events : Nat) : Sound (fresh outgoing incoming events) := by
  have hcall {n : Nat} {call : Call} (h : (fresh outgoing incoming events).client.calls[n]? = some call) : False := by
    cases h
  have hturn {n : Nat} {m : Method} (h : (n, m) ∈ (fresh outgoing incoming events).turns) : False := by
    cases h
  constructor
  · refine ⟨?_, ?_, List.Pairwise.nil, List.prefix_refl _, ?_, ?_⟩
    · intro n call m hn
      exact (hcall hn).elim
    · intro n m ht
      exact (hturn ht).elim
    · intro answer ha
      cases ha
    · intro n call m v hn
      exact (hcall hn).elim
  · refine .idle ?_ rfl ?_ rfl (Nat.le_refl _) rfl
    · intro call hmem
      cases hmem
    · rintro ⟨n, m, call, ht, -⟩
      exact hturn ht

end

end TunnelControl.Dialogue
