import TunnelControl.Proofs.Client.Completion
import TunnelControl.Proofs.Client.Refusal

/-!
# Calls and answers in step

Whatever calls are made and given up, and however the bytes are cut on their way, a call returns the answer to
its own request or fails.

* `Refuses d d'`     nothing but refusals comes of the calls of a broken stream;
* `Serves d`         a stream that is not broken serves the call that is next;
* `InStep d`         all that is promised of a dialogue;
* `keeps_in_step`    it holds behind any moves.
-/

namespace TunnelControl.Dialogue

open Wire FrameReader

/-- behind `d`, whose stream is broken: no byte is written or read, and no later call gets an answer -/
structure Refuses (d d' : Dialogue) : Prop where
  turns : d'.turns = d.turns
  written : d'.written = d.written
  read : ∀ move : Move, move.isService = false → (d'.act move).due = d'.due
  /-- a call is later if it had not got its turn before, or was not even made -/
  later : ∀ (n : Nat) (call : Call) (m : Method) (f : Bytes), d'.client.calls[n]? = some call →
    call.request = .call m → frameOf m = .ok f →
    (∀ before, d.client.calls[n]? = some before → before.isWaiting = true) →
      call.phase = .waiting ∨ call.phase = .givenUp ∨ call.phase = .done (.error .closed)
  /-- and it does return, with the steps of the calls -/
  returns : ∀ (n : Nat) (call : Call) (m : Method), d'.client.calls[n]? = some call → call.isWaiting = true →
    call.request = .call m → ∀ moves : List Move, .giveUp n ∉ moves → n < moves.countP Move.isCall →
      (run moves d').client.calls[n]? = some { call with phase := .done (.error .closed) }

/-- the stream is taken only while a call has its turn, and then the next one can have any answer -/
structure Serves (d : Dialogue) : Prop where
  flight : d.client.inFlight = true ↔ ∃ call ∈ d.client.calls, call.hasTurn = true
  next : (∀ call ∈ d.client.calls, call.hasTurn = false) → d.IsOpen → ∀ (n : Nat) (call : Call) (m : Method),
    d.client.findCall Call.isWaiting = some (n, call) → call.request = .call m →
    ∀ (payload : Bytes) (a : Answer), payload.length ≤ maxPayload → m.readAnswer payload = .ok a →
      ∃ d' call', Carried d d' ∧ d'.client.calls[n]? = some call' ∧ call'.phase = .done a.surface

structure InStep (d : Dialogue) : Prop where
  /-- what a call returns is what the answer to its own request says -/
  own : ∀ (n : Nat) (call : Call) (m : Method) (v : Answer), d.client.calls[n]? = some call →
    call.request = .call m → call.phase = .done (.ok v) → d.Own n m v
  /-- each call took the stream once at most, with its own request -/
  turns : (d.turns.map Prod.fst).Nodup ∧ ∀ (n : Nat) (m : Method), (n, m) ∈ d.turns →
    ∃ call, d.client.calls[n]? = some call ∧ call.request = .call m
  /-- whole frames were written, in the order of the turns, and only the last may be cut -/
  whole : ∃ cut, d.written = (d.requests.dropLast.map frame).flatten ++ cut ∧
    cut <+: (d.requests.getLast?.map frame).getD []
  refuses : d.IsBroken → ∀ moves, Refuses d (run moves d)
  serves : ¬d.IsBroken → Serves d
  /-- a call that is given up before its turn does nothing to the stream -/
  givenUp : ∀ (n : Nat) (call : Call), d.client.calls[n]? = some call → call.isWaiting = true →
    d.act (.giveUp n) = { d with client := d.client.setCall n { call with phase := .givenUp } } ∧
      ((d.act (.giveUp n)).IsBroken ↔ d.IsBroken)
  /-- nor does a call that has no frame -/
  unframed : ∀ (m : Method) (e : PeerError), frameOf m = .error e →
    d.act (.begin (.call m)) = { d with
      client := { d.client with calls := d.client.calls ++ [⟨.call m, [], .done (.error e)⟩] } } ∧
      ((d.act (.begin (.call m))).IsBroken ↔ d.IsBroken)

variable {d : Dialogue}

theorem Stage.stuck_iff (hs : Stage d) : d.IsBroken ↔ d.client.Stuck := by
  cases hs with
  | idle turn flight sound written answered due =>
    refine ⟨fun hb => absurd hb sound, fun hstuck => ?_⟩
    rw [hstuck.flight] at flight
    cases flight
  | exchange now =>
    refine ⟨fun hb => absurd hb now.sound, fun hstuck => ?_⟩
    have ht := now.underway.hasTurn
    rw [hstuck.turn _ (List.mem_of_getElem? now.at_)] at ht
    cases ht
  | broken turn flight broken => exact ⟨fun _ => ⟨turn, flight⟩, fun _ => broken⟩

/-! ## what was written -/

theorem whole_of_last {earlier : List (Nat × Method)} {last : Nat × Method} {left : Bytes}
    (ht : d.turns = earlier ++ [last]) (hw : d.written ++ left = d.asked) (hc : left <:+ frame (encode last.2)) :
    ∃ cut, d.written = (d.requests.dropLast.map frame).flatten ++ cut ∧
      cut <+: (d.requests.getLast?.map frame).getD [] := by
  obtain ⟨cut, hcut⟩ := hc
  have hr : d.requests = earlier.map (fun turn => encode turn.2) ++ [encode last.2] := by
    rw [requests, ht, List.map_append]
    rfl
  refine ⟨cut, ?_, ?_⟩
  · have hasked : d.asked = (d.requests.dropLast.map frame).flatten ++ cut ++ left := by
      rw [asked, hr, List.dropLast_concat, List.map_append, List.flatten_append, List.append_assoc, hcut]
      exact congrArg _ (List.append_nil _)
    rw [hasked] at hw
    exact List.append_cancel_right hw
  · rw [hr, List.getLast?_concat]
    exact ⟨left, hcut⟩

theorem Stage.whole (hs : Stage d) :
    ∃ cut, d.written = (d.requests.dropLast.map frame).flatten ++ cut ∧
      cut <+: (d.requests.getLast?.map frame).getD [] := by
  cases hs with
  | idle turn flight sound written answered due =>
    obtain hnil | ⟨earlier, last, ht⟩ := List.eq_nil_or_concat d.turns
    · refine ⟨[], ?_, List.nil_prefix⟩
      rw [written, asked, requests, hnil]
      rfl
    · rw [List.concat_eq_append] at ht
      exact whole_of_last ht ((List.append_nil _).trans written) (List.nil_suffix)
  | exchange now => exact whole_of_last now.turns now.written now.cut
  | broken turn flight broken earlier last turns left written cut => exact whole_of_last turns written cut

/-! ## broken or not -/

theorem refuses_run (h : d.client.Stuck) (moves : List Move) : Refuses d (run moves d) := by
  have hs := stays_run h moves
  refine ⟨hs.turns, hs.written, fun move hm => due_act_of_stuck hs.stuck hm, ?_, ?_⟩
  · intro n call m f hn hr hf hbefore
    obtain hn | hrefused := hs.refused n call hn
    · exact .inl (Call.phase_of_isWaiting (hbefore call hn))
    · exact hrefused m f hr hf
  · intro n call m hn hw hr more hg hlt
    refine refused_of_calls hs.stuck hn hw hr hg (Nat.lt_of_le_of_lt ?_ hlt)
    exact Nat.le_trans List.countP_le_length (List.length_take_le ..)

theorem Sound.serves (h : Sound d) (hb : ¬d.IsBroken) : Serves d := by
  constructor
  · cases h.stage with
    | idle turn flight =>
      constructor
      · intro hf
        rw [flight] at hf
        cases hf
      · rintro ⟨call, hmem, ht⟩
        rw [turn call hmem] at ht
        cases ht
    | exchange now => exact ⟨fun _ => ⟨_, List.mem_of_getElem? now.at_, now.underway.hasTurn⟩, fun _ => now.flight⟩
    | broken turn flight broken => exact absurd broken hb
  · intro hturn hopen n call m hfirst hr payload a hl ha
    refine carried_of_taker h hopen ?_ hl ha
    have hflight : d.client.inFlight = false := by
      apply Bool.eq_false_iff.mpr
      intro hf
      exact hb (h.stage.stuck_iff.mpr ⟨hturn, hf⟩)
    unfold Client.taker?
    rw [Client.findCall_eq_none hturn, hfirst]
    simp only [hr, hflight, Bool.false_eq_true, if_false]

theorem Sound.inStep (h : Sound d) : InStep d where
  own := h.books.own
  turns := by
    refine ⟨h.books.once, fun n m ht => ?_⟩
    obtain ⟨-, call, hn, hr, -⟩ := h.books.took n m ht
    exact ⟨call, hn, hr⟩
  whole := h.stage.whole
  refuses := fun hb moves => refuses_run (h.stage.stuck_iff.mp hb) moves
  serves := h.serves
  givenUp := by
    intro n call hn hw
    have hact : d.act (.giveUp n) = { d with client := d.client.setCall n { call with phase := .givenUp } } := by
      unfold act Client.giveUp
      simp only [hn, Call.isPending_of_isWaiting hw, if_true]
    have hm : Moved d (d.act (.giveUp n)) n call .givenUp := by
      rw [hact]
      exact ⟨hn, rfl, rfl, rfl, Call.isPending_of_isWaiting hw, rfl, nofun⟩
    exact ⟨hact, hm.isBroken_iff h.books hw⟩
  unframed := by
    intro m e hf
    obtain ⟨call, hm⟩ := made_begin d (.call m)
    refine ⟨?_, hm.isBroken_iff h.books⟩
    unfold act Client.begin
    simp only [hf]

/-- **A client and its service never get out of step.** -/
theorem keeps_in_step (outgoing incoming events : Nat) (moves : List Move) :
    InStep (run moves (fresh outgoing incoming events)) :=
  (sound_run (sound_fresh outgoing incoming events) moves).inStep

/-- a call that is given up while it writes, in the way of the next one -/
example : ((run [.begin (.call .queryUpdateState), .call, .call, .giveUp 0, .begin (.call .queryTunnelState), .call]
    (fresh 6 6 6)).client.calls.map Call.result?) = [none, some (.error .closed)] := by
  rfl

end TunnelControl.Dialogue
