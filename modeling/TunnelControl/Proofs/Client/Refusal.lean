import TunnelControl.Proofs.Client.Steps

/-!
# A stream that is broken

Once a call that took the stream has failed or was given up, nobody gets the stream any more.

* `Client.Stuck`         nobody has the stream, and nobody will get it;
* `Refusal`              what the next step of the calls is then;
* `Stays`, `stays_run`   what further moves leave as it is;
* `refused_of_calls`     how soon a call that waits is refused.
-/

namespace TunnelControl

/-- nobody has the stream, and nobody will get it -/
structure Client.Stuck (c : Client) : Prop where
  turn : ∀ call ∈ c.calls, call.hasTurn = false
  flight : c.inFlight = true

/-- it waits, was given up or is refused, unless it has no frame or is the request to close -/
def Call.IsRefused (call : Call) : Prop :=
  ∀ (m : Method) (f : Bytes), call.request = .call m → frameOf m = .ok f →
    call.phase = .waiting ∨ call.phase = .givenUp ∨ call.phase = .done (.error .closed)

/-- the first call that waits is refused, or closes the stream -/
structure Refusal (c c' : Client) (n : Nat) (call : Call) (r : Except PeerError Answer) : Prop where
  at_ : c.calls[n]? = some call
  waits : call.isWaiting = true
  first : ∀ (k : Nat) (other : Call), k < n → c.calls[k]? = some other → other.isWaiting = false
  calls : c'.calls = c.calls.set n { call with phase := .done r }
  refused : ∀ m, call.request = .call m → r = .error .closed
  flight : c'.inFlight = true
  outgoing : c'.wires.outgoing.content = c.wires.outgoing.content
  incoming : c'.wires.incoming.content = c.wires.incoming.content

namespace Client

variable {c c' : Client}

theorem Stuck.taker?_eq_none (h : c.Stuck) : c.taker? = none := by
  unfold taker?
  rw [h.flight, findCall_eq_none h.turn]
  cases hw : c.findCall Call.isWaiting with
  | none => rfl
  | some found =>
    simp only [if_true]
    split <;> rfl

theorem Stuck.callStep_eq (h : c.Stuck) :
    c.callStep = (c.findCall Call.isWaiting).map fun (n, call) => c.takeTurn n call := by
  unfold callStep
  rw [findCall_eq_none h.turn]

theorem refusal_of_stuck (h : c.Stuck) (hc : c.callStep = some c') : ∃ n call r, Refusal c c' n call r := by
  rw [h.callStep_eq] at hc
  obtain ⟨⟨n, call⟩, hw, hc⟩ := Option.map_eq_some_iff.mp hc
  obtain ⟨hn, hwaits, hfirst⟩ := of_findCall_eq_some hw
  have hfirst : ∀ (k : Nat) (other : Call), k < n → c.calls[k]? = some other → other.isWaiting = false :=
    fun k other hk hother => hfirst k other hk hother
  simp only [takeTurn] at hc
  split at hc
  · rename_i hr
    cases hc
    refine ⟨n, call, .ok .acknowledged, hn, hwaits, hfirst, rfl, ?_, h.flight, rfl, rfl⟩
    intro m hm
    rw [hr] at hm
    cases hm
  · rw [h.flight, if_pos rfl] at hc
    cases hc
    exact ⟨n, call, .error .closed, hn, hwaits, hfirst, rfl, fun _ _ => rfl, h.flight, rfl, rfl⟩

theorem Stuck.callStep_ne_none (h : c.Stuck) {n : Nat} {call : Call} (hn : c.calls[n]? = some call)
    (hw : call.isWaiting = true) : c.callStep ≠ none := by
  rw [h.callStep_eq]
  cases hf : c.findCall Call.isWaiting with
  | some found => exact nofun
  | none =>
    rw [of_findCall_eq_none hf call (List.mem_of_getElem? hn)] at hw
    cases hw

end Client

namespace Dialogue

/-! ## what further moves leave as it is -/

structure Stays (d d' : Dialogue) : Prop where
  stuck : d'.client.Stuck
  turns : d'.turns = d.turns
  written : d'.written = d.written
  kept : ∀ (n : Nat) (call : Call), d.client.calls[n]? = some call → call.isPending = false →
    d'.client.calls[n]? = some call
  refused : ∀ (n : Nat) (call : Call), d'.client.calls[n]? = some call →
    d.client.calls[n]? = some call ∨ call.IsRefused

variable {d d' : Dialogue}

theorem Stays.refl (h : d.client.Stuck) : Stays d d where
  stuck := h
  turns := rfl
  written := rfl
  kept := fun _ _ hn _ => hn
  refused := fun _ _ hn => .inl hn

theorem Stays.trans {d'' : Dialogue} (h : Stays d d') (h' : Stays d' d'') : Stays d d'' where
  stuck := h'.stuck
  turns := h'.turns.trans h.turns
  written := h'.written.trans h.written
  kept := by
    intro n call hn hp
    exact h'.kept n call (h.kept n call hn hp) hp
  refused := by
    intro n call hn
    obtain hn | hr := h'.refused n call hn
    · exact h.refused n call hn
    · exact .inr hr

theorem Beside.stays {more : Option (Bytes × Bytes)} (hm : Beside d d' more) (h : d.client.Stuck) : Stays d d' where
  stuck := by
    refine ⟨?_, hm.flight.trans h.flight⟩
    rw [hm.calls]
    exact h.turn
  turns := hm.turns
  written := hm.written
  kept := by
    rw [hm.calls]
    exact fun _ _ hn _ => hn
  refused := by
    rw [hm.calls]
    exact fun _ _ hn => .inl hn

theorem Made.stays {call : Call} (hm : Made d d' call) (h : d.client.Stuck) : Stays d d' where
  stuck := by
    refine ⟨?_, hm.flight.trans h.flight⟩
    rw [hm.calls]
    exact List.forall_mem_append.mpr ⟨h.turn, List.forall_mem_singleton.mpr hm.turn⟩
  turns := hm.turns
  written := hm.written
  kept := fun _ _ hn _ => hm.at_other hn
  refused := by
    intro n other hn
    obtain hn | ⟨-, rfl⟩ := hm.cases_at hn
    · exact .inl hn
    · exact .inr fun m f hr hf => .inl (Call.phase_of_isWaiting (hm.waits m f hr hf))

theorem Moved.stays {n : Nat} {call : Call} {phase : CallPhase} (hm : Moved d d' n call phase) (h : d.client.Stuck)
    (hf : d'.client.inFlight = d.client.inFlight) (hw : d'.written = d.written)
    (ht : ({ call with phase } : Call).hasTurn = false) (hr : ({ call with phase } : Call).IsRefused) : Stays d d' where
  stuck := ⟨hm.turn ht fun _ other _ hk => h.turn other (List.mem_of_getElem? hk), hf.trans h.flight⟩
  turns := hm.turns
  written := hw
  kept := by
    intro k other hk hp
    have hne : k ≠ n := by
      rintro rfl
      rw [hm.at_] at hk
      cases hk
      rw [hm.pending] at hp
      cases hp
    rw [hm.at_other hne]
    exact hk
  refused := by
    intro k other hk
    obtain ⟨-, rfl⟩ | ⟨-, hk⟩ := hm.cases_at hk
    · exact .inr hr
    · exact .inl hk

theorem moved_of_refusal {c : Client} {n : Nat} {call : Call} {r : Except PeerError Answer}
    (h : Refusal d.client c n call r) : Moved d { d with client := c } n call (.done r) where
  at_ := h.at_
  calls := h.calls
  turns := rfl
  answers := rfl
  pending := Call.isPending_of_isWaiting h.waits
  waits := rfl
  own := by
    intro m v hr hv
    rw [h.refused m hr] at hv
    cases hv

theorem stays_of_refusal {c : Client} {n : Nat} {call : Call} {r : Except PeerError Answer}
    (h : Refusal d.client c n call r) (hs : d.client.Stuck) : Stays d { d with client := c } := by
  refine (moved_of_refusal h).stays hs (h.flight.trans hs.flight.symm) ?_ rfl ?_
  · exact congrArg (d.heard ++ ·) h.outgoing
  · intro m f hr hf
    rw [h.refused m hr]
    exact .inr (.inr rfl)

theorem call_of_stuck (h : d.client.Stuck) :
    d.call = d ∧ (∀ call ∈ d.client.calls, call.isWaiting = false) ∨
      ∃ c n call r, Refusal d.client c n call r ∧ d.call = { d with client := c } := by
  unfold call
  cases hc : d.client.callStep with
  | none =>
    refine .inl ⟨rfl, fun call hmem => ?_⟩
    obtain ⟨n, hn⟩ := List.getElem?_of_mem hmem
    apply Bool.eq_false_iff.mpr
    intro hw
    exact h.callStep_ne_none hn hw hc
  | some c =>
    obtain ⟨n, call, r, hr⟩ := Client.refusal_of_stuck h hc
    refine .inr ⟨c, n, call, r, hr, ?_⟩
    rw [h.taker?_eq_none, Option.toList_none, List.append_nil]

theorem stays_act (h : d.client.Stuck) (move : Move) : Stays d (d.act move) := by
  cases ha : move.isAside with
  | true =>
    obtain ⟨more, hm⟩ := beside_act d ha
    exact hm.stays h
  | false =>
    cases move with
    | begin request =>
      obtain ⟨call, hm⟩ := made_begin d request
      exact hm.stays h
    | giveUp n =>
      obtain hd | ⟨call, hm, hd⟩ := giveUp_cases d n
      · rw [hd]
        exact .refl h
      · refine hm.stays h ?_ ?_ rfl fun _ _ _ _ => .inr (.inl rfl)
        · rw [hd]
          rfl
        · rw [hd]
          rfl
    | call =>
      obtain ⟨hd, -⟩ | ⟨c, n, call, r, hr, hd⟩ := call_of_stuck h
      · have hd : d.act .call = d := hd
        rw [hd]
        exact .refl h
      · have hd : d.act .call = { d with client := c } := hd
        rw [hd]
        exact stays_of_refusal hr h
    | notice | events | hear | answer | reply | endAnswers | leaveRequests => cases ha

theorem stays_run (h : d.client.Stuck) (moves : List Move) : Stays d (run moves d) := by
  induction moves generalizing d with
  | nil => exact .refl h
  | cons move moves ih =>
    have hs := stays_act h move
    exact hs.trans (ih hs.stuck)

/-- the client reads nothing more -/
theorem due_act_of_stuck (h : d.client.Stuck) {move : Move} (hm : move.isService = false) :
    (d.act move).due = d.due := by
  cases move with
  | begin request =>
    obtain ⟨call, hm⟩ := made_begin d request
    exact hm.due
  | giveUp n =>
    obtain hd | ⟨call, -, hd⟩ := giveUp_cases d n
    · rw [hd]
    · rw [hd]
      rfl
  | call =>
    obtain ⟨hd, -⟩ | ⟨c, n, call, r, hr, hd⟩ := call_of_stuck h
    · exact congrArg due hd
    · have hdue := congrArg due hd
      refine hdue.trans ?_
      exact congrArg (· ++ d.outbox) hr.incoming
  | notice => exact (beside_notice d).due.trans (List.append_nil _)
  | events pipe observers => rfl
  | hear | answer | reply | endAnswers | leaveRequests => cases hm

/-! ## how soon a call is refused -/

/-- how many calls wait before call `n` -/
def ahead (d : Dialogue) (n : Nat) : Nat := (d.client.calls.take n).countP Call.isWaiting

theorem countP_take_set {xs : List Call} {k n : Nat} {x : Call} (hx : x.isWaiting = false) :
    ((xs.set k x).take n).countP Call.isWaiting ≤ (xs.take n).countP Call.isWaiting := by
  rw [List.take_set]
  by_cases hk : k < (xs.take n).length
  · rw [List.countP_set hk, hx, if_neg Bool.false_ne_true, Nat.add_zero]
    exact Nat.sub_le ..
  · have hset := List.set_eq_of_length_le (a := x) (Nat.le_of_not_lt hk)
    exact Nat.le_of_eq (congrArg _ hset)

theorem countP_take_set_lt {xs : List Call} {k n : Nat} {x y : Call} (hx : x.isWaiting = false) (hkn : k < n)
    (hk : xs[k]? = some y) (hy : y.isWaiting = true) :
    ((xs.set k x).take n).countP Call.isWaiting < (xs.take n).countP Call.isWaiting := by
  have hy' : (xs.take n)[k]? = some y := by rw [List.getElem?_take_of_lt hkn, hk]
  obtain ⟨hlt, hget⟩ := List.getElem?_eq_some_iff.mp hy'
  have hpos : 0 < (xs.take n).countP Call.isWaiting :=
    List.countP_pos_iff.mpr ⟨y, List.mem_of_getElem? hy', hy⟩
  rw [List.take_set, List.countP_set hlt, hget, hy, hx, if_pos rfl, if_neg Bool.false_ne_true, Nat.add_zero]
  omega

section
variable {n : Nat} {call : Call}

/-- a call waits on with any other move than a step of the calls, behind no more calls than before -/
theorem waits_act (hn : d.client.calls[n]? = some call) {move : Move} (hc : move.isCall = false)
    (hg : move ≠ .giveUp n) :
    (d.act move).client.calls[n]? = some call ∧ (d.act move).ahead n ≤ d.ahead n := by
  unfold ahead
  cases ha : move.isAside with
  | true =>
    obtain ⟨more, hm⟩ := beside_act d ha
    rw [hm.calls]
    exact ⟨hn, Nat.le_refl _⟩
  | false =>
    cases move with
    | begin request =>
      obtain ⟨made, hm⟩ := made_begin d request
      have htake : (d.client.calls ++ [made]).take n = d.client.calls.take n :=
        List.take_append_of_le_length (Nat.le_of_lt (List.getElem?_eq_some_iff.mp hn).1)
      refine ⟨hm.at_other hn, Nat.le_of_eq ?_⟩
      rw [hm.calls, htake]
    | giveUp k =>
      have hne : n ≠ k := by
        rintro rfl
        exact hg rfl
      obtain hd | ⟨other, hm, -⟩ := giveUp_cases d k
      · rw [hd]
        exact ⟨hn, Nat.le_refl _⟩
      · refine ⟨(hm.at_other hne).trans hn, ?_⟩
        rw [hm.calls]
        exact countP_take_set rfl
    | call => cases hc
    | notice | events | hear | answer | reply | endAnswers | leaveRequests => cases ha

/-- a step of the calls refuses the call, or one before it -/
theorem refused_or_nearer (h : d.client.Stuck) {m : Method} (hn : d.client.calls[n]? = some call)
    (hw : call.isWaiting = true) (hr : call.request = .call m) :
    (d.act .call).client.calls[n]? = some { call with phase := .done (.error .closed) } ∨
      (d.act .call).client.calls[n]? = some call ∧ (d.act .call).ahead n < d.ahead n := by
  obtain ⟨-, hnone⟩ | ⟨c, k, other, r, hrefusal, hd⟩ := call_of_stuck h
  · rw [hnone call (List.mem_of_getElem? hn)] at hw
    cases hw
  have hd : d.act .call = { d with client := c } := hd
  have hm := moved_of_refusal hrefusal
  rw [hd]
  by_cases hkn : k < n
  · refine .inr ⟨(hm.at_other (Nat.ne_of_gt hkn)).trans hn, ?_⟩
    unfold ahead
    rw [hm.calls]
    exact countP_take_set_lt rfl hkn hrefusal.at_ hrefusal.waits
  · obtain rfl : k = n := by
      apply Nat.le_antisymm _ (Nat.le_of_not_lt hkn)
      apply Nat.le_of_not_lt
      intro hlt
      rw [hrefusal.first n call hlt hn] at hw
      cases hw
    have hat := hm.at_
    rw [hn] at hat
    cases hat
    have hself := hm.at_self
    rw [hrefusal.refused m hr] at hself
    exact .inl hself

/-- **A call that waits is refused as soon as the calls have made more steps than calls wait before it**, unless
it is given up. -/
theorem refused_of_calls (h : d.client.Stuck) {m : Method} (hn : d.client.calls[n]? = some call)
    (hw : call.isWaiting = true) (hr : call.request = .call m) {moves : List Move} (hg : .giveUp n ∉ moves)
    (hlt : d.ahead n < moves.countP Move.isCall) :
    (run moves d).client.calls[n]? = some { call with phase := .done (.error .closed) } := by
  induction moves generalizing d with
  | nil => cases hlt
  | cons move moves ih =>
    have hg' : .giveUp n ∉ moves := fun hmem => hg (List.mem_cons_of_mem _ hmem)
    have hs := stays_act h move
    cases hc : move.isCall with
    | false =>
      have hne : move ≠ .giveUp n := by
        rintro rfl
        exact hg List.mem_cons_self
      obtain ⟨hn', hahead⟩ := waits_act hn hc hne
      rw [List.countP_cons_of_neg (by rw [hc]; exact Bool.false_ne_true)] at hlt
      exact ih hs.stuck hn' hg' (Nat.lt_of_le_of_lt hahead hlt)
    | true =>
      rw [List.countP_cons_of_pos hc] at hlt
      cases move with
      | call =>
        obtain hdone | ⟨hn', hahead⟩ := refused_or_nearer h hn hw hr
        · exact (stays_run hs.stuck moves).kept n _ hdone rfl
        · exact ih hs.stuck hn' hg' (by omega)
      | begin | giveUp | notice | events | hear | answer | reply | endAnswers | leaveRequests => cases hc

end

end Dialogue

end TunnelControl
