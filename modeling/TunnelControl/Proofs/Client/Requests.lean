import TunnelControl.Client.FarEnd

/-!
# Requests and events apart

What a client makes of its calls does not depend on what becomes of its events, nor the other way round.

* `RequestMove`, `Client.move`   what is done with the requests stream, at both of its ends;
* `Client.withEventsOf`          a client with all that another one has to do with events;
* `move_withEventsOf`            what is done with the requests comes to the same, whatever the events are;
* `Client.SameEvents`            two clients that differ in their requests only;
* `Client.SameRequests`          two clients that differ in their events only, and
* `SameRequests.move`            go on to do so.
-/

namespace TunnelControl

/-- something is done with the requests stream -/
inductive RequestMove
  | begin (request : Request)
  | giveUp (n : Nat)
  /-- the call that has its turn goes on, or the next one gets it -/
  | call
  /-- the far end reads so many bytes, or all there are -/
  | hear (n : Nat)
  /-- the far end writes as many of these bytes as it can -/
  | reply (bs : Bytes)
  | endAnswers
  | leaveRequests
  deriving DecidableEq

namespace Client

/-- what becomes of the client, and what is read of its requests -/
def move (c : Client) : RequestMove → Client × Bytes
  | .begin request => ((c.begin request).2, [])
  | .giveUp n => (c.giveUp n, [])
  | .call => (c.callStep.getD c, [])
  | .hear n =>
    let (piece, outgoing) := c.wires.outgoing.take n
    ({ c with wires := { c.wires with outgoing } }, piece)
  | .reply bs =>
    match c.wires.incoming.write bs with
    | .wrote _ incoming => (c.setAnswers incoming, [])
    | _ => (c, [])
  | .endAnswers => (c.endAnswers, [])
  | .leaveRequests => (c.leaveRequests, [])

/-- a client with all that another one has to do with events -/
def withEventsOf (c e : Client) : Client :=
  { c with
    wires := { c.wires with events := e.wires.events }
    notices := e.notices
    eventsBroken := e.eventsBroken
    observers := e.observers }

/-- only who closes a client has to do with its events, too -/
def besides (e : Client) : RequestMove → Client
  | .begin .close => e.stopReading
  | _ => e

variable (c e : Client)

theorem calls_withEventsOf : (c.withEventsOf e).calls = c.calls := rfl

theorem inFlight_withEventsOf : (c.withEventsOf e).inFlight = c.inFlight := rfl

theorem outgoing_withEventsOf : (c.withEventsOf e).wires.outgoing = c.wires.outgoing := rfl

theorem incoming_withEventsOf : (c.withEventsOf e).wires.incoming = c.wires.incoming := rfl

/-! ## calls -/

theorem judge_withEventsOf (n : Nat) (call : Call) (payload : Bytes) :
    (c.withEventsOf e).judge n call payload = (c.judge n call payload).withEventsOf e := by
  unfold judge
  cases call.request with
  | close => rfl
  | call m =>
    dsimp only
    cases m.readAnswer payload <;> rfl

theorem takeTurn_withEventsOf (n : Nat) (call : Call) :
    (c.withEventsOf e).takeTurn n call = (c.takeTurn n call).withEventsOf e := by
  unfold takeTurn
  cases call.request with
  | close => rfl
  | call m =>
    dsimp only
    rw [inFlight_withEventsOf]
    cases c.inFlight <;> rfl

theorem exchangeStep_withEventsOf (n : Nat) (call : Call) :
    (c.withEventsOf e).exchangeStep n call = (c.exchangeStep n call).map (·.withEventsOf e) := by
  unfold exchangeStep
  cases call.phase with
  | sending left =>
    dsimp only
    cases left.isEmpty with
    | true => rfl
    | false =>
      rw [outgoing_withEventsOf]
      cases c.wires.outgoing.write left <;> rfl
  | receiving reader =>
    dsimp only
    rw [incoming_withEventsOf]
    cases c.wires.incoming.take reader.wanted with
    | mk piece incoming =>
      cases piece with
      | nil =>
        dsimp only
        cases c.wires.incoming.atEnd <;> rfl
      | cons b piece =>
        dsimp only
        cases reader.feed (b :: piece) with
        | more reader => rfl
        | tooLarge length => rfl
        | payload payload =>
          exact congrArg some (judge_withEventsOf { c with wires := { c.wires with incoming } } e n call payload)
  | _ => rfl

theorem callStep_withEventsOf : (c.withEventsOf e).callStep = c.callStep.map (·.withEventsOf e) := by
  have hfind (test : Call → Bool) : (c.withEventsOf e).findCall test = c.findCall test := rfl
  unfold callStep
  rw [hfind, hfind]
  cases c.findCall Call.hasTurn with
  | some found => exact exchangeStep_withEventsOf c e found.1 found.2
  | none =>
    cases c.findCall Call.isWaiting with
    | some found => exact congrArg some (takeTurn_withEventsOf c e found.1 found.2)
    | none => rfl

theorem giveUp_withEventsOf (n : Nat) : (c.withEventsOf e).giveUp n = (c.giveUp n).withEventsOf e := by
  unfold giveUp
  rw [calls_withEventsOf]
  cases c.calls[n]? with
  | none => rfl
  | some call =>
    dsimp only
    cases call.isPending <;> rfl

theorem begin_withEventsOf (request : Request) :
    ((c.withEventsOf e).begin request).2 = (c.begin request).2.withEventsOf (e.besides (.begin request)) := by
  cases request with
  | close => rfl
  | call m =>
    unfold begin
    dsimp only
    cases frameOf m <;> rfl

/-- **What is done with the requests comes to the same, whatever the events are.** -/
theorem move_withEventsOf (m : RequestMove) :
    (c.withEventsOf e).move m = ((c.move m).1.withEventsOf (e.besides m), (c.move m).2) := by
  cases m with
  | begin request => exact Prod.ext (begin_withEventsOf c e request) rfl
  | giveUp n => exact Prod.ext (giveUp_withEventsOf c e n) rfl
  | call =>
    refine Prod.ext ?_ rfl
    show (c.withEventsOf e).callStep.getD _ = (c.callStep.getD c).withEventsOf e
    rw [callStep_withEventsOf]
    cases c.callStep <;> rfl
  | hear n => rfl
  | reply bs =>
    unfold move
    dsimp only
    rw [incoming_withEventsOf]
    cases c.wires.incoming.write bs <;> rfl
  | endAnswers => rfl
  | leaveRequests => rfl

/-- what is done with the requests leaves the events as they are -/
theorem move_besides (m : RequestMove) : (c.move m).1 = (c.move m).1.withEventsOf (c.besides m) :=
  congrArg Prod.fst (move_withEventsOf c c m)

/-- only a client that is closed reads its events no more -/
theorem besides_cases (m : RequestMove) : e.besides m = e ∨ m = .begin .close ∧ e.besides m = e.stopReading := by
  unfold besides
  split
  · exact .inr ⟨rfl, rfl⟩
  · exact .inl rfl

/-- two clients that differ in their requests only -/
structure SameEvents (c d : Client) : Prop where
  notices : d.notices = c.notices
  events : d.wires.events = c.wires.events
  broken : d.eventsBroken = c.eventsBroken
  observers : d.observers = c.observers

theorem sameEvents_move (m : RequestMove) : SameEvents (c.besides m) (c.move m).1 := by
  rw [c.move_besides m]
  exact ⟨rfl, rfl, rfl, rfl⟩

/-! ## clients that make the same of their calls -/

/-- two clients that differ in their events only -/
structure SameRequests (c d : Client) : Prop where
  calls : d.calls = c.calls
  flight : d.inFlight = c.inFlight
  outgoing : d.wires.outgoing = c.wires.outgoing
  incoming : d.wires.incoming = c.wires.incoming

variable {c d e}

theorem sameRequests_iff : SameRequests c d ↔ d = c.withEventsOf d := by
  constructor
  · rintro ⟨hcalls, hflight, houtgoing, hincoming⟩
    show d = ⟨⟨c.wires.outgoing, c.wires.incoming, _⟩, c.inFlight, c.calls, _, _, _⟩
    rw [← hcalls, ← hflight, ← houtgoing, ← hincoming]
  · intro h
    rw [h]
    exact ⟨rfl, rfl, rfl, rfl⟩

namespace SameRequests

theorem refl (c : Client) : SameRequests c c := ⟨rfl, rfl, rfl, rfl⟩

theorem trans (h : SameRequests c d) (h' : SameRequests d e) : SameRequests c e :=
  ⟨h'.calls.trans h.calls, h'.flight.trans h.flight, h'.outgoing.trans h.outgoing, h'.incoming.trans h.incoming⟩

/-- whatever is done with the requests of both -/
theorem move (h : SameRequests c d) (m : RequestMove) :
    SameRequests (c.move m).1 (d.move m).1 ∧ (d.move m).2 = (c.move m).2 := by
  have hmove := move_withEventsOf c d m
  rw [← sameRequests_iff.mp h] at hmove
  rw [hmove]
  exact ⟨⟨rfl, rfl, rfl, rfl⟩, rfl⟩

end SameRequests

end Client

end TunnelControl
