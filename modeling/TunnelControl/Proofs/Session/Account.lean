import TunnelControl.Proofs.Stream.Pipe
import TunnelControl.Session.Stream

/-!
# What a session took and what its client got

An `Account` is a session together with the frames that its queue took and the bytes that its client has read.

* `Account.Sound a`       what was written are the first bytes of the frames that were taken, and while the
  writer runs, the rest of them is what it still holds and what waits;
* `Account.Leads a b`     what may become of an account: what was taken and what was written only grow, and nothing
  is written once the session is closed or the stream has come to its end;
* `leads_close`, `leads_enqueue`, `leads_take`, `leads_dropClient`, `leads_step`   so do all operations;
* `received_of_quiet`     when the writer has nothing to do, a client that has read everything has got all frames;
* `ended_of_quiet`        and if the session is closed, the stream has come to its end.
-/

namespace TunnelControl

namespace EventWriter

/-- what is left to write of the frame that was taken off the queue -/
def left : EventWriter → Bytes
  | .writing left _ => left
  | _ => []

/-- the writer that has so much of a frame left to write -/
def withLeft (left : Bytes) (expires : Nat) : EventWriter :=
  if left.isEmpty then .idle else .writing left expires

theorem left_withLeft (bs : Bytes) (expires : Nat) : (withLeft bs expires).left = bs := by
  cases bs <;> rfl

theorem withLeft_ne_finished (bs : Bytes) (expires : Nat) : withLeft bs expires ≠ .finished := by
  cases bs <;> exact nofun

/-- the steps that a writer has still to take with the frame that it holds, so much room as there is -/
def work (room : Nat) : EventWriter → Nat
  | .finished => 0
  | .idle => 1
  | .writing _ _ => if room = 0 then 2 else 3

theorem work_le (room : Nat) (w : EventWriter) : w.work room ≤ 3 := by
  unfold work
  split
  · omega
  · omega
  · split <;> omega

theorem work_pos (room : Nat) {w : EventWriter} (h : w ≠ .finished) : 0 < w.work room := by
  cases w with
  | finished => exact absurd rfl h
  | idle => exact Nat.succ_pos _
  | writing left expires =>
    show 0 < if room = 0 then 2 else 3
    split <;> omega

end EventWriter

namespace Session

/-- the frames that wait -/
def waiting (s : Session) : List Bytes := s.queue.map QueuedFrame.frame

/-- all that a step of the writer can do: it stops, it takes a frame off the queue, or it writes a part of it -/
theorem step_cases {clock : Nat} {s t : Session} (h : s.step clock = some t) :
    s.writer ≠ .finished ∧
    (t = s.close.finish ∨
      (s.closed = false ∧ s.writer = .idle ∧ ∃ d queue, s.queue = d :: queue ∧
        t = { s with queue, writer := .withLeft d.frame (clock + d.deadline) }) ∨
      (s.closed = false ∧ ∃ left expires rest events, s.writer = .writing left expires ∧
        s.events.write left = .wrote rest events ∧
        t = { s with events, writer := .withLeft rest expires })) := by
  have hclosed (hc : s.closed = true) : s.close = s := by
    cases s
    cases hc
    rfl
  unfold step at h
  cases hw : s.writer with
  | finished =>
    rw [hw] at h
    cases h
  | idle =>
    rw [hw] at h
    refine ⟨nofun, ?_⟩
    cases hc : s.closed with
    | true =>
      simp only [hc, if_true] at h
      cases h
      rw [hclosed hc]
      exact .inl rfl
    | false =>
      simp only [hc, Bool.false_eq_true, if_false] at h
      cases hq : s.queue with
      | nil =>
        rw [hq] at h
        cases h
      | cons d queue =>
        rw [hq] at h
        cases h
        exact .inr (.inl ⟨rfl, rfl, d, queue, rfl, rfl⟩)
  | writing left expires =>
    rw [hw] at h
    refine ⟨nofun, ?_⟩
    cases hc : s.closed with
    | true =>
      simp only [hc, if_true] at h
      cases h
      rw [hclosed hc]
      exact .inl rfl
    | false =>
      simp only [hc, Bool.false_eq_true, if_false] at h
      cases hwrite : s.events.write left with
      | broken =>
        rw [hwrite] at h
        cases h
        exact .inl rfl
      | blocked =>
        rw [hwrite] at h
        simp only at h
        split at h
        · cases h
          exact .inl rfl
        · cases h
      | wrote rest events =>
        rw [hwrite] at h
        refine .inr (.inr ⟨rfl, left, expires, rest, events, rfl, hwrite, ?_⟩)
        cases rest with
        | nil =>
          cases h
          rfl
        | cons b rest =>
          cases h
          rfl

/-- a writer that has nothing to do is idle with an empty queue, or waits for room, unless its session is closed -/
theorem quiet_cases {clock : Nat} {s : Session} (h : s.step clock = none) (hc : s.closed = false) :
    s.writer = .finished ∨ (s.writer = .idle ∧ s.queue = []) ∨
      ∃ left expires, s.writer = .writing left expires ∧ s.events.room = 0 := by
  have hgo := s.canGoOn_eq clock
  rw [h] at hgo
  unfold canGoOn at hgo
  cases hw : s.writer with
  | finished => exact .inl rfl
  | idle =>
    rw [hw] at hgo
    simp only [hc, Bool.false_or, Option.isSome_none, Bool.not_eq_false', List.isEmpty_iff] at hgo
    exact .inr (.inl ⟨rfl, hgo⟩)
  | writing left expires =>
    rw [hw] at hgo
    simp only [hc, Bool.false_or, Option.isSome_none, Bool.or_eq_false_iff, Bool.not_eq_false',
      Pipe.isFullFor, Bool.and_eq_true, decide_eq_true_eq] at hgo
    exact .inr (.inr ⟨left, expires, rfl, hgo.1.2⟩)

/-- every step of the writer lowers this: a frame is taken, begun and ended -/
def work (s : Session) : Nat := 3 * s.queue.length + s.writer.work s.events.room

theorem work_le_workLeft (s : Session) : s.work ≤ s.workLeft := by
  have := s.writer.work_le s.events.room
  unfold work workLeft
  omega

theorem work_step {clock : Nat} {s t : Session} (h : s.step clock = some t) : t.work < s.work := by
  obtain ⟨hrun, rfl | ⟨-, hw, d, queue, hq, rfl⟩ | ⟨-, left, expires, rest, events, hw, hwrite, rfl⟩⟩ :=
    step_cases h
  · have := EventWriter.work_pos s.events.room hrun
    show 0 < s.work
    unfold work
    omega
  · have := (EventWriter.withLeft d.frame (clock + d.deadline)).work_le s.events.room
    unfold work
    rw [hw, hq, List.length_cons]
    show 3 * queue.length + (EventWriter.withLeft d.frame (clock + d.deadline)).work s.events.room
      < 3 * (queue.length + 1) + 1
    omega
  · unfold work
    rw [hw]
    refine Nat.add_lt_add_left ?_ _
    cases rest with
    | nil =>
      show 1 < if s.events.room = 0 then 2 else 3
      split <;> omega
    | cons b rest =>
      -- what is left to write has found no room
      have hne : left ≠ [] := by
        rintro rfl
        cases (Pipe.eq_of_write_nil hwrite).1
      obtain ⟨⟨-, -, hroom⟩, hrest, hcontent, -, -⟩ := Pipe.eq_of_write hne hwrite
      have hlong := congrArg List.length hrest
      have hcap := Pipe.capacity_write hwrite
      rw [List.length_drop, List.length_cons] at hlong
      rw [Pipe.capacity, Pipe.capacity, hcontent, List.length_append, List.length_take] at hcap
      have hzero : events.room = 0 := by omega
      show (if events.room = 0 then 2 else 3) < if s.events.room = 0 then 2 else 3
      rw [if_pos hzero, if_neg (Nat.ne_of_gt hroom)]
      exact Nat.lt_succ_self 2

theorem step_stepTimes {clock n : Nat} {s : Session} (hn : s.work ≤ n) :
    (s.stepTimes clock n).step clock = none := by
  induction n generalizing s with
  | zero =>
    rw [stepTimes]
    cases h : s.step clock with
    | none => rfl
    | some t =>
      have := work_step h
      omega
  | succ n ih =>
    unfold stepTimes
    cases h : s.step clock with
    | none => exact h
    | some t =>
      have := work_step h
      exact ih (by omega)

/-- the writer comes to rest in the steps that it is given -/
theorem step_settle (clock : Nat) (s : Session) : (s.settle clock).step clock = none :=
  step_stepTimes s.work_le_workLeft

end Session

structure Account where
  session : Session
  /-- the frames that the session took, in order -/
  accepted : List Bytes := []
  /-- what its client has read -/
  received : Bytes := []

namespace Account

/-- the bytes that were ever written to the stream of events -/
def written (a : Account) : Bytes := a.received ++ a.session.events.content

/-- the session is closed, or its stream has come to its end -/
def Ended (a : Account) : Prop := a.session.closed = true ∨ a.session.events.writerOpen = false

/-- what was written are the first bytes of the frames that were taken -/
structure Sound (a : Account) : Prop where
  order : a.written <+: a.accepted.flatten
  /-- what waits was taken last -/
  waiting : a.session.waiting <:+ a.accepted
  depth : a.session.queue.length ≤ queueDepth
  /-- no byte is lost as long as the writer runs -/
  running : a.session.writer ≠ .finished →
    a.session.events.writerOpen = true ∧
      a.written ++ (a.session.writer.left ++ a.session.waiting.flatten) = a.accepted.flatten
  /-- and the stream ends as it stops, which it does for a session that is closed -/
  stopped : a.session.writer = .finished → a.session.closed = true ∧ a.session.events.writerOpen = false

theorem sound_create (id : SessionId) (token : Option Token) (capacity : Nat) :
    Sound { session := { id, token, events := .ofCapacity capacity } } where
  order := List.prefix_refl _
  waiting := List.suffix_refl _
  depth := Nat.zero_le _
  running _ := ⟨rfl, rfl⟩
  stopped := nofun

/-- what may become of an account -/
structure Leads (a b : Account) : Prop where
  sound : a.Sound → b.Sound
  accepted : a.accepted <+: b.accepted
  written : a.written <+: b.written
  /-- behind the end nothing more is written -/
  ended : a.Ended → b.Ended ∧ b.written = a.written
  id : b.session.id = a.session.id
  token : b.session.token = a.session.token
  capacity : b.session.events.capacity = a.session.events.capacity

namespace Leads

theorem refl (a : Account) : a.Leads a where
  sound := fun h => h
  accepted := List.prefix_refl _
  written := List.prefix_refl _
  ended := fun h => ⟨h, rfl⟩
  id := rfl
  token := rfl
  capacity := rfl

theorem trans {a b c : Account} (hab : a.Leads b) (hbc : b.Leads c) : a.Leads c where
  sound := fun h => hbc.sound (hab.sound h)
  accepted := hab.accepted.trans hbc.accepted
  written := hab.written.trans hbc.written
  ended h := by
    obtain ⟨hb, hwb⟩ := hab.ended h
    obtain ⟨hc, hwc⟩ := hbc.ended hb
    exact ⟨hc, hwc.trans hwb⟩
  id := hbc.id.trans hab.id
  token := hbc.token.trans hab.token
  capacity := hbc.capacity.trans hab.capacity

end Leads

/-! ## what the service does with a session -/

def close (a : Account) : Account := { a with session := a.session.close }

def enqueue (a : Account) (d : QueuedFrame) : Account :=
  { a with
    session := (a.session.enqueue d).2
    accepted := a.accepted ++ if (a.session.enqueue d).1 then [d.frame] else [] }

theorem leads_close (a : Account) : a.Leads a.close where
  sound h := ⟨h.order, h.waiting, h.depth, h.running, fun hw => ⟨rfl, (h.stopped hw).2⟩⟩
  accepted := List.prefix_refl _
  written := List.prefix_refl _
  ended := fun _ => ⟨.inl rfl, rfl⟩
  id := rfl
  token := rfl
  capacity := rfl

theorem leads_enqueue (a : Account) (d : QueuedFrame) : a.Leads (a.enqueue d) := by
  unfold enqueue Session.enqueue
  cases ha : a.session.accepts with
  | false =>
    simp only [Bool.false_eq_true, if_false, List.append_nil]
    exact .refl a
  | true =>
    simp only [if_true]
    rw [Session.accepts, Bool.and_eq_true, decide_eq_true_eq] at ha
    refine ⟨fun h => ?_, List.prefix_append _ _, List.prefix_refl _, fun h => ⟨h, rfl⟩, rfl, rfl, rfl⟩
    have hwaiting : ({ a.session with queue := a.session.queue ++ [d] } : Session).waiting
        = a.session.waiting ++ [d.frame] := List.map_append
    refine ⟨?_, ?_, ?_, fun hw => ?_, h.stopped⟩
    · show a.written <+: (a.accepted ++ [d.frame]).flatten
      rw [List.flatten_append]
      exact h.order.trans (List.prefix_append _ _)
    · obtain ⟨done, hdone⟩ := h.waiting
      refine ⟨done, ?_⟩
      show done ++ ({ a.session with queue := a.session.queue ++ [d] } : Session).waiting = a.accepted ++ _
      rw [hwaiting, ← hdone, List.append_assoc]
    · show (a.session.queue ++ [d]).length ≤ queueDepth
      rw [List.length_append, List.length_singleton]
      omega
    · obtain ⟨hopen, hbytes⟩ := h.running hw
      refine ⟨hopen, ?_⟩
      show a.written ++ (a.session.writer.left
          ++ ({ a.session with queue := a.session.queue ++ [d] } : Session).waiting.flatten)
        = (a.accepted ++ [d.frame]).flatten
      rw [hwaiting, List.flatten_append, List.flatten_append, ← hbytes]
      simp only [List.append_assoc]

/-! ## what the client does -/

/-- the client reads as much as there is, at most `n` bytes -/
def take (a : Account) (n : Nat) : Account :=
  { a with
    session := { a.session with events := (a.session.events.take n).2 }
    received := a.received ++ (a.session.events.take n).1 }

def dropClient (a : Account) : Account := { a with session := a.session.dropClient }

theorem written_take (a : Account) (n : Nat) : (a.take n).written = a.written := by
  show a.received ++ _ ++ _ = a.received ++ _
  rw [List.append_assoc]
  exact congrArg (a.received ++ ·) (Pipe.take_append _ n)

theorem leads_take (a : Account) (n : Nat) : a.Leads (a.take n) := by
  have hw := a.written_take n
  refine ⟨fun h => ⟨?_, h.waiting, h.depth, fun hr => ?_, h.stopped⟩, List.prefix_refl _, ?_, fun h => ⟨h, hw⟩,
    rfl, rfl, Pipe.capacity_take _ n⟩
  · rw [hw]
    exact h.order
  · rw [hw]
    exact h.running hr
  · exact hw.symm ▸ List.prefix_refl a.written

theorem leads_dropClient (a : Account) : a.Leads a.dropClient where
  sound h := ⟨h.order, h.waiting, h.depth, h.running, h.stopped⟩
  accepted := List.prefix_refl _
  written := List.prefix_refl _
  ended := fun h => ⟨h, rfl⟩
  id := rfl
  token := rfl
  capacity := rfl

/-! ## what the writer does -/

/-- the session does something by itself -/
def withSession (a : Account) (s : Session) : Account := { a with session := s }

theorem leads_finish (a : Account) : a.Leads (a.withSession a.session.close.finish) where
  sound h := ⟨h.order, List.nil_suffix, Nat.zero_le _, fun hw => absurd rfl hw, fun _ => ⟨rfl, rfl⟩⟩
  accepted := List.prefix_refl _
  written := List.prefix_refl _
  ended := fun _ => ⟨.inl rfl, rfl⟩
  id := rfl
  token := rfl
  capacity := rfl

/-- a frame is taken off the queue, and all of it is left to write -/
theorem leads_begin {a : Account} {d : QueuedFrame} {queue : List QueuedFrame} (expires : Nat)
    (hw : a.session.writer = .idle) (hq : a.session.queue = d :: queue) :
    a.Leads (a.withSession { a.session with queue, writer := .withLeft d.frame expires }) := by
  have hwaiting : a.session.waiting = d.frame :: queue.map QueuedFrame.frame := by
    rw [Session.waiting, hq]
    rfl
  refine ⟨fun h => ⟨h.order, ?_, ?_, fun _ => ?_, fun hf => absurd hf (EventWriter.withLeft_ne_finished _ _)⟩,
    List.prefix_refl _, List.prefix_refl _, fun h => ⟨h, rfl⟩, rfl, rfl, rfl⟩
  · have hsuffix := h.waiting
    rw [hwaiting] at hsuffix
    exact (List.suffix_cons _ _).trans hsuffix
  · have hd := h.depth
    rw [hq, List.length_cons] at hd
    exact Nat.le_of_succ_le hd
  · obtain ⟨hopen, hbytes⟩ := h.running (by rw [hw]; exact nofun)
    refine ⟨hopen, ?_⟩
    rw [hwaiting, hw] at hbytes
    show a.written ++ ((EventWriter.withLeft d.frame expires).left ++ (queue.map QueuedFrame.frame).flatten)
      = a.accepted.flatten
    rw [EventWriter.left_withLeft, ← hbytes]
    rfl

/-- a part of the frame is written -/
theorem leads_write {a : Account} {left rest : Bytes} {expires : Nat} {events : Pipe}
    (hc : a.session.closed = false) (hw : a.session.writer = .writing left expires)
    (hwrite : a.session.events.write left = .wrote rest events) :
    a.Leads (a.withSession { a.session with events, writer := .withLeft rest expires }) := by
  have hopen := (Pipe.ends_write hwrite).2
  refine ⟨fun h => ?_, List.prefix_refl _,
    (List.prefix_append_right_inj a.received).mpr (Pipe.isPrefix_content_write hwrite), ?_, rfl, rfl,
    Pipe.capacity_write hwrite⟩
  · obtain ⟨ho, hbytes⟩ := h.running (by rw [hw]; exact nofun)
    have hall : a.received ++ events.content ++ (rest ++ a.session.waiting.flatten) = a.accepted.flatten := by
      rw [← hbytes, hw]
      calc a.received ++ events.content ++ (rest ++ a.session.waiting.flatten)
          = a.received ++ ((events.content ++ rest) ++ a.session.waiting.flatten) := by
            simp only [List.append_assoc]
        _ = a.received ++ ((a.session.events.content ++ left) ++ a.session.waiting.flatten) := by
            rw [Pipe.content_write hwrite]
        _ = a.written ++ (left ++ a.session.waiting.flatten) := by
            simp only [written, List.append_assoc]
    refine ⟨⟨_, hall⟩, h.waiting, h.depth, fun _ => ⟨hopen.trans ho, ?_⟩,
      fun hf => absurd hf (EventWriter.withLeft_ne_finished _ _)⟩
    show a.received ++ events.content
      ++ ((EventWriter.withLeft rest expires).left ++ a.session.waiting.flatten) = a.accepted.flatten
    rw [EventWriter.left_withLeft, hall]
  · rintro (hclosed | ho)
    · rw [hc] at hclosed
      cases hclosed
    · exact ⟨.inr (hopen.trans ho), congrArg (a.received ++ ·) (Pipe.content_write_of_closed ho hwrite)⟩

/-- **A step of the writer keeps the account.** -/
theorem leads_step {a : Account} {clock : Nat} {s : Session} (h : a.session.step clock = some s) :
    a.Leads (a.withSession s) := by
  obtain ⟨-, rfl | ⟨-, hw, d, queue, hq, rfl⟩ | ⟨hc, left, expires, rest, events, hw, hwrite, rfl⟩⟩ :=
    Session.step_cases h
  · exact leads_finish a
  · exact leads_begin _ hw hq
  · exact leads_write hc hw hwrite

theorem leads_stepTimes (clock n : Nat) (a : Account) :
    a.Leads (a.withSession (a.session.stepTimes clock n)) := by
  induction n generalizing a with
  | zero => exact .refl a
  | succ n ih =>
    unfold Session.stepTimes
    cases h : a.session.step clock with
    | none => exact .refl a
    | some s => exact (leads_step h).trans (ih (a.withSession s))

theorem leads_settle (clock : Nat) (a : Account) : a.Leads (a.withSession (a.session.settle clock)) :=
  leads_stepTimes clock _ a

/-! ## reading on while the writer goes on -/

theorem leads_receiveFrom (clock fuel limit : Nat) (pieces : List Bytes) (a : Account) :
    ∃ more, (a.session.receiveFrom clock fuel pieces limit).1 = more ++ pieces ∧
      a.Leads ⟨(a.session.receiveFrom clock fuel pieces limit).2, a.accepted,
        a.received ++ more.reverse.flatten⟩ := by
  induction fuel generalizing a pieces limit with
  | zero =>
    refine ⟨[], rfl, ?_⟩
    rw [List.reverse_nil, List.flatten_nil, List.append_nil]
    exact .refl a
  | succ fuel ih =>
    unfold Session.receiveFrom
    cases ht : a.session.events.take limit with
    | mk piece events =>
      cases piece with
      | nil =>
        refine ⟨[], rfl, ?_⟩
        rw [List.reverse_nil, List.flatten_nil, List.append_nil]
        exact .refl a
      | cons b piece =>
        have hread := a.leads_take limit
        unfold take at hread
        rw [ht] at hread
        have hsettle := leads_settle clock
          { a with session := { a.session with events }, received := a.received ++ b :: piece }
        obtain ⟨more, hmore, hleads⟩ := ih (limit - (b :: piece).length) ((b :: piece) :: pieces)
          (withSession { a with session := { a.session with events }, received := a.received ++ b :: piece }
            (Session.settle clock { a.session with events }))
        refine ⟨more ++ [b :: piece], ?_, ?_⟩
        · rw [List.append_assoc]
          exact hmore
        · rw [List.reverse_append, List.flatten_append, ← List.append_assoc, List.reverse_singleton,
            List.flatten_singleton]
          exact hread.trans (hsettle.trans hleads)

theorem leads_receive (clock : Nat) (limit : Option Nat) (a : Account) :
    a.Leads ⟨(a.session.receive clock limit).2, a.accepted,
      a.received ++ (a.session.receive clock limit).1⟩ := by
  obtain ⟨more, hmore, hleads⟩ := leads_receiveFrom clock (a.session.undelivered + 1)
    (limit.getD a.session.undelivered) [] a
  rw [List.append_nil] at hmore
  rw [← hmore] at hleads
  exact hleads

/-! ## what a client has got -/

/-- **When the writer has nothing to do, a client that has read everything has got all frames.**  Only a pipe that
can hold nothing keeps them back, until the time for the first of them is over. -/
theorem received_of_quiet {a : Account} {clock : Nat} (h : a.Sound) (hc : a.session.closed = false)
    (hs : a.session.step clock = none) (he : a.session.events.content = [])
    (ht : a.session.events.capacity = 0 → a.session.timer = none) : a.received = a.accepted.flatten := by
  have hrun : a.session.writer ≠ .finished := fun hf => by
    cases hc.symm.trans (h.stopped hf).1
  obtain ⟨-, hbytes⟩ := h.running hrun
  rw [written, he, List.append_nil] at hbytes
  obtain hf | ⟨hw, hq⟩ | ⟨left, expires, hw, hroom⟩ := Session.quiet_cases hs hc
  · exact absurd hf hrun
  · rw [hw, Session.waiting, hq] at hbytes
    exact (List.append_nil a.received).symm.trans hbytes
  · -- an empty pipe without room is one that can hold nothing
    exfalso
    have htimer := ht (by rw [Pipe.capacity, hroom, he]; rfl)
    rw [Session.timer, hw] at htimer
    simp only [hc] at htimer
    cases htimer

/-- **When the writer of a closed session has nothing to do, the stream has ended.** -/
theorem ended_of_quiet {a : Account} {clock : Nat} (h : a.Sound) (hc : a.session.closed = true)
    (hs : a.session.step clock = none) : a.session.events.writerOpen = false := by
  unfold Session.step at hs
  cases hw : a.session.writer with
  | finished => exact (h.stopped hw).2
  | idle | writing =>
    simp only [hw, hc, if_true] at hs
    cases hs

end Account

end TunnelControl
