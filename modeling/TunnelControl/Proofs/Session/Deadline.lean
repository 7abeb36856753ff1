import TunnelControl.Proofs.Session.Account

/-!
# The deadlines of the frames

Each frame comes with the time that writing it may take.  A session is watched here as its queue takes frames, as its
client reads and goes away, and as time passes; a millisecond passes only when the writer has nothing left to do.

* `Watch`              the session, the frames that it took, and from when the frame at the front is there;
* `Watch.front?`       the first frame that is not all in the pipe;
* `Watch.Stage`        how the writer, the clock and that frame belong together;
* `Watch.exists_run_advance`  time may also pass at once, with the writer at work before and behind it;
* `Watch.cut_off_by_deadline`  a session is closed by a frame whose time is over, or that nobody can read, and by
  nothing else.
-/

namespace TunnelControl

/-! ## the writer of an open session -/

namespace Session

/-- the writer of an open session stops because of the frame that it writes -/
theorem why_finish {clock : Nat} {s : Session} (hc : s.closed = false) (h : s.step clock = some s.close.finish) :
    ∃ left expires, s.writer = .writing left expires ∧
      (s.events.write left = .broken ∨ s.events.write left = .blocked ∧ expires ≤ clock) := by
  have hopen (t : Session) (ht : t.closed = s.closed) : some t ≠ some s.close.finish := by
    rintro heq
    cases heq
    cases hc.symm.trans ht.symm
  unfold step at h
  cases hw : s.writer with
  | finished =>
    rw [hw] at h
    cases h
  | idle =>
    rw [hw] at h
    simp only [hc, Bool.false_eq_true, if_false] at h
    cases hq : s.queue with
    | nil =>
      rw [hq] at h
      cases h
    | cons d queue =>
      rw [hq] at h
      exact absurd h (hopen _ hc.symm)
  | writing left expires =>
    rw [hw] at h
    simp only [hc, Bool.false_eq_true, if_false] at h
    refine ⟨left, expires, rfl, ?_⟩
    cases hwrite : s.events.write left with
    | broken => exact .inl rfl
    | blocked =>
      simp only [hwrite] at h
      split at h
      · exact .inr ⟨rfl, ‹_›⟩
      · cases h
    | wrote rest events =>
      rw [hwrite] at h
      cases rest with
      | nil => exact absurd h (hopen _ hc.symm)
      | cons b rest => exact absurd h (hopen _ hc.symm)

/-- when the writer of an open session has nothing to do, no frame waits, or one has no room, and time is left -/
theorem quiet_cases_of_open {clock : Nat} {s : Session} (hc : s.closed = false) (h : s.step clock = none) :
    s.writer = .finished ∨ (s.writer = .idle ∧ s.queue = []) ∨
      ∃ left expires, s.writer = .writing left expires ∧ s.events.write left = .blocked ∧ clock < expires := by
  rcases quiet_cases h hc with hw | hidle | ⟨left, expires, hw, -⟩
  · exact .inl hw
  · exact .inr (.inl hidle)
  · refine .inr (.inr ⟨left, expires, hw, ?_⟩)
    simp only [step, hw, hc, Bool.false_eq_true, if_false] at h
    cases hwrite : s.events.write left with
    | broken =>
      rw [hwrite] at h
      cases h
    | blocked =>
      simp only [hwrite] at h
      split at h
      · cases h
      · exact ⟨rfl, by omega⟩
    | wrote rest events =>
      rw [hwrite] at h
      cases rest <;> cases h

theorem stepTimes_of_rest {clock : Nat} {s : Session} (h : s.step clock = none) (n : Nat) :
    s.stepTimes clock n = s := by
  cases n with
  | zero => rfl
  | succ n => rw [stepTimes, h]

theorem settle_of_rest {clock : Nat} {s : Session} (h : s.step clock = none) : s.settle clock = s :=
  stepTimes_of_rest h _

theorem settle_of_step_finish {clock : Nat} {s : Session} (h : s.step clock = some s.close.finish) :
    s.settle clock = s.close.finish := by
  show s.stepTimes clock (3 * s.queue.length + 4 + 1) = _
  rw [stepTimes, h]
  exact stepTimes_of_rest (step_finished rfl) _

/-- a writer that waited waits on, or gives up, and whether it does depends on the time alone -/
theorem step_of_rest {clock : Nat} {s : Session} (h : s.step clock = none) :
    (∀ later, s.step later = none) ∨
      ∃ expires, ∀ later, s.step later = if expires ≤ later then some s.close.finish else none := by
  cases hw : s.writer with
  | finished => exact .inl fun later => step_finished hw
  | idle =>
    cases hc : s.closed with
    | true =>
      simp only [step, hw, hc, if_true] at h
      cases h
    | false =>
      obtain hf | ⟨-, hq⟩ | ⟨left, expires, hf, -⟩ := quiet_cases_of_open hc h
      · cases hw.symm.trans hf
      · refine .inl fun later => ?_
        simp only [step, hw, hc, hq, Bool.false_eq_true, if_false]
      · cases hw.symm.trans hf
  | writing left expires =>
    cases hc : s.closed with
    | true =>
      simp only [step, hw, hc, if_true] at h
      cases h
    | false =>
      obtain hf | ⟨hf, -⟩ | ⟨left', expires', hf, hblocked, -⟩ := quiet_cases_of_open hc h
      · cases hw.symm.trans hf
      · cases hw.symm.trans hf
      · cases hw.symm.trans hf
        refine .inr ⟨expires, fun later => ?_⟩
        rw [step, hw]
        simp only [hc, Bool.false_eq_true, if_false, hblocked]

/-- a writer that waits may be looked at in between -/
theorem settle_settle_of_rest {clock soon late : Nat} {s : Session} (h : s.step clock = none)
    (hlate : soon ≤ late) : (s.settle soon).settle late = s.settle late := by
  obtain hwaits | ⟨expires, hwaits⟩ := step_of_rest h
  · rw [settle_of_rest (hwaits soon)]
  · by_cases hover : expires ≤ soon
    · have hnow := settle_of_step_finish ((hwaits soon).trans (if_pos hover))
      have hthen := settle_of_step_finish ((hwaits late).trans (if_pos (Nat.le_trans hover hlate)))
      rw [hnow, hthen]
      exact settle_of_rest (step_finished rfl)
    · rw [settle_of_rest ((hwaits soon).trans (if_neg hover))]

end Session

/-! ## frames and bytes -/

/-- how many bytes some frames have -/
def frameBytes : List QueuedFrame → Nat
  | [] => 0
  | d :: ds => d.frame.length + frameBytes ds

@[simp] theorem frameBytes_concat (ds : List QueuedFrame) (d : QueuedFrame) :
    frameBytes (ds ++ [d]) = frameBytes ds + d.frame.length := by
  induction ds with
  | nil => simp [frameBytes]
  | cons e ds ih =>
    rw [List.cons_append, frameBytes, frameBytes, ih]
    omega

/-- the frames from the first on that so many bytes do not reach behind -/
def framesBeyond : Nat → List QueuedFrame → List QueuedFrame
  | _, [] => []
  | n, d :: ds => if d.frame.length ≤ n then framesBeyond (n - d.frame.length) ds else d :: ds

theorem framesBeyond_append (k : Nat) (ds es : List QueuedFrame) :
    framesBeyond (frameBytes ds + k) (ds ++ es) = framesBeyond k es := by
  induction ds with
  | nil =>
    show framesBeyond (0 + k) es = _
    rw [Nat.zero_add]
  | cons d ds ih =>
    have hsplit : frameBytes (d :: ds) + k - d.frame.length = frameBytes ds + k := by
      rw [frameBytes]
      omega
    have hle : d.frame.length ≤ frameBytes (d :: ds) + k := by
      rw [frameBytes]
      omega
    rw [List.cons_append, framesBeyond, if_pos hle, hsplit, ih]

theorem length_framesBeyond_le (n : Nat) (ds : List QueuedFrame) : (framesBeyond n ds).length ≤ ds.length := by
  induction ds generalizing n with
  | nil => exact Nat.le_refl 0
  | cons d ds ih =>
    rw [framesBeyond]
    split
    · exact Nat.le_succ_of_le (ih _)
    · exact Nat.le_refl _

/-! ## a session that is watched -/

structure Watch where
  clock : Nat := 0
  session : Session
  /-- the frames that its queue took, in order -/
  taken : List QueuedFrame := []
  /-- how many bytes its client has read -/
  received : Nat := 0
  /-- from when the frame at the front is there, if there is any -/
  since : Nat := 0

namespace Watch

/-- nobody closes the session from outside -/
inductive Move
  | enqueue (d : QueuedFrame)
  | take (n : Nat)
  | dropClient
  /-- the writer takes a step, if it can -/
  | write
  /-- a millisecond passes, unless the writer has something to do -/
  | tick
  deriving DecidableEq

def ofCapacity (id : SessionId) (token : Option Token) (capacity : Nat) : Watch :=
  { session := { id, token, events := .ofCapacity capacity } }

/-- how many bytes the pipe has accepted -/
def accepted (w : Watch) : Nat := w.received + w.session.events.content.length

/-- the frames that are not all in the pipe -/
def pending (w : Watch) : List QueuedFrame := framesBeyond w.accepted w.taken

def front? (w : Watch) : Option QueuedFrame := w.pending.head?

/-- how many frames are all in the pipe -/
def through (w : Watch) : Nat := w.taken.length - w.pending.length

def move (w : Watch) : Move → Watch
  | .enqueue d =>
    { w with
      session := (w.session.enqueue d).2
      taken := w.taken ++ if (w.session.enqueue d).1 then [d] else [] }
  | .take n =>
    { w with
      session := { w.session with events := (w.session.events.take n).2 }
      received := w.received + (w.session.events.take n).1.length }
  | .dropClient => { w with session := w.session.dropClient }
  | .write => { w with session := (w.session.step w.clock).getD w.session }
  | .tick => if (w.session.step w.clock).isNone then { w with clock := w.clock + 1 } else w

/-- a frame is at the front from when all frames before it are in the pipe -/
def act (w : Watch) (m : Move) : Watch :=
  { w.move m with
    since := if w.front?.isSome ∧ (w.move m).through = w.through then w.since else (w.move m).clock }

def run (w : Watch) (ms : List Move) : Watch := ms.foldl act w

/-- the writer has nothing to do -/
def AtRest (w : Watch) : Prop := w.session.step w.clock = none

/-- there is something to write, and nobody to read it -/
def Gone (w : Watch) : Prop := w.session.events.readerOpen = false ∧ w.front? ≠ none

/-- the frame at the front had its whole time -/
def Overdue (w : Watch) : Prop := ∃ d, w.front? = some d ∧ w.since + d.deadline ≤ w.clock

variable {w v : Watch} {m : Move} {before : List QueuedFrame} {d : QueuedFrame} {left : Bytes}

theorem run_append (w : Watch) (ms ns : List Move) : w.run (ms ++ ns) = (w.run ms).run ns := List.foldl_append

theorem run_cons (w : Watch) (m : Move) (ms : List Move) : w.run (m :: ms) = (w.act m).run ms := rfl

/-! ## from when a frame is at the front -/

theorem since_of_through (hfront : w.front? ≠ none) (hthrough : (w.move m).through = w.through) :
    (w.act m).since = w.since :=
  if_pos ⟨Option.isSome_iff_ne_none.mpr hfront, hthrough⟩

theorem since_of_through_ne (hthrough : (w.move m).through ≠ w.through) : (w.act m).since = (w.act m).clock :=
  if_neg fun h => hthrough h.2

/-- a front frame that has just come there, or that comes there now, has its whole time before it -/
theorem since_of_now (hsince : w.front? ≠ none → w.since = w.clock) (hclock : (w.move m).clock = w.clock) :
    (w.act m).since = (w.act m).clock := by
  show (if _ then _ else _) = (w.move m).clock
  split
  · rename_i h
    rw [hclock]
    exact hsince (Option.isSome_iff_ne_none.mp h.1)
  · rfl

/-- what is all in the pipe has not changed -/
theorem pending_congr (htaken : v.taken = w.taken) (haccepted : v.accepted = w.accepted) : v.pending = w.pending := by
  rw [pending, pending, htaken, haccepted]

theorem through_congr (htaken : v.taken = w.taken) (haccepted : v.accepted = w.accepted) :
    v.through = w.through := by
  rw [through, through, htaken, pending_congr htaken haccepted]

/-! ## the stages of the writer -/

/-- no frame has been begun -/
structure Idle (w : Watch) (before : List QueuedFrame) : Prop where
  writer : w.session.writer = .idle
  closed : w.session.closed = false
  writerOpen : w.session.events.writerOpen = true
  taken : w.taken = before ++ w.session.queue
  accepted : w.accepted = frameBytes before

/-- so much of a frame is left to write -/
structure Writing (w : Watch) (before : List QueuedFrame) (d : QueuedFrame) (left : Bytes) (expires : Nat) :
    Prop where
  writer : w.session.writer = .writing left expires
  closed : w.session.closed = false
  writerOpen : w.session.events.writerOpen = true
  rest : left ≠ []
  taken : w.taken = before ++ d :: w.session.queue
  length : left.length ≤ d.frame.length
  accepted : w.accepted = frameBytes before + (d.frame.length - left.length)

structure Finished (w : Watch) : Prop where
  writer : w.session.writer = .finished
  closed : w.session.closed = true

/-- where the writer is, with its clock -/
inductive Stage (w : Watch) : Prop
  | idle (before : List QueuedFrame) (h : w.Idle before) (hsince : w.front? ≠ none → w.since = w.clock)
  | writing (before : List QueuedFrame) (d : QueuedFrame) (left : Bytes)
      (h : w.Writing before d left (w.since + d.deadline)) (hdue : w.clock ≤ w.since + d.deadline)
  | finished (h : w.Finished) (why : w.Gone ∨ w.Overdue)

theorem Idle.pending (h : w.Idle before) : w.pending = framesBeyond 0 w.session.queue := by
  rw [Watch.pending, h.taken, h.accepted]
  exact framesBeyond_append 0 before w.session.queue

theorem Idle.length_le_through (h : w.Idle before) : before.length ≤ w.through := by
  have hle := length_framesBeyond_le 0 w.session.queue
  rw [through, h.pending, h.taken, List.length_append]
  omega

/-- the stage of a move is that of the act, whatever is noted of the front -/
theorem Idle.act (h : (w.move m).Idle before) : (w.act m).Idle before :=
  ⟨h.writer, h.closed, h.writerOpen, h.taken, h.accepted⟩

theorem Idle.front?_of_queue (h : w.Idle before) (hq : w.session.queue = []) : w.front? = none := by
  rw [front?, h.pending, hq]
  rfl

section
variable {expires expires' : Nat} {left' : Bytes}

theorem Writing.pending (h : w.Writing before d left expires) : w.pending = d :: w.session.queue := by
  have hleft := List.length_pos_iff.mpr h.rest
  have hlength := h.length
  rw [Watch.pending, h.taken, h.accepted, framesBeyond_append, framesBeyond, if_neg (by omega)]

theorem Writing.front? (h : w.Writing before d left expires) : w.front? = some d := by
  rw [Watch.front?, h.pending]
  rfl

theorem Writing.through (h : w.Writing before d left expires) : w.through = before.length := by
  rw [Watch.through, h.pending, h.taken, List.length_append]
  omega

theorem Finished.act (h : (w.move m).Finished) : (w.act m).Finished := ⟨h.writer, h.closed⟩

theorem Writing.act (h : (w.move m).Writing before d left expires) : (w.act m).Writing before d left expires :=
  ⟨h.writer, h.closed, h.writerOpen, h.rest, h.taken, h.length, h.accepted⟩

/-- the frame at the front is still the same -/
theorem Writing.since_act (h : w.Writing before d left expires)
    (hnext : (w.move m).Writing before d left' expires') : (w.act m).since = w.since :=
  since_of_through (by rw [h.front?]; exact nofun) (hnext.through.trans h.through.symm)

end

theorem stage_ofCapacity (id : SessionId) (token : Option Token) (capacity : Nat) :
    (ofCapacity id token capacity).Stage :=
  .idle [] ⟨rfl, rfl, rfl, rfl, rfl⟩ fun h => absurd rfl h

/-! ## what others do -/

/-- what may befall a session while its writer does nothing: frames come, and bytes or the client go -/
structure Undisturbed (w v : Watch) (more : List QueuedFrame) : Prop where
  writer : v.session.writer = w.session.writer
  closed : v.session.closed = w.session.closed
  writerOpen : v.session.events.writerOpen = w.session.events.writerOpen
  readerOpen : v.session.events.readerOpen = true → w.session.events.readerOpen = true
  accepted : v.accepted = w.accepted
  taken : v.taken = w.taken ++ more
  queue : v.session.queue = w.session.queue ++ more
  /-- a closed session takes none -/
  more : w.session.closed = true → more = []

theorem Undisturbed.refl (w : Watch) : Undisturbed w w [] :=
  ⟨rfl, rfl, rfl, id, rfl, (List.append_nil _).symm, (List.append_nil _).symm, fun _ => rfl⟩

theorem undisturbed_enqueue (w : Watch) (d : QueuedFrame) : ∃ more, Undisturbed w (w.move (.enqueue d)) more := by
  refine ⟨if (w.session.enqueue d).1 then [d] else [], ?_⟩
  rw [move, Session.enqueue]
  cases ha : w.session.accepts with
  | true =>
    have hopen : w.session.closed = false := by
      rw [Session.accepts, Bool.and_eq_true, Bool.not_eq_true'] at ha
      exact ha.1
    refine ⟨rfl, rfl, rfl, id, rfl, rfl, rfl, fun hc => ?_⟩
    cases hopen.symm.trans hc
  | false => exact ⟨rfl, rfl, rfl, id, rfl, rfl, (List.append_nil _).symm, fun _ => rfl⟩

theorem undisturbed_take (w : Watch) (n : Nat) : Undisturbed w (w.move (.take n)) [] where
  writer := rfl
  closed := rfl
  writerOpen := rfl
  readerOpen := id
  accepted := by
    have hall := congrArg List.length (w.session.events.take_append n)
    rw [List.length_append] at hall
    simp only [accepted, move]
    omega
  taken := (List.append_nil _).symm
  queue := (List.append_nil _).symm
  more _ := rfl

theorem undisturbed_dropClient (w : Watch) : Undisturbed w (w.move .dropClient) [] :=
  ⟨rfl, rfl, rfl, nofun, rfl, (List.append_nil _).symm, (List.append_nil _).symm, fun _ => rfl⟩

namespace Undisturbed

variable {more : List QueuedFrame}

theorem idle (hu : Undisturbed w v more) (h : w.Idle before) : v.Idle before where
  writer := hu.writer.trans h.writer
  closed := hu.closed.trans h.closed
  writerOpen := hu.writerOpen.trans h.writerOpen
  taken := by rw [hu.taken, hu.queue, h.taken, List.append_assoc]
  accepted := hu.accepted.trans h.accepted

theorem writing {expires : Nat} (hu : Undisturbed w v more) (h : w.Writing before d left expires) :
    v.Writing before d left expires where
  writer := hu.writer.trans h.writer
  closed := hu.closed.trans h.closed
  writerOpen := hu.writerOpen.trans h.writerOpen
  rest := h.rest
  taken := by rw [hu.taken, hu.queue, h.taken, List.append_assoc, List.cons_append]
  length := h.length
  accepted := hu.accepted.trans h.accepted

end Undisturbed

/-- the reasons for which a session was closed remain, as long as what is in the pipe, and what is to be, does -/
theorem why_act (hwhy : w.Gone ∨ w.Overdue) (hreader : (w.move m).session.events.readerOpen = true →
      w.session.events.readerOpen = true)
    (htaken : (w.move m).taken = w.taken) (haccepted : (w.move m).accepted = w.accepted)
    (hclock : w.clock ≤ (w.move m).clock) : (w.act m).Gone ∨ (w.act m).Overdue := by
  have hfront : (w.act m).front? = w.front? := congrArg List.head? (pending_congr htaken haccepted)
  rcases hwhy with ⟨hgone, hsome⟩ | ⟨d, hd, hdue⟩
  · refine .inl ⟨?_, hfront ▸ hsome⟩
    cases hr : (w.move m).session.events.readerOpen with
    | false => exact hr
    | true => cases hgone.symm.trans (hreader hr)
  · have hsince : (w.act m).since = w.since :=
      since_of_through (by rw [hd]; exact nofun) (through_congr htaken haccepted)
    exact .inr ⟨d, hfront.trans hd, hsince.symm ▸ Nat.le_trans hdue hclock⟩

theorem stage_of_undisturbed {more : List QueuedFrame} (h : w.Stage) (hu : Undisturbed w (w.move m) more)
    (hclock : (w.move m).clock = w.clock) : (w.act m).Stage := by
  cases h with
  | idle before h hsince => exact .idle before (hu.idle h).act fun _ => since_of_now hsince hclock
  | writing before d left h hdue =>
    have hnext := hu.writing h
    have hsince := h.since_act hnext
    refine .writing before d left ?_ ?_
    · rw [hsince]
      exact hnext.act
    · rw [hsince]
      exact Nat.le_trans (Nat.le_of_eq hclock) hdue
  | finished h why =>
    have hmore := hu.more h.closed
    subst hmore
    refine .finished (Finished.act ⟨hu.writer.trans h.writer, hu.closed.trans h.closed⟩) ?_
    exact why_act why hu.readerOpen (hu.taken.trans (List.append_nil _)) hu.accepted (Nat.le_of_eq hclock.symm)

theorem stage_of_unmoved (h : w.Stage) (hmove : w.move m = w) : (w.act m).Stage := by
  have hu : Undisturbed w (w.move m) [] := by
    rw [hmove]
    exact .refl w
  exact stage_of_undisturbed h hu (by rw [hmove])

/-! ## what the writer does -/

theorem move_write_of_some {s : Session} (h : w.session.step w.clock = some s) :
    w.move .write = { w with session := s } := by
  rw [move, h]
  rfl

theorem move_write_of_rest (h : w.AtRest) : w.move .write = w := by
  rw [move, h]
  rfl

/-- the writer takes a frame off the queue -/
theorem stage_begin {queue : List QueuedFrame} (h : w.Idle before) (hsince : w.front? ≠ none → w.since = w.clock)
    (hq : w.session.queue = d :: queue)
    (hmove : w.move .write
      = { w with session := { w.session with queue, writer := .withLeft d.frame (w.clock + d.deadline) } }) :
    (w.act .write).Stage := by
  have hnow : (w.act .write).since = (w.act .write).clock := since_of_now hsince (by rw [hmove])
  have hclock : (w.act .write).clock = w.clock := by
    show (w.move .write).clock = _
    rw [hmove]
  have htaken : w.taken = before ++ d :: queue := h.taken.trans (congrArg (before ++ ·) hq)
  cases hframe : d.frame with
  | nil =>
    -- a frame of no bytes is all in the pipe
    refine .idle (before ++ [d]) (Idle.act ?_) fun _ => hnow
    rw [hmove, hframe]
    refine ⟨rfl, h.closed, h.writerOpen, ?_, ?_⟩
    · rw [htaken, List.append_assoc]
      rfl
    · rw [frameBytes_concat, hframe]
      exact h.accepted
  | cons b bs =>
    refine .writing before d d.frame (Writing.act ?_) ?_
    · rw [hnow, hclock, hmove]
      refine ⟨?_, h.closed, h.writerOpen, ?_, htaken, Nat.le_refl _, ?_⟩
      · rw [hframe]
        rfl
      · rw [hframe]
        exact List.cons_ne_nil b bs
      · rw [Nat.sub_self]
        exact h.accepted
    · rw [hnow]
      exact Nat.le_add_right _ _

/-- the writer writes a part of a frame, or all that is left of it -/
theorem stage_write {rest : Bytes} {events : Pipe} (h : w.Writing before d left (w.since + d.deadline))
    (hdue : w.clock ≤ w.since + d.deadline) (hwrite : w.session.events.write left = .wrote rest events)
    (hmove : w.move .write = { w with
      session := { w.session with events, writer := .withLeft rest (w.since + d.deadline) } }) :
    (w.act .write).Stage := by
  have hclock : (w.act .write).clock = w.clock := by
    show (w.move .write).clock = _
    rw [hmove]
  have hopen := (Pipe.ends_write hwrite).2.trans h.writerOpen
  -- what is left and what is in the pipe are as much as before
  have hall := congrArg List.length (Pipe.content_write hwrite)
  rw [List.length_append, List.length_append] at hall
  have hlength := h.length
  have haccepted : w.received + w.session.events.content.length
      = frameBytes before + (d.frame.length - left.length) := h.accepted
  have hrest := (Pipe.isSuffix_of_write hwrite).length_le
  cases rest with
  | nil =>
    rw [List.length_nil] at hall
    have hnext : (w.move .write).Idle (before ++ [d]) := by
      rw [hmove]
      refine ⟨rfl, h.closed, hopen, ?_, ?_⟩
      · rw [List.append_assoc]
        exact h.taken
      · rw [frameBytes_concat]
        simp only [Watch.accepted]
        omega
    refine .idle (before ++ [d]) hnext.act fun _ => since_of_through_ne ?_
    -- the next frame comes to the front
    have hthrough := hnext.length_le_through
    rw [List.length_append, List.length_singleton] at hthrough
    rw [h.through]
    omega
  | cons b rest =>
    have hnext : (w.move .write).Writing before d (b :: rest) (w.since + d.deadline) := by
      rw [hmove]
      refine ⟨rfl, h.closed, hopen, List.cons_ne_nil b rest, h.taken, Nat.le_trans hrest hlength, ?_⟩
      simp only [Watch.accepted]
      omega
    have hsince := h.since_act hnext
    refine .writing before d (b :: rest) ?_ ?_
    · rw [hsince]
      exact hnext.act
    · rw [hsince, hclock]
      exact hdue

/-- the writer gives up on a frame -/
theorem stage_finish (h : w.Writing before d left (w.since + d.deadline))
    (hwhy : w.session.events.write left = .broken ∨
      w.session.events.write left = .blocked ∧ w.since + d.deadline ≤ w.clock)
    (hmove : w.move .write = { w with session := w.session.close.finish }) : (w.act .write).Stage := by
  refine .finished (Finished.act (hmove.symm ▸ ⟨rfl, rfl⟩)) (why_act ?_ ?_ ?_ ?_ ?_)
  · rcases hwhy with hbroken | ⟨-, hover⟩
    · exact .inl ⟨Pipe.readerOpen_of_broken hbroken h.writerOpen, by rw [h.front?]; exact nofun⟩
    · exact .inr ⟨d, h.front?, hover⟩
  · exact hmove.symm ▸ id
  · exact hmove.symm ▸ rfl
  · exact hmove.symm ▸ rfl
  · exact hmove.symm ▸ Nat.le_refl _

theorem stage_act_write (h : w.Stage) : (w.act .write).Stage := by
  cases hstep : w.session.step w.clock with
  | none =>
    have hmove := move_write_of_rest hstep
    exact stage_of_unmoved h hmove
  | some s =>
    have hmove := move_write_of_some hstep
    obtain ⟨hrun, hcases⟩ := Session.step_cases hstep
    cases h with
    | idle before h hsince =>
      rcases hcases with rfl | ⟨-, -, d, queue, hq, rfl⟩ | ⟨-, left, expires, rest, events, hw, -⟩
      · obtain ⟨left, expires, hw, -⟩ := Session.why_finish h.closed hstep
        cases h.writer.symm.trans hw
      · exact stage_begin h hsince hq hmove
      · cases h.writer.symm.trans hw
    | writing before d left h hdue =>
      rcases hcases with rfl | ⟨-, hw, -⟩ | ⟨-, left', expires, rest, events, hw, hwrite, rfl⟩
      · obtain ⟨left', expires, hw, hwhy⟩ := Session.why_finish h.closed hstep
        cases h.writer.symm.trans hw
        exact stage_finish h hwhy hmove
      · cases h.writer.symm.trans hw
      · cases h.writer.symm.trans hw
        exact stage_write h hdue hwrite hmove
    | finished h why => exact absurd h.writer hrun

/-- time passes only as long as the frame that is written has some left -/
theorem stage_act_tick (h : w.Stage) : (w.act .tick).Stage := by
  cases hstep : w.session.step w.clock with
  | some s =>
    have hmove : w.move .tick = w := by
      rw [move, hstep]
      rfl
    exact stage_of_unmoved h hmove
  | none =>
    have hmove : w.move .tick = { w with clock := w.clock + 1 } := by
      rw [move, hstep]
      rfl
    cases h with
    | idle before h hsince =>
      have hquiet := Session.quiet_cases_of_open h.closed hstep
      rw [h.writer] at hquiet
      rcases hquiet with hw | ⟨-, hq⟩ | ⟨left, expires, hw, -⟩
      · cases hw
      · have hnext : (w.move .tick).Idle before := by
          rw [hmove]
          exact ⟨h.writer, h.closed, h.writerOpen, h.taken, h.accepted⟩
        refine .idle before hnext.act fun hfront => absurd ?_ hfront
        refine hnext.act.front?_of_queue ?_
        show (w.move .tick).session.queue = []
        rw [hmove]
        exact hq
      · cases hw
    | writing before d left h hdue =>
      have hquiet := Session.quiet_cases_of_open h.closed hstep
      rw [h.writer] at hquiet
      rcases hquiet with hw | ⟨hw, -⟩ | ⟨left', expires, hw, -, hlt⟩
      · cases hw
      · cases hw
      · cases hw
        have hnext : (w.move .tick).Writing before d left (w.since + d.deadline) := by
          rw [hmove]
          exact ⟨h.writer, h.closed, h.writerOpen, h.rest, h.taken, h.length, h.accepted⟩
        have hsince := h.since_act hnext
        refine .writing before d left ?_ ?_
        · rw [hsince]
          exact hnext.act
        · rw [hsince]
          show (w.move .tick).clock ≤ _
          rw [hmove]
          exact hlt
    | finished h why =>
      refine .finished (Finished.act (hmove.symm ▸ ⟨h.writer, h.closed⟩)) (why_act why ?_ ?_ ?_ ?_)
      all_goals rw [hmove]
      · exact id
      · rfl
      · exact Nat.le_succ _

/-- **Every move keeps the writer, the clock and the frame at the front together.** -/
theorem stage_act (h : w.Stage) (m : Move) : (w.act m).Stage := by
  cases m with
  | enqueue d =>
    obtain ⟨more, hu⟩ := undisturbed_enqueue w d
    exact stage_of_undisturbed h hu rfl
  | take n => exact stage_of_undisturbed h (undisturbed_take w n) rfl
  | dropClient => exact stage_of_undisturbed h (undisturbed_dropClient w) rfl
  | write => exact stage_act_write h
  | tick => exact stage_act_tick h

theorem stage_run (h : w.Stage) (ms : List Move) : (w.run ms).Stage := by
  induction ms generalizing w with
  | nil => exact h
  | cons m ms ih => exact ih (stage_act h m)

/-! ## closed sessions -/

/-- an open session that waits has time left for the frame at the front, and someone who may read it -/
theorem Stage.not_why_of_rest (h : w.Stage) (hrest : w.AtRest) (hc : w.session.closed = false) :
    ¬(w.Gone ∨ w.Overdue) := by
  have hquiet := Session.quiet_cases_of_open hc hrest
  cases h with
  | idle before h hsince =>
    rw [h.writer] at hquiet
    rcases hquiet with hw | ⟨-, hq⟩ | ⟨left, expires, hw, -⟩
    · cases hw
    · have hnone := h.front?_of_queue hq
      rintro (⟨-, hsome⟩ | ⟨d, hd, -⟩)
      · exact hsome hnone
      · cases hnone.symm.trans hd
    · cases hw
  | writing before d left h hdue =>
    rw [h.writer] at hquiet
    rcases hquiet with hw | ⟨hw, -⟩ | ⟨left', expires, hw, hblocked, hlt⟩
    · cases hw
    · cases hw
    · cases hw
      rintro (⟨hgone, -⟩ | ⟨d', hd', hover⟩)
      · have hfull := (Pipe.write_eq_blocked_iff _ _).mp hblocked
        rw [Pipe.isFullFor, hgone, Bool.and_false, Bool.false_and, Bool.false_and] at hfull
        cases hfull
      · cases h.front?.symm.trans hd'
        omega
  | finished h why => cases hc.symm.trans h.closed

theorem Stage.closed_iff_of_rest (h : w.Stage) (hrest : w.AtRest) :
    w.session.closed = true ↔ w.Gone ∨ w.Overdue := by
  constructor
  · intro hc
    cases h with
    | idle before h hsince => cases hc.symm.trans h.closed
    | writing before d left h hdue => cases hc.symm.trans h.closed
    | finished h why => exact why
  · intro hwhy
    cases hc : w.session.closed with
    | true => rfl
    | false => exact absurd hwhy (h.not_why_of_rest hrest hc)

/-- nobody but the writer closes the session, as it gives up on the frame at the front -/
theorem Stage.why_of_closes (h : w.Stage) (hc : w.session.closed = false)
    (hnext : (w.act m).session.closed = true) : m = .write ∧ (w.Gone ∨ w.Overdue) := by
  have hopen (hsame : (w.move m).session.closed = w.session.closed) : False := by
    cases (hsame.trans hc).symm.trans hnext
  cases m with
  | enqueue d =>
    obtain ⟨more, hu⟩ := undisturbed_enqueue w d
    exact (hopen hu.closed).elim
  | take n => exact (hopen rfl).elim
  | dropClient => exact (hopen rfl).elim
  | tick =>
    refine (hopen ?_).elim
    rw [move]
    split <;> rfl
  | write =>
    refine ⟨rfl, ?_⟩
    cases hstep : w.session.step w.clock with
    | none => exact (hopen (by rw [move_write_of_rest hstep])).elim
    | some s =>
      obtain ⟨-, rfl | ⟨-, -, d, queue, -, rfl⟩ | ⟨-, left, expires, rest, events, -, -, rfl⟩⟩ :=
        Session.step_cases hstep
      · obtain ⟨left, expires, hw, hwhy⟩ := Session.why_finish hc hstep
        cases h with
        | idle before h hsince => cases h.writer.symm.trans hw
        | writing before d left h hdue =>
          cases h.writer.symm.trans hw
          rcases hwhy with hbroken | ⟨-, hover⟩
          · exact .inl ⟨Pipe.readerOpen_of_broken hbroken h.writerOpen, by rw [h.front?]; exact nofun⟩
          · exact .inr ⟨d, h.front?, hover⟩
        | finished h why => cases h.writer.symm.trans hw
      · exact (hopen (by rw [move_write_of_some hstep])).elim
      · exact (hopen (by rw [move_write_of_some hstep])).elim

/-- no frame is at the front of an open session for longer than its deadline -/
theorem Stage.clock_le (h : w.Stage) (hc : w.session.closed = false) (hd : w.front? = some d) :
    w.clock ≤ w.since + d.deadline := by
  cases h with
  | idle before h hsince =>
    have hnow := hsince (by rw [hd]; exact nofun)
    omega
  | writing before d' left h hdue =>
    cases h.front?.symm.trans hd
    exact hdue
  | finished h why => cases hc.symm.trans h.closed

/-! ## the writer comes to rest -/

theorem clock_act_write (w : Watch) : (w.act .write).clock = w.clock := rfl

theorem session_act_write (w : Watch) : (w.act .write).session = (w.session.step w.clock).getD w.session := rfl

/-- so many moves of the writer are so many steps -/
theorem run_write (n : Nat) (w : Watch) :
    (w.run (List.replicate n .write)).clock = w.clock ∧
      (w.run (List.replicate n .write)).session = w.session.stepTimes w.clock n := by
  induction n generalizing w with
  | zero => exact ⟨rfl, rfl⟩
  | succ n ih =>
    obtain ⟨hclock, hsession⟩ := ih (w.act .write)
    rw [List.replicate_succ, run_cons]
    refine ⟨hclock, hsession.trans ?_⟩
    rw [clock_act_write, session_act_write, Session.stepTimes]
    cases hstep : w.session.step w.clock with
    | none => exact Session.stepTimes_of_rest hstep n
    | some s => rfl

theorem run_write_settle (w : Watch) :
    (w.run (List.replicate w.session.workLeft .write)).session = w.session.settle w.clock :=
  (run_write w.session.workLeft w).2

theorem atRest_run_write (w : Watch) : (w.run (List.replicate w.session.workLeft .write)).AtRest := by
  rw [AtRest, (run_write _ w).1, run_write_settle]
  exact w.session.step_settle w.clock

/-! ## time that passes at once -/

/-- a writer that waits goes on waiting as time passes, whether its time is over in between or not -/
theorem exists_run_wait (hrest : w.AtRest) (ms : Nat) :
    ∃ moves, (w.run moves).clock = w.clock + ms ∧ (w.run moves).session = w.session.settle (w.clock + ms) := by
  induction ms with
  | zero => exact ⟨[], rfl, (Session.settle_of_rest hrest).symm⟩
  | succ ms ih =>
    obtain ⟨moves, hclock, hsession⟩ := ih
    have hwait : (w.run moves).AtRest := by
      rw [AtRest, hclock, hsession]
      exact Session.step_settle _ _
    have htick : ((w.run moves).act .tick).clock = w.clock + (ms + 1) ∧
        ((w.run moves).act .tick).session = w.session.settle (w.clock + ms) := by
      have hmove : (w.run moves).move .tick = { w.run moves with clock := (w.run moves).clock + 1 } := by
        rw [move, hwait]
        rfl
      constructor
      · show ((w.run moves).move .tick).clock = _
        rw [hmove, hclock]
        rfl
      · show ((w.run moves).move .tick).session = _
        rw [hmove]
        exact hsession
    let v := (w.run moves).act .tick
    refine ⟨moves ++ .tick :: List.replicate v.session.workLeft .write, ?_, ?_⟩
    · rw [run_append, run_cons]
      exact (run_write _ v).1.trans htick.1
    · rw [run_append, run_cons]
      refine (run_write_settle v).trans ?_
      rw [htick.1, htick.2]
      exact Session.settle_settle_of_rest hrest (Nat.le_succ _)

/-- time may pass at once, with the writer at work before and behind it -/
theorem exists_run_advance (w : Watch) (ms : Nat) :
    ∃ moves, (w.run moves).clock = w.clock + ms ∧
      (w.run moves).session = (w.session.settle w.clock).settle (w.clock + ms) := by
  obtain ⟨moves, hclock, hsession⟩ := exists_run_wait w.atRest_run_write ms
  rw [(run_write _ w).1] at hclock hsession
  rw [run_write_settle] at hsession
  refine ⟨List.replicate w.session.workLeft .write ++ moves, ?_, ?_⟩
  · rw [run_append]
    exact hclock
  · rw [run_append]
    exact hsession

/-! ## the whole of it -/

/-- what can be said of a session at any time of a run -/
structure CutOff (w : Watch) : Prop where
  /-- a session that is closed was cut off -/
  why : w.session.closed = true → w.Gone ∨ w.Overdue
  /-- it is, as soon as the writer has done what it can -/
  closed : w.AtRest → w.Gone ∨ w.Overdue → w.session.closed = true
  /-- which it has in so many steps, and no time passes before -/
  rest : (w.run (List.replicate w.session.workLeft .write)).AtRest ∧
    (w.run (List.replicate w.session.workLeft .write)).clock = w.clock
  /-- it is the writer that closes it -/
  closes : ∀ m, w.session.closed = false → (w.act m).session.closed = true → m = .write ∧ (w.Gone ∨ w.Overdue)
  inTime : w.session.closed = false → ∀ d, w.front? = some d → w.clock ≤ w.since + d.deadline
  /-- a full queue takes nothing, and that is all -/
  full : w.session.queue.length = queueDepth → ∀ d, w.session.enqueue d = (false, w.session)

/-- **A client is cut off when a frame was at the front for the whole of its deadline, or when there is something to
write and the client is gone, and for no other reason**, whatever its pipe can hold, whatever it reads and however
long the queue is. -/
theorem cut_off_by_deadline (id : SessionId) (token : Option Token) (capacity : Nat) (ms : List Move) :
    CutOff ((ofCapacity id token capacity).run ms) := by
  have hstage := stage_run (stage_ofCapacity id token capacity) ms
  refine ⟨fun hc => ?_, fun hrest => (hstage.closed_iff_of_rest hrest).mpr, ⟨atRest_run_write _, (run_write _ _).1⟩,
    fun m => hstage.why_of_closes, fun hc d => hstage.clock_le hc, fun hfull d => ?_⟩
  · cases hstage with
    | idle before h hsince => cases hc.symm.trans h.closed
    | writing before d left h hdue => cases hc.symm.trans h.closed
    | finished h why => exact why
  · rw [Session.enqueue, if_neg]
    rw [Session.accepts, hfull, decide_eq_false (Nat.lt_irrefl _), Bool.and_false]
    exact Bool.false_ne_true

/-- a second frame waits for longer than its deadline, and has all of it when the first one is through -/
example :
    let w := (ofCapacity ⟨5⟩ none 2).run [.enqueue ⟨[1, 2, 3], 5⟩, .enqueue ⟨[4, 5, 6], 2⟩, .write, .write, .tick, .tick,
      .tick, .tick, .take 2, .write, .write, .write, .tick]
    w.session.closed = false ∧ w.front? = some ⟨[4, 5, 6], 2⟩ ∧ w.since = 4 ∧ w.clock = 5 ∧
      (w.act .tick).session.closed = false ∧ ((w.act .tick).act .write).session.closed = true :=
  ⟨rfl, rfl, rfl, rfl, rfl, rfl⟩

end Watch

end TunnelControl
