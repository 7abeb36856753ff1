import TunnelControl.Connection.Policy
import TunnelControl.Message.Basic
import TunnelControl.Stream.Pipe

/-!
# Sessions and their events streams

A session has a stream of events.  Frames for it wait in a queue, and a writer takes them off one at a time
and writes each to the stream within the time that came with it.  A frame that is cut short, by the
time or by the client, closes the session, and nothing follows it on the stream.

* `Session.enqueue`   puts a frame into the queue;
* `Session.step`      what the writer does next, if it can do anything;
* `Session.settle`    all that the writer can do at a time;
* `Session.receive`   what a client can read at a time.
-/

namespace TunnelControl

structure QueuedFrame where
  frame : Bytes
  /-- how long writing it may take, in milliseconds -/
  deadline : Nat
  deriving DecidableEq, Repr

/-- how many deliveries may wait; the one that is being written is not one of them -/
def queueDepth : Nat := 128

inductive EventWriter
  | idle
  /-- so much of a frame is left to write, until a time -/
  | writing (left : Bytes) (expires : Nat)
  | finished
  deriving DecidableEq, Repr

structure Session where
  id : SessionId
  token : Option Token
  closed : Bool := false
  queue : List QueuedFrame := []
  writer : EventWriter := .idle
  events : Pipe
  deriving Repr

namespace Session

def isElevated (s : Session) : Bool := s.token.isSome

/-- the writer notices by itself that the session is closed -/
def close (s : Session) : Session := { s with closed := true }

/-- whether the session takes a delivery -/
def accepts (s : Session) : Bool := !s.closed && s.queue.length < queueDepth

def enqueue (s : Session) (d : QueuedFrame) : Bool × Session :=
  if s.accepts then (true, { s with queue := s.queue ++ [d] }) else (false, s)

/-! ## the writer -/

/-- the writer stops, the stream ends, and what waits is dropped -/
def finish (s : Session) : Session :=
  { s with queue := [], writer := .finished, events := s.events.closeWriter }

/-- what the writer does next at a time, or nothing: it takes a frame off the queue or writes a part of it -/
def step (clock : Nat) (s : Session) : Option Session :=
  match s.writer with
  | .finished => none
  | .idle =>
    if s.closed then some s.finish
    else match s.queue with
      | [] => none
      | d :: queue =>
        let writer := if d.frame.isEmpty then .idle else .writing d.frame (clock + d.deadline)
        some { s with queue, writer }
  | .writing left expires =>
    if s.closed then some s.finish
    else match s.events.write left with
      | .wrote [] events => some { s with writer := .idle, events }
      | .wrote left@(_ :: _) events => some { s with writer := .writing left expires, events }
      | .blocked => if expires ≤ clock then some s.close.finish else none
      | .broken => some s.close.finish

/-- whether the writer can do anything at a time -/
def canGoOn (clock : Nat) (s : Session) : Bool :=
  match s.writer with
  | .finished => false
  | .idle => s.closed || !s.queue.isEmpty
  | .writing left expires => s.closed || !s.events.isFullFor left || expires ≤ clock

def stepTimes (clock : Nat) : Nat → Session → Session
  | 0, s => s
  | n + 1, s =>
    match s.step clock with
    | none => s
    | some s => stepTimes clock n s

/-- each delivery takes three steps at most, and the end of the stream takes one -/
def workLeft (s : Session) : Nat := 3 * s.queue.length + 5

/-- all that the writer can do at a time -/
def settle (clock : Nat) (s : Session) : Session := stepTimes clock s.workLeft s

/-- when the writer gives up, if nobody reads -/
def timer (s : Session) : Option Nat :=
  match s.writer with
  | .writing _ expires => if s.closed then none else some expires
  | _ => none

/-! ## the client's end -/

/-- the bytes on their way to the client -/
def undelivered (s : Session) : Nat :=
  let writing := match s.writer with
    | .writing left _ => left.length
    | _ => 0
  s.queue.foldl (fun n d => n + d.frame.length) (s.events.size + writing)

/-- reads on while there is something to read, up to a limit; the pieces are kept newest first -/
def receiveFrom (clock : Nat) : Nat → List Bytes → Nat → Session → List Bytes × Session
  | 0, pieces, _, s => (pieces, s)
  | fuel + 1, pieces, limit, s =>
    match s.events.take limit with
    | ([], _) => (pieces, s)
    | (piece@(_ :: _), events) =>
      receiveFrom clock fuel (piece :: pieces) (limit - piece.length)
        ({ s with events }.settle clock)

/-- what a client can read at a time, at most so many bytes: as it reads, the writer goes on -/
def receive (clock : Nat) (limit : Option Nat) (s : Session) : Bytes × Session :=
  let pending := s.undelivered
  let (pieces, s) := receiveFrom clock (pending + 1) [] (limit.getD pending) s
  (pieces.reverse.flatten, s)

/-- the client goes away -/
def dropClient (s : Session) : Session := { s with events := s.events.closeReader }

theorem stepTimes_zero (clock : Nat) (s : Session) : stepTimes clock 0 s = s := rfl

theorem step_finished {clock : Nat} {s : Session} (h : s.writer = .finished) : s.step clock = none := by
  unfold step
  rw [h]

theorem canGoOn_eq (clock : Nat) (s : Session) : s.canGoOn clock = (s.step clock).isSome := by
  unfold canGoOn step
  split
  · rfl
  · cases s.closed <;> cases s.queue <;> rfl
  · rename_i left expires _
    cases s.closed
    · have h := s.events.write_eq_blocked_iff left
      cases hw : s.events.write left with
      | blocked =>
        rw [h.mp hw]
        by_cases he : expires ≤ clock <;> simp [he]
      | broken =>
        have : s.events.isFullFor left = false := by
          cases hf : s.events.isFullFor left
          · rfl
          · rw [h.mpr hf] at hw
            cases hw
        simp [this]
      | wrote left' events =>
        have : s.events.isFullFor left = false := by
          cases hf : s.events.isFullFor left
          · rfl
          · rw [h.mpr hf] at hw
            cases hw
        cases left' <;> simp [this]
    · simp

theorem enqueue_fst (s : Session) (d : QueuedFrame) : (s.enqueue d).1 = s.accepts := by
  unfold enqueue
  split <;> rename_i h <;> simp [h]

end Session

end TunnelControl
