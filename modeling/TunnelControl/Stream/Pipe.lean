import TunnelControl.Stream.Backlog

/-!
# Pipes

A pipe carries bytes from a writer to a reader and holds so many of them unread.  Either end may be closed:
a pipe without a reader refuses every byte, and a pipe without a writer ends behind its last byte.

* `Pipe.write`   as much of some bytes as there is room for;
* `Pipe.take`    as many unread bytes as are wanted.

`content_write` and `take_append` say that no byte is lost or changed on the way, `capacity_write` and
`capacity_take` that what a pipe can hold stays the same.
-/

namespace TunnelControl

structure Pipe where
  /-- how many unread bytes it could hold besides those it holds -/
  room : Nat
  unread : Backlog := {}
  writerOpen : Bool := true
  readerOpen : Bool := true
  deriving DecidableEq, Repr

/-- what comes of writing -/
inductive Written
  /-- an end is closed -/
  | broken
  /-- there is no room for the first byte -/
  | blocked
  /-- what is left to write, and the pipe with all that came before -/
  | wrote (left : Bytes) (pipe : Pipe)
  deriving DecidableEq, Repr

namespace Pipe

/-- a pipe in which nothing has been written -/
def ofCapacity (capacity : Nat) : Pipe := { room := capacity }

/-- the bytes that were written and not yet read -/
def content (p : Pipe) : Bytes := p.unread.toList

/-- how many bytes may be unread -/
def capacity (p : Pipe) : Nat := p.room + p.content.length

/-- whether there is nothing to read now -/
def isEmpty (p : Pipe) : Bool := p.unread.isEmpty

/-- how many bytes there are to read now -/
def size (p : Pipe) : Nat := p.unread.length

/-- whether writing some bytes would have to wait for the reader -/
def isFullFor (p : Pipe) (data : Bytes) : Bool :=
  !data.isEmpty && p.readerOpen && p.writerOpen && p.room = 0

/-- to write nothing never fails -/
def write (p : Pipe) (data : Bytes) : Written :=
  if data.isEmpty then .wrote [] p
  else if !p.readerOpen || !p.writerOpen then .broken
  else if p.room = 0 then .blocked
  else
    let (piece, left) := data.splitAt p.room
    .wrote left { p with room := p.room - piece.length, unread := p.unread.add piece }

/-- the next bytes, at most `n` of them -/
def take (p : Pipe) (n : Nat) : Bytes × Pipe :=
  let (piece, unread) := p.unread.take n
  (piece, { p with room := p.room + piece.length, unread })

/-- nothing is there, and nothing will come -/
def atEnd (p : Pipe) : Bool := p.isEmpty && !p.writerOpen

def closeWriter (p : Pipe) : Pipe := { p with writerOpen := false }

def closeReader (p : Pipe) : Pipe := { p with readerOpen := false }

theorem isEmpty_eq (p : Pipe) : p.isEmpty = p.content.isEmpty := p.unread.isEmpty_eq

theorem size_eq (p : Pipe) : p.size = p.content.length := p.unread.length_eq

@[simp] theorem content_ofCapacity (capacity : Nat) : (ofCapacity capacity).content = [] := rfl

theorem take_fst (p : Pipe) (n : Nat) : (p.take n).1 = p.content.take n := p.unread.take_fst n

@[simp] theorem content_take (p : Pipe) (n : Nat) : (p.take n).2.content = p.content.drop n :=
  p.unread.toList_take n

theorem take_append (p : Pipe) (n : Nat) : (p.take n).1 ++ (p.take n).2.content = p.content := by
  rw [take_fst, content_take, List.take_append_drop]

theorem capacity_take (p : Pipe) (n : Nat) : (p.take n).2.capacity = p.capacity := by
  have h := congrArg List.length (p.take_append n)
  rw [List.length_append] at h
  have hr : (p.take n).2.room = p.room + (p.take n).1.length := rfl
  rw [capacity, capacity, hr]
  omega

/-- what was written lies behind what was unread, and what is left behind that -/
theorem content_write {p q : Pipe} {data left : Bytes} (h : p.write data = .wrote left q) :
    q.content ++ left = p.content ++ data := by
  unfold write at h
  split at h
  · rename_i he
    cases h
    simp [List.isEmpty_iff.mp he]
  · split at h
    · cases h
    · split at h
      · cases h
      · rw [List.splitAt_eq] at h
        cases h
        simp only [content, Backlog.toList_add, List.append_assoc, List.take_append_drop]

theorem capacity_write {p q : Pipe} {data left : Bytes} (h : p.write data = .wrote left q) :
    q.capacity = p.capacity := by
  unfold write at h
  split at h
  · cases h
    rfl
  · split at h
    · cases h
    · split at h
      · cases h
      · rw [List.splitAt_eq] at h
        cases h
        simp only [capacity, content, Backlog.toList_add, List.length_append, List.length_take]
        omega

theorem write_eq_blocked_iff (p : Pipe) (data : Bytes) : p.write data = .blocked ↔ p.isFullFor data := by
  unfold write isFullFor
  cases data.isEmpty <;> cases p.readerOpen <;> cases p.writerOpen <;> simp

theorem write_nil (p : Pipe) : p.write [] = .wrote [] p := rfl

@[simp] theorem content_closeWriter (p : Pipe) : p.closeWriter.content = p.content := rfl
@[simp] theorem content_closeReader (p : Pipe) : p.closeReader.content = p.content := rfl

end Pipe

end TunnelControl
