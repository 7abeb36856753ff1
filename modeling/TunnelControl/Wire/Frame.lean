import TunnelControl.Wire.Form

/-!
# Frames on a byte stream

A frame is the length of a payload in four bytes and then the payload.  `FrameReader` takes frames off
a stream that arrives in pieces: it asks for so many bytes (`FrameReader.wanted`), is fed at most that many
(`FrameReader.feed`) and so never takes a byte that belongs to the next frame.

* `frame payload`        the bytes of a frame;
* `nextFrame source`     the next frame of a `Source`, a list of pieces with an `Ending`.
-/

namespace TunnelControl

/-- the bytes of the frame that holds a payload -/
def frame (payload : Bytes) : Bytes := littleEndian 4 payload.length ++ payload

/-- why the bytes of a stream hold no further frame -/
inductive FrameFault
  /-- the stream ends behind so many bytes of a header -/
  | headerCut (got : Nat)
  /-- the header announces more than a payload may hold -/
  | tooLarge (length : Nat)
  /-- the stream ends inside a payload -/
  | bodyCut (length : Nat)
  deriving DecidableEq, Repr

def FrameFault.message : FrameFault → String
  | .headerCut got => s!"Truncated frame header ({got} of 4 bytes)"
  | .tooLarge length => s!"Message too large: {length} bytes"
  | .bodyCut length => s!"Truncated frame body (expected {length} bytes)"

/-- the part of a frame that has arrived; the bytes of a body are kept newest first -/
inductive FrameReader
  | header (got : Bytes)
  | body (length missing : Nat) (got : Bytes)
  deriving DecidableEq, Repr

namespace FrameReader

/-- nothing of the next frame has arrived -/
def start : FrameReader := .header []

/-- how many bytes the reader would take now -/
def wanted : FrameReader → Nat
  | .header got => 4 - got.length
  | .body _ missing _ => missing

/-- what becomes of a reader that is given some of the bytes it wanted -/
inductive Outcome
  | more (reader : FrameReader)
  | payload (payload : Bytes)
  | tooLarge (length : Nat)
  deriving DecidableEq, Repr

def feed : FrameReader → Bytes → Outcome
  | .header got, piece =>
    let got := got ++ piece
    if got.length < 4 then .more (.header got)
    else
      let length := ofLittleEndian got
      if maxPayload < length then .tooLarge length
      else if length = 0 then .payload []
      else .more (.body length length [])
  | .body length missing got, piece =>
    let got := piece.reverseAux got
    if piece.length < missing then .more (.body length (missing - piece.length) got)
    else .payload got.reverse

/-- what becomes of a reader that is given as much of a piece as it wants, and what it does not take; behind
a header it begins with the body -/
def feedPiece (reader : FrameReader) (piece : Bytes) : Outcome × Bytes :=
  let (now, left) := piece.splitAt reader.wanted
  match reader.feed now with
  | .more reader =>
    let (now, left) := left.splitAt reader.wanted
    (reader.feed now, left)
  | outcome => (outcome, left)

/-- what it means that the stream ends now; nothing is wrong between two frames -/
def atEnd : FrameReader → Option FrameFault
  | .header got => if got.isEmpty then none else some (.headerCut got.length)
  | .body length _ _ => some (.bodyCut length)

end FrameReader

/-! ## streams in pieces -/

/-- how a stream ends: its writer is done, or reading fails with an error other than that of an early end -/
inductive Ending
  | clean
  | broken (reason : String)
  deriving DecidableEq, Repr

/-- the pieces in which a stream will arrive, and its ending -/
structure Source where
  pieces : List Bytes
  ending : Ending
  deriving Repr

namespace Source

/-- the bytes still to come -/
def content (s : Source) : Bytes := s.pieces.flatten

def ofBytes (bs : Bytes) : Source := ⟨[bs], .clean⟩

end Source

/-- what reading the next frame of a stream gives -/
inductive FrameResult
  | payload (payload : Bytes)
  | fault (fault : FrameFault)
  | broken (reason : String)
  | clean
  deriving DecidableEq, Repr

/-- what the end of a stream means to a reader -/
def Ending.meaning (reader : FrameReader) : Ending → FrameResult
  | .broken reason => .broken reason
  | .clean =>
    match reader.atEnd with
    | none => .clean
    | some fault => .fault fault

/-- reads on, piece by piece, until the frame is complete or the stream ends -/
def readFrom (ending : Ending) : FrameReader → List Bytes → FrameResult × Source
  | reader, [] => (ending.meaning reader, ⟨[], ending⟩)
  | reader, piece :: pieces =>
    match reader.feedPiece piece with
    | (.more reader, _) => readFrom ending reader pieces
    | (.payload payload, left) => (.payload payload, ⟨left :: pieces, ending⟩)
    | (.tooLarge length, left) => (.fault (.tooLarge length), ⟨left :: pieces, ending⟩)

/-- the next frame of a stream -/
def nextFrame (source : Source) : FrameResult × Source :=
  readFrom source.ending .start source.pieces

end TunnelControl
