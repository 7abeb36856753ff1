import TunnelControl.Service.Calls

/-!
# Peers that speak bytes

The client's end of a connection may be in the hands of anyone, who writes bytes to it and reads bytes from
it as he likes.

* `Site.send`       writes bytes as the service takes them;
* `Site.receive`    reads the bytes of answers;
* `Site.converse`   writes, and reads whatever is answered meanwhile.
-/

namespace TunnelControl.Site

def link? (s : Site) (n : Nat) : Option Link := s.service.links[n]?

/-- changes the pipes of a connection -/
def changeLink (s : Site) (n : Nat) (change : Link → Link) : Site :=
  { s with service := { s.service with links := s.service.links.modify n change } }

def endRequests (s : Site) (n : Nat) : Site :=
  s.changeLink n fun l => { l with requests := l.requests.closeWriter }

/-- the client's end of a connection is gone -/
def dropRequests (s : Site) (n : Nat) : Site :=
  s.changeLink n fun l =>
    { l with requests := l.requests.closeWriter, responses := l.responses.closeReader }

def isServed (s : Site) (n : Nat) : Bool := (s.link? n).any fun l => l.serving ≠ .ended

/-- nothing more will be answered -/
def answersEnded (s : Site) (n : Nat) : Bool := (s.link? n).any fun l => l.responses.atEnd

/-- what comes of writing to the service -/
inductive Sent
  /-- it takes nothing any more -/
  | gone
  /-- it takes nothing now -/
  | stuck
  /-- what is left to write -/
  | left (bytes : Bytes)

/-- writes as much as the service takes at a time -/
def write (s : Site) (n : Nat) (data : Bytes) : Sent × Site :=
  match (s.link? n).map fun l => Pipe.write l.requests data with
  | some (Written.wrote left requests) =>
    (.left left, (s.changeLink n fun l => { l with requests }).settle)
  | some Written.blocked => (.stuck, s)
  | _ => (.gone, s)

/-- reads what is there, at most so many bytes -/
def read (s : Site) (n : Nat) (limit : Option Nat) : Bytes × Site :=
  match s.link? n with
  | none => ([], s)
  | some l =>
    let (piece, responses) := l.responses.take (limit.getD l.responses.size)
    (piece, if piece.isEmpty then s else (s.changeLink n fun l => { l with responses }).settle)

/-- reads on as long as there is something to read, up to a limit -/
def receiveFor : Nat → Nat → Option Nat → Site → Bytes × Site
  | 0, _, _, s => ([], s)
  | fuel + 1, n, limit, s =>
    match s.read n limit with
    | ([], s) => ([], s)
    | (piece@(_ :: _), s) =>
      let (rest, s) := receiveFor fuel n (limit.map (· - piece.length)) s
      (piece ++ rest, s)

/-- an answer to each byte of a request is more than there can be -/
def answerWork (s : Site) (n : Nat) : Nat :=
  match s.link? n with
  | none => 0
  | some l => (l.requests.size + 2) * (maxPayload + 4) + l.responses.size

def receive (s : Site) (n : Nat) (limit : Option Nat) : Bytes × Site :=
  receiveFor (s.answerWork n) n limit s

/-- writes until all is written, or the service takes no more; whether all was written -/
def sendFor : Nat → Nat → Bytes → Site → Bool × Site
  | 0, _, _, s => (false, s)
  | fuel + 1, n, data, s =>
    match s.write n data with
    | (.left [], s) => (true, s)
    | (.left left@(_ :: _), s) => sendFor fuel n left s
    | (_, s) => (false, s)

def send (s : Site) (n : Nat) (data : Bytes) : Bool × Site := sendFor (data.length + 1) n data s

/-- writes as much as the service takes, and reads what it answers, again and again; whether all was
written, and all that was answered -/
def converseFor : Nat → Nat → Bytes → Site → Bool × Bytes × Site
  | 0, _, _, s => (false, [], s)
  | fuel + 1, n, data, s =>
    let (sent, s) := s.write n data
    let (bytes, s) := s.receive n none
    let goOn (data : Bytes) : Bool × Bytes × Site :=
      let (done, more, s) := converseFor fuel n data s
      (done, bytes ++ more, s)
    match sent, bytes with
    | .left [], _ => (true, bytes, s)
    | .left left@(_ :: _), _ => goOn left
    | .stuck, _ :: _ => goOn data
    | _, _ => (false, bytes, s)

/-- each round writes a byte of the request or reads one of its answers -/
def converse (s : Site) (n : Nat) (data : Bytes) : Bool × Bytes × Site :=
  converseFor (data.length * (maxPayload + 5) + s.answerWork n + 1) n data s

/-- whether an installation is kept open, so that it may report more progress -/
def canReport (s : Site) (run : Nat) : Bool :=
  (s.service.relay? run).any fun r => r.stream.senderOpen

/-- more progress of an installation that is kept open; whether its relay listens -/
def report (s : Site) (run : Nat) (item : Progress) : Bool × Site :=
  match s.service.relay? run with
  | some r =>
    if r.listening && r.stream.senderOpen then
      let stream := { r.stream with waiting := r.stream.waiting ++ [item] }
      (true, { s with service := s.service.setRelay run { r with stream } })
    else (false, s)
  | none => (false, s)

/-- the installations report no more -/
def endReports (s : Site) : Site :=
  let ended := s.service.relays.map fun (n, r) => (n, r.endStream)
  { s with service := { s.service with relays := ended.filter fun (_, r) => !r.isOver } }

end TunnelControl.Site
