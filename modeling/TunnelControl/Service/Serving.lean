import TunnelControl.Service.Basic

/-!
# Serving sessions

Each session that the hub takes has a loop of its own, which reads a request, carries it out and writes
the answer, again and again, until the requests end or something is wrong with one of them or with its
answer.  Then the session leaves the hub.

* `Service.serveStep`   what the loop of a session does next: it reads once, and carries out the request that
  is complete with it, or it writes once;
* `Service.serve`       takes up a session.
-/

namespace TunnelControl.Service

/-! ## the loop of a session -/

def setLink (s : Service) (n : Nat) (l : Link) : Service := { s with links := s.links.set n l }

/-- the loop is over, and the session leaves -/
def endLink (s : Service) (n : Nat) (l : Link) : Service :=
  let s := s.setLink n l.hangUp
  match s.hub.session? l.session with
  | some session => { s with hub := (s.hub.leave session.id).2 }
  | none => s

/-- begins to write the answer to a request -/
def reply (s : Service) (n : Nat) (l : Link) (payload : Bytes) : Service :=
  match decodePayload Method payload with
  | .error _ => s.endLink n l
  | .ok m =>
    let (answer, s) := (s.setLink n l).dispatch l.session m
    match answer.frame with
    | .ok frame => s.setLink n { l with serving := .replying frame }
    | .error _ => s.endLink n l

/-- what the loop of a connection does next -/
def serveStep (s : Service) (n : Nat) : Option Service :=
  match s.links[n]? with
  | none => none
  | some l =>
    match l.serving with
    | .ended => none
    | .replying left =>
      match l.responses.write left with
      | .wrote [] responses => some (s.setLink n { l with serving := .reading .start, responses })
      | .wrote left@(_ :: _) responses =>
        some (s.setLink n { l with serving := .replying left, responses })
      | .blocked => none
      | .broken => some (s.endLink n l)
    | .reading reader =>
      match l.requests.take reader.wanted with
      | ([], _) => if l.requests.atEnd then some (s.endLink n l) else none
      | (piece@(_ :: _), requests) =>
        match reader.feed piece with
        | .more reader => some (s.setLink n { l with requests, serving := .reading reader })
        | .tooLarge _ => some (s.endLink n l)
        | .payload payload => some (s.reply n { l with requests } payload)

/-- takes up a session that has been created, with pipes for its requests; a hub that has been drained
refuses it.  The number of the connection goes with it. -/
def serve (s : Service) (session capacity : Nat) : Bool × Nat × Service :=
  let l : Link := { session, requests := .ofCapacity capacity, responses := .ofCapacity capacity }
  let n := s.links.length
  match s.hub.join session with
  | (true, hub) => (true, n, { s with hub, links := s.links ++ [l] })
  | (false, hub) => (false, n, { s with hub, links := s.links ++ [l.hangUp] })

/-- a loop that has ended stays so -/
theorem serveStep_ended {s : Service} {n : Nat} {l : Link} (hl : s.links[n]? = some l)
    (h : l.serving = .ended) : s.serveStep n = none := by
  simp [serveStep, hl, h]

end TunnelControl.Service
