import TunnelControl.Proofs.Service.Alike

/-!
# The turns of a loop

The loop of a connection writes a part of an answer, or it reads a part of a request and carries out the one that is
complete with it.  What it does to the rest of the service is what the request comes to, and no more.

* `Service.request? s n`   the request that the loop completes with its next read;
* `Service.carried`        what a request comes to;
* `Service.LoopTurn`       what the loop does next, case by case;
* `loopTurn_of_serveStep`  it does nothing else;
* `LoopTurn.effect`        and the rest of the service takes no notice, but of the request and of the end.
-/

namespace TunnelControl.Service

/-! ## requests -/

/-- the request that the loop of a connection completes with its next read -/
def request? (s : Service) (n : Nat) : Option Method :=
  match s.links[n]? with
  | none => none
  | some l =>
    match l.serving with
    | .reading reader =>
      match (l.requests.take reader.wanted).1 with
      | [] => none
      | piece@(_ :: _) =>
        match reader.feed piece with
        | .payload payload => (decodePayload Method payload).toOption
        | _ => none
    | _ => none

/-- what a request comes to that a session makes -/
def carried (s : Service) (session : Nat) : Option Method → Service
  | none => s
  | some m => (s.dispatch session m).2

/-- the answers to a request, and what it comes to, do not depend on the connections -/
theorem dispatch_withLinks (s : Service) (links : List Link) (session : Nat) (m : Method) :
    ({ s with links }).dispatch session m
      = ((s.dispatch session m).1, { (s.dispatch session m).2 with links }) := by
  have he : ({ s with links }).isElevated session = s.isElevated session := rfl
  cases m with
  | quit stopTunnels =>
    show (quitAnswer (({ s with links }).quit session stopTunnels).1, (({ s with links }).quit session stopTunnels).2)
      = (quitAnswer (s.quit session stopTunnels).1, { (s.quit session stopTunnels).2 with links })
    cases hs : s.isElevated session with
    | false => rw [quit_of_denied hs, quit_of_denied (he.trans hs)]
    | true =>
      obtain hq | hq := Bool.eq_false_or_eq_true s.hasQuit
      · rw [quit_of_hasQuit hs hq, quit_of_hasQuit (he.trans hs) hq]
      · rw [quit_of_first hs hq, quit_of_first (he.trans hs) hq]
  | queryUpdateState => rfl
  | triggerUpdate =>
    show (Answer.acknowledged, ({ s with links }).triggerUpdate session)
      = (Answer.acknowledged, { s.triggerUpdate session with links })
    have htoken : ({ s with links := links } : Service).token? session = s.token? session := rfl
    unfold triggerUpdate
    rw [htoken]
    cases s.token? session <;> rfl
  | startTunnel config =>
    show (operationAnswer (({ s with links }).startTunnel session config).1,
        (({ s with links }).startTunnel session config).2)
      = (operationAnswer (s.startTunnel session config).1, { (s.startTunnel session config).2 with links })
    unfold startTunnel
    rw [he]
    cases s.isElevated session <;> rfl
  | stopTunnel =>
    show (operationAnswer (({ s with links }).stopTunnel session).1, (({ s with links }).stopTunnel session).2)
      = (operationAnswer (s.stopTunnel session).1, { (s.stopTunnel session).2 with links })
    unfold stopTunnel
    rw [he]
    cases s.isElevated session <;> rfl
  | queryTunnelState => rfl

theorem links_dispatch (s : Service) (session : Nat) (m : Method) : (s.dispatch session m).2.links = s.links :=
  congrArg (fun r : Answer × Service => r.2.links) (s.dispatch_withLinks s.links session m)

theorem links_carried (s : Service) (session : Nat) (request : Option Method) :
    (s.carried session request).links = s.links := by
  cases request with
  | none => rfl
  | some m => exact s.links_dispatch session m

/-! ## turns -/

/-- what the loop of a connection does next, with the request that it completes -/
inductive LoopTurn (s : Service) (n : Nat) (l : Link) : Option Method → Service → Prop
  /-- some of the answer is left to write -/
  | writes (left rest : Bytes) (responses : Pipe) (hs : l.serving = .replying left)
      (hw : l.responses.write left = .wrote rest responses) (hr : rest ≠ []) :
      LoopTurn s n l none (s.setLink n { l with responses, serving := .replying rest })
  /-- the answer is written -/
  | written (left : Bytes) (responses : Pipe) (hs : l.serving = .replying left)
      (hw : l.responses.write left = .wrote [] responses) :
      LoopTurn s n l none (s.setLink n { l with responses, serving := .reading .start })
  /-- the answer cannot be written -/
  | unwritten (left : Bytes) (hs : l.serving = .replying left) (hw : l.responses.write left = .broken) :
      LoopTurn s n l none (s.endLink n l)
  /-- the requests have ended -/
  | stops (reader : FrameReader) (hs : l.serving = .reading reader) (ht : (l.requests.take reader.wanted).1 = [])
      (he : l.requests.atEnd = true) : LoopTurn s n l none (s.endLink n l)
  | reads (reader next : FrameReader) (hs : l.serving = .reading reader)
      (ht : (l.requests.take reader.wanted).1 ≠ [])
      (hf : reader.feed (l.requests.take reader.wanted).1 = .more next) :
      LoopTurn s n l none
        (s.setLink n { l with requests := (l.requests.take reader.wanted).2, serving := .reading next })
  | tooLarge (reader : FrameReader) (length : Nat) (hs : l.serving = .reading reader)
      (ht : (l.requests.take reader.wanted).1 ≠ [])
      (hf : reader.feed (l.requests.take reader.wanted).1 = .tooLarge length) :
      LoopTurn s n l none (s.endLink n l)
  | undecodable (reader : FrameReader) (payload : Bytes) (fault : Fault) (hs : l.serving = .reading reader)
      (ht : (l.requests.take reader.wanted).1 ≠ [])
      (hf : reader.feed (l.requests.take reader.wanted).1 = .payload payload)
      (hd : decodePayload Method payload = .error fault) :
      LoopTurn s n l none (s.endLink n { l with requests := (l.requests.take reader.wanted).2 })
  | answers (reader : FrameReader) (payload : Bytes) (m : Method) (frame : Bytes)
      (hs : l.serving = .reading reader) (ht : (l.requests.take reader.wanted).1 ≠ [])
      (hf : reader.feed (l.requests.take reader.wanted).1 = .payload payload)
      (hd : decodePayload Method payload = .ok m) (ha : (s.dispatch l.session m).1.frame = .ok frame) :
      LoopTurn s n l (some m)
        ((s.dispatch l.session m).2.setLink n
          { l with requests := (l.requests.take reader.wanted).2, serving := .replying frame })
  /-- the answer has no frame -/
  | unanswerable (reader : FrameReader) (payload : Bytes) (m : Method) (e : PeerError)
      (hs : l.serving = .reading reader) (ht : (l.requests.take reader.wanted).1 ≠ [])
      (hf : reader.feed (l.requests.take reader.wanted).1 = .payload payload)
      (hd : decodePayload Method payload = .ok m) (ha : (s.dispatch l.session m).1.frame = .error e) :
      LoopTurn s n l (some m)
        ((s.dispatch l.session m).2.endLink n { l with requests := (l.requests.take reader.wanted).2 })

/-- what is set of a connection last is what stays -/
theorem endLink_setLink (s : Service) (n : Nat) (l l' : Link) : (s.setLink n l).endLink n l' = s.endLink n l' := by
  have hset : (s.setLink n l).setLink n l'.hangUp = s.setLink n l'.hangUp := by
    show { s with links := (s.links.set n l).set n l'.hangUp } = { s with links := s.links.set n l'.hangUp }
    rw [List.set_set]
  simp only [endLink, hset]

theorem setLink_setLink (s : Service) (n : Nat) (l l' : Link) : (s.setLink n l).setLink n l' = s.setLink n l' := by
  show { s with links := (s.links.set n l).set n l' } = { s with links := s.links.set n l' }
  rw [List.set_set]

theorem dispatch_setLink (s : Service) (n : Nat) (l : Link) (session : Nat) (m : Method) :
    (s.setLink n l).dispatch session m
      = ((s.dispatch session m).1, (s.dispatch session m).2.setLink n l) := by
  rw [setLink, dispatch_withLinks, setLink, links_dispatch]

theorem loopTurn_reply {s : Service} {n : Nat} {l : Link} {reader : FrameReader} {payload : Bytes} {requests : Pipe}
    (hs : l.serving = .reading reader) (ht : (l.requests.take reader.wanted).1 ≠ [])
    (hf : reader.feed (l.requests.take reader.wanted).1 = .payload payload)
    (hq : (l.requests.take reader.wanted).2 = requests) :
    LoopTurn s n l (decodePayload Method payload).toOption (s.reply n { l with requests } payload) := by
  subst hq
  unfold reply
  cases hd : decodePayload Method payload with
  | error fault => exact .undecodable reader payload fault hs ht hf hd
  | ok m =>
    simp only [dispatch_setLink]
    cases ha : (s.dispatch l.session m).1.frame with
    | ok frame =>
      simp only [setLink_setLink]
      exact .answers reader payload m frame hs ht hf hd ha
    | error e =>
      simp only [endLink_setLink]
      exact .unanswerable reader payload m e hs ht hf hd ha

/-- **The loop of a connection does what `LoopTurn` says, and nothing else.** -/
theorem loopTurn_of_serveStep {s t : Service} {n : Nat} (h : s.serveStep n = some t) :
    ∃ l, s.links[n]? = some l ∧ LoopTurn s n l (s.request? n) t := by
  unfold serveStep at h
  cases hl : s.links[n]? with
  | none =>
    rw [hl] at h
    cases h
  | some l =>
    rw [hl] at h
    refine ⟨l, rfl, ?_⟩
    cases hs : l.serving with
    | ended =>
      simp only [hs] at h
      cases h
    | replying left =>
      have hrequest : s.request? n = none := by simp only [request?, hl, hs]
      rw [hrequest]
      simp only [hs] at h
      cases hw : l.responses.write left with
      | broken =>
        simp only [hw] at h
        cases h
        exact .unwritten left hs hw
      | blocked =>
        simp only [hw] at h
        cases h
      | wrote rest responses =>
        simp only [hw] at h
        cases rest with
        | nil =>
          cases h
          exact .written left responses hs hw
        | cons b rest =>
          cases h
          exact .writes left (b :: rest) responses hs hw nofun
    | reading reader =>
      simp only [hs] at h
      generalize hp : (l.requests.take reader.wanted).1 = piece
      generalize hq : (l.requests.take reader.wanted).2 = requests
      have ht : l.requests.take reader.wanted = (piece, requests) := Prod.ext hp hq
      cases piece with
      | nil =>
        have hrequest : s.request? n = none := by simp only [request?, hl, hs, ht]
        rw [hrequest]
        simp only [ht] at h
        split at h
        · rename_i hend
          cases h
          exact .stops reader hs hp hend
        · cases h
      | cons b piece =>
        have hne : (l.requests.take reader.wanted).1 ≠ [] := hp ▸ nofun
        simp only [ht] at h
        cases hf : reader.feed (b :: piece) with
        | more next =>
          have hrequest : s.request? n = none := by simp only [request?, hl, hs, ht, hf]
          rw [hrequest]
          simp only [hf] at h
          cases h
          rw [← hq]
          exact .reads reader next hs hne (hp ▸ hf)
        | tooLarge length =>
          have hrequest : s.request? n = none := by simp only [request?, hl, hs, ht, hf]
          rw [hrequest]
          simp only [hf] at h
          cases h
          exact .tooLarge reader length hs hne (hp ▸ hf)
        | payload payload =>
          have hrequest : s.request? n = (decodePayload Method payload).toOption := by
            simp only [request?, hl, hs, ht, hf]
          rw [hrequest]
          simp only [hf] at h
          cases h
          rw [← hs]
          exact loopTurn_reply hs hne (hp ▸ hf) hq

theorem serveStep_of_request? {s : Service} {n : Nat} {m : Method} (h : s.request? n = some m) :
    ∃ t, s.serveStep n = some t := by
  unfold request? at h
  unfold serveStep
  cases hl : s.links[n]? with
  | none =>
    rw [hl] at h
    cases h
  | some l =>
    rw [hl] at h
    simp only at h ⊢
    cases hs : l.serving with
    | ended =>
      rw [hs] at h
      cases h
    | replying left =>
      rw [hs] at h
      cases h
    | reading reader =>
      simp only [hs] at h ⊢
      generalize l.requests.take reader.wanted = taken at h ⊢
      obtain ⟨piece, requests⟩ := taken
      cases piece with
      | nil => cases h
      | cons b piece =>
        simp only
        cases reader.feed (b :: piece) with
        | more next => exact ⟨_, rfl⟩
        | tooLarge length => exact ⟨_, rfl⟩
        | payload payload => exact ⟨_, rfl⟩

/-- nothing of a service becomes different but one connection, and who is a member as that ends -/
inductive OwnOnly (s : Service) (n : Nat) (l : Link) : Service → Prop
  | goesOn (l' : Link) (session : l'.session = l.session) (serving : l'.serving ≠ .ended) :
      OwnOnly s n l (s.setLink n l')
  | ends (l' : Link) (session : l'.session = l.session) : OwnOnly s n l (s.endLink n l')

/-- **The rest of the service takes no notice of a turn, but of the request that is complete with it, and of the
end.** -/
theorem LoopTurn.effect {s t : Service} {n : Nat} {l : Link} {request : Option Method}
    (h : LoopTurn s n l request t) : OwnOnly (s.carried l.session request) n l t := by
  cases h with
  | writes left rest responses hs hw hr => exact .goesOn _ rfl nofun
  | written left responses hs hw => exact .goesOn _ rfl nofun
  | unwritten left hs hw => exact .ends _ rfl
  | stops reader hs ht he => exact .ends _ rfl
  | reads reader next hs ht hf => exact .goesOn _ rfl nofun
  | tooLarge reader length hs ht hf => exact .ends _ rfl
  | undecodable reader payload fault hs ht hf hd => exact .ends _ rfl
  | answers reader payload m frame hs ht hf hd ha => exact .goesOn _ rfl nofun
  | unanswerable reader payload m e hs ht hf hd ha => exact .ends _ rfl

end TunnelControl.Service
