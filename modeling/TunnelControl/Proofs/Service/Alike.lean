import TunnelControl.Proofs.Service.Membership
import TunnelControl.Proofs.Session.Alike

/-!
# Services that differ in one session

* `Service.AlikeBut u s t`   two services that differ in nothing but one session and its connections;
* `AlikeBut.dispatch`        a method comes to the same at both, and keeps them so;
* `AlikeBut.serveStep`       so does what the loop of another session does;
* `Service.Operates s t`     the connections stay, and the hub becomes what actions on it make of it.
-/

namespace TunnelControl

namespace Service

/-! ## what an operation does to the hub -/

theorem publishEach_eq (states : List TunnelState) (h : Hub) :
    publishEach h states = (states.map fun state => .publish (.tunnelStateChanged state) false).foldl Hub.act h := by
  induction states generalizing h with
  | nil => rfl
  | cons state states ih => exact ih (h.publish (.tunnelStateChanged state) false).2

theorem quit_of_hasQuit {s : Service} {handle : Nat} (he : s.isElevated handle = true) (hq : s.hasQuit = true)
    (stopTunnels : Bool) : s.quit handle stopTunnels = (.ok true, s) := by
  simp only [quit, quitSteps, quitStep, he, hq, if_true]

/-- the first to quit closes its own session and empties the hub -/
theorem quit_of_first {s : Service} {handle : Nat} (he : s.isElevated handle = true) (hq : s.hasQuit = false)
    (stopTunnels : Bool) :
    s.quit handle stopTunnels
      = (.ok false, { s with
          hasQuit := true, signal := true, hub := [.close handle, .drain].foldl Hub.act s.hub
          teardowns := s.teardowns + stopTunnels.toNat }) := by
  cases stopTunnels <;>
    simp only [quit, quitSteps, quitStep, he, hq, if_true, if_false, Bool.false_eq_true] <;> rfl

theorem quit_of_denied {s : Service} {handle : Nat} (he : s.isElevated handle = false) (stopTunnels : Bool) :
    s.quit handle stopTunnels = (.error .accessDenied, s) := by
  simp only [quit, quitSteps, quitStep, he, Bool.false_eq_true, if_false]

/-! ## services that are alike -/

/-- all of a service besides its hub and its connections is the same -/
structure AlikeBut (u : Nat) (s t : Service) : Prop where
  hub : s.hub.AlikeBut u t.hub
  sessions : ∀ n : Nat, t.links[n]?.map Link.session = s.links[n]?.map Link.session
  links : ∀ (n : Nat) (l : Link), s.links[n]? = some l → l.session ≠ u → t.links[n]? = some l
  rest : { t with hub := s.hub, links := s.links } = s

namespace AlikeBut

variable {u : Nat} {s t : Service}

theorem refl (hm : s.hub.MembersSound) : s.AlikeBut u s := ⟨.refl hm, fun _ => rfl, fun _ _ hl _ => hl, rfl⟩

theorem exists_link (h : s.AlikeBut u t) {n : Nat} {l : Link} (hl : s.links[n]? = some l) :
    ∃ m, t.links[n]? = some m ∧ m.session = l.session := by
  have hsession := h.sessions n
  rw [hl, Option.map_some] at hsession
  exact Option.map_eq_some_iff.mp hsession

theorem symm (h : s.AlikeBut u t) : t.AlikeBut u s := by
  refine ⟨h.hub.symm, fun n => (h.sessions n).symm, ?_, ?_⟩
  · intro n l hl hne
    have hsession := h.sessions n
    rw [hl, Option.map_some] at hsession
    obtain ⟨m, hm, hms⟩ := Option.map_eq_some_iff.mp hsession.symm
    have hsame := h.links n m hm (hms ▸ hne)
    cases hl.symm.trans hsame
    exact hm
  · exact congrArg (fun s : Service => { s with hub := t.hub, links := t.links }) h.rest.symm

theorem token? (h : s.AlikeBut u t) (handle : Nat) : t.token? handle = s.token? handle := by
  have hface : t.hub.face handle = s.hub.face handle := by
    by_cases hu : handle = u
    · rw [hu]
      exact h.hub.face
    · rw [Hub.face, Hub.face, h.hub.session? hu]
  have htoken (s : Service) : s.token? handle = (s.hub.face handle).bind Prod.snd := by
    rw [Service.token?, Hub.face, Option.bind_map]
    rfl
  rw [htoken, htoken, hface]

theorem isElevated (h : s.AlikeBut u t) (handle : Nat) : t.isElevated handle = s.isElevated handle := by
  rw [Service.isElevated, Service.isElevated, h.token?]

theorem withHub (h : s.AlikeBut u t) {j k : Hub} (hub : j.AlikeBut u k) :
    AlikeBut u { s with hub := j } { t with hub := k } :=
  ⟨hub, h.sessions, h.links, congrArg (fun s : Service => { s with hub := j }) h.rest⟩

/-- what becomes of both besides their hubs and their connections -/
theorem withRest (h : s.AlikeBut u t) {f : Service → Service}
    (hf : ∀ s h ls, f { s with hub := h, links := ls } = { f s with hub := h, links := ls }) :
    AlikeBut u (f s) (f t) := by
  have hsame (s : Service) : f s = { f s with hub := s.hub, links := s.links } := hf s s.hub s.links
  rw [hsame s, hsame t]
  refine ⟨h.hub, h.sessions, h.links, ?_⟩
  have hrest := congrArg f h.rest
  rw [hf, hsame s] at hrest
  exact hrest

/-- both set the same connection -/
theorem setLink (h : s.AlikeBut u t) {n : Nat} {l : Link} (hl : s.links[n]? = some l) (l' : Link) :
    (s.setLink n l').AlikeBut u (t.setLink n l') := by
  obtain ⟨m, hm, hms⟩ := h.exists_link hl
  have hn : n < s.links.length := (List.getElem?_eq_some_iff.mp hl).1
  have hn' : n < t.links.length := (List.getElem?_eq_some_iff.mp hm).1
  refine ⟨h.hub, fun j => ?_, fun j k hk hne => ?_, ?_⟩
  · show (t.links.set n l')[j]?.map _ = (s.links.set n l')[j]?.map _
    by_cases hj : n = j
    · subst hj
      rw [List.getElem?_set_self hn, List.getElem?_set_self hn']
    · rw [List.getElem?_set_ne hj, List.getElem?_set_ne hj]
      exact h.sessions j
  · show (t.links.set n l')[j]? = some k
    have hk : (s.links.set n l')[j]? = some k := hk
    by_cases hj : n = j
    · subst hj
      rw [List.getElem?_set_self hn] at hk
      rw [List.getElem?_set_self hn']
      exact hk
    · rw [List.getElem?_set_ne hj] at hk ⊢
      exact h.links j k hk hne
  · exact congrArg (fun r : Service => { r with links := s.links.set n l' }) h.rest

/-- what the loop of another session does as it ends, it does at both -/
theorem endLink (h : s.AlikeBut u t) {n : Nat} {l l' : Link} (hl : s.links[n]? = some l)
    (hs : l'.session = l.session) (hne : l.session ≠ u) : (s.endLink n l').AlikeBut u (t.endLink n l') := by
  have hset := h.setLink hl l'.hangUp
  have hsession : t.hub.session? l'.session = s.hub.session? l'.session := h.hub.session? (hs ▸ hne)
  simp only [Service.endLink]
  rw [show (t.setLink n l'.hangUp).hub = t.hub from rfl, show (s.setLink n l'.hangUp).hub = s.hub from rfl, hsession]
  cases s.hub.session? l'.session with
  | none => exact hset
  | some x => exact hset.withHub (h.hub.act (.leave x.id))

/-- what is told of a service besides its hub and its connections -/
theorem eq_of_rest (h : s.AlikeBut u t) {α : Type} (f : Service → α)
    (hf : ∀ s h ls, f { s with hub := h, links := ls } = f s) : f t = f s := by
  have hrest := congrArg f h.rest
  rw [hf] at hrest
  exact hrest

theorem tunnel (h : s.AlikeBut u t) : t.tunnel = s.tunnel := h.eq_of_rest Service.tunnel fun _ _ _ => rfl

theorem hasQuit (h : s.AlikeBut u t) : t.hasQuit = s.hasQuit := h.eq_of_rest Service.hasQuit fun _ _ _ => rfl

theorem quit (h : s.AlikeBut u t) (handle : Nat) (stopTunnels : Bool) :
    (t.quit handle stopTunnels).1 = (s.quit handle stopTunnels).1 ∧
      (s.quit handle stopTunnels).2.AlikeBut u (t.quit handle stopTunnels).2 := by
  have helevated := h.isElevated handle
  cases he : s.isElevated handle with
  | false =>
    rw [quit_of_denied he, quit_of_denied (helevated.trans he)]
    exact ⟨rfl, h⟩
  | true =>
    cases hq : s.hasQuit with
    | true =>
      rw [quit_of_hasQuit he hq, quit_of_hasQuit (helevated.trans he) (h.hasQuit.trans hq)]
      exact ⟨rfl, h⟩
    | false =>
      rw [quit_of_first he hq, quit_of_first (helevated.trans he) (h.hasQuit.trans hq)]
      refine ⟨rfl, ?_⟩
      have hflags := h.withRest
        (f := fun s => { s with hasQuit := true, signal := true, teardowns := s.teardowns + stopTunnels.toNat })
        fun _ _ _ => rfl
      exact hflags.withHub (h.hub.foldl_act [.close handle, .drain])

theorem settleTunnel (h : s.AlikeBut u t) (r : TunnelReply) :
    (t.settleTunnel r).1 = (s.settleTunnel r).1 ∧ (s.settleTunnel r).2.AlikeBut u (t.settleTunnel r).2 := by
  refine ⟨rfl, ?_⟩
  have htunnel := h.withRest (f := fun s => { s with tunnel := r.backend }) fun _ _ _ => rfl
  have hhub := h.hub.foldl_act (r.published.map fun state => .publish (.tunnelStateChanged state) false)
  rw [← publishEach_eq, ← publishEach_eq] at hhub
  exact htunnel.withHub hhub

/-- **A method that another session asks for is the same to both.** -/
theorem dispatch (h : s.AlikeBut u t) (handle : Nat) (m : Method) :
    (t.dispatch handle m).1 = (s.dispatch handle m).1 ∧ (s.dispatch handle m).2.AlikeBut u (t.dispatch handle m).2 := by
  have helevated := h.isElevated handle
  cases m with
  | quit stopTunnels =>
    obtain ⟨hanswer, hservice⟩ := h.quit handle stopTunnels
    exact ⟨congrArg quitAnswer hanswer, hservice⟩
  | queryUpdateState => exact ⟨h.eq_of_rest (fun s => Answer.updateState s.updateState) fun _ _ _ => rfl, h⟩
  | triggerUpdate =>
    refine ⟨rfl, ?_⟩
    show (s.triggerUpdate handle).AlikeBut u (t.triggerUpdate handle)
    unfold triggerUpdate
    rw [h.token?]
    cases s.token? handle with
    | none => exact h
    | some token =>
      exact h.withRest (f := fun s => { s with
        installer := s.installer.install.2, installs := s.installs.push token
        relays := s.relays ++ [(s.installs.size, { stream := s.installer.install.1 })] }) fun _ _ _ => rfl
  | startTunnel config =>
    show operationAnswer (t.startTunnel handle config).1 = operationAnswer (s.startTunnel handle config).1 ∧
      (s.startTunnel handle config).2.AlikeBut u (t.startTunnel handle config).2
    unfold startTunnel
    rw [helevated, h.tunnel]
    split
    · obtain ⟨hanswer, hservice⟩ := h.settleTunnel (s.tunnel.start config)
      exact ⟨congrArg operationAnswer hanswer, hservice⟩
    · exact ⟨rfl, h⟩
  | stopTunnel =>
    show operationAnswer (t.stopTunnel handle).1 = operationAnswer (s.stopTunnel handle).1 ∧
      (s.stopTunnel handle).2.AlikeBut u (t.stopTunnel handle).2
    unfold stopTunnel
    rw [helevated, h.tunnel]
    split
    · obtain ⟨hanswer, hservice⟩ := h.settleTunnel s.tunnel.stop
      exact ⟨congrArg operationAnswer hanswer, hservice⟩
    · exact ⟨rfl, h⟩
  | queryTunnelState => exact ⟨h.eq_of_rest (fun s => Answer.tunnelState s.tunnel.state) fun _ _ _ => rfl, h⟩

end AlikeBut

/-! ## the loops of connections -/

/-- an operation leaves the connections as they are, and the hub becomes of it what it may -/
structure Operates (s t : Service) : Prop where
  links : t.links = s.links
  hub : s.hub.Reaches t.hub

theorem operates_quit (s : Service) (handle : Nat) (stopTunnels : Bool) : s.Operates (s.quit handle stopTunnels).2 := by
  cases he : s.isElevated handle with
  | false =>
    rw [quit_of_denied he]
    exact ⟨rfl, .refl _⟩
  | true =>
    cases hq : s.hasQuit with
    | true =>
      rw [quit_of_hasQuit he hq]
      exact ⟨rfl, .refl _⟩
    | false =>
      rw [quit_of_first he hq]
      exact ⟨rfl, _, rfl⟩

theorem operates_settleTunnel (s : Service) (r : TunnelReply) : s.Operates (s.settleTunnel r).2 :=
  ⟨rfl, _, publishEach_eq r.published s.hub⟩

theorem operates_dispatch (s : Service) (handle : Nat) (m : Method) : s.Operates (s.dispatch handle m).2 := by
  have hsame : s.Operates s := ⟨rfl, .refl _⟩
  cases m with
  | quit stopTunnels => exact s.operates_quit handle stopTunnels
  | queryUpdateState => exact hsame
  | triggerUpdate =>
    show s.Operates (s.triggerUpdate handle)
    unfold triggerUpdate
    split
    · exact hsame
    · exact ⟨rfl, .refl _⟩
  | startTunnel config =>
    show s.Operates (s.startTunnel handle config).2
    unfold startTunnel
    split
    · exact s.operates_settleTunnel _
    · exact hsame
  | stopTunnel =>
    show s.Operates (s.stopTunnel handle).2
    unfold stopTunnel
    split
    · exact s.operates_settleTunnel _
    · exact hsame
  | queryTunnelState => exact hsame

namespace AlikeBut

variable {u : Nat} {s t : Service}

theorem reply (h : s.AlikeBut u t) {n : Nat} {l : Link} (hl : s.links[n]? = some l) (l' : Link)
    (hs : l'.session = l.session) (hne : l.session ≠ u) (payload : Bytes) :
    (s.reply n l' payload).AlikeBut u (t.reply n l' payload) := by
  unfold Service.reply
  cases decodePayload Method payload with
  | error e => exact h.endLink hl hs hne
  | ok m =>
    simp only
    obtain ⟨hanswer, hservice⟩ := (h.setLink hl l').dispatch l'.session m
    have hlinks : ((s.setLink n l').dispatch l'.session m).2.links[n]? = some l' := by
      rw [(operates_dispatch _ _ m).links]
      exact List.getElem?_set_self (List.getElem?_eq_some_iff.mp hl).1
    rw [hanswer]
    cases ((s.setLink n l').dispatch l'.session m).1.frame with
    | ok frame => exact hservice.setLink hlinks _
    | error e => exact hservice.endLink hlinks rfl (hs ▸ hne)

/-- the loop of another session takes the same step at both -/
theorem serveStep (h : s.AlikeBut u t) {n : Nat} {l : Link} (hl : s.links[n]? = some l) (hne : l.session ≠ u) :
    ((s.serveStep n).getD s).AlikeBut u ((t.serveStep n).getD t) := by
  have hm := h.links n l hl hne
  simp only [Service.serveStep, hl, hm]
  cases l.serving with
  | ended => exact h
  | replying left =>
    simp only
    cases l.responses.write left with
    | broken => exact h.endLink hl rfl hne
    | blocked => exact h
    | wrote rest responses =>
      cases rest with
      | nil => exact h.setLink hl _
      | cons b rest => exact h.setLink hl _
  | reading reader =>
    simp only
    cases l.requests.take reader.wanted with
    | mk piece requests =>
      cases piece with
      | nil =>
        simp only
        split
        · exact h.endLink hl rfl hne
        · exact h
      | cons b piece =>
        simp only
        cases reader.feed (b :: piece) with
        | more reader => exact h.setLink hl _
        | tooLarge length => exact h.endLink hl rfl hne
        | payload payload => exact h.reply hl { l with requests, serving := .reading reader } rfl hne payload

end AlikeBut

/-! ## connections, relays -/

theorem getElem?_changePipes (s : Service) (n : Nat) (requests responses : Pipe → Pipe) (j : Nat) :
    (s.changePipes n requests responses).links[j]? = s.links[j]?.map fun l =>
      if n = j then { l with requests := requests l.requests, responses := responses l.responses } else l :=
  List.getElem?_modify _ _ _ _

namespace AlikeBut

variable {u : Nat} {s t : Service}

theorem changePipes (h : s.AlikeBut u t) (n : Nat) (requests responses : Pipe → Pipe) :
    (s.changePipes n requests responses).AlikeBut u (t.changePipes n requests responses) := by
  refine ⟨h.hub, fun j => ?_, fun j l hl hne => ?_, congrArg (fun s => s.changePipes n requests responses) h.rest⟩
  · have hsession (s : Service) : (s.changePipes n requests responses).links[j]?.map Link.session
        = s.links[j]?.map Link.session := by
      rw [getElem?_changePipes, Option.map_map]
      refine congrArg (Option.map · s.links[j]?) (funext fun l => ?_)
      show Link.session (if n = j then _ else _) = l.session
      split <;> rfl
    rw [hsession, hsession]
    exact h.sessions j
  · rw [getElem?_changePipes] at hl ⊢
    obtain ⟨m, hm, rfl⟩ := Option.map_eq_some_iff.mp hl
    have hms : m.session ≠ u := by
      intro heq
      refine hne ?_
      split <;> exact heq
    rw [h.links j m hm hms]
    rfl

theorem relayStep (h : s.AlikeBut u t) (n : Nat) : ((s.relayStep n).getD s).AlikeBut u ((t.relayStep n).getD t) := by
  have hrelay : t.relay? n = s.relay? n := h.eq_of_rest (fun s => s.relay? n) fun _ _ _ => rfl
  have hset (r : Relay) : (s.setRelay n r).AlikeBut u (t.setRelay n r) :=
    h.withRest (f := fun s => s.setRelay n r) fun _ _ _ => rfl
  unfold Service.relayStep
  rw [hrelay]
  cases (s.relay? n).bind Relay.step with
  | none => exact h
  | some step =>
    obtain ⟨item, r⟩ := step
    cases item with
    | none => exact hset r
    | some item => exact (hset r).withHub (h.hub.act (.publish (.updateProgress item) true))

theorem getElem?_eq_none (h : s.AlikeBut u t) {n : Nat} (hl : s.links[n]? = none) : t.links[n]? = none := by
  have hsession := h.sessions n
  rw [hl] at hsession
  exact Option.map_eq_none_iff.mp hsession

theorem length_links (h : s.AlikeBut u t) : t.links.length = s.links.length :=
  Nat.le_antisymm (List.getElem?_eq_none_iff.mp (h.getElem?_eq_none (List.getElem?_eq_none (Nat.le_refl _))))
    (List.getElem?_eq_none_iff.mp (h.symm.getElem?_eq_none (List.getElem?_eq_none (Nat.le_refl _))))

theorem addLink (h : s.AlikeBut u t) (l : Link) :
    AlikeBut u { s with links := s.links ++ [l] } { t with links := t.links ++ [l] } := by
  refine ⟨h.hub, fun j => ?_, fun j m hm hne => ?_, congrArg (fun r => { r with links := s.links ++ [l] }) h.rest⟩
  · show (t.links ++ [l])[j]?.map _ = (s.links ++ [l])[j]?.map _
    rw [List.getElem?_append, List.getElem?_append, h.length_links]
    split
    · exact h.sessions j
    · rfl
  · show (t.links ++ [l])[j]? = some m
    have hm : (s.links ++ [l])[j]? = some m := hm
    rw [List.getElem?_append] at hm
    rw [List.getElem?_append, h.length_links]
    split at hm
    · rename_i hj
      rw [if_pos hj]
      exact h.links j m hm hne
    · rename_i hj
      rw [if_neg hj]
      exact hm

theorem serve (h : s.AlikeBut u t) (handle capacity : Nat) :
    (s.serve handle capacity).2.2.AlikeBut u (t.serve handle capacity).2.2 := by
  have hjoin : (s.hub.join handle).2.AlikeBut u (t.hub.join handle).2 := h.hub.act (.join handle)
  have hanswer : (t.hub.join handle).1 = (s.hub.join handle).1 := by
    rw [Hub.join_fst, Hub.join_fst, h.hub.drained, h.hub.isSome_session?]
  unfold Service.serve
  generalize s.hub.join handle = j at hjoin hanswer
  generalize t.hub.join handle = k at hjoin hanswer
  obtain ⟨taken, j⟩ := j
  obtain ⟨taken', k⟩ := k
  cases hanswer
  cases taken with
  | true => exact (h.addLink _).withHub hjoin
  | false => exact (h.addLink _).withHub hjoin

end AlikeBut

end Service

end TunnelControl
