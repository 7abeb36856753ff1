import TunnelControl.Proofs.Service.Alike

/-!
# Operations, one after the other

What a session is told of an operation is a value, or the text of the error.  Operations can be carried out directly,
without connections; what they come to depends on what the service shares among its sessions, and on nothing else.

* `Service.operate`            carries out an operation, and tells what the session gets of it;
* `operate_eq`                 a session gets what the answer of the service to the method says;
* `Service.operateEach`        operations one after the other;
* `Service.Agrees s t`         all that sessions share is the same at both services, but for sessions that only `t` closed;
* `Agrees.dispatch`            a method comes to the same at both, and keeps them so.
-/

namespace TunnelControl

namespace Service

/-! ## direct operations -/

/-- an operation that a session asks for: what it gets, and what becomes of the service -/
def operate (s : Service) (handle : Nat) : Method → Except PeerError Answer × Service
  | .quit stopTunnels =>
    match s.quit handle stopTunnels with
    | (.ok alreadyQuit, s) => (.ok (.quit ⟨alreadyQuit, none⟩), s)
    | (.error e, s) => (.error (.manager e.message), s)
  | .queryUpdateState => (.ok (.updateState s.updateState), s)
  | .triggerUpdate => (.ok .acknowledged, s.triggerUpdate handle)
  | .startTunnel config =>
    match s.startTunnel handle config with
    | (.ok (), s) => (.ok (.operation ⟨none⟩), s)
    | (.error e, s) => (.error (.manager e.message), s)
  | .stopTunnel =>
    match s.stopTunnel handle with
    | (.ok (), s) => (.ok (.operation ⟨none⟩), s)
    | (.error e, s) => (.error (.manager e.message), s)
  | .queryTunnelState => (.ok (.tunnelState s.tunnel.state), s)

/-- what a session gets of an operation is what the answer to the method tells it -/
theorem operate_eq (s : Service) (handle : Nat) (m : Method) :
    s.operate handle m = ((s.dispatch handle m).1.surface, (s.dispatch handle m).2) := by
  cases m with
  | quit stopTunnels =>
    simp only [operate, dispatch]
    generalize s.quit handle stopTunnels = r
    obtain ⟨_ | _, _⟩ := r <;> rfl
  | startTunnel config =>
    simp only [operate, dispatch]
    generalize s.startTunnel handle config = r
    obtain ⟨_ | _, _⟩ := r <;> rfl
  | stopTunnel =>
    simp only [operate, dispatch]
    generalize s.stopTunnel handle = r
    obtain ⟨_ | _, _⟩ := r <;> rfl
  | _ => rfl

/-- operations of some sessions, one after the other: what each of them gets, and what becomes of the service -/
def operateEach (s : Service) : List (Nat × Method) → List (Except PeerError Answer) × Service
  | [] => ([], s)
  | (handle, m) :: operations =>
    let (result, s) := s.operate handle m
    let (results, s) := s.operateEach operations
    (result :: results, s)

theorem operateEach_concat (s : Service) (operations : List (Nat × Method)) (handle : Nat) (m : Method) :
    s.operateEach (operations ++ [(handle, m)])
      = ((s.operateEach operations).1 ++ [((s.operateEach operations).2.operate handle m).1],
          ((s.operateEach operations).2.operate handle m).2) := by
  induction operations generalizing s with
  | nil => rfl
  | cons operation operations ih =>
    show (let (results, t) := (s.operate operation.1 operation.2).2.operateEach (operations ++ [(handle, m)])
      (_ :: results, t)) = _
    rw [ih]
    rfl

end Service

/-! ## hubs with the same members -/

namespace Hub

theorem face_modify (h : Hub) (target : Nat) {f : Session → Session}
    (hf : ∀ s, h.session? target = some s → (f s).id = s.id ∧ (f s).token = s.token) (handle : Nat) :
    (h.modify target f).face handle = h.face handle := by
  rw [face, face, session?_modify]
  by_cases ht : target = handle
  · subst ht
    rw [if_pos rfl]
    cases hs : h.session? target with
    | none => rfl
    | some s =>
      obtain ⟨hid, htoken⟩ := hf s hs
      show some ((f s).id, (f s).token) = some (s.id, s.token)
      rw [hid, htoken]
  · rw [if_neg ht]

theorem face_enqueueEach (d : QueuedFrame) (handles : List Nat) (h : Hub) (handle : Nat) :
    (h.enqueueEach d handles).face handle = h.face handle := by
  induction handles generalizing h with
  | nil => rfl
  | cons target handles ih =>
    have hkeeps (s : Session) := s.keeps_enqueue d
    exact (ih (h.enqueue target d).2).trans
      (h.face_modify target (fun s _ => ⟨(hkeeps s).id, (hkeeps s).token⟩) handle)

theorem face_publish (h : Hub) (event : Event) (adminOnly : Bool) (handle : Nat) :
    (h.publish event adminOnly).2.face handle = h.face handle := by
  unfold publish
  split
  · rfl
  · exact face_enqueueEach _ _ h handle

theorem face_publishEach (states : List TunnelState) (h : Hub) (handle : Nat) :
    (Service.publishEach h states).face handle = h.face handle := by
  induction states generalizing h with
  | nil => rfl
  | cons state states ih => exact (ih _).trans (h.face_publish _ _ handle)

theorem isSome_face (h : Hub) (handle : Nat) : (h.face handle).isSome = (h.session? handle).isSome :=
  Option.isSome_map

/-- the same members, and the same sessions, of which more may be closed at the second hub -/
structure Agrees (h k : Hub) : Prop where
  members : k.members = h.members
  drained : k.drained = h.drained
  faces : ∀ handle, k.face handle = h.face handle
  closed : ∀ handle, h.isClosed handle = true → k.isClosed handle = true

namespace Agrees

variable {h k m : Hub}

theorem refl (h : Hub) : h.Agrees h := ⟨rfl, rfl, fun _ => rfl, fun _ hc => hc⟩

theorem trans (hk : h.Agrees k) (km : k.Agrees m) : h.Agrees m :=
  ⟨km.members.trans hk.members, km.drained.trans hk.drained,
    fun handle => (km.faces handle).trans (hk.faces handle), fun handle hc => km.closed handle (hk.closed handle hc)⟩

theorem steady {h' k' : Hub} (hk : h.Agrees k) (hh : h.Steady h') (hf : ∀ handle, h'.face handle = h.face handle)
    (kk : k.Steady k') (kf : ∀ handle, k'.face handle = k.face handle) : h'.Agrees k' where
  members := kk.members.trans (hk.members.trans hh.members.symm)
  drained := kk.drained.trans (hk.drained.trans hh.drained.symm)
  faces handle := (kf handle).trans ((hk.faces handle).trans (hf handle).symm)
  closed handle hc := by
    rw [hh.isClosed] at hc
    rw [kk.isClosed]
    exact hk.closed handle hc

theorem publishEach (hk : h.Agrees k) (states : List TunnelState) :
    (Service.publishEach h states).Agrees (Service.publishEach k states) :=
  hk.steady (steady_publishEach states h) (face_publishEach states h) (steady_publishEach states k)
    (face_publishEach states k)

theorem id? (hk : h.Agrees k) (handle : Nat) : k.id? handle = h.id? handle := by
  have hface := congrArg (Option.map Prod.fst) (hk.faces handle)
  rwa [face, face, Option.map_map, Option.map_map] at hface

theorem isSome_session? (hk : h.Agrees k) (handle : Nat) : (k.session? handle).isSome = (h.session? handle).isSome := by
  rw [← isSome_face, ← isSome_face, hk.faces]

theorem close (hk : h.Agrees k) (target : Nat) : (h.close target).Agrees (k.close target) := by
  have hface (j : Hub) (handle : Nat) : (j.close target).face handle = j.face handle :=
    j.face_modify target (f := Session.close) (fun _ _ => ⟨rfl, rfl⟩) handle
  refine ⟨hk.members, hk.drained, fun handle => ?_, fun handle hc => ?_⟩
  · rw [hface, hface, hk.faces]
  · have hclosed (j : Hub) : (j.close target).isClosed handle
        = (j.isClosed handle || (target == handle && (j.session? handle).isSome)) := by
      rw [isClosed, isClosed, Hub.close, session?_modify]
      by_cases ht : target = handle
      · subst ht
        rw [if_pos rfl, beq_self_eq_true, Bool.true_and]
        cases j.session? target with
        | none => rfl
        | some s => exact (Bool.or_true _).symm
      · rw [if_neg ht, beq_eq_false_iff_ne.mpr ht, Bool.false_and, Bool.or_false]
    rw [hclosed, Bool.or_eq_true] at hc ⊢
    rw [hk.isSome_session?]
    exact hc.imp_left (hk.closed handle)

theorem closeEach (members : List (SessionId × Nat)) (hk : h.Agrees k) :
    (h.closeEach members).Agrees (k.closeEach members) := by
  induction members generalizing h k with
  | nil => exact hk
  | cons member members ih => exact ih (hk.close member.2)

theorem drain (hk : h.Agrees k) : h.drain.2.Agrees k.drain.2 := by
  have hclosed := hk.closeEach h.members
  refine ⟨rfl, rfl, ?_, ?_⟩
  · show ∀ handle, (k.closeEach k.members).face handle = (h.closeEach h.members).face handle
    rw [hk.members]
    exact hclosed.faces
  · show ∀ handle, (h.closeEach h.members).isClosed handle = true → (k.closeEach k.members).isClosed handle = true
    rw [hk.members]
    exact hclosed.closed

end Agrees

theorem agrees_modify (h : Hub) (target : Nat) {f : Session → Session}
    (hf : ∀ s, h.session? target = some s → s.Keeps (f s)) : h.Agrees (h.modify target f) := by
  refine ⟨rfl, rfl, h.face_modify target fun s hs => ⟨(hf s hs).id, (hf s hs).token⟩, fun handle hc => ?_⟩
  rw [isClosed, session?_modify]
  by_cases ht : target = handle
  · subst ht
    rw [if_pos rfl]
    rw [isClosed] at hc
    cases hs : h.session? target with
    | none => rwa [hs] at hc
    | some s =>
      rw [hs] at hc
      exact (hf s hs).closed hc
  · rwa [if_neg ht]

end Hub

/-! ## services that agree -/

namespace Service

/-- all that the sessions share is the same; connections, and relays of progress, belong to one session or one
installation each -/
structure Agrees (s t : Service) : Prop where
  hub : s.hub.Agrees t.hub
  rest : { t with hub := s.hub, links := s.links, relays := s.relays } = s

namespace Agrees

variable {s t u : Service}

theorem refl (s : Service) : s.Agrees s := ⟨.refl s.hub, rfl⟩

theorem trans (h : s.Agrees t) (h' : t.Agrees u) : s.Agrees u :=
  ⟨h.hub.trans h'.hub,
    (congrArg (fun r : Service => { r with hub := s.hub, links := s.links, relays := s.relays }) h'.rest).trans h.rest⟩

theorem withHub (h : s.Agrees t) {j k : Hub} (hub : j.Agrees k) : Agrees { s with hub := j } { t with hub := k } :=
  ⟨hub, congrArg (fun r : Service => { r with hub := j }) h.rest⟩

theorem withOwn (h : s.Agrees t) (links : List Link) (relays : List (Nat × Relay)) :
    s.Agrees { t with links, relays } := ⟨h.hub, h.rest⟩

theorem eq_of_rest (h : s.Agrees t) {α : Type} (f : Service → α)
    (hf : ∀ s h ls rs, f { s with hub := h, links := ls, relays := rs } = f s) : f t = f s := by
  have hrest := congrArg f h.rest
  rwa [hf] at hrest

theorem tunnel (h : s.Agrees t) : t.tunnel = s.tunnel := h.eq_of_rest Service.tunnel fun _ _ _ _ => rfl

theorem hasQuit (h : s.Agrees t) : t.hasQuit = s.hasQuit := h.eq_of_rest Service.hasQuit fun _ _ _ _ => rfl

theorem token? (h : s.Agrees t) (handle : Nat) : t.token? handle = s.token? handle := by
  have htoken (s : Service) : s.token? handle = (s.hub.face handle).bind Prod.snd := by
    rw [Service.token?, Hub.face, Option.bind_map]
    rfl
  rw [htoken, htoken, h.hub.faces]

theorem isElevated (h : s.Agrees t) (handle : Nat) : t.isElevated handle = s.isElevated handle := by
  rw [Service.isElevated, Service.isElevated, h.token?]

theorem quit (h : s.Agrees t) (handle : Nat) (stopTunnels : Bool) :
    (t.quit handle stopTunnels).1 = (s.quit handle stopTunnels).1 ∧
      (s.quit handle stopTunnels).2.Agrees (t.quit handle stopTunnels).2 := by
  have helevated := h.isElevated handle
  cases he : s.isElevated handle with
  | false =>
    rw [quit_of_denied he, quit_of_denied (helevated.trans he)]
    exact ⟨rfl, h⟩
  | true =>
    cases hq : s.hasQuit with
    | true =>
      rw [quit_of_hasQuit he hq, quit_of_hasQuit (helevated.trans he) (h.hasQuit.trans hq)]
      exact ⟨rfl, h⟩
    | false =>
      rw [quit_of_first he hq, quit_of_first (helevated.trans he) (h.hasQuit.trans hq)]
      refine ⟨rfl, (h.hub.close handle).drain, ?_⟩
      exact congrArg (fun r : Service => { r with
        hub := (s.hub.close handle).drain.2, hasQuit := true, signal := true
        teardowns := r.teardowns + stopTunnels.toNat }) h.rest

theorem settleTunnel (h : s.Agrees t) (r : TunnelReply) :
    (t.settleTunnel r).1 = (s.settleTunnel r).1 ∧ (s.settleTunnel r).2.Agrees (t.settleTunnel r).2 := by
  refine ⟨rfl, h.hub.publishEach r.published, ?_⟩
  exact congrArg (fun q : Service => { q with tunnel := r.backend, hub := publishEach s.hub r.published }) h.rest

theorem triggerUpdate (h : s.Agrees t) (handle : Nat) : (s.triggerUpdate handle).Agrees (t.triggerUpdate handle) := by
  unfold Service.triggerUpdate
  rw [h.token?]
  cases s.token? handle with
  | none => exact h
  | some token =>
    exact ⟨h.hub, congrArg (fun q : Service => ({ q with
      installer := q.installer.install.2, installs := q.installs.push token
      relays := s.relays ++ [(s.installs.size, { stream := s.installer.install.1 })] } : Service)) h.rest⟩

/-- **A method comes to the same at services that agree.** -/
theorem dispatch (h : s.Agrees t) (handle : Nat) (m : Method) :
    (t.dispatch handle m).1 = (s.dispatch handle m).1 ∧ (s.dispatch handle m).2.Agrees (t.dispatch handle m).2 := by
  have helevated := h.isElevated handle
  cases m with
  | quit stopTunnels =>
    obtain ⟨hanswer, hservice⟩ := h.quit handle stopTunnels
    exact ⟨congrArg quitAnswer hanswer, hservice⟩
  | queryUpdateState => exact ⟨h.eq_of_rest (fun s => Answer.updateState s.updateState) fun _ _ _ _ => rfl, h⟩
  | triggerUpdate => exact ⟨rfl, h.triggerUpdate handle⟩
  | startTunnel config =>
    show operationAnswer (t.startTunnel handle config).1 = operationAnswer (s.startTunnel handle config).1 ∧
      (s.startTunnel handle config).2.Agrees (t.startTunnel handle config).2
    unfold startTunnel
    rw [helevated, h.tunnel]
    split
    · obtain ⟨hanswer, hservice⟩ := h.settleTunnel (s.tunnel.start config)
      exact ⟨congrArg operationAnswer hanswer, hservice⟩
    · exact ⟨rfl, h⟩
  | stopTunnel =>
    show operationAnswer (t.stopTunnel handle).1 = operationAnswer (s.stopTunnel handle).1 ∧
      (s.stopTunnel handle).2.Agrees (t.stopTunnel handle).2
    unfold stopTunnel
    rw [helevated, h.tunnel]
    split
    · obtain ⟨hanswer, hservice⟩ := h.settleTunnel s.tunnel.stop
      exact ⟨congrArg operationAnswer hanswer, hservice⟩
    · exact ⟨rfl, h⟩
  | queryTunnelState => exact ⟨h.eq_of_rest (fun s => Answer.tunnelState s.tunnel.state) fun _ _ _ _ => rfl, h⟩

end Agrees

/-- to pass on progress is no operation -/
theorem agrees_relayStep {s t : Service} {n : Nat} (h : s.relayStep n = some t) : s.Agrees t := by
  unfold relayStep at h
  split at h
  · cases h
  · cases h
    exact (Agrees.refl s).withOwn _ _
  · rename_i item r _
    cases h
    exact ⟨(Hub.Agrees.refl s.hub).steady (.refl s.hub) (fun _ => rfl) (s.hub.steady_publish (.updateProgress item) true)
      (s.hub.face_publish (.updateProgress item) true), rfl⟩

end Service

end TunnelControl
