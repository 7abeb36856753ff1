import TunnelControl.Proofs.Service.Traffic
import TunnelControl.Proofs.Site.Minutes

/-!
# What holds in the minutes

Whatever happens to a site, the calls of each client are at one with the loop that answers them, and what was carried
out comes to the same as the operations, carried out directly.

* `Minutes.InHand`     the calls that a client has made are on their way or answered;
* `Minutes.Direct`     what was carried out, and the operations carried out directly;
* `Minutes.Sound`      both, for all clients; `sound_act` and `sound_run`: it stays so;
* `Assembled`          the clients have connected; `sound_start`: then it is so.
-/

namespace TunnelControl

open Wire (encode)

namespace Minutes

/-! ## what holds all along -/

/-- a client has made the calls that it was to make, and they are on their way or answered -/
structure InHand (r : Minutes) (actions : List Action) (k : Nat) (c : Client) (l : Link) : Prop where
  paired : r.site.Paired k c l
  errand : Errand c.calls c.inFlight l (r.answered k) (r.turns.count k)
  made : (c.calls.map fun call => (call.request, call.frame))
    = (calledBy k actions).map fun m => (.call m, frame (encode m))

/-- what was carried out for the clients comes to the same as the operations, carried out directly from the start on -/
structure Direct (start : Site) (r : Minutes) : Prop where
  asked : ∀ e ∈ r.entries, e.session < start.clients.length
  results : (start.service.operateEach r.operations).1 = r.entries.map fun e => e.answer.surface
  state : (start.service.operateEach r.operations).2.Agrees r.site.service

structure Sound (start : Site) (actions : List Action) (r : Minutes) : Prop where
  clients : r.site.clients.length = start.clients.length
  links : r.site.service.links.length = start.clients.length
  inHand : ∀ k < start.clients.length, ∃ c l, r.InHand actions k c l
  direct : Direct start r

section
variable {start : Site} {r r' : Minutes} {actions actions' : List Action} {k : Nat} {c c' : Client} {l l' : Link}

theorem InHand.beside (h : r.InHand actions k c l) (hclient : r'.site.clients[k]? = r.site.clients[k]?)
    (hlink : r'.site.service.links[k]? = r.site.service.links[k]?)
    (hid : ∀ id, r.site.service.hub.id? k = some id → r'.site.service.hub.id? k = some id)
    (hanswered : r'.answered k = r.answered k) (hturns : r'.turns.count k = r.turns.count k)
    (hcalled : calledBy k actions' = calledBy k actions) : r'.InHand actions' k c l where
  paired :=
    { client := hclient.trans h.paired.client, link := hlink.trans h.paired.link, session := h.paired.session
      there := h.paired.there.imp hid }
  errand := by
    rw [hanswered, hturns]
    exact h.errand
  made := by
    rw [hcalled]
    exact h.made

/-- something happens to one client and its connection only -/
theorem Sound.moved (h : Sound start actions r) (hk : r.site.Paired k c l)
    (hclients : r'.site.clients = r.site.clients.set k (k, c'))
    (hlinks : r'.site.service.links = r.site.service.links.set k l') (hsession : l'.session = k)
    (hid : ∀ j id, r.site.service.hub.id? j = some id → r'.site.service.hub.id? j = some id)
    (hothers : ∀ j, j ≠ k → r'.answered j = r.answered j ∧ r'.turns.count j = r.turns.count j ∧
      calledBy j actions' = calledBy j actions)
    (herrand : Errand c'.calls c'.inFlight l' (r'.answered k) (r'.turns.count k))
    (hmade : (c'.calls.map fun call => (call.request, call.frame))
      = (calledBy k actions').map fun m => (.call m, frame (encode m)))
    (hdirect : Direct start r') : Sound start actions' r' where
  clients := by rw [hclients, List.length_set, h.clients]
  links := by rw [hlinks, List.length_set, h.links]
  inHand j hj := by
    by_cases hjk : j = k
    · subst hjk
      refine ⟨c', l', ⟨?_, ?_, hsession, hk.there.imp (hid j)⟩, herrand, hmade⟩
      · rw [hclients]
        exact List.getElem?_set_self (List.getElem?_eq_some_iff.mp hk.client).1
      · rw [hlinks]
        exact List.getElem?_set_self (List.getElem?_eq_some_iff.mp hk.link).1
    · obtain ⟨d, m, hd⟩ := h.inHand j hj
      obtain ⟨hanswered, hturns, hcalled⟩ := hothers j hjk
      refine ⟨d, m, hd.beside ?_ ?_ (hid j) hanswered hturns hcalled⟩
      · rw [hclients, List.getElem?_set_ne (Ne.symm hjk)]
      · rw [hlinks, List.getElem?_set_ne (Ne.symm hjk)]
  direct := hdirect

theorem Direct.beside (h : Direct start r) (hentries : r'.entries = r.entries)
    (hservice : r.site.service.Agrees r'.site.service) : Direct start r' where
  asked := hentries ▸ h.asked
  results := by
    rw [operations, hentries]
    exact h.results
  state := by
    rw [operations, hentries]
    exact h.state.trans hservice

theorem Direct.carried (h : Direct start r) (hk : k < start.clients.length) {m : Method}
    (hentries : r'.entries = r.entries ++ [⟨k, m, (r.site.service.dispatch k m).1⟩])
    (hservice : (r.site.service.dispatch k m).2.Agrees r'.site.service) : Direct start r' := by
  obtain ⟨hanswer, hafter⟩ := h.state.dispatch k m
  have hoperations : r'.operations = r.operations ++ [(k, m)] := by
    rw [operations, hentries, List.map_append]
    rfl
  refine ⟨?_, ?_, ?_⟩
  · rw [hentries]
    exact List.forall_mem_append.mpr ⟨h.asked, List.forall_mem_singleton.mpr hk⟩
  · rw [hoperations, Service.operateEach_concat, Service.operate_eq, hentries, List.map_append, h.results]
    show _ ++ [_] = _ ++ [_]
    rw [hanswer]
  · rw [hoperations, Service.operateEach_concat, Service.operate_eq]
    exact hafter.trans hservice

theorem Sound.beside (h : Sound start actions r) (hclients : r'.site.clients = r.site.clients)
    (hlinks : r'.site.service.links = r.site.service.links) (hservice : r.site.service.Agrees r'.site.service)
    (hentries : r'.entries = r.entries) (hturns : r'.turns = r.turns)
    (hcalled : ∀ k < start.clients.length, calledBy k actions' = calledBy k actions) : Sound start actions' r' where
  clients := by rw [hclients, h.clients]
  links := by rw [hlinks, h.links]
  inHand k hk := by
    obtain ⟨c, l, hc⟩ := h.inHand k hk
    refine ⟨c, l, hc.beside (by rw [hclients]) (by rw [hlinks]) (fun id hid => ?_) ?_ (by rw [hturns]) (hcalled k hk)⟩
    · rw [hservice.hub.id?, hid]
    · rw [answered, hentries]
      rfl
  direct := h.direct.beside hentries hservice

/-! ## what clients do -/

/-- a task of a client that is not there does nothing -/
theorem Sound.exists_of_withClient {act : Client → Option Client} {site : Site} (h : Sound start actions r)
    (hs : r.site.withClient k act = some site) : ∃ c l, r.InHand actions k c l := by
  refine h.inHand k (Nat.lt_of_not_le fun hle => ?_)
  unfold Site.withClient at hs
  rw [List.getElem?_eq_none (by rw [h.clients]; exact hle)] at hs
  cases hs

/-- a client does something with the pipes of its connection -/
theorem Sound.acts (h : Sound start actions r) (hc : r.InHand actions k c l) {act : Client → Option Client}
    (hact : r.site.withClient k act = some r'.site) (hentries : r'.entries = r.entries)
    (hothers : ∀ j, j ≠ k → r'.turns.count j = r.turns.count j ∧ calledBy j actions' = calledBy j actions)
    (hdoes : ∀ d c', d.calls = c.calls → d.inFlight = c.inFlight → l.withWires d.wires = l → act d = some c' →
      Errand c'.calls c'.inFlight (l.withWires c'.wires) (r.answered k) (r'.turns.count k) ∧
        (c'.calls.map fun call => (call.request, call.frame))
          = (calledBy k actions').map fun m => (.call m, frame (encode m))) : Sound start actions' r' := by
  obtain ⟨d, c', ⟨hcalls, hflight, hwires⟩, hstep, hclients, hlinks, hservice⟩ :=
    Site.withClient_of_paired hc.paired hact
  obtain ⟨herrand, hmade⟩ := hdoes d c' hcalls hflight hwires hstep
  have hanswered := answered_of_entries hentries
  refine h.moved hc.paired hclients hlinks hc.paired.session (fun j id hid => ?_)
    (fun j hj => ⟨hanswered j, hothers j hj⟩) ?_ hmade (h.direct.beside hentries hservice)
  · rw [hservice.hub.id?, hid]
  · rw [hanswered]
    exact herrand

theorem called?_of_ne {j : Nat} (hj : j ≠ k) (m : Method) : (Action.call k m).called? j = none :=
  if_neg (Ne.symm hj)

theorem called?_self (k : Nat) (m : Method) : (Action.call k m).called? k = some m := if_pos rfl

/-- a client that is not there calls nothing; one that is there makes a call more -/
theorem Sound.call (h : Sound start actions r) (k : Nat) {m : Method} (hm : (encode m).length ≤ maxPayload) :
    Sound start (actions ++ [.call k m]) (r.act (.call k m)) := by
  have hothers {j : Nat} (hj : j ≠ k) : calledBy j (actions ++ [.call k m]) = calledBy j actions := by
    rw [calledBy_concat, called?_of_ne hj]
    exact List.append_nil _
  have hact : r.act (.call k m)
      = { r with site := (r.site.withClient k fun c => some (c.begin (.call m)).2).getD r.site } := rfl
  by_cases hk : k < start.clients.length
  · obtain ⟨c, l, hc⟩ := h.inHand k hk
    obtain ⟨site, hsite⟩ := hc.paired.exists_withClient fun c => (c.begin (.call m)).2
    rw [hsite] at hact
    rw [hact]
    refine h.acts hc hsite rfl (fun j hj => ⟨rfl, hothers hj⟩) fun d c' hcalls hflight hwires hbegin => ?_
    rw [Client.begin_call _ hm] at hbegin
    cases hbegin
    constructor
    · show Errand (d.calls ++ [_]) d.inFlight (l.withWires d.wires) _ _
      rw [hcalls, hflight, hwires]
      exact hc.errand.begin ⟨rfl, m, rfl, frameOf_eq_ok_iff.mpr ⟨rfl, hm⟩⟩
    · show List.map _ (d.calls ++ [_]) = _
      rw [calledBy_concat, called?_self, List.map_append, List.map_append, hcalls, hc.made]
      rfl
  · have hnone : r.site.withClient k (fun c => some (c.begin (.call m)).2) = none := by
      unfold Site.withClient
      rw [List.getElem?_eq_none (by rw [h.clients]; omega)]
    rw [hnone] at hact
    rw [hact]
    exact h.beside rfl rfl (.refl _) rfl rfl fun j hj => hothers fun heq => hk (heq ▸ hj)

/-! ## what tasks do -/

section
variable {task : Task} {site : Site}

theorem act_task_of_none (ht : r.site.stepOf task = none) : r.act (.task task) = r := by
  unfold act
  simp only [ht]

theorem act_task_of_some (ht : r.site.stepOf task = some site) :
    r.act (.task task)
      = ⟨site, r.entries ++ (r.site.entry? task).toList, r.turns ++ task.errand?.toList⟩ := by
  unfold act
  simp only [ht]

theorem site_task (ht : r.site.stepOf task = some site) : (r.act (.task task)).site = site := by
  rw [act_task_of_some ht]

theorem entries_task (ht : r.site.stepOf task = some site) (hnone : r.site.entry? task = none) :
    (r.act (.task task)).entries = r.entries := by
  rw [act_task_of_some ht, hnone]
  exact List.append_nil _

theorem count_turns_task (ht : r.site.stepOf task = some site) (j : Nat) :
    (r.act (.task task)).turns.count j = r.turns.count j + if task.errand? = some j then 1 else 0 := by
  rw [act_task_of_some ht]
  show (r.turns ++ _).count j = _
  rw [List.count_append]
  cases task.errand? with
  | none => rfl
  | some k =>
    show _ + [k].count j = _
    rw [List.count_singleton]
    simp only [beq_iff_eq, Option.some.injEq]

theorem count_turns_self (ht : r.site.stepOf task = some site) (hk : task.errand? = some k) :
    (r.act (.task task)).turns.count k = r.turns.count k + 1 := by
  rw [count_turns_task ht, if_pos hk]

theorem count_turns_of_ne (ht : r.site.stepOf task = some site) (hk : task.errand? ≠ some k) :
    (r.act (.task task)).turns.count k = r.turns.count k := by
  rw [count_turns_task ht, if_neg hk, Nat.add_zero]

theorem some_ne_some {j : Nat} (hj : j ≠ k) : some k ≠ some j := fun heq => hj (Option.some.inj heq).symm

theorem InHand.request (h : r.InHand actions k c l) : ∀ call ∈ c.calls, ∃ m, call.request = .call m := by
  intro call hcall
  have hmem := List.mem_map_of_mem (f := fun call : Call => (call.request, call.frame)) hcall
  rw [h.made] at hmem
  obtain ⟨m, -, heq⟩ := List.mem_map.mp hmem
  exact ⟨m, (Prod.mk.inj heq).1.symm⟩

theorem Sound.calls (h : Sound start actions r) (ht : r.site.stepOf (.calls k) = some site)
    (hcalled : ∀ j, calledBy j actions' = calledBy j actions) : Sound start actions' (r.act (.task (.calls k))) := by
  obtain ⟨c, l, hc⟩ := h.exists_of_withClient ht
  refine h.acts hc (ht.trans (congrArg some (site_task ht).symm)) (entries_task ht rfl)
    (fun j hj => ⟨count_turns_of_ne ht (some_ne_some hj), hcalled j⟩) fun d c' hcalls hflight hwires hstep => ?_
  -- what was called stays: the step changes the phase of one call
  have hrequest : ∀ call ∈ d.calls, ∃ m, call.request = .call m := hcalls ▸ hc.request
  obtain ⟨n, call, phase, hn, hcalls'⟩ := (Client.callStep_cases (fun e he _ => hrequest e he) hstep).calls
  have herrand := hc.errand
  rw [← hcalls, ← hflight, ← hwires] at herrand
  rw [count_turns_self ht rfl]
  refine ⟨herrand.callStep hstep, ?_⟩
  rw [hcalls', map_set_of_eq (y := { call with phase }) hn rfl, hcalls, hcalled]
  exact hc.made

theorem Sound.notices (h : Sound start actions r) (ht : r.site.stepOf (.notices k) = some site)
    (hcalled : ∀ j, calledBy j actions' = calledBy j actions) : Sound start actions' (r.act (.task (.notices k))) := by
  obtain ⟨c, l, hc⟩ := h.exists_of_withClient ht
  have hcount (j : Nat) := count_turns_of_ne (k := j) ht nofun
  refine h.acts hc (ht.trans (congrArg some (site_task ht).symm)) (entries_task ht rfl)
    (fun j _ => ⟨hcount j, hcalled j⟩) fun d c' hcalls hflight hwires hstep => ?_
  obtain ⟨hcalls', hflight', houtgoing, hincoming⟩ := Client.noticeStep_keeps hstep
  have hpipes : l.withWires c'.wires = l := by
    rw [Link.withWires, houtgoing, hincoming]
    exact hwires
  rw [hcount, hcalled, hpipes, hcalls', hflight', hcalls, hflight]
  exact ⟨hc.errand, hc.made⟩

/-- who passes on progress or events makes no difference -/
theorem Sound.aside (h : Sound start actions r) (ht : r.site.stepOf task = some site)
    (haside : (∃ n, task = .relay n) ∨ ∃ n, task = .writer n)
    (hcalled : ∀ j, calledBy j actions' = calledBy j actions) : Sound start actions' (r.act (.task task)) := by
  obtain ⟨hclients, hlinks, hservice⟩ := Site.agrees_stepOf_aside ht haside
  rw [act_task_of_some ht]
  obtain ⟨n, rfl⟩ | ⟨n, rfl⟩ := haside <;>
    exact h.beside hclients hlinks hservice (List.append_nil _) (List.append_nil _) fun k _ => hcalled k

/-! ## what the loops do -/

theorem entry?_loop {s : Site} (h : s.Paired k c l) :
    s.entry? (.loop k) = (s.service.request? k).map fun m => ⟨k, m, (s.service.dispatch k m).1⟩ := by
  show (s.service.links[k]?).bind _ = _
  rw [h.link, Option.bind_some, h.session]

theorem answered_loop (h : r.site.Paired k c l) (ht : r.site.stepOf (.loop k) = some site) (j : Nat) :
    (r.act (.task (.loop k))).answered j
      = r.answered j ++ if k = j then Errand.given r.site.service k (r.site.service.request? k) else [] := by
  rw [act_task_of_some ht, entry?_loop h]
  cases r.site.service.request? k with
  | none =>
    rw [answered_of_entries (r := r) (List.append_nil _)]
    split <;> exact (List.append_nil _).symm
  | some m => exact answered_concat (r := r) (e := ⟨k, m, (r.site.service.dispatch k m).1⟩) rfl j

theorem Direct.loop (h : Direct start r) (hk : k < start.clients.length) (hp : r.site.Paired k c l)
    (ht : r.site.stepOf (.loop k)
      = some { r.site with service := (r.site.service.carried k (r.site.service.request? k)).setLink k l' }) :
    Direct start (r.act (.task (.loop k))) := by
  rw [act_task_of_some ht, entry?_loop hp]
  cases r.site.service.request? k with
  | none => exact h.beside (List.append_nil _) ((Service.Agrees.refl _).withOwn _ _)
  | some m => exact h.carried hk rfl ((Service.Agrees.refl _).withOwn _ _)

theorem Sound.loop (h : Sound start actions r) (ht : r.site.stepOf (.loop k) = some site)
    (hframed : ∀ e ∈ r.site.entry? (.loop k), e.answer.HasFrame)
    (hcalled : ∀ j, calledBy j actions' = calledBy j actions) : Sound start actions' (r.act (.task (.loop k))) := by
  obtain ⟨t, hstep, rfl⟩ := Option.map_eq_some_iff.mp ht
  obtain ⟨l, hl, -⟩ := Service.loopTurn_of_serveStep hstep
  have hk : k < start.clients.length := h.links ▸ (List.getElem?_eq_some_iff.mp hl).1
  obtain ⟨c, l', hc⟩ := h.inHand k hk
  cases hl.symm.trans hc.paired.link
  have hsession := hc.paired.session
  -- the errand tells what the step was, up to the link that goes on
  obtain ⟨l', heq, hsession', herrand⟩ := hc.errand.serveStep hl hstep fun m hm => by
    rw [hsession]
    exact hframed ⟨k, m, _⟩ (by rw [entry?_loop hc.paired, hm]; rfl)
  rw [hsession] at heq hsession' herrand
  subst heq
  have hsite := site_task ht
  have hanswered := answered_loop hc.paired ht
  have hclients : (r.act (.task (.loop k))).site.clients = r.site.clients.set k (k, c) := by
    rw [hsite, set_self hc.paired.client]
  have hlinks : (r.act (.task (.loop k))).site.service.links = r.site.service.links.set k l' := by
    rw [hsite]
    exact congrArg (·.set k l') (r.site.service.links_carried k (r.site.service.request? k))
  refine h.moved hc.paired hclients hlinks hsession' (fun j id hid => ?_) (fun j hj => ⟨?_, ?_, hcalled j⟩) ?_ ?_
    (h.direct.loop hk hc.paired ht)
  · rw [hsite]
    exact (Service.reaches_carried _ _ _).id? hid
  · rw [hanswered, if_neg (Ne.symm hj), List.append_nil]
  · exact count_turns_of_ne ht (some_ne_some hj)
  · rw [hanswered, if_pos rfl, count_turns_self ht rfl]
    exact herrand
  · rw [hcalled]
    exact hc.made

end

/-! ## runs -/

/-- **Whatever happens, the calls of all clients come to the same as direct operations.** -/
theorem sound_act (h : Sound start actions r) (a : Action) (hfits : a.Fits)
    (hframed : ∀ e ∈ (r.act a).entries, e.answer.HasFrame) : Sound start (actions ++ [a]) (r.act a) := by
  cases a with
  | call k m => exact h.call k hfits
  | wait ms =>
    refine h.beside rfl rfl ⟨⟨rfl, rfl, fun _ => rfl, fun _ hc => hc⟩, rfl⟩ rfl rfl fun k _ => ?_
    rw [calledBy_concat]
    exact List.append_nil _
  | task task =>
    have hcalled (j : Nat) : calledBy j (actions ++ [.task task]) = calledBy j actions := by
      rw [calledBy_concat]
      exact List.append_nil _
    cases ht : r.site.stepOf task with
    | none =>
      rw [act_task_of_none ht]
      exact h.beside rfl rfl (.refl _) rfl rfl fun k _ => hcalled k
    | some site =>
      cases task with
      | calls k => exact h.calls ht hcalled
      | notices k => exact h.notices ht hcalled
      | loop k =>
        refine h.loop ht (fun e he => hframed e ?_) hcalled
        rw [act_task_of_some ht, he]
        exact List.mem_append_right _ List.mem_cons_self
      | relay n => exact h.aside ht (.inl ⟨n, rfl⟩) hcalled
      | writer n => exact h.aside ht (.inr ⟨n, rfl⟩) hcalled

theorem sound_run (h : Sound start actions r) (more : List Action)
    (hfits : ∀ a ∈ more, a.Fits)
    (hframed : ∀ e ∈ (r.run more).entries, e.answer.HasFrame) : Sound start (actions ++ more) (r.run more) := by
  induction more generalizing r actions with
  | nil =>
    rw [List.append_nil]
    exact h
  | cons a more ih =>
    -- the log only grows, so the answers up to here have frames as well
    have hact := sound_act h a (hfits a List.mem_cons_self) fun e he =>
      hframed e (((r.act a).entries_run more).subset he)
    have hrun := ih hact (fun b hb => hfits b (List.mem_cons_of_mem _ hb)) hframed
    rwa [List.append_assoc] at hrun

end

/-! ## the clients connect -/

/-- clients that have connected and called nothing yet -/
structure Assembled (s : Site) : Prop where
  links : s.service.links.length = s.clients.length
  sessions : s.service.hub.sessions.length = s.clients.length
  drained : s.service.hub.drained = false
  paired : ∀ k < s.clients.length, ∃ c l, s.Paired k c l ∧ c.calls = [] ∧ Errand c.calls c.inFlight l [] 0

theorem errand_newLink (session : Nat) {capacity : Nat} (hc : 0 < capacity) :
    Errand [] false (Service.newLink session capacity) [] 0 :=
  ⟨.idle (show Errand.Idle _ _ _ _ _ [] [] from
    { calls := rfl, settled := rfl, ready := List.forall_mem_nil _, flight := rfl, serving := rfl, requests := rfl
      responses := rfl, paced := Nat.le_refl _ }), ⟨rfl, rfl, hc⟩, ⟨rfl, rfl, hc⟩⟩

theorem welcome_of_serve {s : Site} {a : Arrival} {taken : Bool} {n : Nat} {t : Service}
    (h : Service.serve { s.service with hub := (s.service.hub.create a.id a.token a.eventsCapacity).2 }
      s.service.hub.sessions.length a.requestsCapacity = (taken, n, t)) :
    ∃ wires, s.welcome a = { service := t, clients := s.clients ++ [(n, { wires })] } := by
  generalize hr : Service.serve _ _ _ = r at h
  have heq : s.welcome a = (({ s with service := r.2.2 } : Site).attach r.2.1).2 := hr ▸ rfl
  rw [h] at heq
  exact ⟨_, heq⟩

/-- what is there when one more client has connected -/
theorem Assembled.welcome_eq {s : Site} (h : Assembled s) (a : Arrival) :
    ∃ t wires, s.welcome a = { service := t, clients := s.clients ++ [(s.clients.length, { wires })] } ∧
      t.links = s.service.links ++ [Service.newLink s.clients.length a.requestsCapacity] ∧
      t.hub.sessions = s.service.hub.sessions ++ [{ id := a.id, token := a.token, events := .ofCapacity a.eventsCapacity }] ∧
      t.hub.drained = false := by
  have hthere := s.service.hub.session?_create a.id a.token a.eventsCapacity s.service.hub.sessions.length
  rw [if_pos rfl] at hthere
  have hjoin := Hub.join_of_session (h := (s.service.hub.create a.id a.token a.eventsCapacity).2) h.drained hthere
  have hserved : (Service.serve { s.service with hub := (s.service.hub.create a.id a.token a.eventsCapacity).2 }
      s.service.hub.sessions.length a.requestsCapacity).1 = true := by
    rw [Service.serve_fst, Hub.join_fst, hthere]
    show (!s.service.hub.drained && true) = true
    rw [h.drained]
    rfl
  obtain ⟨-, heq⟩ := Service.serve_of_joined hserved
  obtain ⟨wires, hwelcome⟩ := welcome_of_serve (Prod.ext hserved (heq.trans (Prod.ext h.links rfl)))
  rw [hjoin, h.sessions] at hwelcome
  exact ⟨_, wires, hwelcome, rfl, rfl, h.drained⟩

theorem Assembled.welcome {s : Site} (h : Assembled s) (a : Arrival) : Assembled (s.welcome a) := by
  obtain ⟨t, wires, heq, hlinks, hsessions, hdrained⟩ := h.welcome_eq a
  rw [heq]
  refine ⟨?_, ?_, hdrained, fun k hk => ?_⟩
  · show t.links.length = _
    rw [hlinks, List.length_append, List.length_append, h.links]
    rfl
  · show t.hub.sessions.length = _
    rw [hsessions, List.length_append, List.length_append, h.sessions]
    rfl
  · have hclients := h.links
    have hhandles := h.sessions
    rw [List.length_append, List.length_singleton] at hk
    by_cases hlast : k = s.clients.length
    · subst hlast
      refine ⟨{ wires }, _, ⟨?_, ?_, rfl, ?_⟩, rfl, errand_newLink s.clients.length a.positive⟩
      · exact List.getElem?_concat_length
      · show t.links[_]? = _
        rw [hlinks, ← h.links]
        exact List.getElem?_concat_length
      · refine ⟨a.id, ?_⟩
        show (t.hub.sessions[s.clients.length]?).map _ = _
        rw [hsessions, ← h.sessions, List.getElem?_concat_length]
        rfl
    · obtain ⟨c, l, hc, hcalls, herrand⟩ := h.paired k (by omega)
      refine ⟨c, l, ⟨?_, ?_, hc.session, ?_⟩, hcalls, herrand⟩
      · exact (List.getElem?_append_left (by omega)).trans hc.client
      · show t.links[k]? = _
        rw [hlinks, List.getElem?_append_left (by omega)]
        exact hc.link
      · obtain ⟨id, hid⟩ := hc.there
        refine ⟨id, ?_⟩
        show (t.hub.sessions[k]?).map _ = _
        rw [hsessions, List.getElem?_append_left (by omega)]
        exact hid

theorem Assembled.length_welcome {s : Site} (h : Assembled s) (a : Arrival) :
    (s.welcome a).clients.length = s.clients.length + 1 := by
  obtain ⟨t, wires, hwelcome, -⟩ := h.welcome_eq a
  rw [hwelcome]
  exact List.length_append

theorem Assembled.welcomes {s : Site} (h : Assembled s) (arrivals : List Arrival) :
    Assembled (arrivals.foldl .welcome s) ∧
      (arrivals.foldl .welcome s).clients.length = s.clients.length + arrivals.length := by
  induction arrivals generalizing s with
  | nil => exact ⟨h, rfl⟩
  | cons a arrivals ih =>
    obtain ⟨hassembled, hlength⟩ := ih (h.welcome a)
    refine ⟨hassembled, hlength.trans ?_⟩
    rw [h.length_welcome, List.length_cons]
    omega

/-- as many clients are there as have connected -/
theorem assembled_opened {s : Service} (hlinks : s.links = []) (hsessions : s.hub.sessions = [])
    (hdrained : s.hub.drained = false) (arrivals : List Arrival) :
    Assembled (.opened s arrivals) ∧ (Site.opened s arrivals).clients.length = arrivals.length := by
  have hempty : Assembled { service := s } :=
    ⟨congrArg List.length hlinks, congrArg List.length hsessions, hdrained, nofun⟩
  obtain ⟨hassembled, hlength⟩ := hempty.welcomes arrivals
  exact ⟨hassembled, hlength.trans (Nat.zero_add _)⟩

theorem sound_start {start : Site} (h : Assembled start) : Sound start [] { site := start } where
  clients := rfl
  links := h.links
  inHand k hk := by
    obtain ⟨c, l, hc, hcalls, herrand⟩ := h.paired k hk
    refine ⟨c, l, hc, herrand, ?_⟩
    rw [hcalls]
    rfl
  direct := ⟨nofun, rfl, .refl _⟩

end Minutes

end TunnelControl
