import TunnelControl.Proofs.Site.Conduct

/-!
# Calls come to the same as direct operations

However the calls of all clients get in each other's way, there is one order of all operations, in which each client's
calls stand as it made them.  Whoever carries them out directly, one after the other, gets what the clients are told.

* `Service.operationsOf`, `resultsOf`   of the operations of all sessions, those of one, and what it gets of them;
* `Told`                                what a client is told is what it gets of direct operations;
* `AsIfDirect`                          so are all of them, and the service comes to the same.
-/

namespace TunnelControl

open Wire (encode)

namespace Service

/-- those of the operations that a session asks for -/
def operationsOf (operations : List (Nat × Method)) (k : Nat) : List Method :=
  (operations.filter (·.1 == k)).map Prod.snd

/-- what a session gets of its operations, when they are carried out directly among those of the others -/
def resultsOf (s : Service) (operations : List (Nat × Method)) (k : Nat) : List (Except PeerError Answer) :=
  ((operations.zip (s.operateEach operations).1).filter (·.1.1 == k)).map Prod.snd

end Service

namespace Minutes

/-- what a client is told is what it gets of direct operations -/
structure Told (s : Service) (operations : List (Nat × Method)) (called : List Method) (k : Nat) (c : Client) : Prop where
  calls : c.calls.map Call.request = called.map .call
  /-- its calls are carried out in the order in which it makes them, each once -/
  order : Service.operationsOf operations k <+: called
  results : ∀ j r, c.result? j = some r → (s.resultsOf operations k)[j]? = some r

/-- all that the clients are told, and the service in the end, are what direct operations come to, in the order in which
the service carried them out -/
structure AsIfDirect (start : Site) (actions : List Action) (r : Minutes) : Prop where
  clients : r.site.clients.length = start.clients.length
  asked : ∀ e ∈ r.operations, e.1 < start.clients.length
  state : (start.service.operateEach r.operations).2.Agrees r.site.service
  told : ∀ k c, r.site.client? k = some c → Told start.service r.operations (calledBy k actions) k c
  /-- nobody waits for ever: so many steps are all that the calls can cost, and when there is none left to take, all have
  been carried out and have their results -/
  turns : ∀ k c, r.site.client? k = some c → r.turns.count k ≤ Errand.costs c.calls
  done : ∀ k c, r.site.client? k = some c → r.site.stepOf (.calls k) = none → r.site.stepOf (.loop k) = none →
    Service.operationsOf r.operations k = calledBy k actions ∧ ∀ j < c.calls.length, (c.result? j).isSome = true

variable {start : Site} {actions : List Action} {r : Minutes} {k : Nat} {c : Client} {l : Link}

/-! ## the log of one session -/

theorem operationsOf_operations (r : Minutes) (k : Nat) :
    Service.operationsOf r.operations k = (r.answered k).map Prod.fst := by
  rw [Service.operationsOf, operations, answered, List.filter_map, List.map_map, List.map_map]
  rfl

theorem Direct.resultsOf (h : Direct start r) (k : Nat) :
    start.service.resultsOf r.operations k = (r.answered k).map fun entry => entry.2.surface := by
  rw [Service.resultsOf, h.results, operations, answered, List.zip_map', List.filter_map, List.map_map, List.map_map]
  rfl

/-! ## each client -/

theorem InHand.told (h : r.InHand actions k c l) (hd : Direct start r) :
    Told start.service r.operations (calledBy k actions) k c := by
  have hcalls : c.calls.map Call.request = (calledBy k actions).map .call := by
    have heq := congrArg (List.map Prod.fst) h.made
    rwa [List.map_map, List.map_map] at heq
  refine ⟨hcalls, ?_, fun j v hv => ?_⟩
  · -- requests are prefixes of requests, so the methods are, since a request tells its method
    have hasked := h.errand.stage.asked
    rw [hcalls] at hasked
    obtain ⟨more, hmore⟩ := hasked
    obtain ⟨done, rest, heq, hdone, -⟩ := List.map_eq_append_iff.mp hmore.symm
    rw [operationsOf_operations, heq]
    refine ⟨rest, congrArg (· ++ rest) ?_⟩
    refine (List.map_inj_right fun m m' hm => Request.call.inj hm).mp ?_
    rw [hdone, List.map_map]
    rfl
  · obtain ⟨call, hcall, hresult⟩ := Option.bind_eq_some_iff.mp hv
    obtain ⟨m, a, hanswered, -, rfl⟩ := h.errand.told hcall hresult
    rw [hd.resultsOf, List.getElem?_map, hanswered]
    rfl

/-- as long as one of its calls has no result, something can still be done for a client -/
theorem InHand.all_results (h : r.InHand actions k c l) (hcalls : r.site.stepOf (.calls k) = none)
    (hloop : r.site.stepOf (.loop k) = none) : ∀ call ∈ c.calls, call.result?.isSome = true := by
  obtain ⟨d, ⟨hsame, hflight, hwires⟩, hstep⟩ := h.paired.of_withClient_eq_none hcalls
  have herrand := h.errand
  rw [← hsame, ← hflight, ← hwires] at herrand
  rw [← hsame]
  exact herrand.isDone (hwires.symm ▸ h.paired.link) hstep (Option.map_eq_none_iff.mp hloop)

theorem InHand.done (h : r.InHand actions k c l) (hd : Direct start r) (hcalls : r.site.stepOf (.calls k) = none)
    (hloop : r.site.stepOf (.loop k) = none) :
    Service.operationsOf r.operations k = calledBy k actions ∧ ∀ j < c.calls.length, (c.result? j).isSome = true := by
  have hresults (j : Nat) (hj : j < c.calls.length) : (c.result? j).isSome = true := by
    rw [Client.result?, List.getElem?_eq_getElem hj]
    exact h.all_results hcalls hloop _ (List.getElem_mem hj)
  have htold := h.told hd
  refine ⟨htold.order.eq_of_length_le (Nat.le_of_not_lt fun hlt => ?_), hresults⟩
  -- otherwise the first call that was not carried out would have a result all the same
  have hlength := congrArg List.length htold.calls
  rw [List.length_map, List.length_map] at hlength
  obtain ⟨v, hv⟩ := Option.isSome_iff_exists.mp (hresults _ (hlength ▸ hlt))
  have hthere := (List.getElem?_eq_some_iff.mp (htold.results _ v hv)).1
  rw [hd.resultsOf, operationsOf_operations, List.length_map, List.length_map] at hthere
  exact Nat.lt_irrefl _ hthere

/-! ## all clients -/

theorem Sound.inHand_of_client? (h : Sound start actions r) (hc : r.site.client? k = some c) :
    ∃ l, r.InHand actions k c l := by
  obtain ⟨⟨n, d⟩, hd, rfl⟩ := Option.map_eq_some_iff.mp hc
  obtain ⟨c, l, hk⟩ := h.inHand k (h.clients ▸ (List.getElem?_eq_some_iff.mp hd).1)
  cases hd.symm.trans hk.paired.client
  exact ⟨l, hk⟩

theorem Sound.asIfDirect (h : Sound start actions r) : AsIfDirect start actions r where
  clients := h.clients
  asked operation hmem := by
    obtain ⟨e, he, rfl⟩ := List.mem_map.mp hmem
    exact h.direct.asked e he
  state := h.direct.state
  told k c hc := by
    obtain ⟨l, hk⟩ := h.inHand_of_client? hc
    exact hk.told h.direct
  turns k c hc := by
    obtain ⟨l, hk⟩ := h.inHand_of_client? hc
    exact hk.errand.stage.spent_le
  done k c hc hcalls hloop := by
    obtain ⟨l, hk⟩ := h.inHand_of_client? hc
    exact hk.done h.direct hcalls hloop

/-- **Calls through clients come to the same as direct operations.**  Any clients connect, elevated or not, each to a
session of its own.  They call what they like, and all tasks take their steps in any order.  If the requests and the
answers have frames, then each call has the result, a value or the text of an error, that its operation has when all
operations are carried out directly, one after the other, in the order in which the service came to them.  That order
keeps the order of each client's calls, and the service is the same in the end. -/
theorem calls_are_operations (deliveryTimeout : Nat) (updateState : UpdateState) (tunnel : TunnelBackend)
    (installer : Installer) (arrivals : List Arrival) {start : Site}
    (hstart : start = .opened (.fresh deliveryTimeout updateState tunnel installer) arrivals) (actions : List Action)
    (hfits : ∀ a ∈ actions, a.Fits)
    (hframed : ∀ e ∈ (({ site := start } : Minutes).run actions).entries, e.answer.HasFrame) :
    start.clients.length = arrivals.length ∧ AsIfDirect start actions (({ site := start } : Minutes).run actions) := by
  subst hstart
  obtain ⟨hassembled, hlength⟩ := assembled_opened (s := .fresh deliveryTimeout updateState tunnel installer)
    rfl rfl rfl arrivals
  refine ⟨hlength, Sound.asIfDirect ?_⟩
  exact sound_run (sound_start hassembled) actions hfits hframed

/-- a session that is not elevated is refused to stop the tunnel, while the other one quits and looks at the tunnel -/
theorem calls_are_operations_crossed :
    ∃ (arrivals : List Arrival) (actions : List Action) (start : Site) (r : Minutes),
      arrivals = [⟨⟨1⟩, some ⟨0, 0⟩, 8, 64, by decide⟩, ⟨⟨2⟩, none, 4, 64, by decide⟩] ∧
      actions = [.call 0 (.quit false), .call 1 .stopTunnel, .call 0 .queryTunnelState] ++
        (List.replicate 20 [.task (.calls 1), .task (.loop 1), .task (.calls 0), .task (.loop 0)]).flatten ∧
      start = .opened (.fresh 500 .available (.simulated {}) .unsupported) arrivals ∧
      r = ({ site := start } : Minutes).run actions ∧
      AsIfDirect start actions r ∧
      r.operations = [(1, .stopTunnel), (0, .quit false), (0, .queryTunnelState)] ∧
      (r.site.client? 0).map (fun c => [c.result? 0, c.result? 1])
        = some [some (.ok (.quit ⟨false, none⟩)), some (.ok (.tunnelState .stopped))] ∧
      (r.site.client? 1).map (·.result? 0) = some (some (.error (.manager "Access is denied"))) := by
  refine ⟨_, _, _, _, rfl, rfl, rfl, rfl, ?_, by decide +kernel, by decide +kernel, by decide +kernel⟩
  exact (calls_are_operations 500 .available (.simulated {}) .unsupported _ rfl _ (by decide +kernel)
    (by decide +kernel)).2

end Minutes

end TunnelControl
