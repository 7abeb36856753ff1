import TunnelControl.Proofs.Service.Membership
import TunnelControl.Proofs.Session.Standing

/-!
# What is asked of the tunnel

Sessions ask a service to start its tunnel, to stop it, and to tear it down as they quit.  Between two requests
anything else may become of the service: sessions come and go, and so do their privileges.

* `Tunnel.Settled`         a tunnel between two requests;
* `Service.askTunnel`      what comes of a request: its answer, what is published for it, and the service then;
* `Service.Follows`        what should come of it, case by case;
* `follows_askTunnel`      and does;
* `TunnelHistory.Agrees`   state, configuration and history of the tunnel agree;
* `agrees_after`           and each request keeps to that.
-/

namespace TunnelControl

/-! ## tunnels between two requests -/

namespace Tunnel

/-- a tunnel that is stopped, invalid or running, and holds a configuration as long as it is running -/
structure Settled (t : Tunnel) : Prop where
  state : t.state = .stopped ∨ t.state = .invalid ∨ t.state = .running
  config : t.state = .running ↔ t.config.isSome = true

namespace Settled

theorem config_eq_none {t : Tunnel} (h : t.Settled) (ht : t.state ≠ .running) : t.config = none := by
  cases hc : t.config with
  | none => rfl
  | some config => exact absurd (h.config.mpr (by rw [hc]; rfl)) ht

theorem fresh : Settled {} := ⟨.inl rfl, nofun, nofun⟩

theorem invalid : Settled ⟨.invalid, none⟩ := ⟨.inr (.inl rfl), nofun, nofun⟩

theorem running (config : TunnelConfig) : Settled ⟨.running, some config⟩ :=
  ⟨.inr (.inr rfl), fun _ => rfl, fun _ => rfl⟩

theorem start_of_running {t : Tunnel} (ht : t.state = .running) (config : TunnelConfig) :
    t.start config = ⟨t, [], some (.error (.busy .running))⟩ := by
  simp only [start, startPlan, ht]
  rfl

theorem start_of_usable {t : Tunnel} (h : t.Settled) (ht : t.state ≠ .running) {config : TunnelConfig}
    (hc : config.check = .ok ()) :
    t.start config = ⟨⟨.running, some config⟩, [.starting, .registering, .registered, .running], some (.ok ())⟩ := by
  obtain hs | hs | hs := h.state
  · simp only [start, startPlan, hs, hc]
    rfl
  · simp only [start, startPlan, hs, hc]
    rfl
  · exact absurd hs ht

theorem start_of_fault {t : Tunnel} (h : t.Settled) (ht : t.state ≠ .running) {config : TunnelConfig}
    {fault : ConfigFault} (hc : config.check = .error fault) :
    t.start config = ⟨⟨.invalid, none⟩, [.invalid], some (.error (.invalidConfig fault.message))⟩ := by
  obtain ⟨state, held⟩ := t
  cases h.config_eq_none ht
  obtain hs | hs | hs := h.state
  · cases hs
    simp only [start, startPlan, hc]
    rfl
  · cases hs
    simp only [start, startPlan, hc]
    rfl
  · exact absurd hs ht

theorem stop_of_stopped {t : Tunnel} (ht : t.state = .stopped) : t.stop = ⟨t, [], some (.ok ())⟩ := by
  simp only [stop, stopPlan, ht]
  rfl

theorem stop_of_ne_stopped {t : Tunnel} (h : t.Settled) (ht : t.state ≠ .stopped) :
    t.stop = ⟨⟨.stopped, none⟩, [.stopping, .stopped], some (.ok ())⟩ := by
  obtain hs | hs | hs := h.state
  · exact absurd hs ht
  · simp only [stop, stopPlan, hs]
    rfl
  · simp only [stop, stopPlan, hs]
    rfl

end Settled

end Tunnel

/-! ## requests -/

inductive TunnelRequest
  | start (config : TunnelConfig)
  | stop
  /-- a quit has come to the tunnel -/
  | tearDown

/-- what comes of a request -/
structure TunnelTurn where
  answer : Except OperationError Unit
  /-- the states published for it, in order -/
  published : List TunnelState
  service : Service

namespace Service

/-- a session asks something of the tunnel -/
def askTunnel (s : Service) (session : Nat) : TunnelRequest → TunnelTurn
  | .start config =>
    { answer := (s.startTunnel session config).1
      published := if s.isElevated session then (s.tunnel.start config).published else []
      service := (s.startTunnel session config).2 }
  | .stop =>
    { answer := (s.stopTunnel session).1
      published := if s.isElevated session then s.tunnel.stop.published else []
      service := (s.stopTunnel session).2 }
  | .tearDown => { answer := .ok (), published := [], service := (s.quitStep session true .tearDown).2 }

/-- the tunnel has gone through some states, and they were published to all, one after the other -/
def moved (s : Service) (published : List TunnelState) (tunnel : Tunnel) : Service :=
  { s with tunnel := .simulated tunnel, hub := publishEach s.hub published }

/-- what should come of a request to a tunnel -/
inductive Follows (s : Service) (t : Tunnel) (session : Nat) : TunnelRequest → TunnelTurn → Prop
  | startDenied (config : TunnelConfig) (he : s.isElevated session = false) :
      Follows s t session (.start config) ⟨.error .accessDenied, [], s⟩
  | busy (config : TunnelConfig) (he : s.isElevated session = true) (ht : t.state = .running) :
      Follows s t session (.start config) ⟨.error (.tunnel (.busy .running)), [], s⟩
  | invalid (config : TunnelConfig) (fault : ConfigFault) (he : s.isElevated session = true)
      (ht : t.state ≠ .running) (hc : config.check = .error fault) :
      Follows s t session (.start config)
        ⟨.error (.tunnel (.invalidConfig fault.message)), [.invalid], s.moved [.invalid] ⟨.invalid, none⟩⟩
  | started (config : TunnelConfig) (he : s.isElevated session = true) (ht : t.state ≠ .running)
      (hc : config.check = .ok ()) :
      Follows s t session (.start config)
        ⟨.ok (), [.starting, .registering, .registered, .running],
          s.moved [.starting, .registering, .registered, .running] ⟨.running, some config⟩⟩
  | stopDenied (he : s.isElevated session = false) : Follows s t session .stop ⟨.error .accessDenied, [], s⟩
  | idle (he : s.isElevated session = true) (ht : t.state = .stopped) : Follows s t session .stop ⟨.ok (), [], s⟩
  | stopped (he : s.isElevated session = true) (ht : t.state ≠ .stopped) :
      Follows s t session .stop
        ⟨.ok (), [.stopping, .stopped], s.moved [.stopping, .stopped] ⟨.stopped, none⟩⟩
  | tornDown : Follows s t session .tearDown ⟨.ok (), [], { s with teardowns := s.teardowns + 1 }⟩

theorem moved_nil {s : Service} {t : Tunnel} (hs : s.tunnel = .simulated t) : s.moved [] t = s := by
  rw [moved, ← hs]
  rfl

theorem settleTunnel_replyOf (s : Service) (t : Tunnel) (published : List TunnelState)
    (answer : Except TunnelFault Unit) :
    s.settleTunnel (TunnelBackend.replyOf ⟨t, published, some answer⟩)
      = (answer.mapError .tunnel, s.moved published t) := rfl

/-- **What comes of a request is what should.** -/
theorem follows_askTunnel {s : Service} {t : Tunnel} (hs : s.tunnel = .simulated t) (h : t.Settled) (session : Nat)
    (r : TunnelRequest) : s.Follows t session r (s.askTunnel session r) := by
  cases r with
  | start config =>
    cases he : s.isElevated session with
    | false =>
      simp only [askTunnel, startTunnel, he, Bool.false_eq_true, if_false]
      exact .startDenied config he
    | true =>
      simp only [askTunnel, startTunnel, he, if_true, hs, TunnelBackend.start]
      by_cases ht : t.state = .running
      · rw [Tunnel.Settled.start_of_running ht, settleTunnel_replyOf, moved_nil hs]
        exact .busy config he ht
      · cases hc : config.check with
        | error fault =>
          rw [h.start_of_fault ht hc]
          exact .invalid config fault he ht hc
        | ok usable =>
          rw [h.start_of_usable ht hc]
          exact .started config he ht hc
  | stop =>
    cases he : s.isElevated session with
    | false =>
      simp only [askTunnel, stopTunnel, he, Bool.false_eq_true, if_false]
      exact .stopDenied he
    | true =>
      simp only [askTunnel, stopTunnel, he, if_true, hs, TunnelBackend.stop]
      by_cases ht : t.state = .stopped
      · rw [Tunnel.Settled.stop_of_stopped ht, settleTunnel_replyOf, moved_nil hs]
        exact .idle he ht
      · rw [h.stop_of_ne_stopped ht]
        exact .stopped he ht
  | tearDown => exact .tornDown

/-- whatever comes of a request, its states are published, and nothing else befalls the hub -/
theorem Follows.hub {s : Service} {t : Tunnel} {session : Nat} {r : TunnelRequest} {turn : TunnelTurn}
    (h : s.Follows t session r turn) : turn.service.hub = publishEach s.hub turn.published := by
  cases h <;> rfl

/-- the states are published to the members, to all of them in order, and to nobody else -/
theorem standing_publishEach (states : List TunnelState) {h : Hub} (hm : h.MembersSound) (session : Nat) :
    (publishEach h states).standing session
      = if h.includes session then
          states.foldl (fun v state => v.act (.publish (.tunnelStateChanged state))) (h.standing session)
        else h.standing session := by
  induction states generalizing h with
  | nil => exact (ite_self _).symm
  | cons state states ih =>
    have hsound : (h.publish (.tunnelStateChanged state) false).2.MembersSound := Hub.membersSound_act hm (.publish _ _)
    have hincludes : (h.publish (.tunnelStateChanged state) false).2.includes session = h.includes session := by
      rw [Hub.includes, (h.steady_publish _ _).members, Hub.includes]
    show (publishEach (h.publish _ false).2 states).standing session = _
    have hhears : (h.standing session).hears false = true ↔ h.includes session = true :=
      (h.mem_audience_iff_hears false session).symm.trans
        ((mem_audience_iff hm session).trans (h.includes_iff session).symm)
    rw [ih hsound, hincludes, Hub.standing_publish hm]
    by_cases hi : h.includes session = true
    · rw [if_pos hi, if_pos hi, if_pos (hhears.mpr hi)]
      rfl
    · rw [if_neg hi, if_neg hi, if_neg (fun hh => hi (hhears.mp hh))]

end Service

/-! ## histories -/

/-- a service, with all that was published of its tunnel, and what was started last -/
structure TunnelHistory where
  service : Service
  published : List TunnelState := []
  started : Option TunnelConfig := none

inductive TunnelEvent
  | ask (session : Nat) (r : TunnelRequest)
  /-- something else becomes of the service -/
  | meanwhile (s : Service) (hm : s.hub.MembersSound)

namespace TunnelHistory

/-- what was started last, as another start succeeds -/
def lastStarted (started : Option TunnelConfig) : TunnelRequest → Except OperationError Unit → Option TunnelConfig
  | .start config, .ok () => some config
  | _, _ => started

def step (h : TunnelHistory) : TunnelEvent → TunnelHistory
  | .ask session r =>
    let turn := h.service.askTunnel session r
    { service := turn.service
      published := h.published ++ turn.published
      started := lastStarted h.started r turn.answer }
  | .meanwhile s _ => { h with service := { s with tunnel := h.service.tunnel } }

def after (h : TunnelHistory) (events : List TunnelEvent) : TunnelHistory := events.foldl step h

/-- state, configuration and history of the tunnel agree -/
structure Agrees (h : TunnelHistory) (t : Tunnel) : Prop where
  tunnel : h.service.tunnel = .simulated t
  settled : t.Settled
  started : ∀ config, t.config = some config → h.started = some config
  latest : t.state = h.published.getLast?.getD .stopped
  members : h.service.hub.MembersSound

theorem agrees_fresh (deliveryTimeout : Nat) (updateState : UpdateState) (installer : Installer) :
    Agrees { service := .fresh deliveryTimeout updateState (.simulated {}) installer } {} :=
  ⟨rfl, .fresh, nofun, rfl, nofun, List.Pairwise.nil⟩

/-- the tunnel has gone through some states, the last of which it is in -/
theorem Agrees.moved {h : TunnelHistory} {t u : Tunnel} (ha : h.Agrees t) (hu : u.Settled)
    (published : List TunnelState) {started : Option TunnelConfig}
    (hstarted : ∀ config, u.config = some config → started = some config) (hlast : published.getLast? = some u.state) :
    Agrees ⟨h.service.moved published u, h.published ++ published, started⟩ u where
  tunnel := rfl
  settled := hu
  started := hstarted
  latest := by
    show u.state = (h.published ++ published).getLast?.getD .stopped
    rw [List.getLast?_append, hlast]
    rfl
  members := Service.membersSound_of_steady (Hub.steady_publishEach published _) ha.members

theorem Agrees.unmoved {h : TunnelHistory} {t : Tunnel} (ha : h.Agrees t) :
    Agrees ⟨h.service, h.published ++ [], h.started⟩ t := by
  rw [List.append_nil]
  exact ha

/-- **A request keeps state, configuration and history in agreement.** -/
theorem exists_agrees_step {h : TunnelHistory} {t : Tunnel} (ha : h.Agrees t) (event : TunnelEvent) :
    ∃ u, (h.step event).Agrees u := by
  cases event with
  | meanwhile s hm => exact ⟨t, ha.tunnel, ha.settled, ha.started, ha.latest, hm⟩
  | ask session r =>
    have hturn := Service.follows_askTunnel ha.tunnel ha.settled session r
    simp only [step]
    generalize h.service.askTunnel session r = turn at hturn
    cases hturn with
    | startDenied config he => exact ⟨t, ha.unmoved⟩
    | busy config he ht => exact ⟨t, ha.unmoved⟩
    | invalid config fault he ht hc => exact ⟨_, ha.moved .invalid [.invalid] nofun rfl⟩
    | started config he ht hc => exact ⟨_, ha.moved (.running config) _ (fun _ heq => heq) rfl⟩
    | stopDenied he => exact ⟨t, ha.unmoved⟩
    | idle he ht => exact ⟨t, ha.unmoved⟩
    | stopped he ht => exact ⟨_, ha.moved .fresh [.stopping, .stopped] nofun rfl⟩
    | tornDown =>
      refine ⟨t, ha.tunnel, ha.settled, ha.started, ?_, ha.members⟩
      rw [List.append_nil]
      exact ha.latest

theorem exists_agrees_after {h : TunnelHistory} {t : Tunnel} (ha : h.Agrees t) (events : List TunnelEvent) :
    ∃ u, (h.after events).Agrees u := by
  induction events generalizing h t with
  | nil => exact ⟨t, ha⟩
  | cons event events ih =>
    obtain ⟨u, hu⟩ := exists_agrees_step ha event
    exact ih hu

/-- **State, configuration and history of the tunnel agree, whatever was asked of it, by whom, and whatever else
became of the service in between.**  What comes of the next request is what should, and the states that are published
for it are offered in order to each member. -/
theorem tunnel_follows_history (deliveryTimeout : Nat) (updateState : UpdateState) (installer : Installer)
    (events : List TunnelEvent) :
    let h := after { service := .fresh deliveryTimeout updateState (.simulated {}) installer } events
    ∃ t, h.Agrees t ∧ ∀ session r,
      h.service.Follows t session r (h.service.askTunnel session r) ∧
        ∀ other, (h.service.askTunnel session r).service.hub.standing other
          = if h.service.hub.includes other then
              (h.service.askTunnel session r).published.foldl
                (fun v state => v.act (.publish (.tunnelStateChanged state))) (h.service.hub.standing other)
            else h.service.hub.standing other := by
  obtain ⟨t, ha⟩ := exists_agrees_after (agrees_fresh deliveryTimeout updateState installer) events
  refine ⟨t, ha, fun session r => ?_⟩
  have hfollows := Service.follows_askTunnel ha.tunnel ha.settled session r
  refine ⟨hfollows, fun other => ?_⟩
  rw [hfollows.hub]
  exact Service.standing_publishEach _ ha.members other

end TunnelHistory

end TunnelControl
