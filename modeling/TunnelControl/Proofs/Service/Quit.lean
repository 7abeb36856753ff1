import TunnelControl.Proofs.Service.Membership
import TunnelControl.Proofs.Session.Standing

/-!
# Sessions that quit at the same time

Any number of sessions may ask the service to quit.  Their quits go on stage by stage, in any order, while sessions
come and go, events are published, time passes, and whoever waits for the signal takes it.

* `QuitStage.sinceClaim`      how far one has come who claimed the flag;
* `Quitting.act`, `run`       the stages of the quits among all else;
* `Quitting.raised`, `taken`  how often the signal goes up in a run, and how often it is taken;
* `Quitting.call_act`         a call goes on by stages of its own alone;
* `Quitting.hub_act`          what becomes of the hub, as actions on it;
* `Quitting.left_run`         a call is answered behind six stages of its own;
* `Quitting.closed_or_gives_way`   what may become of a session that was a member.
-/

namespace TunnelControl

namespace Hub

/-- a hub that was drained stays empty, whatever happens to it -/
theorem shut_act {h : Hub} (hd : h.drained = true) (hm : h.members = []) (a : Action) :
    (h.act a).drained = true ∧ (h.act a).members = [] := by
  cases hk : a.keepsMembers with
  | true =>
    obtain ⟨hmembers, hdrained⟩ := members_act_of_keeps (h := h) hk
    exact ⟨hdrained.trans hd, hmembers.trans hm⟩
  | false =>
    cases a with
    | join handle =>
      show (h.join handle).2.drained = true ∧ (h.join handle).2.members = []
      rw [join_drained hd]
      exact ⟨hd, hm⟩
    | leave id =>
      have hnone : h.member? id = none := by
        rw [member?, hm]
        rfl
      show (h.leave id).2.drained = true ∧ (h.leave id).2.members = []
      unfold leave
      rw [hnone]
      exact ⟨hd, hm⟩
    | drain => exact ⟨rfl, rfl⟩
    | _ => cases hk

theorem publish_of_empty {h : Hub} (hm : h.members = []) (event : Event) (adminOnly : Bool) :
    h.publish event adminOnly = (0, h) := by
  have ha : h.audience adminOnly = [] := by
    rw [audience, hm]
    rfl
  unfold publish
  cases frameOf event with
  | error e => rfl
  | ok frame =>
    simp only [ha]
    rfl

theorem isClosed_act {h : Hub} (hm : h.MembersSound) {handle : Nat} (hc : h.isClosed handle = true) (a : Action) :
    (h.act a).isClosed handle = true := by
  unfold isClosed at hc ⊢
  rw [Option.any_eq_true] at hc ⊢
  obtain ⟨s, hs, hclosed⟩ := hc
  obtain ⟨t, ht, hk⟩ := keeps_act hm hs a
  exact ⟨t, ht, hk.closed hclosed⟩

/-- a member stays one, or is closed as its membership ends, or gives way to a session with its id -/
theorem includes_act {h : Hub} (hm : h.MembersSound) {handle : Nat} (hi : h.includes handle = true) (a : Action) :
    (h.act a).includes handle = true ∨ (h.act a).isClosed handle = true ∨ h.touch? handle a = some .giveWay := by
  have hact := standing_act hm handle a
  obtain ⟨m, hmem, rfl⟩ := List.mem_map.mp ((includes_iff h handle).mp hi)
  obtain ⟨s, hs, -⟩ := Option.map_eq_some_iff.mp (hm.known m hmem)
  have hcloses (hv : ((h.act a).standing m.2).session = (h.standing m.2).depart.session) :
      (h.act a).isClosed m.2 = true := by
    have hsession : (h.act a).session? m.2 = some s.close := by
      refine hv.trans ?_
      unfold Standing.depart
      rw [show (h.standing m.2).isMember = true from hi, show (h.standing m.2).session = some s from hs]
      rfl
    unfold isClosed
    rw [hsession]
    rfl
  cases ht : h.touch? m.2 a with
  | none =>
    rw [ht] at hact
    exact .inl ((congrArg Standing.isMember hact).trans hi)
  | some t =>
    rw [ht] at hact
    have hact : (h.act a).standing m.2 = (h.standing m.2).act t := hact
    cases t with
    | giveWay => exact .inr (.inr rfl)
    | leave => exact .inr (.inl (hcloses (congrArg Standing.session hact)))
    | drain => exact .inr (.inl (hcloses ((congrArg Standing.session hact).trans rfl)))
    | join =>
      left
      refine (congrArg Standing.isMember hact).trans ?_
      show (h.includes m.2 || _) = true
      rw [hi, Bool.true_or]
    | publish event =>
      left
      refine (congrArg Standing.isMember hact).trans ?_
      simp only [Standing.act]
      split <;> exact hi
    | _ => exact .inl ((congrArg Standing.isMember hact).trans hi)

end Hub

namespace Service.QuitStage

/-- how many stages lie behind since the flag was claimed; nothing for those who have not claimed it -/
def sinceClaim : QuitStage → Option Nat
  | .closeCaller => some 0
  | .drain => some 1
  | .tearDown => some 2
  | .raiseSignal => some 3
  | .answered (.ok false) => some 4
  | _ => none

def isAnswered : QuitStage → Bool
  | .answered _ => true
  | _ => false

def left : QuitStage → Nat
  | .checkPermission => 6
  | .claim => 5
  | .closeCaller => 4
  | .drain => 3
  | .tearDown => 2
  | .raiseSignal => 1
  | .answered _ => 0

/-- the stages that a session comes to, as it is elevated or not -/
def Fits (elevated : Bool) : QuitStage → Prop
  | .checkPermission => True
  | .answered (.error e) => e = .accessDenied ∧ elevated = false
  | _ => elevated = true

def hubActions (handle : Nat) : QuitStage → List Hub.Action
  | .closeCaller => [.close handle]
  | .drain => [.drain]
  | _ => []

theorem isAnswered_iff (stage : QuitStage) : stage.isAnswered = true ↔ stage.left = 0 := by
  cases stage <;> simp [isAnswered, left]

theorem left_le (stage : QuitStage) : stage.left ≤ 6 := by
  cases stage <;> simp [left]

theorem isAnswered_of_sinceClaim {stage : QuitStage} {n : Nat} (h : stage.sinceClaim = some n)
    (ha : stage.isAnswered = true) : stage = .answered (.ok false) ∧ n = 4 := by
  cases stage with
  | answered answer =>
    match answer with
    | .ok false => exact ⟨rfl, (Option.some.inj h).symm⟩
    | .ok true => cases h
    | .error e => cases h
  | _ => cases ha

theorem answered_of_fits_true {stage : QuitStage} (h : stage.Fits true) (ha : stage.isAnswered = true) :
    stage = .answered (.ok false) ∨ stage = .answered (.ok true) := by
  cases stage with
  | answered answer =>
    match answer with
    | .ok false => exact .inl rfl
    | .ok true => exact .inr rfl
    | .error e => cases h.2
  | _ => cases ha

theorem denied_of_fits_false {stage : QuitStage} (h : stage.Fits false) :
    stage = .checkPermission ∨ stage = .answered (.error .accessDenied) := by
  cases stage with
  | checkPermission => exact .inl rfl
  | answered answer =>
    match answer with
    | .ok alreadyQuit => cases h
    | .error e => exact .inr (congrArg (fun e => answered (.error e)) h.1)
  | _ => cases h

end Service.QuitStage

namespace Service

theorem hub_quitStep (s : Service) (handle : Nat) (stopTunnels : Bool) (stage : QuitStage) :
    (s.quitStep handle stopTunnels stage).2.hub = (stage.hubActions handle).foldl Hub.act s.hub := by
  cases stage with
  | checkPermission =>
    simp only [quitStep]
    split <;> rfl
  | claim =>
    simp only [quitStep]
    split <;> rfl
  | tearDown => cases stopTunnels <;> rfl
  | _ => rfl

theorem left_quitStep (s : Service) (handle : Nat) (stopTunnels : Bool) (stage : QuitStage) :
    (s.quitStep handle stopTunnels stage).1.left ≤ stage.left - 1 := by
  cases stage with
  | checkPermission =>
    simp only [quitStep]
    split <;> simp [QuitStage.left]
  | claim =>
    simp only [quitStep]
    split <;> simp [QuitStage.left]
  | _ => simp [quitStep, QuitStage.left]

theorem sinceClaim_quitStep (s : Service) (handle : Nat) (stopTunnels : Bool) {stage : QuitStage} {n : Nat}
    (h : stage.sinceClaim = some n) : (s.quitStep handle stopTunnels stage).1.sinceClaim = some (min (n + 1) 4) := by
  cases stage with
  | answered answer =>
    obtain ⟨heq, rfl⟩ := QuitStage.isAnswered_of_sinceClaim h rfl
    exact h
  | checkPermission => cases h
  | claim => cases h
  | _ =>
    cases h
    rfl

theorem quitStep_of_sinceClaim_eq_none {s : Service} {handle : Nat} {stopTunnels : Bool} {stage : QuitStage}
    (h : (s.quitStep handle stopTunnels stage).1.sinceClaim = none) :
    (s.quitStep handle stopTunnels stage).2 = s := by
  cases stage with
  | checkPermission =>
    simp only [quitStep]
    split <;> rfl
  | claim =>
    simp only [quitStep] at h ⊢
    split at h
    · rename_i hq
      rw [if_pos hq]
    · cases h
  | answered answer => rfl
  | _ => cases h

/-- a stage leaves a signal that nobody has taken -/
theorem signal_quitStep {s : Service} (h : s.signal = true) (handle : Nat) (stopTunnels : Bool) (stage : QuitStage) :
    (s.quitStep handle stopTunnels stage).2.signal = true := by
  cases stage with
  | checkPermission =>
    simp only [quitStep]
    split <;> exact h
  | claim =>
    simp only [quitStep]
    split <;> exact h
  | tearDown => cases stopTunnels <;> exact h
  | raiseSignal => rfl
  | _ => exact h

/-- who is told that another session was first finds the flag up, or was told so before -/
theorem answered_true_quitStep {s : Service} {handle : Nat} {stopTunnels : Bool} {stage : QuitStage}
    (h : (s.quitStep handle stopTunnels stage).1 = .answered (.ok true)) :
    (s.quitStep handle stopTunnels stage).1 = stage ∨ s.hasQuit = true := by
  cases stage with
  | checkPermission =>
    simp only [quitStep] at h
    split at h <;> cases h
  | claim =>
    simp only [quitStep] at h
    split at h
    · exact .inr ‹_›
    · cases h
  | answered answer => exact .inl rfl
  | _ => cases h

/-- who claims the flag finds it down -/
theorem claim_of_sinceClaim_quitStep {s : Service} {handle : Nat} {stopTunnels : Bool} {stage : QuitStage}
    (h : (s.quitStep handle stopTunnels stage).1.sinceClaim ≠ none) :
    (∃ n, stage.sinceClaim = some n) ∨ (stage = .claim ∧ s.hasQuit = false) := by
  cases stage with
  | checkPermission =>
    simp only [quitStep] at h
    split at h <;> exact absurd rfl h
  | claim =>
    simp only [quitStep] at h
    split at h
    · exact absurd rfl h
    · exact .inr ⟨rfl, Bool.eq_false_iff.mpr ‹_›⟩
  | answered answer => exact .inl (Option.ne_none_iff_exists'.mp h)
  | _ => exact .inl ⟨_, rfl⟩

theorem fits_quitStep {s : Service} {handle : Nat} {stopTunnels : Bool} {stage : QuitStage}
    (h : stage.Fits (s.isElevated handle)) :
    (s.quitStep handle stopTunnels stage).1.Fits (s.isElevated handle) := by
  cases stage with
  | checkPermission =>
    simp only [quitStep]
    split
    · assumption
    · exact ⟨rfl, Bool.eq_false_iff.mpr ‹_›⟩
  | claim =>
    simp only [quitStep]
    split <;> exact h
  | answered answer => exact h
  | _ => exact h

end Service

/-- a quit that a session has asked for, and where it is -/
structure QuitCall where
  session : Nat
  stopTunnels : Bool
  stage : Service.QuitStage := .checkPermission

/-- a service while sessions quit -/
structure Quitting where
  service : Service
  calls : List QuitCall := []

namespace Quitting

open Service (QuitStage)

inductive Action
  /-- a session begins to quit -/
  | ask (session : Nat) (stopTunnels : Bool)
  /-- a quit takes its next stage -/
  | go (n : Nat)
  /-- what others do: sessions come and go, events are published, clients read, time passes -/
  | hub (a : Hub.Action)
  | takeSignal

def Action.isGo (n : Nat) : Action → Bool
  | .go m => m == n
  | _ => false

/-- a call as it is behind its next stage -/
def advance (s : Service) (c : QuitCall) : QuitCall :=
  { c with stage := (s.quitStep c.session c.stopTunnels c.stage).1 }

def step (q : Quitting) (n : Nat) (c : QuitCall) : Quitting :=
  { service := (q.service.quitStep c.session c.stopTunnels c.stage).2
    calls := q.calls.set n (advance q.service c) }

def act (q : Quitting) : Action → Quitting
  | .ask session stopTunnels =>
    if (q.service.hub.session? session).isSome then { q with calls := q.calls ++ [{ session, stopTunnels }] } else q
  | .go n =>
    match q.calls[n]? with
    | some c => q.step n c
    | none => q
  | .hub a => { q with service := { q.service with hub := q.service.hub.act a } }
  | .takeSignal => { q with service := q.service.takeSignal.2 }

def run (q : Quitting) (as : List Action) : Quitting := as.foldl act q

theorem run_append (q : Quitting) (as bs : List Action) : q.run (as ++ bs) = (q.run as).run bs :=
  List.foldl_append

/-! ## the signal -/

/-- how often the signal goes up from one state to the next -/
def rises (q r : Quitting) : Nat := (!q.service.signal && r.service.signal).toNat

/-- how often an action takes it -/
def takes (q : Quitting) : Action → Nat
  | .takeSignal => q.service.takeSignal.1.toNat
  | _ => 0

/-- how often the signal goes up in a run -/
def raised : Quitting → List Action → Nat
  | _, [] => 0
  | q, a :: as => q.rises (q.act a) + (q.act a).raised as

/-- how often it is taken in a run -/
def taken : Quitting → List Action → Nat
  | _, [] => 0
  | q, a :: as => q.takes a + (q.act a).taken as

theorem rises_of_false {q r : Quitting} (h : r.service.signal = false) : q.rises r = 0 := by
  rw [rises, h, Bool.and_false]
  rfl

theorem rises_of_eq {q r : Quitting} (h : r.service.signal = q.service.signal) : q.rises r = 0 := by
  rw [rises, h, Bool.not_and_self]
  rfl

/-- who takes the signal takes it away, and nobody else does -/
theorem takes_act (q : Quitting) (a : Action) :
    q.service.signal.toNat + q.rises (q.act a) = q.takes a + (q.act a).service.signal.toNat := by
  have hstays {r : Quitting} (h : q.service.signal = true → r.service.signal = true) :
      q.service.signal.toNat + q.rises r = 0 + r.service.signal.toNat := by
    unfold rises
    cases hq : q.service.signal with
    | true => rw [h hq]; rfl
    | false => rw [Bool.not_false, Bool.true_and, Bool.toNat_false]
  cases a with
  | ask session stopTunnels =>
    refine hstays fun h => ?_
    simp only [act]
    split <;> exact h
  | go n =>
    refine hstays fun h => ?_
    simp only [act]
    split
    · exact Service.signal_quitStep h _ _ _
    · exact h
  | hub a => exact hstays id
  | takeSignal =>
    rw [rises_of_false (r := q.act .takeSignal) rfl]
    rfl

/-- the signal that went up was taken, or still waits to be -/
theorem taken_run (q : Quitting) (as : List Action) :
    q.service.signal.toNat + q.raised as = q.taken as + (q.run as).service.signal.toNat := by
  induction as generalizing q with
  | nil => exact Nat.add_comm ..
  | cons a as ih =>
    have hact := q.takes_act a
    have hrun : (q.act a).service.signal.toNat + (q.act a).raised as
        = (q.act a).taken as + (q.run (a :: as)).service.signal.toNat := ih (q.act a)
    rw [raised, taken]
    omega

/-! ## one action -/

theorem act_go {q : Quitting} {n : Nat} {c : QuitCall} (hc : q.calls[n]? = some c) : q.act (.go n) = q.step n c := by
  simp only [act, hc]

/-- what an action does to the hub -/
def hubActions (q : Quitting) : Action → List Hub.Action
  | .go n => q.calls[n]?.toList.flatMap fun c => c.stage.hubActions c.session
  | .hub a => [a]
  | _ => []

theorem hub_act (q : Quitting) (a : Action) :
    (q.act a).service.hub = (q.hubActions a).foldl Hub.act q.service.hub := by
  cases a with
  | ask session stopTunnels =>
    simp only [act]
    split <;> rfl
  | go n =>
    simp only [act, hubActions]
    cases q.calls[n]? with
    | none => rfl
    | some c =>
      rw [Option.toList_some, List.flatMap_singleton]
      exact q.service.hub_quitStep _ _ _
  | hub a => rfl
  | takeSignal => rfl

/-- a property of hubs that nothing upsets of what an action does to one -/
theorem hub_act_induction {P : Hub → Prop} {q : Quitting} {a : Action} (hm : q.service.hub.MembersSound)
    (h : P q.service.hub) (hstep : ∀ k b, b ∈ q.hubActions a → k.MembersSound → P k → P (k.act b)) :
    (q.act a).service.hub.MembersSound ∧ P (q.act a).service.hub := by
  rw [hub_act]
  generalize q.hubActions a = bs at hstep
  generalize q.service.hub = k at hm h
  induction bs generalizing k with
  | nil => exact ⟨hm, h⟩
  | cons b bs ih =>
    exact ih (fun k b' hb => hstep k b' (List.mem_cons_of_mem b hb)) _ (Hub.membersSound_act hm b)
      (hstep k b List.mem_cons_self hm h)

theorem call_act {q : Quitting} {n : Nat} {c : QuitCall} (hc : q.calls[n]? = some c) (a : Action) :
    (q.act a).calls[n]? = some (if a.isGo n then advance q.service c else c) := by
  cases a with
  | ask session stopTunnels =>
    have hlt : n < q.calls.length := (List.getElem?_eq_some_iff.mp hc).1
    simp only [act]
    split
    · exact (List.getElem?_append_left hlt).trans hc
    · exact hc
  | go m =>
    simp only [act]
    by_cases hm : m = n
    · subst hm
      have hlt : m < q.calls.length := (List.getElem?_eq_some_iff.mp hc).1
      rw [hc, if_pos (show (Action.go m).isGo m = true from beq_self_eq_true m)]
      exact List.getElem?_set_self hlt
    · rw [if_neg (show ¬(Action.go m).isGo n = true from fun h => hm (beq_iff_eq.mp h))]
      cases q.calls[m]? with
      | none => exact hc
      | some d => exact (List.getElem?_set_ne hm).trans hc
  | hub a => exact hc
  | takeSignal => exact hc

theorem call_of_act {q : Quitting} {n : Nat} {d : QuitCall} {a : Action} (hd : (q.act a).calls[n]? = some d) :
    (∃ c, q.calls[n]? = some c ∧ d = if a.isGo n then advance q.service c else c) ∨
      ((q.service.hub.session? d.session).isSome = true ∧ d.stage = .checkPermission) := by
  cases hc : q.calls[n]? with
  | some c =>
    left
    rw [call_act hc] at hd
    exact ⟨c, rfl, (Option.some.inj hd).symm⟩
  | none =>
    right
    have hnone : q.calls.length ≤ n := List.getElem?_eq_none_iff.mp hc
    cases a with
    | ask session stopTunnels =>
      simp only [act] at hd
      split at hd
      · rename_i hs
        rw [List.getElem?_append_right hnone, List.getElem?_singleton] at hd
        split at hd
        · cases hd
          exact ⟨hs, rfl⟩
        · cases hd
      · rw [hc] at hd
        cases hd
    | go m =>
      simp only [act] at hd
      cases hm : q.calls[m]? with
      | none =>
        rw [hm] at hd
        simp only [hc] at hd
        cases hd
      | some e =>
        rw [hm] at hd
        have hnone' : (q.calls.set m (advance q.service e))[n]? = none := by
          rw [List.getElem?_eq_none_iff, List.length_set]
          exact hnone
        cases hnone'.symm.trans hd
    | hub a =>
      rw [show (q.act (.hub a)).calls = q.calls from rfl, hc] at hd
      cases hd
    | takeSignal =>
      rw [show (q.act .takeSignal).calls = q.calls from rfl, hc] at hd
      cases hd

theorem isElevated_act {q : Quitting} (hm : q.service.hub.MembersSound) {handle : Nat}
    (hs : (q.service.hub.session? handle).isSome = true) (a : Action) :
    ((q.act a).service.hub.session? handle).isSome = true ∧
      (q.act a).service.isElevated handle = q.service.isElevated handle := by
  obtain ⟨s, hs⟩ := Option.isSome_iff_exists.mp hs
  obtain ⟨-, t, ht, hk⟩ := hub_act_induction (a := a) (P := fun k => ∃ t, k.session? handle = some t ∧ s.Keeps t) hm
    ⟨s, hs, .refl s⟩ fun k b _ hk ⟨t, ht, hst⟩ => by
      obtain ⟨u, hu, htu⟩ := Hub.keeps_act hk ht b
      exact ⟨u, hu, hst.trans htu⟩
  refine ⟨by rw [ht]; rfl, ?_⟩
  unfold Service.isElevated Service.token?
  rw [ht, hs, Option.bind_some, Option.bind_some, hk.token]

/-! ## how a call goes on -/

/-- a call is answered behind as many stages of its own as it has left, whatever comes between them -/
theorem left_run {q : Quitting} {n : Nat} {c : QuitCall} (hc : q.calls[n]? = some c) (as : List Action) :
    ∃ d, (q.run as).calls[n]? = some d ∧ d.stage.left ≤ c.stage.left - as.countP (Action.isGo n) := by
  induction as generalizing q c with
  | nil => exact ⟨c, hc, Nat.le_refl _⟩
  | cons a as ih =>
    have hact := call_act hc a
    obtain ⟨d, hd, hle⟩ := ih hact
    refine ⟨d, hd, Nat.le_trans hle ?_⟩
    rw [List.countP_cons]
    split
    · have := q.service.left_quitStep c.session c.stopTunnels c.stage
      show (advance q.service c).stage.left - _ ≤ _
      simp only [advance]
      omega
    · exact Nat.le_refl _

theorem run_replicate_go (k : Nat) {q : Quitting} {n : Nat} {c : QuitCall} (hc : q.calls[n]? = some c) :
    (q.run (.replicate k (.go n))).calls[n]?
        = some { c with
            stage := (Service.quitSteps c.session c.stopTunnels k (c.stage, q.service)).1 } ∧
      (q.run (.replicate k (.go n))).service
        = (Service.quitSteps c.session c.stopTunnels k (c.stage, q.service)).2 := by
  induction k generalizing q c with
  | zero => exact ⟨hc, rfl⟩
  | succ k ih =>
    have hgo : (Action.go n).isGo n = true := beq_self_eq_true n
    have hact := call_act hc (.go n)
    rw [if_pos hgo] at hact
    have hservice : (q.act (.go n)).service = (q.service.quitStep c.session c.stopTunnels c.stage).2 := by
      rw [act_go hc, step]
    obtain ⟨hcalls, hrest⟩ := ih hact
    rw [hservice] at hcalls hrest
    exact ⟨hcalls, hrest⟩

/-- a quit that nothing comes between is the operation of the service -/
theorem quit_at_once {q : Quitting} {n : Nat} {c : QuitCall} (hc : q.calls[n]? = some c)
    (hs : c.stage = .checkPermission) :
    (q.run (.replicate 6 (.go n))).calls[n]?
        = some { c with stage := .answered (q.service.quit c.session c.stopTunnels).1 } ∧
      (q.run (.replicate 6 (.go n))).service = (q.service.quit c.session c.stopTunnels).2 := by
  obtain ⟨hcalls, hservice⟩ := run_replicate_go 6 hc
  obtain ⟨d, hd, hle⟩ := left_run hc (.replicate 6 (.go n))
  have hleft : d.stage.left = 0 := by
    rw [List.countP_replicate, if_pos (show (Action.go n).isGo n = true from beq_self_eq_true n)] at hle
    have hmost := c.stage.left_le
    omega
  cases hd.symm.trans hcalls
  rw [hs] at hcalls hservice hleft
  rw [hcalls, hservice]
  simp only at hleft
  unfold Service.quit
  split
  · rename_i answer t heq
    rw [heq]
    exact ⟨rfl, rfl⟩
  · rename_i stage t hno heq
    rw [heq] at hleft
    cases stage with
    | answered answer => exact absurd rfl (hno answer)
    | _ => cases hleft

/-- a session has given up its membership to one that joined with its id -/
def GivesWay (q : Quitting) (handle : Nat) (as : List Action) : Prop :=
  ∃ bs other, bs ++ [.hub (.join other)] <+: as ∧
    (q.run bs).service.hub.touch? handle (.join other) = some .giveWay

theorem join_not_mem_hubActions (q : Quitting) (n other : Nat) : .join other ∉ q.hubActions (.go n) := by
  intro hmem
  obtain ⟨c, -, hc⟩ := List.mem_flatMap.mp hmem
  cases hs : c.stage <;> rw [hs] at hc <;> simp [QuitStage.hubActions] at hc

theorem includes_act {q : Quitting} (hm : q.service.hub.MembersSound) {handle : Nat}
    (h : q.service.hub.includes handle = true) (a : Action) :
    (q.act a).service.hub.includes handle = true ∨ (q.act a).service.hub.isClosed handle = true ∨
      ∃ other, a = .hub (.join other) ∧ q.service.hub.touch? handle (.join other) = some .giveWay := by
  cases a with
  | hub b =>
    refine (Hub.includes_act hm h b).imp_right (Or.imp_right fun ht => ?_)
    cases Hub.touches_of_touch? ht with
    | giveWay other hne hd => exact ⟨other, rfl, ht⟩
  | go n =>
    rw [← or_assoc]
    left
    refine (hub_act_induction (P := fun k => k.includes handle = true ∨ k.isClosed handle = true) hm (.inl h) ?_).2
    rintro k b hb hk (hi | hc)
    · obtain hi | hc | ht := Hub.includes_act hk hi b
      · exact .inl hi
      · exact .inr hc
      · cases Hub.touches_of_touch? ht with
        | giveWay other hne hd => exact absurd hb (q.join_not_mem_hubActions n other)
    · exact .inr (Hub.isClosed_act hk hc b)
  | ask session stopTunnels =>
    left
    rw [hub_act]
    exact h
  | takeSignal => exact .inl h

theorem closed_or_gives_way {q : Quitting} (hm : q.service.hub.MembersSound) {handle : Nat}
    (h : q.service.hub.includes handle = true ∨ q.service.hub.isClosed handle = true) (as : List Action) :
    (q.run as).service.hub.includes handle = true ∨ (q.run as).service.hub.isClosed handle = true ∨
      q.GivesWay handle as := by
  induction as generalizing q with
  | nil => exact h.imp_right .inl
  | cons a as ih =>
    have hm' : (q.act a).service.hub.MembersSound :=
      (hub_act_induction (P := fun _ => True) hm trivial fun _ _ _ _ _ => trivial).1
    have hrest (h' : (q.act a).service.hub.includes handle = true ∨ (q.act a).service.hub.isClosed handle = true) :
        (q.run (a :: as)).service.hub.includes handle = true ∨ (q.run (a :: as)).service.hub.isClosed handle = true ∨
          q.GivesWay handle (a :: as) := by
      refine (ih hm' h').imp_right (Or.imp_right ?_)
      rintro ⟨bs, other, hbs, ht⟩
      exact ⟨a :: bs, other, List.cons_prefix_cons.mpr ⟨rfl, hbs⟩, ht⟩
    obtain hi | hc := h
    · obtain hi | hc | ⟨other, rfl, ht⟩ := includes_act hm hi a
      · exact hrest (.inl hi)
      · exact hrest (.inr hc)
      · exact .inr (.inr ⟨[], other, List.prefix_append [_] as, ht⟩)
    · exact hrest (.inr (hub_act_induction (P := fun k => k.isClosed handle = true) hm hc
        fun _ b _ hk hc => Hub.isClosed_act hk hc b).2)

end Quitting

end TunnelControl
