import Mathlib.Data.List.Chain
import TunnelControl.Tunnel.Lifecycle

/-!
# Operations that are abandoned

A publication that fails ends the operation on the spot, and the next one begins with the tunnel that is left.

* `TunnelState.Edge`       which states may follow each other;
* `Tunnel.Possible`        the tunnels that operations leave, cut off or not;
* `Tunnel.SoundMoves`      moves along edges, with possible tunnels wherever they may be cut off;
* `TunnelRun`              a tunnel and all that was published of it;
* `TunnelRun.Consistent`   what holds of the two, whatever was cut off, and
* `consistent_after`       does hold;
* `stop_of_possible`       a tunnel is stopped from any state but one, and
* `operate_of_stopping`    in that one it stays.
-/

namespace TunnelControl

/-! ## the machine -/

/-- the steps from one state to the next -/
inductive TunnelState.Edge : TunnelState → TunnelState → Prop
  | starting {s : TunnelState} (h : s = .stopped ∨ s = .invalid) : Edge s .starting
  | invalid {s : TunnelState} (h : s = .stopped ∨ s = .invalid) : Edge s .invalid
  | registering : Edge .starting .registering
  | registered : Edge .registering .registered
  | running : Edge .registered .running
  | stopping {s : TunnelState}
      (h : s = .starting ∨ s = .registering ∨ s = .registered ∨ s = .running ∨ s = .invalid) : Edge s .stopping
  | stopped : Edge .stopping .stopped

/-- what a tunnel can be asked to do -/
inductive TunnelOperation
  | start (config : TunnelConfig)
  | stop
  | tearDown

/-- a tunnel is asked to do something, while the publication of some states fails -/
structure TunnelAttempt where
  operation : TunnelOperation
  fails : TunnelState → Bool

namespace Tunnel

def plan (t : Tunnel) : TunnelOperation → TunnelPlan
  | .start config => t.startPlan config
  | .stop => t.stopPlan
  -- there is nothing to tear down
  | .tearDown => ⟨[], .ok ()⟩

def operate (t : Tunnel) (a : TunnelAttempt) : Outcome := t.carryOut a.fails (t.plan a.operation)

/-- the publication of a state has ended the operation -/
def Outcome.AbandonedAt (o : Outcome) (state : TunnelState) : Prop :=
  o.answer = none ∧ o.published.getLast? = some state

/-- the tunnels that operations leave -/
inductive Possible : Tunnel → Prop
  | stopped : Possible ⟨.stopped, none⟩
  | invalid : Possible ⟨.invalid, none⟩
  | starting : Possible ⟨.starting, none⟩
  | registering (config : TunnelConfig) : Possible ⟨.registering, some config⟩
  | registered (config : TunnelConfig) : Possible ⟨.registered, some config⟩
  | running (config : TunnelConfig) : Possible ⟨.running, some config⟩
  | stopping (config : Option TunnelConfig) : Possible ⟨.stopping, config⟩

theorem Possible.config_eq_none {t : Tunnel} (h : t.Possible)
    (ht : t.state = .stopped ∨ t.state = .starting ∨ t.state = .invalid) : t.config = none := by
  cases h with
  | stopped => rfl
  | invalid => rfl
  | starting => rfl
  | _ => simp at ht

/-! ## moves -/

/-- moves that follow the edges, and leave a possible tunnel wherever a publication may cut them off -/
def SoundMoves : Tunnel → List TunnelMove → Prop
  | t, [] => t.Possible
  | t, .enter state :: moves =>
    t.state.Edge state ∧ Possible { t with state } ∧ SoundMoves { t with state } moves
  | t, .hold config :: moves => SoundMoves { t with config := some config } moves
  | t, .release :: moves => SoundMoves { t with config := none } moves

theorem possible_makeMoves {t : Tunnel} {moves : List TunnelMove} (h : t.SoundMoves moves) (fails : TunnelState → Bool)
    (answer : Except TunnelFault Unit) : (makeMoves fails answer t moves).tunnel.Possible := by
  induction moves generalizing t with
  | nil => exact h
  | cons move moves ih =>
    cases move with
    | enter state =>
      obtain ⟨-, hcut, hrest⟩ := h
      unfold makeMoves
      split
      · exact hcut
      · exact ih hrest
    | hold config => exact ih h
    | release => exact ih h

theorem chain_makeMoves {t : Tunnel} {moves : List TunnelMove} (h : t.SoundMoves moves) (fails : TunnelState → Bool)
    (answer : Except TunnelFault Unit) :
    List.IsChain TunnelState.Edge (t.state :: (makeMoves fails answer t moves).published) := by
  induction moves generalizing t with
  | nil => exact .singleton t.state
  | cons move moves ih =>
    cases move with
    | enter state =>
      obtain ⟨hedge, -, hrest⟩ := h
      unfold makeMoves
      split
      · exact .cons_cons hedge (.singleton state)
      · exact .cons_cons hedge (ih hrest)
    | hold config => exact ih h
    | release => exact ih h

/-- what is not abandoned comes out as if nothing could fail -/
theorem makeMoves_of_answered {fails : TunnelState → Bool} {answer : Except TunnelFault Unit} {t : Tunnel}
    {moves : List TunnelMove} (h : (makeMoves fails answer t moves).answer ≠ none) :
    makeMoves fails answer t moves = makeMoves (fun _ => false) answer t moves := by
  induction moves generalizing t with
  | nil => rfl
  | cons move moves ih =>
    cases move with
    | enter state =>
      unfold makeMoves at h ⊢
      split at h
      · exact absurd rfl h
      · rw [if_neg ‹_›, ih h]
        rfl
    | hold config => exact ih h
    | release => exact ih h

/-! ## operations -/

theorem soundMoves_plan {t : Tunnel} (h : t.Possible) (op : TunnelOperation) : t.SoundMoves (t.plan op).moves := by
  have hstart {s : TunnelState} (hs : s = .stopped ∨ s = .invalid) (config : TunnelConfig) :
      SoundMoves ⟨s, none⟩
        [.enter .starting, .hold config, .enter .registering, .enter .registered, .enter .running] :=
    ⟨.starting hs, .starting, .registering, .registering config, .registered, .registered config, .running,
      .running config, .running config⟩
  have hrefuse {s : TunnelState} (hs : s = .stopped ∨ s = .invalid) : SoundMoves ⟨s, none⟩ [.enter .invalid] :=
    ⟨.invalid hs, .invalid, .invalid⟩
  have hstop {s : TunnelState}
      (hs : s = .starting ∨ s = .registering ∨ s = .registered ∨ s = .running ∨ s = .invalid)
      (config : Option TunnelConfig) : SoundMoves ⟨s, config⟩ [.enter .stopping, .release, .enter .stopped] :=
    ⟨.stopping hs, .stopping config, .stopped, .stopped, .stopped⟩
  cases op with
  | tearDown => exact h
  | start config =>
    cases h with
    | stopped =>
      cases hc : config.check with
      | error fault => simpa only [plan, startPlan, hc] using hrefuse (.inl rfl)
      | ok u => simpa only [plan, startPlan, hc] using hstart (.inl rfl) config
    | invalid =>
      cases hc : config.check with
      | error fault => simpa only [plan, startPlan, hc] using hrefuse (.inr rfl)
      | ok u => simpa only [plan, startPlan, hc] using hstart (.inr rfl) config
    | starting => exact .starting
    | registering held => exact .registering held
    | registered held => exact .registered held
    | running held => exact .running held
    | stopping held => exact .stopping held
  | stop =>
    cases h with
    | stopped => exact .stopped
    | invalid => exact hstop (by decide) none
    | starting => exact hstop (by decide) none
    | registering held => exact hstop (by decide) (some held)
    | registered held => exact hstop (by decide) (some held)
    | running held => exact hstop (by decide) (some held)
    | stopping held => exact .stopping held

theorem possible_operate {t : Tunnel} (h : t.Possible) (a : TunnelAttempt) : (t.operate a).tunnel.Possible :=
  possible_makeMoves (soundMoves_plan h a.operation) a.fails _

/-- **A stop that is not abandoned stops the tunnel, from any state but one.** -/
theorem stop_of_possible {t : Tunnel} (h : t.Possible) (hne : t.state ≠ .stopping) {fails : TunnelState → Bool}
    (hanswered : (t.operate ⟨.stop, fails⟩).answer ≠ none) :
    (t.operate ⟨.stop, fails⟩).tunnel = ⟨.stopped, none⟩ ∧ (t.operate ⟨.stop, fails⟩).answer = some (.ok ()) := by
  have hwhole : t.operate ⟨.stop, fails⟩ = t.stop := makeMoves_of_answered hanswered
  rw [hwhole]
  cases h with
  | stopping held => exact absurd rfl hne
  | _ => exact ⟨rfl, rfl⟩

/-- a tunnel that is stopping refuses to be started or stopped -/
theorem operate_of_stopping {t : Tunnel} (h : t.state = .stopping) {a : TunnelAttempt} (ha : a.operation ≠ .tearDown) :
    t.operate a = ⟨t, [], some (.error (.busy .stopping))⟩ := by
  obtain ⟨op, fails⟩ := a
  cases op with
  | start config =>
    simp only [operate, plan, startPlan, h]
    rfl
  | stop =>
    simp only [operate, plan, stopPlan, h]
    rfl
  | tearDown => exact absurd rfl ha

theorem operate_tearDown (t : Tunnel) (fails : TunnelState → Bool) :
    t.operate ⟨.tearDown, fails⟩ = ⟨t, [], some (.ok ())⟩ := rfl

theorem Outcome.AbandonedAt.state {t : Tunnel} {a : TunnelAttempt} {state : TunnelState}
    (h : (t.operate a).AbandonedAt state) : (t.operate a).tunnel.state = state := by
  rw [operate, carryOut, state_makeMoves, ← carryOut, ← operate, h.2]
  rfl

end Tunnel

/-! ## runs -/

/-- a tunnel, and all that was published of it -/
structure TunnelRun where
  tunnel : Tunnel := {}
  published : List TunnelState := []

namespace TunnelRun

def step (r : TunnelRun) (a : TunnelAttempt) : TunnelRun :=
  ⟨(r.tunnel.operate a).tunnel, r.published ++ (r.tunnel.operate a).published⟩

def run (r : TunnelRun) (attempts : List TunnelAttempt) : TunnelRun := attempts.foldl step r

/-- the tunnel, after some attempts -/
def after (attempts : List TunnelAttempt) : TunnelRun := run {} attempts

/-- a tunnel and its history agree -/
structure Consistent (r : TunnelRun) : Prop where
  possible : r.tunnel.Possible
  latest : r.tunnel.state = r.published.getLast?.getD .stopped
  edges : List.IsChain TunnelState.Edge (.stopped :: r.published)

theorem consistent_fresh : Consistent {} := ⟨.stopped, rfl, .singleton TunnelState.stopped⟩

/-- an attempt, cut off or not, leaves a tunnel and a history that agree -/
theorem consistent_step {r : TunnelRun} (h : r.Consistent) (a : TunnelAttempt) : (r.step a).Consistent where
  possible := Tunnel.possible_operate h.possible a
  latest := by
    have hstate : (r.tunnel.operate a).tunnel.state = (r.tunnel.operate a).published.getLast?.getD r.tunnel.state :=
      Tunnel.state_makeMoves _ _ _ _
    show (r.tunnel.operate a).tunnel.state = (r.published ++ (r.tunnel.operate a).published).getLast?.getD .stopped
    rw [hstate, List.getLast?_append]
    cases (r.tunnel.operate a).published.getLast? with
    | none => exact h.latest
    | some state => rfl
  edges := by
    have hchain := Tunnel.chain_makeMoves (Tunnel.soundMoves_plan h.possible a.operation) a.fails
      (r.tunnel.plan a.operation).answer
    show List.IsChain TunnelState.Edge ((.stopped :: r.published) ++ (r.tunnel.operate a).published)
    refine h.edges.append hchain.tail fun x hx => ?_
    -- the new states follow the last one published, which is the state of the tunnel
    rw [List.getLast?_cons, Option.mem_some_iff] at hx
    rw [← hx, ← h.latest]
    exact hchain.rel_head?

/-- **However operations are cut off, the tunnel and its history agree.** -/
theorem consistent_after (attempts : List TunnelAttempt) : (after attempts).Consistent := by
  suffices ∀ r : TunnelRun, r.Consistent → (r.run attempts).Consistent from this {} consistent_fresh
  induction attempts with
  | nil => exact fun r h => h
  | cons a attempts ih => exact fun r h => ih (r.step a) (consistent_step h a)

theorem run_of_stopping {r : TunnelRun} (h : r.tunnel.state = .stopping) (attempts : List TunnelAttempt) :
    r.run attempts = r := by
  induction attempts with
  | nil => rfl
  | cons a attempts ih =>
    have hstep : r.step a = r := by
      obtain ⟨op, fails⟩ := a
      by_cases ha : op = .tearDown
      · rw [step, ha, Tunnel.operate_tearDown, List.append_nil]
      · rw [step, Tunnel.operate_of_stopping h ha, List.append_nil]
    show (r.step a).run attempts = r
    rw [hstep, ih]

theorem after_append (attempts later : List TunnelAttempt) : after (attempts ++ later) = (after attempts).run later :=
  List.foldl_append

/-- nothing comes of any attempt behind one that was abandoned as the tunnel was stopping -/
theorem after_of_abandoned {attempts : List TunnelAttempt} {a : TunnelAttempt}
    (h : ((after attempts).tunnel.operate a).AbandonedAt .stopping) (later : List TunnelAttempt) :
    after (attempts ++ a :: later) = (after attempts).step a := by
  rw [after_append]
  exact run_of_stopping h.state later

/-- **An operation that is abandoned leaves a tunnel that is consistent and can be stopped, unless it was abandoned as
the tunnel was stopping.**  In that case the tunnel stays as it is, and refuses to be started or stopped. -/
theorem consistent_unless_stopping (attempts : List TunnelAttempt) :
    let r := after attempts
    r.tunnel.state = r.published.getLast?.getD .stopped ∧
      List.IsChain TunnelState.Edge (.stopped :: r.published) ∧
      (r.tunnel.state = .stopped ∨ r.tunnel.state = .starting ∨ r.tunnel.state = .invalid → r.tunnel.config = none) ∧
      (∀ fails, r.tunnel.state ≠ .stopping → (r.tunnel.operate ⟨.stop, fails⟩).answer ≠ none →
        (r.tunnel.operate ⟨.stop, fails⟩).tunnel = ⟨.stopped, none⟩ ∧
          (r.tunnel.operate ⟨.stop, fails⟩).answer = some (.ok ())) ∧
      ∀ a, (r.tunnel.operate a).AbandonedAt .stopping → ∀ later,
        after (attempts ++ a :: later) = r.step a ∧
          ∀ b : TunnelAttempt, b.operation ≠ .tearDown →
            (after (attempts ++ a :: later)).tunnel.operate b
              = ⟨(after (attempts ++ a :: later)).tunnel, [], some (.error (.busy .stopping))⟩ := by
  have h := consistent_after attempts
  refine ⟨h.latest, h.edges, h.possible.config_eq_none, fun fails hne => Tunnel.stop_of_possible h.possible hne, ?_⟩
  intro a ha later
  have hstays := after_of_abandoned ha later
  refine ⟨hstays, fun b hb => Tunnel.operate_of_stopping ?_ hb⟩
  rw [hstays]
  exact ha.state

/-- a start is refused, the stop behind it is abandoned as the tunnel is stopping, and then nothing more can be done -/
theorem busy_after_abandoned_stop :
    let r := after [⟨.start {}, fun _ => false⟩]
    let a : TunnelAttempt := ⟨.stop, fun state => state = .stopping⟩
    (r.tunnel.operate a).AbandonedAt .stopping ∧
      (after [⟨.start {}, fun _ => false⟩, a, ⟨.tearDown, fun _ => false⟩]).tunnel.operate ⟨.stop, fun _ => false⟩
        = ⟨⟨.stopping, none⟩, [], some (.error (.busy .stopping))⟩ := by
  have habandoned : ((after [⟨.start {}, fun _ => false⟩]).tunnel.operate
      ⟨.stop, fun state => state = .stopping⟩).AbandonedAt .stopping := ⟨rfl, rfl⟩
  have hlater := ((consistent_unless_stopping [⟨.start {}, fun _ => false⟩]).2.2.2.2 _ habandoned
    [⟨.tearDown, fun _ => false⟩]).2 ⟨.stop, fun _ => false⟩ nofun
  exact ⟨habandoned, hlater⟩

end TunnelRun

end TunnelControl
