import TunnelControl.Proofs.Service.Quit

/-!
# The service quits once

Who claims the flag has won.  How far the winner has come since (`QuitStage.sinceClaim`) tells all that was done
(`Quitting.Done`), for nobody else does anything.

* `Quitting.Quiet q r`    an action by which no call claims the flag, nor one that has claimed it goes on;
* `Quitting.winner_act`   either nobody has won, or one call has, and what was done is what it did;
* `Quitting.raised_run`   the signal goes up as often in a run as the winner has sent it;
* `Quitting.quits_once`   what holds in every run.
-/

namespace TunnelControl.Quitting

open Service (QuitStage)

/-! ## what was done -/

/-- what has been done of a quit, so many stages since the flag was claimed for it -/
structure Done (q : Quitting) (c : QuitCall) (n : Nat) : Prop where
  flag : q.service.hasQuit = true
  closed : 0 < n → q.service.hub.isClosed c.session = true
  drained : 1 < n → q.service.hub.drained = true ∧ q.service.hub.members = []
  teardowns : q.service.teardowns = (decide (2 < n) && c.stopTunnels).toNat
  signal : n ≤ 3 → q.service.signal = false

/-- nobody has claimed the flag, and nothing has been done -/
structure Untouched (q : Quitting) : Prop where
  nobody : ∀ c ∈ q.calls, c.stage.sinceClaim = none ∧ c.stage ≠ .answered (.ok true)
  flag : q.service.hasQuit = false
  teardowns : q.service.teardowns = 0
  signal : q.service.signal = false

/-- one call, and no other one, has claimed the flag, and what was done is what it has done since -/
structure WonBy (q : Quitting) (k : Nat) (c : QuitCall) (n : Nat) : Prop where
  call : q.calls[k]? = some c
  since : c.stage.sinceClaim = some n
  only : ∀ j d, q.calls[j]? = some d → d.stage.sinceClaim ≠ none → j = k
  done : q.Done c n

/-- each call has come to where its session may come, and at most one of them has done anything -/
structure Sound (q : Quitting) : Prop where
  members : q.service.hub.MembersSound
  calls : ∀ c ∈ q.calls, (q.service.hub.session? c.session).isSome = true ∧
    c.stage.Fits (q.service.isElevated c.session)
  winner : q.Untouched ∨ ∃ k c n, q.WonBy k c n

theorem hub_done_act {q : Quitting} (hm : q.service.hub.MembersSound) {c : QuitCall} {n : Nat} (hd : q.Done c n)
    (a : Action) :
    (0 < n → (q.act a).service.hub.isClosed c.session = true) ∧
      (1 < n → (q.act a).service.hub.drained = true ∧ (q.act a).service.hub.members = []) := by
  refine ⟨fun hn => ?_, fun hn => ?_⟩
  · exact (hub_act_induction (P := fun k => k.isClosed c.session = true) hm (hd.closed hn)
      fun _ b _ hk hc => Hub.isClosed_act hk hc b).2
  · exact (hub_act_induction (P := fun k => k.drained = true ∧ k.members = []) hm (hd.drained hn)
      fun _ b _ _ hP => Hub.shut_act hP.1 hP.2 b).2

theorem done_step {q : Quitting} (h : q.Sound) {k n : Nat} {c : QuitCall} (hk : q.calls[k]? = some c)
    (hs : c.stage.sinceClaim = some n) (hd : q.Done c n) :
    (q.act (.go k)).Done (advance q.service c) (min (n + 1) 4) := by
  obtain ⟨hclosed, hdrained⟩ := hub_done_act h.members hd (.go k)
  obtain ⟨x, hx⟩ := Option.isSome_iff_exists.mp (h.calls c (List.mem_of_getElem? hk)).1
  rw [act_go hk] at hclosed hdrained ⊢
  obtain ⟨hflag, -, -, hteardowns, hsignal⟩ := hd
  obtain ⟨session, stopTunnels, stage⟩ := c
  cases stage with
  | checkPermission => cases hs
  | claim => cases hs
  | closeCaller =>
    cases hs
    have hown : (q.service.hub.close session).isClosed session = true := by
      unfold Hub.isClosed Hub.close
      rw [Hub.session?_modify, if_pos rfl, hx]
      rfl
    exact ⟨hflag, fun _ => hown, fun h => absurd h (by decide), hteardowns, fun _ => hsignal (by decide)⟩
  | drain =>
    cases hs
    exact ⟨hflag, fun _ => hclosed (by decide), fun _ => ⟨rfl, rfl⟩, hteardowns, fun _ => hsignal (by decide)⟩
  | tearDown =>
    cases hs
    have hsame := hsignal (by decide)
    cases stopTunnels with
    | true => exact ⟨hflag, fun _ => hclosed (by decide), fun _ => hdrained (by decide),
        congrArg (· + 1) hteardowns, fun _ => hsame⟩
    | false => exact ⟨hflag, fun _ => hclosed (by decide), fun _ => hdrained (by decide), hteardowns,
        fun _ => hsame⟩
  | raiseSignal =>
    cases hs
    exact ⟨hflag, fun _ => hclosed (by decide), fun _ => hdrained (by decide), hteardowns,
      fun h => absurd h (by decide)⟩
  | answered answer =>
    obtain ⟨-, rfl⟩ := QuitStage.isAnswered_of_sinceClaim hs rfl
    exact ⟨hflag, fun _ => hclosed (by decide), fun _ => hdrained (by decide), hteardowns,
      fun h => absurd h (by decide)⟩

/-- an action by which nobody claims the flag, and none who has claimed it goes on -/
structure Quiet (q r : Quitting) : Prop where
  flag : r.service.hasQuit = q.service.hasQuit
  teardowns : r.service.teardowns = q.service.teardowns
  signal : q.service.signal = false → r.service.signal = false
  claimants : ∀ (j : Nat) d, d.stage.sinceClaim ≠ none → (r.calls[j]? = some d ↔ q.calls[j]? = some d)
  late : ∀ d ∈ r.calls, d.stage = .answered (.ok true) → d ∈ q.calls ∨ q.service.hasQuit = true

theorem quiet_of_calls {q r : Quitting} (hc : r.calls = q.calls) (hf : r.service.hasQuit = q.service.hasQuit)
    (ht : r.service.teardowns = q.service.teardowns) (hs : q.service.signal = false → r.service.signal = false) :
    q.Quiet r :=
  ⟨hf, ht, hs, fun _ _ _ => by rw [hc], fun d hd _ => .inl (hc ▸ hd)⟩

theorem quiet_ask (q : Quitting) (session : Nat) (stopTunnels : Bool) : q.Quiet (q.act (.ask session stopTunnels)) := by
  simp only [act]
  split
  · refine ⟨rfl, rfl, id, fun j d hd => ?_, fun d hd he => ?_⟩
    · rw [List.getElem?_append]
      split
      · rfl
      · rename_i hlt
        rw [List.getElem?_eq_none (Nat.le_of_not_lt hlt), List.getElem?_singleton]
        split
        · exact ⟨fun h => by cases h; exact absurd rfl hd, fun h => by cases h⟩
        · exact Iff.rfl
    · obtain hold | hnew := List.mem_append.mp hd
      · exact .inl hold
      · rw [List.mem_singleton.mp hnew] at he
        cases he
  · exact quiet_of_calls rfl rfl rfl id

theorem service_go {q : Quitting} {k : Nat} {c : QuitCall} (hk : q.calls[k]? = some c)
    (hs : (advance q.service c).stage.sinceClaim = none) :
    q.act (.go k) = { q with calls := q.calls.set k (advance q.service c) } := by
  have hservice : (q.service.quitStep c.session c.stopTunnels c.stage).2 = q.service :=
    Service.quitStep_of_sinceClaim_eq_none hs
  rw [act_go hk, step, hservice]

theorem quiet_go {q : Quitting} {k : Nat} {c : QuitCall} (hk : q.calls[k]? = some c)
    (hs : (advance q.service c).stage.sinceClaim = none) : q.Quiet (q.act (.go k)) := by
  have hbefore : c.stage.sinceClaim = none := by
    cases hn : c.stage.sinceClaim with
    | none => rfl
    | some n => cases (Service.sinceClaim_quitStep _ _ _ hn).symm.trans hs
  rw [service_go hk hs]
  refine ⟨rfl, rfl, id, fun j d hd => ?_, fun d hd he => ?_⟩
  · by_cases hj : k = j
    · subst hj
      have hlt : k < q.calls.length := (List.getElem?_eq_some_iff.mp hk).1
      rw [List.getElem?_set_self hlt, hk]
      exact ⟨fun h => absurd (Option.some.inj h ▸ hs) hd, fun h => absurd (Option.some.inj h ▸ hbefore) hd⟩
    · rw [List.getElem?_set_ne hj]
  · obtain hold | rfl := List.mem_or_eq_of_mem_set hd
    · exact .inl hold
    · refine (Service.answered_true_quitStep he).imp (fun hsame => ?_) id
      have heq : advance q.service c = c := congrArg (fun stage => { c with stage }) hsame
      rw [heq]
      exact List.mem_of_getElem? hk

/-- what nobody's claim has to do with leaves it as it is who has claimed the flag -/
theorem winner_of_quiet {q : Quitting} {a : Action} (h : q.Sound) (hq : q.Quiet (q.act a)) :
    (q.act a).Untouched ∨ ∃ k c n, (q.act a).WonBy k c n := by
  obtain hu | ⟨k, c, n, hw⟩ := h.winner
  · left
    refine ⟨fun d hd => ?_, hq.flag.trans hu.flag, hq.teardowns.trans hu.teardowns, hq.signal hu.signal⟩
    constructor
    · refine Decidable.byContradiction fun hne => ?_
      obtain ⟨j, hj⟩ := List.mem_iff_getElem?.mp hd
      exact hne (hu.nobody d (List.mem_of_getElem? ((hq.claimants j d hne).mp hj))).1
    · intro he
      obtain hold | hflag := hq.late d hd he
      · exact (hu.nobody d hold).2 he
      · cases hu.flag.symm.trans hflag
  · right
    have hsome : c.stage.sinceClaim ≠ none := by
      rw [hw.since]
      exact nofun
    obtain ⟨hclosed, hdrained⟩ := hub_done_act h.members hw.done a
    exact ⟨k, c, n, (hq.claimants k c hsome).mpr hw.call, hw.since,
      fun j d hj hd => hw.only j d ((hq.claimants j d hd).mp hj) hd,
      hq.flag.trans hw.done.flag, hclosed, hdrained, hq.teardowns.trans hw.done.teardowns,
      fun hn => hq.signal (hw.done.signal hn)⟩

theorem winner_of_claim {q : Quitting} {k : Nat} {c : QuitCall} (hu : q.Untouched) (hk : q.calls[k]? = some c)
    (hs : c.stage = .claim) :
    (q.act (.go k)).WonBy k (advance q.service c) 0 := by
  have hnext : q.service.quitStep c.session c.stopTunnels c.stage
      = (.closeCaller, { q.service with hasQuit := true }) := by
    rw [hs]
    simp only [Service.quitStep, hu.flag, Bool.false_eq_true, if_false]
  have hact : q.act (.go k) = { q with
      service := { q.service with hasQuit := true }, calls := q.calls.set k (advance q.service c) } := by
    rw [act_go hk, step, hnext]
  refine ⟨?_, ?_, fun j d hj hd => ?_, ?_⟩
  · rw [call_act hk, if_pos (show (Action.go k).isGo k = true from beq_self_eq_true k)]
  · simp only [advance, hnext, QuitStage.sinceClaim]
  · refine Decidable.byContradiction fun hne => ?_
    rw [hact] at hj
    rw [List.getElem?_set_ne (Ne.symm hne)] at hj
    exact hd (hu.nobody d (List.mem_of_getElem? hj)).1
  · rw [hact]
    exact ⟨rfl, fun h => absurd h (by decide), fun h => absurd h (by decide), hu.teardowns, fun _ => hu.signal⟩

theorem winner_of_step {q : Quitting} {k n : Nat} {c : QuitCall} (h : q.Sound) (hw : q.WonBy k c n) :
    (q.act (.go k)).WonBy k (advance q.service c) (min (n + 1) 4) := by
  have hgo : (Action.go k).isGo k = true := beq_self_eq_true k
  refine ⟨?_, Service.sinceClaim_quitStep _ _ _ hw.since, fun j d hj hd => ?_, done_step h hw.call hw.since hw.done⟩
  · rw [call_act hw.call, if_pos hgo]
  · obtain ⟨e, he, hde⟩ | ⟨-, hnew⟩ := call_of_act hj
    · refine Decidable.byContradiction fun hne => ?_
      rw [if_neg (show ¬(Action.go k).isGo j = true from fun h' => hne (beq_iff_eq.mp h').symm)] at hde
      exact hne (hw.only j e he (hde ▸ hd))
    · rw [hnew] at hd
      exact absurd rfl hd

/-- what an action may be: one that has nothing to do with the flag, the claim of it, or a stage of who has claimed
it -/
theorem act_cases {q : Quitting} (h : q.Sound) (a : Action) :
    q.Quiet (q.act a) ∨ (∃ k c, a = .go k ∧ q.Untouched ∧ q.calls[k]? = some c ∧ c.stage = .claim) ∨
      ∃ k c n, a = .go k ∧ q.WonBy k c n := by
  cases a with
  | ask session stopTunnels => exact .inl (q.quiet_ask session stopTunnels)
  | hub a => exact .inl (quiet_of_calls rfl rfl rfl id)
  | takeSignal => exact .inl (quiet_of_calls rfl rfl rfl fun _ => rfl)
  | go k =>
    cases hk : q.calls[k]? with
    | none =>
      have hsame : q.act (.go k) = q := by simp only [act, hk]
      rw [hsame]
      exact .inl (quiet_of_calls rfl rfl rfl id)
    | some c =>
      by_cases hs : (advance q.service c).stage.sinceClaim = none
      · exact .inl (quiet_go hk hs)
      · obtain ⟨n, hn⟩ | ⟨hclaim, hflag⟩ := Service.claim_of_sinceClaim_quitStep hs
        · obtain hu | ⟨j, d, m, hw⟩ := h.winner
          · cases (hu.nobody c (List.mem_of_getElem? hk)).1.symm.trans hn
          · obtain rfl := hw.only k c hk (by rw [hn]; exact Option.some_ne_none n)
            exact .inr (.inr ⟨k, d, m, rfl, hw⟩)
        · obtain hu | ⟨j, d, m, hw⟩ := h.winner
          · exact .inr (.inl ⟨k, c, rfl, hu, hk, hclaim⟩)
          · cases hflag.symm.trans hw.done.flag

/-- **Whatever happens, at most one call claims the flag, and nothing is done but by it.** -/
theorem winner_act {q : Quitting} (h : q.Sound) (a : Action) :
    (q.act a).Untouched ∨ ∃ k c n, (q.act a).WonBy k c n := by
  obtain hq | ⟨k, c, rfl, hu, hk, hclaim⟩ | ⟨k, c, n, rfl, hw⟩ := act_cases h a
  · exact winner_of_quiet h hq
  · exact .inr ⟨_, _, _, winner_of_claim hu hk hclaim⟩
  · exact .inr ⟨_, _, _, winner_of_step h hw⟩

theorem sound_act {q : Quitting} (h : q.Sound) (a : Action) : (q.act a).Sound := by
  refine ⟨(hub_act_induction (P := fun _ => True) h.members trivial fun _ _ _ _ _ => trivial).1, fun d hd => ?_,
    winner_act h a⟩
  obtain ⟨n, hn⟩ := List.mem_iff_getElem?.mp hd
  obtain ⟨c, hc, rfl⟩ | ⟨hsome, hnew⟩ := call_of_act hn
  · obtain ⟨hsome, hfits⟩ := h.calls c (List.mem_of_getElem? hc)
    obtain ⟨hthere, hsame⟩ := isElevated_act h.members hsome a
    split
    · exact ⟨hthere, hsame ▸ Service.fits_quitStep hfits⟩
    · exact ⟨hthere, hsame ▸ hfits⟩
  · refine ⟨(isElevated_act h.members hsome a).1, ?_⟩
    rw [hnew]
    trivial

theorem sound_run {q : Quitting} (h : q.Sound) (as : List Action) : (q.run as).Sound := by
  induction as generalizing q with
  | nil => exact h
  | cons a as ih => exact ih (sound_act h a)

/-- the winner has drained the hub -/
def HasDrained (q : Quitting) : Prop := ∃ c ∈ q.calls, ∃ n, c.stage.sinceClaim = some n ∧ 1 < n

theorem hasDrained_act {q : Quitting} (h : q.HasDrained) (a : Action) : (q.act a).HasDrained := by
  obtain ⟨c, hc, n, hs, hn⟩ := h
  obtain ⟨k, hk⟩ := List.mem_iff_getElem?.mp hc
  refine ⟨_, List.mem_of_getElem? (call_act hk a), ?_⟩
  split
  · exact ⟨_, Service.sinceClaim_quitStep _ _ _ hs, by omega⟩
  · exact ⟨n, hs, hn⟩

theorem hasDrained_run {q : Quitting} (h : q.HasDrained) (as : List Action) : (q.run as).HasDrained := by
  induction as generalizing q with
  | nil => exact h
  | cons a as ih => exact ih (hasDrained_act h a)

/-! ## the signal of the winner -/

/-- a call has come behind the sending of the signal -/
def hasSent (q : Quitting) : Bool := q.calls.any fun c => c.stage.sinceClaim == some 4

theorem hasSent_iff {q : Quitting} :
    q.hasSent = true ↔ ∃ (j : Nat) (c : QuitCall), q.calls[j]? = some c ∧ c.stage.sinceClaim = some 4 := by
  rw [hasSent, List.any_eq_true]
  constructor
  · rintro ⟨c, hc, hs⟩
    obtain ⟨j, hj⟩ := List.mem_iff_getElem?.mp hc
    exact ⟨j, c, hj, beq_iff_eq.mp hs⟩
  · rintro ⟨j, c, hj, hs⟩
    exact ⟨c, List.mem_of_getElem? hj, beq_iff_eq.mpr hs⟩

theorem hasSent_of_untouched {q : Quitting} (hu : q.Untouched) : q.hasSent = false := by
  rw [Bool.eq_false_iff, Ne, hasSent_iff]
  rintro ⟨j, c, hj, hs⟩
  cases (hu.nobody c (List.mem_of_getElem? hj)).1.symm.trans hs

theorem hasSent_of_wonBy {q : Quitting} {k n : Nat} {c : QuitCall} (hw : q.WonBy k c n) :
    q.hasSent = decide (n = 4) := by
  rw [Bool.eq_iff_iff, hasSent_iff, decide_eq_true_iff]
  constructor
  · rintro ⟨j, d, hj, hs⟩
    obtain rfl := hw.only j d hj (by rw [hs]; exact Option.some_ne_none 4)
    cases hj.symm.trans hw.call
    exact Option.some.inj (hw.since.symm.trans hs)
  · rintro rfl
    exact ⟨k, c, hw.call, hw.since⟩

theorem hasSent_of_quiet {q r : Quitting} (hq : q.Quiet r) : r.hasSent = q.hasSent := by
  rw [Bool.eq_iff_iff, hasSent_iff, hasSent_iff]
  refine exists_congr fun j => exists_congr fun c => and_congr_left fun hs => ?_
  exact hq.claimants j c (by rw [hs]; exact Option.some_ne_none 4)

theorem rises_of_quiet {q r : Quitting} (hq : q.Quiet r) : q.rises r = 0 := by
  cases hs : q.service.signal with
  | true => rw [rises, hs]; rfl
  | false => exact rises_of_false (hq.signal hs)

/-- the signal goes up exactly as the winner comes behind the sending of it -/
theorem rises_act {q : Quitting} (h : q.Sound) (a : Action) :
    q.rises (q.act a) + q.hasSent.toNat = (q.act a).hasSent.toNat := by
  obtain hq | ⟨k, c, rfl, hu, hk, hclaim⟩ | ⟨k, c, n, rfl, hw⟩ := act_cases h a
  · rw [rises_of_quiet hq, hasSent_of_quiet hq, Nat.zero_add]
  · have hw := winner_of_claim hu hk hclaim
    rw [rises_of_false (hw.done.signal (Nat.zero_le 3)), hasSent_of_untouched hu, hasSent_of_wonBy hw]
    rfl
  · have hw' := winner_of_step h hw
    rw [hasSent_of_wonBy hw, hasSent_of_wonBy hw']
    have hact := act_go hw.call
    have hsince := hw.since
    obtain ⟨session, stopTunnels, stage⟩ := c
    cases stage with
    | checkPermission | claim => cases hsince
    | closeCaller | drain | tearDown =>
      cases hsince
      rw [rises_of_false (hw'.done.signal (by decide))]
      rfl
    | raiseSignal =>
      cases hsince
      rw [rises, hw.done.signal (by decide), hact]
      rfl
    | answered answer =>
      obtain ⟨-, rfl⟩ := QuitStage.isAnswered_of_sinceClaim hsince rfl
      rw [rises_of_eq (by rw [hact]; rfl)]
      rfl

theorem raised_run {q : Quitting} (h : q.Sound) (as : List Action) :
    q.raised as + q.hasSent.toNat = (q.run as).hasSent.toNat := by
  induction as generalizing q with
  | nil => exact Nat.zero_add _
  | cons a as ih =>
    have hact := rises_act h a
    have hrun : (q.act a).raised as + (q.act a).hasSent.toNat = (q.run (a :: as)).hasSent.toNat := ih (sound_act h a)
    rw [raised]
    omega

/-! ## runs -/

/-- the service quits once -/
structure QuitsOnce (q : Quitting) : Prop where
  /-- at most one call claims the flag -/
  claims : ∀ (i j : Nat) (c d : QuitCall), q.calls[i]? = some c → q.calls[j]? = some d →
    c.stage.sinceClaim ≠ none → d.stage.sinceClaim ≠ none → i = j
  /-- at most one call is told that no other session was first -/
  first : ∀ (i j : Nat) (c d : QuitCall), q.calls[i]? = some c → q.calls[j]? = some d → c.stage = .answered (.ok false) →
    d.stage = .answered (.ok false) → i = j
  /-- and one is, once all are answered, if an elevated session is among those who asked -/
  someone : (∀ c ∈ q.calls, c.stage.isAnswered = true) → (∃ c ∈ q.calls, q.service.isElevated c.session = true) →
    ∃ c ∈ q.calls, c.stage = .answered (.ok false)
  elevated : ∀ c ∈ q.calls, q.service.isElevated c.session = true → c.stage.isAnswered = true →
    c.stage = .answered (.ok false) ∨ c.stage = .answered (.ok true)
  denied : ∀ c ∈ q.calls, q.service.isElevated c.session = false →
    c.stage = .checkPermission ∨ c.stage = .answered (.error .accessDenied)
  /-- a call that has not claimed the flag has no effect -/
  idle : ∀ (n : Nat) (c : QuitCall), (q.act (.go n)).calls[n]? = some c → c.stage.sinceClaim = none →
    (q.act (.go n)).service = q.service
  teardowns : q.service.teardowns ≤ 1 ∧
    (q.service.teardowns = 1 → ∃ c ∈ q.calls, c.stage.sinceClaim ≠ none ∧ c.stopTunnels = true) ∧
    ∀ c ∈ q.calls, c.stage = .answered (.ok false) → q.service.teardowns = c.stopTunnels.toNat
  /-- who sends the signal finds the place for it free -/
  place : ∀ c ∈ q.calls, c.stage = .raiseSignal → q.service.signal = false ∧ q.service.sendSignal.1 = true

/-- the signal is given once in a run -/
structure SignalsOnce (q : Quitting) (as : List Action) : Prop where
  once : q.raised as ≤ 1
  /-- by the call that is told that no other session was first -/
  sender : q.raised as = 1 ↔ ∃ c ∈ (q.run as).calls, c.stage = .answered (.ok false)
  /-- and it is taken once, or still waits to be -/
  received : q.raised as = q.taken as + (q.run as).service.signal.toNat
  drained : q.raised as ≠ 0 → (q.run as).HasDrained

/-- nobody is reached any more -/
structure IsShut (q : Quitting) : Prop where
  empty : q.service.hub.members = []
  refuses : ∀ handle, q.service.hub.join handle = (false, q.service.hub)
  silent : ∀ event adminOnly, q.service.hub.publish event adminOnly = (0, q.service.hub)
  /-- the session that quit is closed -/
  closed : ∀ c ∈ q.calls, c.stage.sinceClaim ≠ none → q.service.hub.isClosed c.session = true

theorem quitsOnce_of_sound {q : Quitting} (h : q.Sound) : q.QuitsOnce := by
  have hfits (c : QuitCall) (hc : c ∈ q.calls) (e : Bool) (he : q.service.isElevated c.session = e) :
      c.stage.Fits e := he ▸ (h.calls c hc).2
  have hidle (n : Nat) (c : QuitCall) (hc : (q.act (.go n)).calls[n]? = some c) (hs : c.stage.sinceClaim = none) :
      (q.act (.go n)).service = q.service := by
    have hgo : (Action.go n).isGo n = true := beq_self_eq_true n
    cases hd : q.calls[n]? with
    | none =>
      simp only [act, hd] at hc
      cases hc
    | some d =>
      rw [call_act hd, if_pos hgo] at hc
      cases hc
      rw [service_go hd hs]
  obtain hu | ⟨k, e, n, hw⟩ := h.winner
  · have hnot (c : QuitCall) (hc : c ∈ q.calls) : c.stage ≠ .answered (.ok false) := by
      intro hs
      have hnone := (hu.nobody c hc).1
      rw [hs] at hnone
      cases hnone
    exact
      { claims := fun i j c d hc _ hs _ => absurd (hu.nobody c (List.mem_of_getElem? hc)).1 hs
        first := fun i j c d hc _ hs _ => absurd hs (hnot c (List.mem_of_getElem? hc))
        someone := fun hall hex => by
          obtain ⟨c, hc, he⟩ := hex
          obtain hs | hs := QuitStage.answered_of_fits_true (hfits c hc true he) (hall c hc)
          · exact ⟨c, hc, hs⟩
          · exact absurd hs (hu.nobody c hc).2
        elevated := fun c hc he ha => QuitStage.answered_of_fits_true (hfits c hc true he) ha
        denied := fun c hc he => QuitStage.denied_of_fits_false (hfits c hc false he)
        idle := hidle
        teardowns := ⟨by rw [hu.teardowns]; exact Nat.zero_le 1, fun ht => absurd (hu.teardowns.symm.trans ht) Nat.zero_ne_one,
          fun c hc hs => absurd hs (hnot c hc)⟩
        place := fun c hc hs => by
          have hnone := (hu.nobody c hc).1
          rw [hs] at hnone
          cases hnone }
  · have hmem := List.mem_of_getElem? hw.call
    -- who is told that no other session was first is the winner, at the end of its way
    have hlast (i : Nat) (c : QuitCall) (hc : q.calls[i]? = some c) (hs : c.stage = .answered (.ok false)) :
        i = k ∧ c = e ∧ n = 4 := by
      obtain rfl := hw.only i c hc (by rw [hs]; exact Option.some_ne_none 4)
      cases hc.symm.trans hw.call
      have hn := hw.since
      rw [hs] at hn
      exact ⟨rfl, rfl, (Option.some.inj hn).symm⟩
    have hend (c : QuitCall) (hc : c ∈ q.calls) (hs : c.stage = .answered (.ok false)) : c = e ∧ n = 4 := by
      obtain ⟨i, hi⟩ := List.mem_iff_getElem?.mp hc
      exact (hlast i c hi hs).2
    exact
      { claims := fun i j c d hc hd hs ht => (hw.only i c hc hs).trans (hw.only j d hd ht).symm
        first := fun i j c d hc hd hs ht => (hlast i c hc hs).1.trans (hlast j d hd ht).1.symm
        someone := fun hall _ => ⟨e, hmem, (QuitStage.isAnswered_of_sinceClaim hw.since (hall e hmem)).1⟩
        elevated := fun c hc he ha => QuitStage.answered_of_fits_true (hfits c hc true he) ha
        denied := fun c hc he => QuitStage.denied_of_fits_false (hfits c hc false he)
        idle := hidle
        teardowns := by
          refine ⟨hw.done.teardowns ▸ Bool.toNat_le _, fun ht => ⟨e, hmem, ?_, ?_⟩, fun c hc hs => ?_⟩
          · rw [hw.since]
            exact Option.some_ne_none n
          · rw [hw.done.teardowns, Bool.toNat_eq_one, Bool.and_eq_true] at ht
            exact ht.2
          · obtain ⟨rfl, rfl⟩ := hend c hc hs
            exact hw.done.teardowns
        place := fun c hc hs => by
          obtain ⟨i, hi⟩ := List.mem_iff_getElem?.mp hc
          obtain rfl := hw.only i c hi (by rw [hs]; exact Option.some_ne_none 3)
          cases hi.symm.trans hw.call
          have hn := hw.since
          rw [hs] at hn
          cases hn
          have hfree : q.service.signal = false := hw.done.signal (Nat.le_refl 3)
          exact ⟨hfree, by rw [Service.sendSignal, hfree]; rfl⟩ }

theorem isShut_of_hasDrained {q : Quitting} (h : q.Sound) (hd : q.HasDrained) : q.IsShut := by
  obtain ⟨c, hc, n, hs, hn⟩ := hd
  obtain ⟨i, hi⟩ := List.mem_iff_getElem?.mp hc
  have hclaim : c.stage.sinceClaim ≠ none := by
    rw [hs]
    exact nofun
  obtain hu | ⟨k, e, m, hw⟩ := h.winner
  · exact absurd (hu.nobody c hc).1 hclaim
  · obtain rfl := hw.only i c hi hclaim
    cases hi.symm.trans hw.call
    cases hs.symm.trans hw.since
    obtain ⟨hdrained, hempty⟩ := hw.done.drained hn
    refine ⟨hempty, Hub.join_drained hdrained, Hub.publish_of_empty hempty, fun d hd hclaimed => ?_⟩
    obtain ⟨j, hj⟩ := List.mem_iff_getElem?.mp hd
    obtain rfl := hw.only j d hj hclaimed
    cases hj.symm.trans hw.call
    exact hw.done.closed (Nat.zero_lt_of_lt hn)

theorem sinceClaim_eq_four_iff {stage : QuitStage} : stage.sinceClaim = some 4 ↔ stage = .answered (.ok false) := by
  constructor
  · intro h
    cases stage with
    | answered answer => exact (QuitStage.isAnswered_of_sinceClaim h rfl).1
    | _ => cases h
  · rintro rfl
    rfl

theorem signalsOnce_of_sound {q : Quitting} (h : q.Sound) (hsent : q.hasSent = false)
    (hsignal : q.service.signal = false) (as : List Action) : q.SignalsOnce as := by
  have hraised := raised_run h as
  rw [hsent, Bool.toNat_false, Nat.add_zero] at hraised
  have htaken := q.taken_run as
  rw [hsignal, Bool.toNat_false, Nat.zero_add] at htaken
  refine ⟨hraised ▸ Bool.toNat_le _, ?_, htaken, fun hne => ?_⟩
  · rw [hraised, Bool.toNat_eq_one, hasSent_iff]
    constructor
    · rintro ⟨j, c, hj, hs⟩
      exact ⟨c, List.mem_of_getElem? hj, sinceClaim_eq_four_iff.mp hs⟩
    · rintro ⟨c, hc, hs⟩
      obtain ⟨j, hj⟩ := List.mem_iff_getElem?.mp hc
      exact ⟨j, c, hj, sinceClaim_eq_four_iff.mpr hs⟩
  · have hlast : (q.run as).hasSent = true := eq_true_of_ne_false fun hno => hne (by rw [hraised, hno]; rfl)
    obtain ⟨j, c, hj, hs⟩ := hasSent_iff.mp hlast
    exact ⟨c, List.mem_of_getElem? hj, 4, hs, by decide⟩

/-- a service that has seen no session, and has not been asked to quit -/
def fresh (deliveryTimeout : Nat) (updateState : UpdateState) (tunnel : TunnelBackend) (installer : Installer) :
    Quitting := { service := .fresh deliveryTimeout updateState tunnel installer }

theorem sound_fresh (deliveryTimeout : Nat) (updateState : UpdateState) (tunnel : TunnelBackend)
    (installer : Installer) : (fresh deliveryTimeout updateState tunnel installer).Sound :=
  ⟨⟨nofun, List.Pairwise.nil⟩, nofun, .inl ⟨nofun, rfl, rfl, rfl⟩⟩

/-- **The service quits once, however the quits of any number of sessions get in each other's way,** and gives one
signal of it.  From when the first one has drained the hub nobody is reached any more, and each session that was a
member is closed, unless it had lost its place to one with the same id.  Six stages of its own answer each call. -/
theorem quits_once (deliveryTimeout : Nat) (updateState : UpdateState) (tunnel : TunnelBackend)
    (installer : Installer) (as : List Action) :
    ((fresh deliveryTimeout updateState tunnel installer).run as).QuitsOnce ∧
    (fresh deliveryTimeout updateState tunnel installer).SignalsOnce as ∧
    (∀ bs cs, as = bs ++ cs → ((fresh deliveryTimeout updateState tunnel installer).run bs).HasDrained →
      ((fresh deliveryTimeout updateState tunnel installer).run as).IsShut) ∧
    (∀ bs cs handle, as = bs ++ cs →
      ((fresh deliveryTimeout updateState tunnel installer).run bs).service.hub.includes handle = true →
      ((fresh deliveryTimeout updateState tunnel installer).run as).HasDrained →
        ((fresh deliveryTimeout updateState tunnel installer).run as).service.hub.isClosed handle = true ∨
          ((fresh deliveryTimeout updateState tunnel installer).run bs).GivesWay handle cs) ∧
    ∀ bs cs n c, as = bs ++ cs → ((fresh deliveryTimeout updateState tunnel installer).run bs).calls[n]? = some c →
      6 ≤ cs.countP (Action.isGo n) →
        ∃ d, ((fresh deliveryTimeout updateState tunnel installer).run as).calls[n]? = some d ∧
          d.stage.isAnswered = true := by
  have hsound (ds : List Action) := sound_run (sound_fresh deliveryTimeout updateState tunnel installer) ds
  refine ⟨quitsOnce_of_sound (hsound as), signalsOnce_of_sound (hsound []) rfl rfl as, ?_, ?_, ?_⟩
  · rintro bs cs rfl hd
    refine isShut_of_hasDrained (hsound _) ?_
    rw [run_append]
    exact hasDrained_run hd cs
  · rintro bs cs handle rfl hi hd
    have hempty := (isShut_of_hasDrained (hsound _) hd).empty
    rw [run_append] at hempty ⊢
    refine (closed_or_gives_way (hsound bs).members (.inl hi) cs).resolve_left fun hin => ?_
    unfold Hub.includes at hin
    rw [hempty] at hin
    cases hin
  · rintro bs cs n c rfl hc h6
    rw [run_append]
    obtain ⟨d, hd, hle⟩ := left_run hc cs
    refine ⟨d, hd, d.stage.isAnswered_iff.mpr ?_⟩
    have hmost := c.stage.left_le
    omega

/-- two elevated sessions and one that is not: the second one is first at the flag, and asks for no teardown; a session
that comes before the hub is drained is a member until then, and one that comes later is none; who waits for the signal
asks for it too early, and again -/
example :
    let q := fresh 500 .unknown (.simulated {}) .unsupported
    let as := [.hub (.create ⟨1⟩ (some ⟨0, 0⟩) 64), .hub (.create ⟨2⟩ (some ⟨0, 0⟩) 64), .hub (.create ⟨3⟩ none 64),
      .hub (.join 0), .hub (.join 1), .ask 0 true, .ask 1 false, .ask 2 true, .go 0, .go 1, .go 2, .go 1, .go 0,
      .hub (.join 2), .go 1, .hub (.publish .managerStopping false), .go 1, .hub (.join 2), .go 1, .takeSignal, .go 1,
      .takeSignal]
    ((q.run as).calls.map QuitCall.stage, (q.run as).service.hub.members, (q.run as).service.teardowns, q.raised as,
        q.taken as, (q.run as).service.hub.isClosed 2)
      = ([.answered (.ok true), .answered (.ok false), .answered (.error .accessDenied)], [], 0, 1, 1, true) := by
  rfl

end TunnelControl.Quitting
