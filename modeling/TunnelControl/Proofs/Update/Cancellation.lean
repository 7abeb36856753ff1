import TunnelControl.Proofs.Update.Trace

/-!
# Cancelling the scheduler

The scheduler runs as a task that is polled from time to time.  A poll looks at the token first, and then at what the
scheduler waits for; results come between the polls, or not at all, and the token may fire at any moment.

* `ScheduleTask`          a scheduler, its token, and the result that is there but not yet taken;
* `ScheduleTask.act`      what becomes of it in a moment; `after`, in one moment after the other;
* `ScheduleTask.Sound`    a token that has not fired leaves the scheduler in its rounds;
* `ScheduleTask.Stopped`  from when it fires, the scheduler does nothing more, and is over with the next poll;
* `stops_cleanly`         so, whenever it fires.
-/

namespace TunnelControl

/-- what comes of a wait -/
inductive WaitResult
  | checked (outcome : CheckOutcome)
  | slept
  deriving DecidableEq, Repr

/-- whether something is the result of a wait -/
def Wait.yields : Wait → WaitResult → Bool
  | .check, .checked _ => true
  | .pause _, .slept => true
  | _, _ => false

/-- how a wait ends with its result, if the token fires as the result is fetched, or not -/
def WaitResult.reply (fires : Bool) : WaitResult → Reply
  | .checked outcome => .checked outcome fires
  | .slept => .slept fires

/-- the outcome, if it is that of a check -/
def WaitResult.outcomes : WaitResult → List CheckOutcome
  | .checked outcome => [outcome]
  | .slept => []

/-- what is said of it, behind the outcomes of the checks before -/
def WaitResult.news (taken : List CheckOutcome) : WaitResult → List ScheduleAct
  | .checked outcome => ScheduleRun.announcement (taken ++ [outcome]) taken.length
  | .slept => []

structure ScheduleTask where
  /-- nothing, as long as it was not polled -/
  run? : Option ScheduleRun := none
  /-- the token has fired -/
  fired : Bool := false
  /-- the result of its wait, as long as it is not taken -/
  result? : Option WaitResult := none
  /-- the outcomes of checks that it took, in order -/
  taken : List CheckOutcome := []

namespace ScheduleTask

inductive Moment
  /-- someone fires the token -/
  | fire
  /-- what the scheduler waits for comes to a result -/
  | arrive (result : WaitResult)
  /-- the task is polled; the check or the pause that it waits for may fire the token as it is polled in turn -/
  | poll (fires : Bool)
  deriving DecidableEq, Repr

def Moment.isPoll : Moment → Bool
  | .poll _ => true
  | _ => false

def awaits (t : ScheduleTask) (result : WaitResult) : Bool :=
  t.run?.any fun r =>
    match r.phase with
    | .waiting w => w.yields result
    | .ended _ => false

/-- a scheduler that waits is polled: the token comes first, then the result -/
def pollWaiting (t : ScheduleTask) (r : ScheduleRun) (fires : Bool) : ScheduleTask :=
  if t.fired then { t with run? := some (r.resume .interrupted), result? := none }
  else
    match t.result? with
    | none => { t with fired := fires }
    | some result =>
      { run? := some (r.resume (result.reply fires))
        fired := fires
        result? := none
        taken := t.taken ++ result.outcomes }

def act (setup : ScheduleSetup) (t : ScheduleTask) : Moment → ScheduleTask
  | .fire => { t with fired := true }
  | .arrive result => if t.awaits result then { t with result? := some result } else t
  | .poll fires =>
    match t.run? with
    | none => { t with run? := some (.start setup t.fired) }
    | some r =>
      match r.phase with
      | .waiting _ => t.pollWaiting r fires
      | .ended _ => t

def after (setup : ScheduleSetup) (t : ScheduleTask) (moments : List Moment) : ScheduleTask :=
  moments.foldl (act setup) t

/-- what the task has done -/
def trace (t : ScheduleTask) : List ScheduleAct := (t.run?.map ScheduleRun.trace).getD []

/-- the update state, as the scheduler has set it -/
def state (t : ScheduleTask) : UpdateState := (t.run?.map ScheduleRun.state).getD .unknown

/-- what the task gives back, once it is over -/
def exit? (t : ScheduleTask) : Option ScheduleEnd :=
  t.run?.bind fun r =>
    match r.phase with
    | .waiting _ => none
    | .ended exit => some exit

/-- what the scheduler still says in the moment in which the token fires: a check that fires it, and gives the first
update that is found, is heard -/
def parting (t : ScheduleTask) : Moment → List ScheduleAct
  | .poll true =>
    match t.result? with
    | some (.checked (.found _)) =>
      if t.taken.any CheckOutcome.isFound then [] else [.set .available, .publish (.updateFound .available)]
    | _ => []
  | _ => []

variable {setup : ScheduleSetup} {t u v : ScheduleTask} {r : ScheduleRun} {w : Wait} {result : WaitResult}
  {boot : Bool} {taken : List CheckOutcome}

theorem after_append (setup : ScheduleSetup) (t : ScheduleTask) (ms ns : List Moment) :
    after setup t (ms ++ ns) = after setup (after setup t ms) ns := List.foldl_append

/-! ## polls -/

theorem act_poll_of_none (hr : t.run? = none) (fires : Bool) :
    act setup t (.poll fires) = { t with run? := some (.start setup t.fired) } := by
  simp only [act, hr]

theorem act_poll_of_waiting (hr : t.run? = some r) (hw : r.phase = .waiting w) (fires : Bool) :
    act setup t (.poll fires) = t.pollWaiting r fires := by
  simp only [act, hr, hw]

theorem act_poll_of_ended {exit : ScheduleEnd} (hr : t.run? = some r) (hw : r.phase = .ended exit) (fires : Bool) :
    act setup t (.poll fires) = t := by
  simp only [act, hr, hw]

theorem pollWaiting_of_fired (hf : t.fired = true) (r : ScheduleRun) (fires : Bool) :
    t.pollWaiting r fires = { t with run? := some (r.resume .interrupted), result? := none } := by
  rw [pollWaiting, if_pos hf]

theorem pollWaiting_of_none (hf : t.fired = false) (hresult : t.result? = none) (r : ScheduleRun) (fires : Bool) :
    t.pollWaiting r fires = { t with fired := fires } := by
  rw [pollWaiting, hf, if_neg Bool.false_ne_true, hresult]

theorem pollWaiting_of_some (hf : t.fired = false) (hresult : t.result? = some result) (r : ScheduleRun)
    (fires : Bool) :
    t.pollWaiting r fires = ⟨some (r.resume (result.reply fires)), fires, none, t.taken ++ result.outcomes⟩ := by
  rw [pollWaiting, hf, if_neg Bool.false_ne_true, hresult]

theorem awaits_of_phase (hr : t.run? = some r) (hw : r.phase = .waiting w) (result : WaitResult) :
    t.awaits result = w.yields result := by
  rw [awaits, hr, Option.any_some, hw]

/-! ## before the token fires -/

/-- the scheduler waits in one of its rounds -/
inductive Underway (boot : Bool) (taken : List CheckOutcome) (r : ScheduleRun) : Prop
  | checking (h : r.Checking boot taken)
  | pausing (h : r.Pausing boot taken)

/-- what holds as long as the token has not fired -/
structure Sound (setup : ScheduleSetup) (t : ScheduleTask) : Prop where
  fired : t.fired = false
  fresh : t.run? = none → t.taken = []
  underway : ∀ r, t.run? = some r → Underway setup.startedWithSystem t.taken r
  awaited : ∀ result, t.result? = some result → t.awaits result = true

theorem sound_new (setup : ScheduleSetup) : Sound setup {} := ⟨rfl, fun _ => rfl, nofun, nofun⟩

theorem underway_start (hsetup : setup.official = true ∨ setup.allowUnofficial = true) :
    Underway setup.startedWithSystem [] (.start setup false) := by
  have hflags (phase : SchedulePhase) (done : List ScheduleAct) : ScheduleRun.Reflects { phase, done } [] :=
    ⟨rfl, rfl, rfl, rfl⟩
  rw [ScheduleRun.start_of_allowed hsetup]
  cases setup.startedWithSystem with
  | true => exact .pausing ⟨⟨.bootDelay, rfl⟩, hflags _ _, rfl⟩
  | false => exact .checking ⟨rfl, hflags _ _, rfl⟩

theorem Underway.phase (h : Underway boot taken r) : ∃ w, r.phase = .waiting w := by
  cases h with
  | checking h => exact ⟨.check, h.phase⟩
  | pausing h =>
    obtain ⟨p, hp⟩ := h.phase
    exact ⟨.pause p, hp⟩

theorem Underway.reflects (h : Underway boot taken r) : r.Reflects taken := by
  cases h with
  | checking h => exact h.reflects
  | pausing h => exact h.reflects

/-- a result that is taken leads on to the next wait -/
theorem Underway.resume (h : Underway boot taken r) (hw : r.phase = .waiting w) (hresult : w.yields result = true) :
    Underway boot (taken ++ result.outcomes) (r.resume (result.reply false)) := by
  cases h with
  | checking h =>
    cases hw.symm.trans h.phase
    cases result with
    | checked outcome => exact .pausing (h.resume outcome)
    | slept => cases hresult
  | pausing h =>
    obtain ⟨p, hp⟩ := h.phase
    cases hw.symm.trans hp
    cases result with
    | checked outcome => cases hresult
    | slept =>
      rw [WaitResult.outcomes, List.append_nil]
      exact .checking h.resume

/-- what is waited for is its result -/
theorem Sound.yields (h : Sound setup t) (hr : t.run? = some r) (hw : r.phase = .waiting w)
    (hresult : t.result? = some result) : w.yields result = true :=
  (awaits_of_phase hr hw result).symm.trans (h.awaited result hresult)

theorem Sound.exit? (h : Sound setup t) : t.exit? = none := by
  cases hr : t.run? with
  | none => rw [ScheduleTask.exit?, hr, Option.bind_none]
  | some r =>
    obtain ⟨w, hw⟩ := (h.underway r hr).phase
    rw [ScheduleTask.exit?, hr, Option.bind_some, hw]

/-- **As long as the token does not fire, the scheduler goes through its rounds.** -/
theorem sound_act (hsetup : setup.official = true ∨ setup.allowUnofficial = true) (h : Sound setup t) {m : Moment}
    (hm : (act setup t m).fired = false) : Sound setup (act setup t m) := by
  cases m with
  | fire => cases hm
  | arrive result =>
    rw [act]
    split
    · rename_i hawaits
      refine ⟨h.fired, h.fresh, h.underway, fun other hother => ?_⟩
      cases hother
      exact hawaits
    · exact h
  | poll fires =>
    cases hr : t.run? with
    | none =>
      rw [act_poll_of_none hr]
      refine ⟨h.fired, nofun, fun r hstart => ?_, fun result hresult => ?_⟩
      · cases hstart
        rw [h.fired, h.fresh hr]
        exact underway_start hsetup
      · have hawaits := h.awaited result hresult
        rw [awaits, hr] at hawaits
        cases hawaits
    | some r =>
      have hunder := h.underway r hr
      obtain ⟨w, hw⟩ := hunder.phase
      rw [act_poll_of_waiting hr hw] at hm ⊢
      cases hresult : t.result? with
      | none =>
        rw [pollWaiting_of_none h.fired hresult] at hm ⊢
        exact ⟨hm, h.fresh, h.underway, h.awaited⟩
      | some result =>
        rw [pollWaiting_of_some h.fired hresult] at hm ⊢
        cases hm
        refine ⟨rfl, nofun, fun s hs => ?_, nofun⟩
        cases hs
        exact hunder.resume hw (h.yields hr hw hresult)

theorem fired_act (h : t.fired = true) (m : Moment) : (act setup t m).fired = true := by
  cases m with
  | fire => rfl
  | arrive result =>
    rw [act]
    split <;> exact h
  | poll fires =>
    cases hr : t.run? with
    | none =>
      rw [act_poll_of_none hr]
      exact h
    | some r =>
      cases hw : r.phase with
      | waiting w =>
        rw [act_poll_of_waiting hr hw, pollWaiting_of_fired h]
        exact h
      | ended exit =>
        rw [act_poll_of_ended hr hw]
        exact h

theorem fired_after (h : t.fired = true) (ms : List Moment) : (after setup t ms).fired = true := by
  induction ms generalizing t with
  | nil => exact h
  | cons m ms ih => exact ih (fired_act h m)

theorem sound_after (hsetup : setup.official = true ∨ setup.allowUnofficial = true) (h : Sound setup t)
    {ms : List Moment} (hms : (after setup t ms).fired = false) : Sound setup (after setup t ms) := by
  induction ms generalizing t with
  | nil => exact h
  | cons m ms ih =>
    -- a token that has not fired at the end has not fired before
    have hm : (act setup t m).fired = false := by
      by_contra hf
      have hlate : (after setup (act setup t m) ms).fired = true := fired_after (Bool.not_eq_false _ ▸ hf) ms
      cases hlate.symm.trans hms
    exact ih (sound_act hsetup h hm) hms

/-! ## from when the token fires -/

/-- the token has fired, and the task is not over, or over for this reason -/
structure Stopped (t : ScheduleTask) : Prop where
  fired : t.fired = true
  exit : ∀ exit, t.exit? = some exit → exit = .cancelled

/-- nothing was done meanwhile -/
structure Still (t u : ScheduleTask) : Prop where
  trace : u.trace = t.trace
  state : u.state = t.state

theorem Still.refl (t : ScheduleTask) : t.Still t := ⟨rfl, rfl⟩

theorem Still.trans (htu : t.Still u) (huv : u.Still v) : t.Still v :=
  ⟨huv.trace.trans htu.trace, huv.state.trans htu.state⟩

theorem still_of_run? (hr : t.run? = some r) {r' : ScheduleRun} (hr' : u.run? = some r') (htrace : r'.trace = r.trace)
    (hstate : r'.state = r.state) : t.Still u := by
  constructor
  · simp only [ScheduleTask.trace, hr, hr', Option.map_some, Option.getD_some, htrace]
  · simp only [ScheduleTask.state, hr, hr', Option.map_some, Option.getD_some, hstate]

/-- a scheduler that is cancelled before it starts does not start -/
theorem start_of_cancelled (hsetup : setup.official = true ∨ setup.allowUnofficial = true) :
    ScheduleRun.start setup true = { phase := .ended .cancelled, cancelled := true } := by
  have hallowed : (!setup.official && !setup.allowUnofficial) = false := by
    rcases hsetup with h | h <;> simp [h]
  rw [ScheduleRun.start, hallowed, if_neg Bool.false_ne_true]
  cases setup.startedWithSystem <;> rfl

/-- **When the token has fired, the next poll is the end of the task, and nothing is done in it.** -/
theorem stopped_poll (hsetup : setup.official = true ∨ setup.allowUnofficial = true) (h : t.Stopped) (fires : Bool) :
    t.Still (act setup t (.poll fires)) ∧ (act setup t (.poll fires)).exit? = some .cancelled := by
  cases hr : t.run? with
  | none =>
    rw [act_poll_of_none hr, h.fired, start_of_cancelled hsetup]
    refine ⟨⟨?_, ?_⟩, rfl⟩
    · rw [trace, trace, hr]
      rfl
    · rw [state, state, hr]
      rfl
  | some r =>
    cases hw : r.phase with
    | waiting w =>
      have hlast : r.resume .interrupted = { r with phase := .ended .cancelled, cancelled := true } := by
        simp only [ScheduleRun.resume, hw]
      rw [act_poll_of_waiting hr hw, pollWaiting_of_fired h.fired, hlast]
      exact ⟨still_of_run? hr rfl rfl rfl, rfl⟩
    | ended exit =>
      have hexit : t.exit? = some exit := by rw [exit?, hr, Option.bind_some, hw]
      rw [act_poll_of_ended hr hw]
      exact ⟨.refl t, hexit.trans (congrArg some (h.exit exit hexit))⟩

theorem stopped_act (hsetup : setup.official = true ∨ setup.allowUnofficial = true) (h : t.Stopped) (m : Moment) :
    t.Still (act setup t m) ∧ (act setup t m).Stopped := by
  cases m with
  | fire => exact ⟨⟨rfl, rfl⟩, rfl, h.exit⟩
  | arrive result =>
    rw [act]
    split
    · exact ⟨⟨rfl, rfl⟩, h.fired, h.exit⟩
    · exact ⟨.refl t, h⟩
  | poll fires =>
    obtain ⟨hstill, hexit⟩ := stopped_poll hsetup h fires
    refine ⟨hstill, fired_act h.fired _, fun exit he => ?_⟩
    cases hexit.symm.trans he
    rfl

/-- once it is over, it stays so -/
theorem act_of_exit {exit : ScheduleEnd} (he : t.exit? = some exit) (m : Moment) :
    (act setup t m).exit? = some exit := by
  cases m with
  | fire => exact he
  | arrive result =>
    rw [act]
    split <;> exact he
  | poll fires =>
    obtain ⟨r, hr, hphase⟩ := Option.bind_eq_some_iff.mp he
    cases hw : r.phase with
    | waiting w =>
      rw [hw] at hphase
      cases hphase
    | ended _ =>
      rw [act_poll_of_ended hr hw]
      exact he

theorem stopped_after (hsetup : setup.official = true ∨ setup.allowUnofficial = true) (h : t.Stopped)
    (ms : List Moment) :
    t.Still (after setup t ms) ∧ (after setup t ms).Stopped ∧
      (t.exit? = some .cancelled ∨ ms.any Moment.isPoll = true → (after setup t ms).exit? = some .cancelled) := by
  induction ms generalizing t with
  | nil => exact ⟨.refl t, h, fun hp => hp.resolve_right nofun⟩
  | cons m ms ih =>
    obtain ⟨hstill, hstopped⟩ := stopped_act hsetup h m
    obtain ⟨hrest, hlast, hends⟩ := ih hstopped
    refine ⟨hstill.trans hrest, hlast, fun hp => hends ?_⟩
    rw [List.any_cons, Bool.or_eq_true] at hp
    rcases hp with hover | hpoll | hlater
    · exact .inl (act_of_exit hover m)
    · cases m with
      | poll fires => exact .inl (stopped_poll hsetup h fires).2
      | fire => cases hpoll
      | arrive result => cases hpoll
    · exact .inr hlater

/-! ## the moment in which it fires -/

/-- a check is judged the same, whether the token fired with it or not -/
theorem judge_withCancelled (r : ScheduleRun) (cancelled : Bool) (o : CheckOutcome) :
    ({ r with cancelled } : ScheduleRun).judge o = ({ (r.judge o).1 with cancelled }, (r.judge o).2) := by
  cases o with
  | nothing => rfl
  | found version =>
    simp only [ScheduleRun.judge]
    split <;> rfl
  | failed error =>
    simp only [ScheduleRun.judge]
    split
    · rfl
    · split <;> rfl

theorem resume_checked_fires (hw : r.phase = .waiting .check) (o : CheckOutcome) :
    r.resume (.checked o true) = { (r.judge o).1 with phase := .ended .cancelled, cancelled := true } := by
  have hjudge := judge_withCancelled r true o
  obtain ⟨phase, hadError, notified, state, cancelled, done⟩ := r
  cases hw
  simp only [ScheduleRun.resume, Bool.or_true, hjudge]
  rfl

theorem resume_slept_fires {p : PauseClass} (hw : r.phase = .waiting (.pause p)) :
    r.resume (.slept true) = { r with phase := .ended .cancelled, cancelled := true } := by
  simp only [ScheduleRun.resume, hw, Bool.or_true, ScheduleRun.await, if_true]

/-- a check that fires the token with its result is judged, and a pause is over; nothing is begun behind them -/
theorem resume_fires (h : Underway boot taken r) (hw : r.phase = .waiting w) (hresult : w.yields result = true) :
    (r.resume (result.reply true)).phase = .ended .cancelled ∧
      (r.resume (result.reply true)).trace = r.trace ++ result.news taken ∧
      (r.resume (result.reply true)).state
        = if (taken ++ result.outcomes).any CheckOutcome.isFound then .available else .unknown := by
  cases result with
  | checked o =>
    cases w with
    | pause p => cases hresult
    | check =>
      obtain ⟨hreflects, -, htrace⟩ := ScheduleRun.reflects_judge h.reflects o
      rw [WaitResult.reply, resume_checked_fires hw]
      exact ⟨rfl, htrace, hreflects.state⟩
  | slept =>
    cases w with
    | check => cases hresult
    | pause p =>
      rw [WaitResult.reply, resume_slept_fires hw]
      refine ⟨rfl, (List.append_nil _).symm, ?_⟩
      rw [WaitResult.outcomes, List.append_nil]
      exact h.reflects.state

/-- what becomes of a task in the moment in which its token fires -/
structure Fires (t u : ScheduleTask) (m : Moment) : Prop where
  stopped : u.Stopped
  trace : u.trace = t.trace ++ t.parting m
  state : u.state = if t.parting m = [] then t.state else .available
  /-- a check or a pause that fires the token with its result is the last -/
  exit : m.isPoll = true → t.result? ≠ none → u.exit? = some .cancelled

/-- a token that someone fires, or a check that goes on, leaves everything as it is -/
theorem fires_silent (h : Sound setup t) {m : Moment} (hp : t.parting m = [])
    (hm : m.isPoll = true → t.result? = none) : t.Fires { t with fired := true } m where
  stopped := by
    refine ⟨rfl, fun exit he => ?_⟩
    cases h.exit?.symm.trans he
  trace := by
    rw [hp, List.append_nil]
    rfl
  state := by
    rw [if_pos hp]
    rfl
  exit hpoll hresult := absurd (hm hpoll) hresult

theorem parting_of_result (hr : t.result? = some result) : t.parting (.poll true) = result.news t.taken := by
  simp only [parting, hr]
  cases result with
  | slept => rfl
  | checked o =>
    rw [WaitResult.news, ScheduleRun.announcement_length]
    cases o with
    | nothing => rfl
    | failed error => rfl
    | found version => cases t.taken.any CheckOutcome.isFound <;> rfl

/-- a result is taken, and the token fires with it -/
theorem fires_taken (h : Sound setup t) (hr : t.run? = some r) (hw : r.phase = .waiting w)
    (hresult : t.result? = some result) :
    t.Fires ⟨some (r.resume (result.reply true)), true, none, t.taken ++ result.outcomes⟩ (.poll true) := by
  have hunder := h.underway r hr
  obtain ⟨hphase, htrace, hstate⟩ := resume_fires hunder hw (h.yields hr hw hresult)
  have hexit : exit? ⟨some (r.resume (result.reply true)), true, none, t.taken ++ result.outcomes⟩
      = some .cancelled := by
    rw [exit?, Option.bind_some, hphase]
  refine ⟨⟨rfl, fun exit he => ?_⟩, ?_, ?_, fun _ _ => hexit⟩
  · cases hexit.symm.trans he
    rfl
  · rw [parting_of_result hresult, trace, trace, hr]
    exact htrace
  · rw [parting_of_result hresult, state, state, hr, Option.map_some, Option.map_some, Option.getD_some,
      Option.getD_some, hstate, hunder.reflects.state]
    cases result with
    | slept => rw [WaitResult.outcomes, List.append_nil, WaitResult.news, if_pos rfl]
    | checked o =>
      rw [WaitResult.news, ScheduleRun.announcement_length, WaitResult.outcomes, List.any_append, List.any_cons, List.any_nil,
        Bool.or_false]
      cases t.taken.any CheckOutcome.isFound <;> cases o.isFound <;> rfl

theorem fires_act (h : Sound setup t) {m : Moment} (hm : (act setup t m).fired = true) :
    t.Fires (act setup t m) m := by
  cases m with
  | fire => exact fires_silent h rfl nofun
  | arrive result =>
    -- no token fires by a result that comes
    rw [act] at hm
    split at hm <;> cases h.fired.symm.trans hm
  | poll fires =>
    cases hr : t.run? with
    | none =>
      rw [act_poll_of_none hr] at hm
      cases h.fired.symm.trans hm
    | some r =>
      obtain ⟨w, hw⟩ := (h.underway r hr).phase
      rw [act_poll_of_waiting hr hw] at hm ⊢
      cases hresult : t.result? with
      | none =>
        rw [pollWaiting_of_none h.fired hresult] at hm ⊢
        cases hm
        exact fires_silent h (by simp only [parting, hresult]) fun _ => hresult
      | some result =>
        rw [pollWaiting_of_some h.fired hresult] at hm ⊢
        cases hm
        exact fires_taken h hr hw hresult

/-! ## the whole of it -/

/-- how a task stops whose token fires in a moment, and what comes of it in all that follows -/
structure StopsCleanly (t u : ScheduleTask) (m : Moment) (later : List Moment) : Prop where
  exit : ∀ exit, u.exit? = some exit → exit = .cancelled
  ends : later.any Moment.isPoll = true ∨ m.isPoll = true ∧ t.result? ≠ none → u.exit? = some .cancelled
  /-- no check and no pause is begun, and nothing is made of a result that was not taken -/
  trace : u.trace = t.trace ++ t.parting m
  state : u.state = if t.parting m = [] then t.state else .available

/-- **Cancelling the scheduler stops it, whenever its token fires**: before it starts, in a pause or a check, also one
that never comes to a result, or by the check or the pause itself.  It is cancelled and nothing else, with the next
poll; until its token fires, it is not over at all. -/
theorem stops_cleanly (hsetup : setup.official = true ∨ setup.allowUnofficial = true) (before : List Moment)
    (hbefore : (after setup {} before).fired = false) :
    (after setup {} before).exit? = none ∧
      ∀ (m : Moment) (later : List Moment), (after setup {} (before ++ [m])).fired = true →
        StopsCleanly (after setup {} before) (after setup {} (before ++ m :: later)) m later := by
  have hsound := sound_after hsetup (sound_new setup) hbefore
  refine ⟨hsound.exit?, fun m later hm => ?_⟩
  rw [after_append] at hm
  have hfires := fires_act hsound hm
  obtain ⟨hstill, hstopped, hends⟩ := stopped_after hsetup hfires.stopped later
  rw [after_append]
  refine ⟨hstopped.exit, fun h => hends ?_, hstill.trace.trans hfires.trace, hstill.state.trans hfires.state⟩
  rcases h with hpoll | ⟨hpoll, hresult⟩
  · exact .inr hpoll
  · exact .inl (hfires.exit hpoll hresult)

/-- a delay is slept through, a first check gives nothing, and a second one fires the token and finds an update; what
comes later is not heard -/
theorem stops_cleanly_found :
    ∃ before after_, before = [.poll false, .arrive .slept, .poll false, .arrive (.checked .nothing), .poll false,
        .arrive .slept, .poll false, .arrive (.checked (.found "9.9.9"))] ∧
      after_ = after ⟨false, true, true⟩ {} (before ++ .poll true :: [.arrive .slept, .poll false]) ∧
      StopsCleanly (after ⟨false, true, true⟩ {} before) after_ (.poll true) [.arrive .slept, .poll false] ∧
      after_.exit? = some .cancelled ∧
      after_.trace = [.sleep .bootDelay, .check, .sleep .checkInterval, .check, .set .available,
        .publish (.updateFound .available)] := by
  refine ⟨_, _, rfl, rfl, ?_, rfl, rfl⟩
  exact (stops_cleanly (.inr rfl) _ rfl).2 _ _ rfl

end ScheduleTask

end TunnelControl
