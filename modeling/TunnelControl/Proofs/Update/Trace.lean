import Mathlib.Data.List.Basic
import Mathlib.Data.List.Induction
import TunnelControl.Service.Running

/-!
# The trace of the scheduler

The scheduler keeps two flags from one check to the next.  Its trace is told here by the outcomes of the checks
alone: a round for each check, with a pause behind it that depends on the outcomes up to it.

* `ScheduleRun.roundOf`, `traceOf`   the trace, by the outcomes;
* `ScheduleRun.checking`             the scheduler, as it waits for the check behind some outcomes;
* `ScheduleRun.Reflects`             its flags tell of the outcomes what the pauses depend on;
* `checking_checking`                so it is in each round;
* `duration_mem_range`               a pause is as long as its class says.
-/

namespace TunnelControl

def CheckOutcome.isFound : CheckOutcome → Bool
  | .found _ => true
  | _ => false

def CheckOutcome.isFailed : CheckOutcome → Bool
  | .failed _ => true
  | _ => false

/-- a pause is as long as its class says, whatever number is drawn -/
theorem PauseClass.duration_mem_range (p : PauseClass) {draw : Nat}
    (hdraw : draw ≤ jitterSpan p.range.1 p.range.2) :
    p.range.1 ≤ p.duration draw ∧ p.duration draw ≤ p.range.2 := by
  have hlt : p.range.1 < p.range.2 := by cases p <;> decide
  rw [duration, jitter_of_lt hlt]
  refine ⟨Nat.le_add_right _ _, ?_⟩
  have hspan : draw * nanosPerMilli ≤ p.range.2 - p.range.1 :=
    calc draw * nanosPerMilli
        ≤ (p.range.2 - p.range.1) / nanosPerMilli * nanosPerMilli :=
          Nat.mul_le_mul_right _ (Nat.le_trans hdraw (Nat.mod_le _ _))
      _ ≤ p.range.2 - p.range.1 := Nat.div_mul_le_self _ _
  omega

namespace ScheduleRun

/-! ## the trace by the outcomes -/

/-- whether an update was found before a round -/
def foundBefore (os : List CheckOutcome) (k : Nat) : Bool := (os.take k).any CheckOutcome.isFound

def foundAt (os : List CheckOutcome) (k : Nat) : Bool := os[k]?.any CheckOutcome.isFound

def failedAt (os : List CheckOutcome) (k : Nat) : Bool := os[k]?.any CheckOutcome.isFailed

/-- the class of the pause behind a round -/
def pauseBehind (os : List CheckOutcome) (k : Nat) : PauseClass :=
  if failedAt os k = true ∧ foundBefore os k = false then
    if k = 0 ∨ failedAt os (k - 1) = false then .firstErrorBackoff else .repeatedErrorBackoff
  else .checkInterval

/-- what the first update that is found gives rise to -/
def announcement (os : List CheckOutcome) (k : Nat) : List ScheduleAct :=
  if foundAt os k = true ∧ foundBefore os k = false then [.set .available, .publish (.updateFound .available)] else []

def roundOf (os : List CheckOutcome) (k : Nat) : List ScheduleAct :=
  .check :: announcement os k ++ [.sleep (pauseBehind os k)]

/-- what the scheduler has done up to the pause behind some outcomes -/
def traceOf (startedWithSystem : Bool) (os : List CheckOutcome) : List ScheduleAct :=
  (if startedWithSystem then [.sleep .bootDelay] else []) ++ (List.range os.length).flatMap (roundOf os)

theorem foundBefore_concat (os : List CheckOutcome) (o : CheckOutcome) {k : Nat} (hk : k ≤ os.length) :
    foundBefore (os ++ [o]) k = foundBefore os k := by
  rw [foundBefore, List.take_append_of_le_length hk, foundBefore]

theorem foundBefore_length (os : List CheckOutcome) : foundBefore os os.length = os.any CheckOutcome.isFound := by
  rw [foundBefore, List.take_length]

theorem foundAt_concat (os : List CheckOutcome) (o : CheckOutcome) {k : Nat} (hk : k < os.length) :
    foundAt (os ++ [o]) k = foundAt os k := by
  rw [foundAt, List.getElem?_append_left hk, foundAt]

theorem foundAt_length (os : List CheckOutcome) (o : CheckOutcome) : foundAt (os ++ [o]) os.length = o.isFound := by
  rw [foundAt, List.getElem?_concat_length]
  rfl

theorem failedAt_concat (os : List CheckOutcome) (o : CheckOutcome) {k : Nat} (hk : k < os.length) :
    failedAt (os ++ [o]) k = failedAt os k := by
  rw [failedAt, List.getElem?_append_left hk, failedAt]

theorem failedAt_length (os : List CheckOutcome) (o : CheckOutcome) :
    failedAt (os ++ [o]) os.length = o.isFailed := by
  rw [failedAt, List.getElem?_concat_length]
  rfl

/-- a later outcome leaves the rounds before it as they are -/
theorem roundOf_concat (os : List CheckOutcome) (o : CheckOutcome) {k : Nat} (hk : k < os.length) :
    roundOf (os ++ [o]) k = roundOf os k := by
  rw [roundOf, announcement, pauseBehind, foundAt_concat os o hk, foundBefore_concat os o (Nat.le_of_lt hk),
    failedAt_concat os o hk, failedAt_concat os o (Nat.lt_of_le_of_lt (Nat.sub_le k 1) hk)]
  rfl

theorem traceOf_concat (startedWithSystem : Bool) (os : List CheckOutcome) (o : CheckOutcome) :
    traceOf startedWithSystem (os ++ [o]) = traceOf startedWithSystem os ++ roundOf (os ++ [o]) os.length := by
  have hrounds : (List.range os.length).flatMap (roundOf (os ++ [o])) = (List.range os.length).flatMap (roundOf os) :=
    List.flatMap_congr fun k hk => roundOf_concat os o (List.mem_range.mp hk)
  rw [traceOf, List.length_append, List.length_singleton, List.range_succ, List.flatMap_append, hrounds,
    List.flatMap_singleton, ← List.append_assoc]
  rfl

/-! ## the scheduler in its rounds -/

/-- the scheduler as it waits for the check behind some outcomes, with no pause cut short -/
def checking (setup : ScheduleSetup) (os : List CheckOutcome) : ScheduleRun :=
  os.foldl (fun r o => (r.resume (.checked o false)).resume (.slept false)) ((start setup false).resume (.slept false))

theorem checking_concat (setup : ScheduleSetup) (os : List CheckOutcome) (o : CheckOutcome) :
    checking setup (os ++ [o]) = ((checking setup os).resume (.checked o false)).resume (.slept false) := by
  rw [checking, List.foldl_append]
  rfl

/-- the flags of the scheduler tell of the outcomes what the pauses depend on -/
structure Reflects (r : ScheduleRun) (os : List CheckOutcome) : Prop where
  cancelled : r.cancelled = false
  notified : r.notified = os.any CheckOutcome.isFound
  hadError : r.hadError = (!os.any CheckOutcome.isFound && failedAt os (os.length - 1))
  state : r.state = if os.any CheckOutcome.isFound then .available else .unknown

theorem pauseBehind_length (os : List CheckOutcome) (o : CheckOutcome) :
    pauseBehind (os ++ [o]) os.length
      = if o.isFailed = true ∧ os.any CheckOutcome.isFound = false then
          if failedAt os (os.length - 1) = false then .firstErrorBackoff else .repeatedErrorBackoff
        else .checkInterval := by
  rw [pauseBehind, failedAt_length, foundBefore_concat os o (Nat.le_refl _), foundBefore_length]
  by_cases hos : os = []
  · subst hos
    rfl
  · have hlen : os.length ≠ 0 := fun h => hos (List.length_eq_zero_iff.mp h)
    rw [failedAt_concat os o (by omega)]
    simp only [hlen, false_or]

theorem announcement_length (os : List CheckOutcome) (o : CheckOutcome) :
    announcement (os ++ [o]) os.length
      = if o.isFound = true ∧ os.any CheckOutcome.isFound = false then
          [.set .available, .publish (.updateFound .available)] else [] := by
  rw [announcement, foundAt_length, foundBefore_concat os o (Nat.le_refl _), foundBefore_length]

theorem reflects_concat {r : ScheduleRun} {os : List CheckOutcome} {o : CheckOutcome} {found : Bool}
    (hf : os.any CheckOutcome.isFound = found) (hcancelled : r.cancelled = false)
    (hnotified : r.notified = (found || o.isFound)) (herror : r.hadError = (!(found || o.isFound) && o.isFailed))
    (hstate : r.state = if found || o.isFound then .available else .unknown) : r.Reflects (os ++ [o]) := by
  have hany : (os ++ [o]).any CheckOutcome.isFound = (found || o.isFound) := by
    rw [List.any_append, List.any_cons, List.any_nil, Bool.or_false, hf]
  have hlast : failedAt (os ++ [o]) ((os ++ [o]).length - 1) = o.isFailed := by
    rw [List.length_append, List.length_singleton, Nat.add_sub_cancel, failedAt_length]
  exact ⟨hcancelled, hnotified.trans hany.symm, by rw [hany, hlast, herror], by rw [hany, hstate]⟩

/-- a check is judged by the outcomes so far -/
theorem reflects_judge {r : ScheduleRun} {os : List CheckOutcome} (h : r.Reflects os) (o : CheckOutcome) :
    (r.judge o).1.Reflects (os ++ [o]) ∧ (r.judge o).2 = pauseBehind (os ++ [o]) os.length ∧
      (r.judge o).1.trace = r.trace ++ announcement (os ++ [o]) os.length := by
  obtain ⟨hcancelled, hnotified, herror, hstate⟩ := h
  rw [pauseBehind_length, announcement_length]
  generalize hf : os.any CheckOutcome.isFound = found at hnotified herror hstate
  cases o with
  | nothing =>
    refine ⟨reflects_concat hf hcancelled ?_ (Bool.and_false _).symm ?_, rfl, (List.append_nil _).symm⟩
    · exact hnotified.trans (Bool.or_false found).symm
    · cases found <;> exact hstate
  | found version =>
    cases found with
    | true =>
      simp only [judge, hnotified, if_true]
      exact ⟨reflects_concat hf hcancelled rfl rfl hstate, rfl, (List.append_nil _).symm⟩
    | false =>
      simp only [judge, hnotified, Bool.false_eq_true, if_false]
      exact ⟨reflects_concat hf hcancelled rfl rfl rfl, rfl,
        trace_act r [.set .available, .publish (.updateFound .available)]⟩
  | failed error =>
    -- once an update was found, a failure is not held against the next check
    cases found with
    | true =>
      simp only [judge, hnotified, if_true]
      exact ⟨reflects_concat hf hcancelled hnotified herror hstate, rfl, (List.append_nil _).symm⟩
    | false =>
      simp only [judge, hnotified, Bool.false_eq_true, if_false]
      cases hl : failedAt os (os.length - 1) with
      | true =>
        rw [hl] at herror
        simp only [herror, Bool.not_false, Bool.and_self, if_true]
        exact ⟨reflects_concat hf hcancelled hnotified herror hstate, rfl, (List.append_nil _).symm⟩
      | false =>
        rw [hl] at herror
        simp only [herror, Bool.and_false, Bool.false_eq_true, if_false]
        exact ⟨reflects_concat hf hcancelled rfl rfl hstate, rfl, (List.append_nil _).symm⟩

theorem resume_slept {r : ScheduleRun} {p : PauseClass} (hp : r.phase = .waiting (.pause p)) :
    r.resume (.slept false) = r.await .check := by
  obtain ⟨phase, hadError, notified, state, cancelled, done⟩ := r
  cases hp
  simp only [resume, Bool.or_false]

theorem resume_checked {r : ScheduleRun} (hp : r.phase = .waiting .check) (o : CheckOutcome) :
    r.resume (.checked o false) = (r.judge o).1.await (.pause (r.judge o).2) := by
  obtain ⟨phase, hadError, notified, state, cancelled, done⟩ := r
  cases hp
  simp only [resume, Bool.or_false]

theorem trace_await {r : ScheduleRun} (hc : r.cancelled = false) (w : Wait) :
    (r.await w).trace = r.trace ++ [beginning w] := by
  rw [await, hc, if_neg Bool.false_ne_true]
  exact trace_act r [beginning w]

theorem phase_await {r : ScheduleRun} (hc : r.cancelled = false) (w : Wait) : (r.await w).phase = .waiting w := by
  rw [await, hc, if_neg Bool.false_ne_true]

theorem Reflects.await {r : ScheduleRun} {os : List CheckOutcome} (h : r.Reflects os) (w : Wait) :
    (r.await w).Reflects os := by
  rw [ScheduleRun.await, h.cancelled, if_neg Bool.false_ne_true]
  exact ⟨h.cancelled, h.notified, h.hadError, h.state⟩

/-- the scheduler waits for the check behind some outcomes -/
structure Checking (r : ScheduleRun) (startedWithSystem : Bool) (os : List CheckOutcome) : Prop where
  phase : r.phase = .waiting .check
  reflects : r.Reflects os
  trace : r.trace = traceOf startedWithSystem os ++ [.check]

structure Pausing (r : ScheduleRun) (startedWithSystem : Bool) (os : List CheckOutcome) : Prop where
  phase : ∃ p, r.phase = .waiting (.pause p)
  reflects : r.Reflects os
  trace : r.trace = traceOf startedWithSystem os

theorem Pausing.resume {r : ScheduleRun} {boot : Bool} {os : List CheckOutcome} (h : r.Pausing boot os) :
    (r.resume (.slept false)).Checking boot os := by
  obtain ⟨p, hp⟩ := h.phase
  rw [resume_slept hp]
  refine ⟨phase_await h.reflects.cancelled _, h.reflects.await _, ?_⟩
  rw [trace_await h.reflects.cancelled, h.trace]
  rfl

theorem Checking.resume {r : ScheduleRun} {boot : Bool} {os : List CheckOutcome} (h : r.Checking boot os)
    (o : CheckOutcome) : (r.resume (.checked o false)).Pausing boot (os ++ [o]) := by
  obtain ⟨hreflects, hpause, htrace⟩ := reflects_judge h.reflects o
  rw [resume_checked h.phase]
  refine ⟨⟨_, phase_await hreflects.cancelled _⟩, hreflects.await _, ?_⟩
  rw [trace_await hreflects.cancelled, htrace, hpause, h.trace, traceOf_concat, roundOf, List.append_assoc,
    List.append_assoc, List.cons_append]
  rfl

theorem start_of_allowed {setup : ScheduleSetup} (hsetup : setup.official = true ∨ setup.allowUnofficial = true) :
    start setup false
      = await { phase := .waiting .check } (if setup.startedWithSystem then .pause .bootDelay else .check) := by
  have hallowed : (!setup.official && !setup.allowUnofficial) = false := by
    obtain h | h := hsetup
    · rw [h]
      rfl
    · rw [h, Bool.not_true, Bool.and_false]
  rw [start, hallowed, if_neg Bool.false_ne_true]
  cases setup.startedWithSystem <;> rfl

theorem checking_start {setup : ScheduleSetup} (hsetup : setup.official = true ∨ setup.allowUnofficial = true) :
    (checking setup []).Checking setup.startedWithSystem [] := by
  have hflags (phase : SchedulePhase) (done : List ScheduleAct) : Reflects { phase, done } [] := ⟨rfl, rfl, rfl, rfl⟩
  rw [checking, List.foldl_nil, start_of_allowed hsetup]
  cases setup.startedWithSystem with
  | true => exact Pausing.resume ⟨⟨.bootDelay, rfl⟩, hflags _ _, rfl⟩
  | false => exact ⟨rfl, hflags _ _, rfl⟩

theorem checking_checking {setup : ScheduleSetup} (hsetup : setup.official = true ∨ setup.allowUnofficial = true)
    (os : List CheckOutcome) : (checking setup os).Checking setup.startedWithSystem os := by
  -- by the last outcome, since a check is judged by those before it
  induction os using List.reverseRecOn with
  | nil => exact checking_start hsetup
  | append_singleton os o ih =>
    rw [checking_concat]
    exact (ih.resume o).resume

/-! ## what the service learns of it -/

/-- of a whole trace, the service learns of the first update that is found -/
theorem perform_traceOf (startedWithSystem : Bool) (os : List CheckOutcome) (s : Service) :
    (traceOf startedWithSystem os).foldl Running.perform s
      = if os.any CheckOutcome.isFound then
          { s with updateState := .available, hub := (s.hub.publish (.updateFound .available) false).2 }
        else s := by
  induction os using List.reverseRecOn with
  | nil => cases startedWithSystem <;> rfl
  | append_singleton os o ih =>
    rw [traceOf_concat, List.foldl_append, ih, roundOf, announcement_length, List.any_append, List.any_cons,
      List.any_nil, Bool.or_false]
    cases os.any CheckOutcome.isFound <;> cases o.isFound <;> rfl

/-! ## the whole of it -/

theorem start_of_disabled {setup : ScheduleSetup} (hofficial : setup.official = false)
    (hallow : setup.allowUnofficial = false) :
    start setup false
      = { phase := .ended .updatesDisabled, state := .disabledUnofficial
          done := [.publish (.updateFound .disabledUnofficial), .set .disabledUnofficial] } := by
  simp only [start, hofficial, hallow]
  rfl

theorem resume_of_ended {r : ScheduleRun} {exit : ScheduleEnd} (hp : r.phase = .ended exit) (reply : Reply) :
    r.resume reply = r := by
  simp only [resume, hp]

/-- what a scheduler does that is not cancelled is told by the outcomes -/
structure Obeys (setup : ScheduleSetup) : Prop where
  first : (start setup false).trace = if setup.startedWithSystem then [.sleep .bootDelay] else [.check]
  check : ∀ os, (checking setup os).phase = .waiting .check ∧
    (checking setup os).trace = traceOf setup.startedWithSystem os ++ [.check]
  pause : ∀ os o, ((checking setup os).resume (.checked o false)).trace = traceOf setup.startedWithSystem (os ++ [o])
  /-- nothing is set but by the first update that is found -/
  checkState : ∀ os, (checking setup os).state = if os.any CheckOutcome.isFound then .available else .unknown
  pauseState : ∀ os o, ((checking setup os).resume (.checked o false)).state
    = if (os ++ [o]).any CheckOutcome.isFound then .available else .unknown
  /-- nor is anything else published -/
  service : ∀ os (s : Service), (checking setup os).trace.foldl Running.perform s
    = if os.any CheckOutcome.isFound then
        { s with updateState := .available, hub := (s.hub.publish (.updateFound .available) false).2 }
      else s

theorem obeys {setup : ScheduleSetup} (hsetup : setup.official = true ∨ setup.allowUnofficial = true) :
    Obeys setup where
  first := by
    rw [start_of_allowed hsetup]
    cases setup.startedWithSystem <;> rfl
  check os := ⟨(checking_checking hsetup os).phase, (checking_checking hsetup os).trace⟩
  pause os o := ((checking_checking hsetup os).resume o).trace
  checkState os := (checking_checking hsetup os).reflects.state
  pauseState os o := ((checking_checking hsetup os).resume o).reflects.state
  service os s := by
    rw [(checking_checking hsetup os).trace, List.foldl_append, perform_traceOf]
    rfl

/-- **The trace of the scheduler is told by the outcomes of its checks**, if it checks for updates at all.  If it does
not, it says so once and stops, whatever comes.  Its pauses are as long as their classes say. -/
theorem schedule_of_outcomes (setup : ScheduleSetup) :
    (setup.official = true ∨ setup.allowUnofficial = true → Obeys setup) ∧
      (setup.official = false ∧ setup.allowUnofficial = false → ∀ replies : List Reply,
        (replies.foldl resume (start setup false)).phase = .ended .updatesDisabled ∧
          (replies.foldl resume (start setup false)).trace
            = [.set .disabledUnofficial, .publish (.updateFound .disabledUnofficial)]) ∧
      ∀ (p : PauseClass) (draw : Nat), draw ≤ jitterSpan p.range.1 p.range.2 →
        p.range.1 ≤ p.duration draw ∧ p.duration draw ≤ p.range.2 := by
  refine ⟨obeys, fun ⟨hofficial, hallow⟩ replies => ?_, fun p draw hdraw => p.duration_mem_range hdraw⟩
  have hended : (start setup false).phase = .ended .updatesDisabled := by rw [start_of_disabled hofficial hallow]
  have hstays : replies.foldl resume (start setup false) = start setup false := by
    induction replies with
    | nil => rfl
    | cons reply replies ih => rw [List.foldl_cons, resume_of_ended hended, ih]
  rw [hstays]
  refine ⟨hended, ?_⟩
  rw [start_of_disabled hofficial hallow]
  rfl

end ScheduleRun

end TunnelControl
