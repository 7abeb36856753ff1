import Mathlib.Data.List.Basic
import TunnelControl.Control.Follow

/-!
# How many events a watch prints

A watch prints the events that reach it, one after the other, until it has printed as many as it was asked for or the
news that the service stops.  It looks at the count behind each event that it prints, and so never before the first.

* `quota limit es`          how many of some events should be printed;
* `IsOver limit printed`    with these events printed, the watch should end;
* `owed limit k`            what the loop still prints behind `k` events, which is never nothing;
* `watchedFrom_eq`          what the loop prints, and when it ends;
* `watchedFrom_append`      what it makes of further events.
-/

namespace TunnelControl

/-! ## how many events are printed -/

/-- the number of events up to the news that the service stops, with the news; of all, if there is none -/
def untilStop (es : List Event) : Nat :=
  if .managerStopping ∈ es then es.idxOf .managerStopping + 1 else es.length

/-- how many of some events are to be printed -/
def quota (limit : Option Nat) (es : List Event) : Nat :=
  match limit with
  | none => untilStop es
  | some n => min n (untilStop es)

/-- as many events are printed as were asked for, or the news that the service stops is -/
def IsOver (limit : Option Nat) (printed : List Event) : Prop :=
  (∃ n, limit = some n ∧ n ≤ printed.length) ∨ .managerStopping ∈ printed

/-- what is still to be printed when some events have been: another one at least -/
def owed (limit : Option Nat) (printed : Nat) : Option Nat := limit.map fun n => max 1 (n - printed)

theorem untilStop_stopping (es : List Event) : untilStop (.managerStopping :: es) = 1 := by simp [untilStop]

theorem untilStop_cons {e : Event} (h : e ≠ .managerStopping) (es : List Event) :
    untilStop (e :: es) = untilStop es + 1 := by
  unfold untilStop
  simp only [List.mem_cons, h.symm, false_or, List.idxOf_cons_ne _ h, List.length_cons]
  split <;> rfl

theorem untilStop_pos (e : Event) (es : List Event) : 0 < untilStop (e :: es) := by
  by_cases h : e = .managerStopping
  · rw [h, untilStop_stopping]
    exact Nat.one_pos
  · rw [untilStop_cons h]
    exact Nat.succ_pos _

section
variable {limit : Option Nat} {k : Nat} {e : Event}

theorem endsWatch_iff :
    endsWatch limit (k + 1) e = true ↔ (∃ n, limit = some n ∧ n ≤ k + 1) ∨ e = .managerStopping := by
  simp [endsWatch, Option.any_eq_true]

theorem isOver_singleton_iff : IsOver (owed limit k) [e] ↔ endsWatch limit (k + 1) e = true := by
  rw [endsWatch_iff, IsOver, List.mem_singleton, eq_comm]
  refine or_congr_left ?_
  cases limit with
  | none => simp [owed]
  | some n =>
    simp only [owed, Option.map_some, Option.some.injEq, exists_eq_left', List.length_singleton]
    omega

theorem quota_of_ends (h : endsWatch limit (k + 1) e = true) (es : List Event) :
    quota (owed limit k) (e :: es) = 1 := by
  have hpos := untilStop_pos e es
  rcases endsWatch_iff.mp h with ⟨n, rfl, hn⟩ | rfl
  · show min (max 1 (n - k)) (untilStop (e :: es)) = 1
    omega
  · cases limit with
    | none => exact untilStop_stopping es
    | some n =>
      show min (max 1 (n - k)) (untilStop (.managerStopping :: es)) = 1
      rw [untilStop_stopping]
      omega

theorem quota_of_not_ends (h : ¬endsWatch limit (k + 1) e = true) (es : List Event) :
    quota (owed limit k) (e :: es) = quota (owed limit (k + 1)) es + 1 := by
  rw [endsWatch_iff, not_or] at h
  obtain ⟨hlimit, he⟩ := h
  cases limit with
  | none => exact untilStop_cons he es
  | some n =>
    have hn : ¬n ≤ k + 1 := fun hn => hlimit ⟨n, rfl, hn⟩
    show min (max 1 (n - k)) (untilStop (e :: es)) = min (max 1 (n - (k + 1))) (untilStop es) + 1
    rw [untilStop_cons he]
    omega

theorem isOver_cons_of_not_ends (h : ¬endsWatch limit (k + 1) e = true) (printed : List Event) :
    IsOver (owed limit k) (e :: printed) ↔ IsOver (owed limit (k + 1)) printed := by
  rw [endsWatch_iff, not_or] at h
  obtain ⟨hlimit, he⟩ := h
  refine or_congr ?_ ?_
  · cases limit with
    | none => simp [owed]
    | some n =>
      have hn : ¬n ≤ k + 1 := fun hn => hlimit ⟨n, rfl, hn⟩
      simp only [owed, Option.map_some, Option.some.injEq, exists_eq_left', List.length_cons]
      omega
  · rw [List.mem_cons]
    exact or_iff_right (Ne.symm he)

end

/-! ## the loop -/

theorem watchedFrom_cons (limit : Option Nat) (k : Nat) (e : Event) (es : List Event) :
    watchedFrom limit k (e :: es) =
      if endsWatch limit (k + 1) e then ([e], true)
      else (e :: (watchedFrom limit (k + 1) es).1, (watchedFrom limit (k + 1) es).2) := rfl

/-- **The loop prints what is owed, and ends when that is done.** -/
theorem watchedFrom_eq (limit : Option Nat) (k : Nat) (es : List Event) :
    (watchedFrom limit k es).1 = es.take (quota (owed limit k) es) ∧
      ((watchedFrom limit k es).2 = true ↔ IsOver (owed limit k) (watchedFrom limit k es).1) := by
  induction es generalizing k with
  | nil =>
    refine ⟨List.take_nil.symm, iff_of_false nofun ?_⟩
    rintro (⟨n, hn, hle⟩ | hmem)
    · obtain ⟨m, -, rfl⟩ := Option.map_eq_some_iff.mp hn
      exact absurd hle (Nat.not_le.mpr (Nat.le_max_left 1 (m - k)))
    · cases hmem
  | cons e es ih =>
    rw [watchedFrom_cons]
    by_cases h : endsWatch limit (k + 1) e = true
    · rw [if_pos h, quota_of_ends h]
      exact ⟨rfl, iff_of_true rfl (isOver_singleton_iff.mpr h)⟩
    · obtain ⟨hprinted, hended⟩ := ih (k + 1)
      rw [if_neg h, quota_of_not_ends h, List.take_succ_cons, ← hprinted, isOver_cons_of_not_ends h]
      exact ⟨rfl, hended⟩

/-- all is printed that reaches a loop which goes on -/
theorem watchedFrom_fst_of_goesOn {limit : Option Nat} {k : Nat} {es : List Event}
    (h : (watchedFrom limit k es).2 = false) : (watchedFrom limit k es).1 = es := by
  induction es generalizing k with
  | nil => rfl
  | cons e es ih =>
    rw [watchedFrom_cons] at h ⊢
    split at h
    · cases h
    · rename_i hgoes
      rw [if_neg hgoes, ih h]

theorem watchedFrom_append (limit : Option Nat) (k : Nat) (es later : List Event) :
    watchedFrom limit k (es ++ later) =
      if (watchedFrom limit k es).2 then watchedFrom limit k es
      else (es ++ (watchedFrom limit (k + es.length) later).1, (watchedFrom limit (k + es.length) later).2) := by
  induction es generalizing k with
  | nil => rfl
  | cons e es ih =>
    rw [List.cons_append, watchedFrom_cons, watchedFrom_cons, ih]
    by_cases hends : endsWatch limit (k + 1) e = true
    · simp only [if_pos hends, if_true]
    · simp only [if_neg hends]
      split
      · rfl
      · rw [List.length_cons, Nat.add_right_comm, Nat.add_assoc, List.cons_append]

theorem watched_concat {limit : Option Nat} {es : List Event} (h : watched limit es = (es, false)) (e : Event) :
    watched limit (es ++ [e]) = (es ++ [e], endsWatch limit (es.length + 1) e) := by
  have hgoes : (watchedFrom limit 0 es).2 = false := congrArg Prod.snd h
  have hlast : watchedFrom limit (0 + es.length) [e] = ([e], endsWatch limit (es.length + 1) e) := by
    rw [watchedFrom_cons, Nat.zero_add]
    cases endsWatch limit (es.length + 1) e <;> rfl
  rw [watched, watchedFrom_append, hgoes, hlast]
  rfl

/-- what a loop that has ended, or not, makes of further events begins with what it has printed -/
theorem isPrefix_watched_append {limit : Option Nat} {es : List Event} {ended : Bool}
    (h : watched limit es = (es, ended)) (later : List Event) : es <+: (watched limit (es ++ later)).1 := by
  rw [watched, watchedFrom_append, ← watched, h]
  cases ended with
  | true => exact List.prefix_refl es
  | false => exact List.prefix_append es _

end TunnelControl
