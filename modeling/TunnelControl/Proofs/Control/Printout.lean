import Mathlib.Data.List.Basic
import TunnelControl.Control.Follow
import TunnelControl.Proofs.Service.Relays

/-!
# What is printed of an update

The progress of an update is printed as it comes, up to the final step, or until the time is over.

* `progressBefore deadline es`   the progress that timed events bring before the deadline;
* `account deadline es`          what should be printed in the end;
* `account_concat`               later events change nothing once the update is settled;
* `followed_eq_account`          for events in the order of their times, this is what is printed.
-/

namespace TunnelControl

/-- the progress that an event brings, if it does -/
def Event.progress? : Event → Option Progress
  | .updateProgress p => some p
  | _ => none

/-- the progress that comes before a deadline, in its order -/
def progressBefore (deadline : Nat) (es : List (Nat × Event)) : List Progress :=
  es.filterMap fun timed => if timed.1 < deadline then timed.2.progress? else none

/-- how progress is printed -/
def shown (p : Progress) : Printed := .event (.updateProgress p)

/-- the progress that comes in time up to the final step, and a report that the time is over if none of it is final -/
def account (deadline : Nat) (es : List (Nat × Event)) : List Printed :=
  (upToFinal (progressBefore deadline es)).map shown ++
    if (progressBefore deadline es).any Progress.isFinal then [] else [.report .timeout]

/-- the final step has come in time, or the time is over -/
def IsSettled (deadline now : Nat) (es : List (Nat × Event)) : Prop :=
  (progressBefore deadline es).any Progress.isFinal = true ∨ deadline ≤ now

variable {deadline now time : Nat} {es : List (Nat × Event)} {ps qs : List Progress} {e : Event} {p : Progress}

theorem isProgress_eq (e : Event) : isProgress e = e.progress?.isSome := by cases e <;> rfl

/-- the progress that an event brings at a time -/
theorem progressBefore_singleton (h : isProgress e = true → time < deadline) :
    progressBefore deadline [(time, e)] = e.progress?.toList := by
  rw [isProgress_eq] at h
  unfold progressBefore
  cases hp : e.progress? with
  | none => simp [hp]
  | some p => simp [hp, h (by rw [hp]; rfl)]

theorem progressBefore_append (deadline : Nat) (es later : List (Nat × Event)) :
    progressBefore deadline (es ++ later) = progressBefore deadline es ++ progressBefore deadline later :=
  List.filterMap_append

theorem progressBefore_eq_nil (h : ∀ timed ∈ es, deadline ≤ timed.1) : progressBefore deadline es = [] := by
  unfold progressBefore
  rw [List.filterMap_eq_nil_iff]
  intro timed htimed
  exact if_neg (Nat.not_lt.mpr (h timed htimed))

/-- nothing behind the first final step counts -/
theorem upToFinal_final (h : ∀ q ∈ ps, q.isFinal = false) (hp : p.isFinal = true) (qs : List Progress) :
    upToFinal (ps ++ p :: qs) = ps ++ [p] := by
  rw [upToFinal_append_of_forall h, upToFinal, if_pos hp]

theorem any_isFinal_of_forall (h : ∀ q ∈ ps, q.isFinal = false) : ps.any Progress.isFinal = false :=
  List.any_eq_false.mpr fun q hq => Bool.not_eq_true _ ▸ h q hq

/-! ## what is settled stays so -/

theorem IsSettled.mono {later : Nat} (h : IsSettled deadline now es) (hle : now ≤ later) : IsSettled deadline later es :=
  h.imp_right fun hnow => Nat.le_trans hnow hle

/-- an event that arrives when all is settled changes nothing -/
theorem account_concat (h : IsSettled deadline now es) (e : Event) :
    account deadline (es ++ [(now, e)]) = account deadline es ∧ IsSettled deadline now (es ++ [(now, e)]) := by
  unfold account IsSettled
  rw [progressBefore_append]
  obtain hfinal | hover := h
  · have hany (qs : List Progress) : (progressBefore deadline es ++ qs).any Progress.isFinal = true := by
      rw [List.any_append, hfinal, Bool.true_or]
    rw [hany, hfinal, upToFinal_append_of_exists (List.any_eq_true.mp hfinal)]
    exact ⟨rfl, .inl rfl⟩
  · have hnone : progressBefore deadline [(now, e)] = [] :=
      progressBefore_eq_nil (List.forall_mem_singleton.mpr hover)
    rw [hnone, List.append_nil]
    exact ⟨rfl, .inr hover⟩

/-! ## events in the order of their times -/

theorem account_cons_progress (h : time < deadline) (p : Progress) (es : List (Nat × Event)) :
    account deadline ((time, .updateProgress p) :: es) =
      if p.isFinal then [shown p] else shown p :: account deadline es := by
  have hcons : progressBefore deadline ((time, .updateProgress p) :: es) = p :: progressBefore deadline es :=
    List.filterMap_cons_some (if_pos h)
  unfold account
  rw [hcons, upToFinal, List.any_cons]
  cases p.isFinal <;> rfl

theorem account_cons_other (h : e.progress? = none) (time : Nat) (es : List (Nat × Event)) :
    account deadline ((time, e) :: es) = account deadline es := by
  have hcons : progressBefore deadline ((time, e) :: es) = progressBefore deadline es :=
    List.filterMap_cons_none (by rw [h, ite_self])
  rw [account, hcons, account]

theorem account_eq_timeout (h : ∀ timed ∈ es, deadline ≤ timed.1) : account deadline es = [.report .timeout] := by
  rw [account, progressBefore_eq_nil h]
  rfl

theorem followed_eq_account (h : es.Pairwise fun a b => a.1 ≤ b.1) (deadline : Nat) :
    followed deadline es = account deadline es := by
  induction es with
  | nil => rfl
  | cons timed es ih =>
    obtain ⟨time, e⟩ := timed
    obtain ⟨hfirst, hrest⟩ := List.pairwise_cons.mp h
    rw [followed]
    by_cases hover : deadline ≤ time
    · -- all that follows comes too late as well
      have hlate : ∀ timed ∈ (time, e) :: es, deadline ≤ timed.1 :=
        List.forall_mem_cons.mpr ⟨hover, fun later hlater => Nat.le_trans hover (hfirst later hlater)⟩
      rw [if_pos hover, account_eq_timeout hlate]
    · rw [if_neg hover, ih hrest]
      cases e with
      | updateProgress p =>
        rw [account_cons_progress (Nat.lt_of_not_le hover)]
        rfl
      | _ =>
        rw [account_cons_other rfl]
        rfl

end TunnelControl
