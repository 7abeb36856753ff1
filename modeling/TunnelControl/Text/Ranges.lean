/-!
# Ranges of numbers

`inRanges n ranges` tells whether a number lies in one of some ranges, which stand in ascending order.
-/

namespace TunnelControl

def inRanges (n : Nat) : List (Nat × Nat) → Bool
  | [] => false
  | (lo, hi) :: ranges => if n < lo then false else n ≤ hi || inRanges n ranges

theorem inRanges_nil (n : Nat) : inRanges n [] = false := rfl

theorem exists_range_of_inRanges {n : Nat} {ranges : List (Nat × Nat)} (h : inRanges n ranges) :
    ∃ r ∈ ranges, r.1 ≤ n ∧ n ≤ r.2 := by
  induction ranges with
  | nil => cases h
  | cons r ranges ih =>
    unfold inRanges at h
    split at h
    · cases h
    · rcases Bool.or_eq_true_iff.mp h with hi | hr
      · exact ⟨r, List.mem_cons_self, by omega, of_decide_eq_true hi⟩
      · obtain ⟨s, hs, hn⟩ := ih hr
        exact ⟨s, List.mem_cons_of_mem r hs, hn⟩

end TunnelControl
