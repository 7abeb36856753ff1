/-!
# Blanks

The characters that Unicode counts as white space, and texts freed of them.

* `isBlank c`     `c` is one of the 25 blanks;
* `trim cs`       `cs` without the blanks at its two ends;
* `firstWord cs`  the first run of characters between blanks, if there is one.
-/

namespace TunnelControl

/-- the blanks, as ranges of code points -/
def blankRanges : List (Nat × Nat) :=
  [(0x09, 0x0D), (0x20, 0x20), (0x85, 0x85), (0xA0, 0xA0), (0x1680, 0x1680), (0x2000, 0x200A),
    (0x2028, 0x2029), (0x202F, 0x202F), (0x205F, 0x205F), (0x3000, 0x3000)]

def isBlank (c : Char) : Bool := blankRanges.any fun (lo, hi) => lo ≤ c.toNat && c.toNat ≤ hi

def trim (cs : List Char) : List Char :=
  ((cs.dropWhile isBlank).reverse.dropWhile isBlank).reverse

def firstWord (cs : List Char) : Option (List Char) :=
  match (cs.dropWhile isBlank).takeWhile (!isBlank ·) with
  | [] => none
  | word => some word

theorem isBlank_of_isWhitespace {c : Char} (h : c.isWhitespace) : isBlank c := by
  simp only [Char.isWhitespace, Bool.or_eq_true, decide_eq_true_eq] at h
  rcases h with ((rfl | rfl) | rfl) | rfl <;> decide

theorem trim_nil : trim [] = [] := rfl

theorem dropWhile_eq_nil (cs : List Char) (h : ∀ c ∈ cs, isBlank c) :
    cs.dropWhile isBlank = [] := by
  induction cs with
  | nil => rfl
  | cons c cs ih =>
    rw [List.dropWhile_cons_of_pos (h c List.mem_cons_self)]
    exact ih fun d hd => h d (List.mem_cons_of_mem c hd)

theorem blank_of_dropWhile_eq_nil {cs : List Char} (h : cs.dropWhile isBlank = []) :
    ∀ c ∈ cs, isBlank c := by
  induction cs with
  | nil => simp
  | cons c cs ih =>
    by_cases hc : isBlank c
    · rw [List.dropWhile_cons_of_pos hc] at h
      intro d hd
      rcases List.mem_cons.mp hd with rfl | hd
      · exact hc
      · exact ih h d hd
    · rw [List.dropWhile_cons_of_neg hc] at h
      cases h

/-- nothing is left of a text exactly if it has blanks only -/
theorem trim_eq_nil_iff (cs : List Char) : trim cs = [] ↔ ∀ c ∈ cs, isBlank c := by
  constructor
  · intro h c hc
    have hr := blank_of_dropWhile_eq_nil (List.reverse_eq_nil_iff.mp h)
    by_cases hb : cs.dropWhile isBlank = []
    · exact blank_of_dropWhile_eq_nil hb c hc
    · cases hd : cs.dropWhile isBlank with
      | nil => exact absurd hd hb
      | cons d ds =>
        have hdn : ¬ isBlank d := by
          have := List.head?_dropWhile_not isBlank cs
          rw [hd] at this
          simpa using this
        exact absurd (hr d (by rw [hd]; simp)) hdn
  · intro h
    simp [trim, dropWhile_eq_nil cs h]

end TunnelControl
