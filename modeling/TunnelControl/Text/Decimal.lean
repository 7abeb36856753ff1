/-!
# Decimal numbers in text

* `digitsValue`        the number that decimal digits denote; long ones are taken in pairs, as digits of the
  square of the base, so that few large numbers are multiplied;
* `readNumber? limit`  reads a number up to a limit: a plus sign may lead, at least one digit follows, and
  leading zeros do not matter.
-/

namespace TunnelControl

def isDigit (c : Char) : Bool := '0' ≤ c && c ≤ '9'

def digitValue (c : Char) : Nat := c.toNat - '0'.toNat

/-- the number with some digits in a base, the last one first -/
def ofDigits (base : Nat) (ds : List Nat) : Nat := ds.foldr (fun d n => d + base * n) 0

/-- pairs of digits, as digits of the square of the base -/
def pairDigits (base : Nat) : List Nat → List Nat
  | a :: b :: ds => (a + base * b) :: pairDigits base ds
  | ds => ds

/-- the digits in pairs, and those in pairs again, until one is left -/
def joinDigits : Nat → Nat → List Nat → Nat
  | _, _, [] => 0
  | _, _, [d] => d
  | 0, base, ds => ofDigits base ds
  | fuel + 1, base, ds => joinDigits fuel (base * base) (pairDigits base ds)

theorem ofDigits_pairDigits (base : Nat) (ds : List Nat) :
    ofDigits (base * base) (pairDigits base ds) = ofDigits base ds := by
  fun_induction pairDigits base ds with
  | case1 a b ds ih =>
    simp only [ofDigits, List.foldr_cons] at ih ⊢
    rw [ih, Nat.mul_add, Nat.add_assoc, Nat.mul_assoc]
  | case2 ds h =>
    match ds, h with
    | [], _ => rfl
    | [a], _ => rfl
    | a :: b :: ds, h => exact absurd rfl (h a b ds)

theorem joinDigits_eq (fuel base : Nat) (ds : List Nat) : joinDigits fuel base ds = ofDigits base ds := by
  fun_induction joinDigits fuel base ds with
  | case1 => rfl
  | case2 => simp [ofDigits]
  | case3 => rfl
  | case4 base ds _ _ fuel ih => rw [ih, ofDigits_pairDigits]

def digitsValue (cs : List Char) : Nat := joinDigits cs.length 10 (cs.reverse.map digitValue)

/-- reads digits only -/
def readDigits? (limit : Nat) (cs : List Char) : Option Nat :=
  if cs ≠ [] ∧ cs.all isDigit ∧ digitsValue cs ≤ limit then some (digitsValue cs) else none

def readNumber? (limit : Nat) : List Char → Option Nat
  | '+' :: cs => readDigits? limit cs
  | cs => readDigits? limit cs

theorem digitsValue_nil : digitsValue [] = 0 := rfl

theorem digitsValue_concat (cs : List Char) (c : Char) :
    digitsValue (cs ++ [c]) = 10 * digitsValue cs + digitValue c := by
  simp [digitsValue, joinDigits_eq, ofDigits, Nat.add_comm]

theorem readDigits?_eq_some_iff {limit : Nat} {cs : List Char} {n : Nat} :
    readDigits? limit cs = some n ↔
      cs ≠ [] ∧ (∀ c ∈ cs, isDigit c) ∧ digitsValue cs = n ∧ n ≤ limit := by
  unfold readDigits?
  constructor
  · intro h
    split at h
    · rename_i hc
      cases h
      exact ⟨hc.1, List.all_eq_true.mp hc.2.1, rfl, hc.2.2⟩
    · cases h
  · rintro ⟨h0, h1, rfl, h3⟩
    rw [if_pos ⟨h0, List.all_eq_true.mpr h1, h3⟩]

end TunnelControl
