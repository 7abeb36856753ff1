import Mathlib.Data.List.Induction
import TunnelControl.Text.Decimal

/-!
# Numbers and their decimal digits

* `digitsValue_toDigits`      the digits of a number denote it;
* `exists_eq_zeros_append`    digits that denote a number are its digits behind some zeros;
* `eq_toDigits_of_ne_zero_cons_cons`    and without zeros in front they are just its digits;
* `readDigits?_eq_some_iff_zeros`    which texts are read as digits, and
* `readNumber?_eq_some_iff`   as numbers, behind a sign perhaps.
-/

namespace TunnelControl

/-! ## the digits of a number -/

theorem isDigit_iff {c : Char} : isDigit c ↔ c.isDigit := by
  simp [isDigit, Char.isDigit, Char.le_def, UInt32.le_iff_toNat_le]

theorem isDigit_of_mem_toDigits {n : Nat} {c : Char} (h : c ∈ Nat.toDigits 10 n) : isDigit c :=
  isDigit_iff.mpr (Nat.isDigit_of_mem_toDigits (by decide) (Nat.le_refl 10) h)

theorem digitsValue_eq (cs : List Char) : digitsValue cs = Nat.ofDigitChars 10 cs 0 := by
  induction cs using List.reverseRecOn with
  | nil => rfl
  | append_singleton cs c ih =>
    rw [digitsValue_concat, Nat.ofDigitChars_append, ih]
    rfl

theorem digitsValue_toDigits (n : Nat) : digitsValue (Nat.toDigits 10 n) = n := by
  rw [digitsValue_eq, Nat.ofDigitChars_ten_toDigits]

theorem exists_cons_toDigits (n : Nat) : ∃ d ds, Nat.toDigits 10 n = d :: ds ∧ isDigit d := by
  obtain ⟨d, ds, hcons⟩ := List.exists_cons_of_ne_nil (Nat.toDigits_ne_nil (n := n) (b := 10))
  exact ⟨d, ds, hcons, isDigit_of_mem_toDigits (hcons ▸ List.mem_cons_self)⟩

theorem digits_ne_cons (n : Nat) {c : Char} (hc : isDigit c = false) (tail cs : List Char) :
    Nat.toDigits 10 n ++ tail ≠ c :: cs := by
  obtain ⟨d, ds, hcons, hd⟩ := exists_cons_toDigits n
  rw [hcons]
  rintro ⟨⟩
  cases hd.symm.trans hc

/-- only the digits of zero begin with a zero -/
theorem digits_ne_zero_cons {n : Nat} (h : 0 < n) (tail cs : List Char) : Nat.toDigits 10 n ++ tail ≠ '0' :: cs := by
  induction n using Nat.strongRecOn generalizing tail with
  | ind n ih =>
    by_cases hn : n < 10
    · intro hhead
      rw [Nat.toDigits_of_lt_base hn] at hhead
      have hvalue := Nat.toNat_digitChar_of_lt_ten hn
      rw [(List.cons.inj hhead).1] at hvalue
      have hzero : '0'.toNat = 48 := rfl
      omega
    · rw [Nat.toDigits_of_base_le (by decide) (Nat.not_lt.mp hn), List.append_assoc]
      exact ih (n / 10) (by omega) (by omega) _

/-! ## digits behind zeros -/

theorem digitChar_digitValue {c : Char} (h : isDigit c) : (digitValue c).digitChar = c ∧ digitValue c < 10 := by
  simp only [isDigit, Bool.and_eq_true, decide_eq_true_eq, Char.le_def, UInt32.le_iff_toNat_le] at h
  have hlow : '0'.toNat ≤ c.toNat := h.1
  have hhigh : c.toNat ≤ '9'.toNat := h.2
  have hzero : '0'.toNat = 48 := rfl
  have hnine : '9'.toNat = 57 := rfl
  have hlt : digitValue c < 10 := by
    rw [digitValue]
    omega
  refine ⟨Char.toNat_inj.mp ?_, hlt⟩
  rw [Nat.toNat_digitChar_of_lt_ten hlt, digitValue]
  omega

theorem digitsValue_zeros_append (zeros : Nat) (cs : List Char) :
    digitsValue (List.replicate zeros '0' ++ cs) = digitsValue cs := by
  rw [digitsValue_eq, digitsValue_eq, Nat.ofDigitChars_append, Nat.ofDigitChars_replicate_zero, Nat.mul_zero]

/-- **Digits are zeros, and behind them the digits of what they denote, unless that is nothing.** -/
theorem exists_eq_zeros_append {cs : List Char} (h : ∀ c ∈ cs, isDigit c) :
    ∃ zeros, cs = List.replicate zeros '0' ++ if digitsValue cs = 0 then [] else Nat.toDigits 10 (digitsValue cs) := by
  induction cs using List.reverseRecOn with
  | nil => exact ⟨0, rfl⟩
  | append_singleton cs c ih =>
    obtain ⟨hcs, hc⟩ := List.forall_mem_append.mp h
    obtain ⟨zeros, hzeros⟩ := ih hcs
    obtain ⟨hchar, hlt⟩ := digitChar_digitValue (hc c List.mem_cons_self)
    rw [digitsValue_concat]
    by_cases hcs0 : digitsValue cs = 0
    · rw [if_pos hcs0, List.append_nil] at hzeros
      rw [hcs0, Nat.mul_zero, Nat.zero_add]
      by_cases hc0 : digitValue c = 0
      · refine ⟨zeros + 1, ?_⟩
        rw [if_pos hc0, List.append_nil, List.replicate_succ', ← hzeros, ← hchar, hc0]
        rfl
      · refine ⟨zeros, ?_⟩
        rw [if_neg hc0, Nat.toDigits_of_lt_base hlt, hchar, ← hzeros]
    · have hpos : 0 < digitsValue cs := Nat.pos_of_ne_zero hcs0
      have hdigits := Nat.toDigits_append_toDigits (b := 10) (by decide) hpos hlt
      rw [if_neg hcs0] at hzeros
      refine ⟨zeros, ?_⟩
      rw [if_neg (by omega), ← hdigits, Nat.toDigits_of_lt_base hlt, hchar, ← List.append_assoc, ← hzeros]

theorem exists_eq_zeros_append_toDigits {cs : List Char} (hne : cs ≠ []) (h : ∀ c ∈ cs, isDigit c) :
    ∃ zeros, cs = List.replicate zeros '0' ++ Nat.toDigits 10 (digitsValue cs) := by
  obtain ⟨zeros, hzeros⟩ := exists_eq_zeros_append h
  by_cases h0 : digitsValue cs = 0
  · -- the last of the zeros is the digit of the number
    rw [if_pos h0, List.append_nil] at hzeros
    cases zeros with
    | zero => exact absurd hzeros hne
    | succ zeros => exact ⟨zeros, by rw [h0, Nat.toDigits_zero, ← List.replicate_succ', ← hzeros]⟩
  · rw [if_neg h0] at hzeros
    exact ⟨zeros, hzeros⟩

theorem toDigits_ne_zero_cons_cons (n : Nat) (c : Char) (cs : List Char) : Nat.toDigits 10 n ≠ '0' :: c :: cs := by
  intro h
  rcases Nat.eq_zero_or_pos n with rfl | hpos
  · cases h
  · exact digits_ne_zero_cons hpos [] (c :: cs) ((List.append_nil _).trans h)

/-- digits without a zero in front, unless it is alone, are those of the number that they denote -/
theorem eq_toDigits_of_ne_zero_cons_cons {cs : List Char} (hne : cs ≠ []) (h : ∀ c ∈ cs, isDigit c)
    (hzero : ∀ c rest, cs ≠ '0' :: c :: rest) : cs = Nat.toDigits 10 (digitsValue cs) := by
  obtain ⟨zeros, hzeros⟩ := exists_eq_zeros_append_toDigits hne h
  cases zeros with
  | zero => exact hzeros
  | succ zeros =>
    have hdigits : List.replicate zeros '0' ++ Nat.toDigits 10 (digitsValue cs) ≠ [] :=
      List.append_ne_nil_of_right_ne_nil _ Nat.toDigits_ne_nil
    obtain ⟨c, rest, hcons⟩ := List.exists_cons_of_ne_nil hdigits
    rw [List.replicate_succ, List.cons_append, hcons] at hzeros
    exact absurd hzeros (hzero c rest)

/-! ## what is read as a number -/

theorem readDigits?_zeros_append {limit n : Nat} (h : n ≤ limit) (zeros : Nat) :
    readDigits? limit (List.replicate zeros '0' ++ Nat.toDigits 10 n) = some n := by
  refine readDigits?_eq_some_iff.mpr ⟨?_, ?_, ?_, h⟩
  · exact List.append_ne_nil_of_right_ne_nil _ Nat.toDigits_ne_nil
  · refine List.forall_mem_append.mpr ⟨fun c hc => ?_, fun c => isDigit_of_mem_toDigits⟩
    rw [List.eq_of_mem_replicate hc]
    rfl
  · rw [digitsValue_zeros_append, digitsValue_toDigits]

/-- digits are read as a number if they are those of the number, behind any number of zeros -/
theorem readDigits?_eq_some_iff_zeros {limit n : Nat} {cs : List Char} :
    readDigits? limit cs = some n ↔ n ≤ limit ∧ ∃ zeros, cs = List.replicate zeros '0' ++ Nat.toDigits 10 n := by
  constructor
  · intro h
    obtain ⟨hne, hdigits, rfl, hlimit⟩ := readDigits?_eq_some_iff.mp h
    exact ⟨hlimit, exists_eq_zeros_append_toDigits hne hdigits⟩
  · rintro ⟨hlimit, zeros, rfl⟩
    exact readDigits?_zeros_append hlimit zeros

theorem readNumber?_plus (limit : Nat) (cs : List Char) : readNumber? limit ('+' :: cs) = readDigits? limit cs := rfl

theorem readNumber?_of_ne {cs : List Char} (h : ∀ rest, cs ≠ '+' :: rest) (limit : Nat) :
    readNumber? limit cs = readDigits? limit cs := by
  unfold readNumber?
  split
  · rename_i rest
    exact absurd rfl (h rest)
  · rfl

/-- a plus sign may lead a number that is read -/
theorem readNumber?_eq_some_iff {limit n : Nat} {cs : List Char} :
    readNumber? limit cs = some n ↔ n ≤ limit ∧ ∃ (sign : List Char) (zeros : Nat), (sign = [] ∨ sign = ['+']) ∧
      cs = sign ++ List.replicate zeros '0' ++ Nat.toDigits 10 n := by
  by_cases hplus : ∃ rest, cs = '+' :: rest
  · obtain ⟨rest, rfl⟩ := hplus
    rw [readNumber?_plus, readDigits?_eq_some_iff_zeros]
    refine and_congr_right fun _ => ⟨?_, ?_⟩
    · rintro ⟨zeros, rfl⟩
      exact ⟨['+'], zeros, .inr rfl, rfl⟩
    · rintro ⟨sign, zeros, rfl | rfl, hcs⟩
      · -- no number begins with the sign itself
        cases zeros with
        | zero => exact absurd hcs.symm (List.append_nil (Nat.toDigits 10 n) ▸ digits_ne_cons n (by decide) [] rest)
        | succ zeros => cases hcs
      · exact ⟨zeros, (List.cons.inj hcs).2⟩
  · have hne : ∀ rest, cs ≠ '+' :: rest := fun rest h => hplus ⟨rest, h⟩
    rw [readNumber?_of_ne hne, readDigits?_eq_some_iff_zeros]
    refine and_congr_right fun _ => ⟨?_, ?_⟩
    · rintro ⟨zeros, rfl⟩
      exact ⟨[], zeros, .inl rfl, rfl⟩
    · rintro ⟨sign, zeros, rfl | rfl, hcs⟩
      · exact ⟨zeros, hcs⟩
      · exact absurd hcs (hne _)

end TunnelControl
