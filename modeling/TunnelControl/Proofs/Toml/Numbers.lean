import TunnelControl.Proofs.Text.Decimal
import TunnelControl.Toml.Document
import TunnelControl.Toml.Printer

/-!
# Whole numbers are read back

The decimal digits of a number, behind which a comma, a bracket or the end of the line stands, are read as that
number: no reader of a point in time or of a fraction takes them first.

* `readRun_append`      digits are read up to the first character that is none;
* `readNumber_digits`   the number, if it is not too large.
-/

namespace TunnelControl.Toml

/-! ## digits up to another character -/

/-- what may stand behind a number -/
def isStop (c : Char) : Bool := c = ',' || c = ']' || c = '\n'

theorem isStop_iff {c : Char} : isStop c ↔ c = ',' ∨ c = ']' ∨ c = '\n' := by
  simp [isStop, or_assoc]

section
variable {ds : List Char} {t : Char}

theorem more_append (hds : ∀ c ∈ ds, isDigit c) (ht : isStop t) (first : Char) (rest : List Char) :
    readRun.more isDigit first (ds ++ t :: rest) = some (first :: ds, t :: rest) := by
  have hno : isDigit t = false ∧ t ≠ '_' := by
    rcases isStop_iff.mp ht with rfl | rfl | rfl <;> decide
  induction ds generalizing first with
  | nil => cases rest <;> simp [readRun.more, hno]
  | cons d ds ih =>
    obtain ⟨hd, hds⟩ := List.forall_mem_cons.mp hds
    obtain ⟨e, es, hcons⟩ : ∃ e es, ds ++ t :: rest = e :: es := List.exists_cons_of_ne_nil (by simp)
    rw [List.cons_append, hcons, readRun.more, if_pos hd, ← hcons, ih hds]
    rfl

theorem readRun_append (hne : ds ≠ []) (hds : ∀ c ∈ ds, isDigit c) (ht : isStop t) (rest : List Char) :
    readRun isDigit (ds ++ t :: rest) = some (ds, t :: rest) := by
  cases ds with
  | nil => exact absurd rfl hne
  | cons d ds =>
    obtain ⟨hd, hds⟩ := List.forall_mem_cons.mp hds
    rw [List.cons_append, readRun, if_pos hd, more_append hds ht]

/-- behind some of the digits comes another digit or what ends them, but no other mark -/
theorem readMark_of_readField (hds : ∀ c ∈ ds, isDigit c) (ht : isStop t) {width lo hi k : Nat}
    {rest cs : List Char} (h : readField width lo hi (ds ++ t :: rest) = some (k, cs)) {mark : Char}
    (hmark : isDigit mark = false ∧ isStop mark = false) : readMark mark cs = none := by
  unfold readField at h
  simp only at h
  split at h
  · rename_i hfield
    obtain ⟨-, hall, -⟩ := hfield
    cases h
    have hwidth : width ≤ ds.length := by
      by_contra hlt
      have hpos : 0 < width - ds.length := by omega
      have hmem : t ∈ (ds ++ t :: rest).take width := by
        rw [List.take_append, List.take_cons hpos]
        simp
      have hdigit : isDigit t := List.all_eq_true.mp hall t hmem
      rcases isStop_iff.mp ht with rfl | rfl | rfl <;> cases hdigit
    rw [List.drop_append_of_le_length hwidth]
    cases hdrop : ds.drop width with
    | nil =>
      refine if_neg ?_
      rintro rfl
      exact absurd ht (by simp [hmark.2])
    | cons d more =>
      refine if_neg ?_
      rintro rfl
      have hd : d ∈ ds := List.mem_of_mem_drop (hdrop ▸ List.mem_cons_self)
      exact absurd (hds d hd) (by simp [hmark.1])
  · cases h

theorem readTime_append (hds : ∀ c ∈ ds, isDigit c) (ht : isStop t) (rest : List Char) :
    readTime (ds ++ t :: rest) = none := by
  have hdate : readDate (ds ++ t :: rest) = none := by
    unfold readDate
    cases hyear : readField 4 0 9999 (ds ++ t :: rest) with
    | none => rfl
    | some year =>
      have hmark : isDigit '-' = false ∧ isStop '-' = false := by decide
      simp [readMark_of_readField hds ht hyear hmark]
  have hday : readTimeOfDay (ds ++ t :: rest) = none := by
    unfold readTimeOfDay
    cases hhour : readField 2 0 23 (ds ++ t :: rest) with
    | none => rfl
    | some hour =>
      have hmark : isDigit ':' = false ∧ isStop ':' = false := by decide
      simp [readMark_of_readField hds ht hhour hmark]
  simp [readTime, readDateTime, hdate, hday]

end

/-! ## the number -/

theorem readSign_digits (n : Nat) (tail : List Char) :
    readSign (Nat.toDigits 10 n ++ tail) = ([], Nat.toDigits 10 n ++ tail) := by
  rw [readSign]
  · exact digits_ne_cons n rfl tail
  · exact digits_ne_cons n rfl tail

section
variable {t : Char} (ht : isStop t) {n : Nat} (rest : List Char)
include ht

theorem readDecimal_digits (n : Nat) :
    readDecimal (Nat.toDigits 10 n ++ t :: rest) = some (([], Nat.toDigits 10 n), t :: rest) := by
  rcases Nat.eq_zero_or_pos n with rfl | hn
  · rfl
  · rw [readDecimal, readSign_digits]
    simp only
    split
    · rename_i cs hcs
      exact absurd hcs (digits_ne_zero_cons hn _ _)
    · rw [readRun_append Nat.toDigits_ne_nil (fun _ hc => isDigit_of_mem_toDigits hc) ht]
      rfl

theorem readFloat_digits (n : Nat) : readFloat (Nat.toDigits 10 n ++ t :: rest) = none := by
  have hwritten : readWritten (Nat.toDigits 10 n ++ t :: rest) = none := by
    unfold readWritten
    rw [readDecimal_digits ht]
    rcases isStop_iff.mp ht with rfl | rfl | rfl <;> rfl
  have hspecial : readSpecial (Nat.toDigits 10 n ++ t :: rest) = none := by
    rw [readSpecial, readSign_digits]
    split
    · rename_i hcs
      exact absurd (congrArg Prod.snd hcs) (digits_ne_cons n rfl _ _)
    · rename_i hcs
      exact absurd (congrArg Prod.snd hcs) (digits_ne_cons n rfl _ _)
    · rfl
  rw [readFloat, hwritten, hspecial]
  rfl

/-- the mark of another base never follows a zero -/
theorem digits_ne_base (n : Nat) {c : Char} (hc : isStop c = false) (cs : List Char) :
    Nat.toDigits 10 n ++ t :: rest ≠ '0' :: c :: cs := by
  rcases Nat.eq_zero_or_pos n with rfl | hn
  · intro hzero
    obtain ⟨rfl, -⟩ := List.cons.inj (List.cons.inj hzero).2
    cases ht.symm.trans hc
  · exact digits_ne_zero_cons hn _ _

theorem readInteger_digits (h : (n : Int) ≤ integerMax) :
    readInteger (Nat.toDigits 10 n ++ t :: rest) = some (integer n, t :: rest) := by
  rw [readInteger, readDecimal_digits ht]
  · simp only [Option.bind_eq_bind, Option.bind_some, digitsValue_toDigits]
    refine if_pos ⟨?_, h⟩
    exact Int.le_trans (by decide) (Int.natCast_nonneg n)
  · exact digits_ne_base ht rest n rfl
  · exact digits_ne_base ht rest n rfl
  · exact digits_ne_base ht rest n rfl

theorem readNumber_digits (h : (n : Int) ≤ integerMax) :
    readNumber (Nat.toDigits 10 n ++ t :: rest) = some (integer n, t :: rest) := by
  have htime : readTime (Nat.toDigits 10 n ++ t :: rest) = none :=
    readTime_append (fun _ hc => isDigit_of_mem_toDigits hc) ht rest
  rw [readNumber, htime, readFloat_digits ht, readInteger_digits ht rest h]
  rfl

end

end TunnelControl.Toml
