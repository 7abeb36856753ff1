import TunnelControl.Proofs.Text.Split
import TunnelControl.Text.Quoted

/-!
# Quoted texts say what they quote

* `Quotation cs text rest`    characters behind a quotation mark say `text`, up to the mark that closes it;
* `Quotation.unique`          they say one text only, and end at one place only;
* `quotation_quoteText`       a quoted text says the text.
-/

namespace TunnelControl

/-! ## what quoted characters say -/

/-- the letters behind a backslash, each with the character that it stands for -/
def escapeLetters : List (Char × Char) :=
  [('0', '\x00'), ('t', '\t'), ('r', '\r'), ('n', '\n'), ('\\', '\\'), ('"', '"')]

/-- the number that hexadecimal digits denote -/
def hexNumber (ds : List Char) : Nat := ds.foldl (fun n d => 16 * n + (hexValue? d).getD 0) 0

/-- what the characters behind a quotation mark say, and what is left behind the closing mark -/
inductive Quotation : List Char → List Char → List Char → Prop
  | close (rest : List Char) : Quotation ('"' :: rest) [] rest
  | plain {c : Char} {cs text rest : List Char} (hmark : c ≠ '"') (hslash : c ≠ '\\') (h : Quotation cs text rest) :
      Quotation (c :: cs) (c :: text) rest
  | letter {c x : Char} {cs text rest : List Char} (hletter : (c, x) ∈ escapeLetters) (h : Quotation cs text rest) :
      Quotation ('\\' :: c :: cs) (x :: text) rest
  | code {c : Char} {ds cs text rest : List Char} (hds : ∀ d ∈ ds, (hexValue? d).isSome = true)
      (hnumber : hexNumber ds = c.toNat) (h : Quotation cs text rest) :
      Quotation ('\\' :: 'u' :: '\x7b' :: (ds ++ '\x7d' :: cs)) (c :: text) rest

theorem escapeLetters_unique {c x y : Char} (hx : (c, x) ∈ escapeLetters) (hy : (c, y) ∈ escapeLetters) : x = y := by
  have hfirst : ∀ p ∈ escapeLetters, ∀ q ∈ escapeLetters, p.1 = q.1 → p.2 = q.2 := by decide
  exact hfirst _ hx _ hy rfl

theorem not_mem_escapeLetters (x : Char) : ('u', x) ∉ escapeLetters := by
  have hnone : ∀ p ∈ escapeLetters, p.1 ≠ 'u' := by decide
  exact fun h => hnone _ h rfl

/-- the digits of a code end at the first closing brace -/
theorem takeWhile_code {ds : List Char} (h : ∀ d ∈ ds, (hexValue? d).isSome = true) (cs : List Char) :
    (ds ++ '\x7d' :: cs).takeWhile (fun d => (hexValue? d).isSome) = ds :=
  takeWhile_append_of_stops h (stops_cons.mpr (by decide))

namespace Quotation

theorem of_close {rest text rest' : List Char} (h : Quotation ('"' :: rest) text rest') : text = [] ∧ rest = rest' := by
  generalize hcs : '"' :: rest = cs at h
  cases h with
  | close rest' => exact ⟨rfl, (List.cons.inj hcs).2⟩
  | plain hmark _ _ => exact absurd (List.cons.inj hcs).1.symm hmark
  | letter _ _ => exact absurd (List.cons.inj hcs).1 (by decide)
  | code _ _ _ => exact absurd (List.cons.inj hcs).1 (by decide)

theorem of_plain {c : Char} {cs text rest : List Char} (hmark : c ≠ '"') (hslash : c ≠ '\\')
    (h : Quotation (c :: cs) text rest) : ∃ text', text = c :: text' ∧ Quotation cs text' rest := by
  generalize hcs : c :: cs = cs' at h
  cases h with
  | close rest' => exact absurd (List.cons.inj hcs).1 hmark
  | plain _ _ h =>
    obtain ⟨rfl, rfl⟩ := List.cons.inj hcs
    exact ⟨_, rfl, h⟩
  | letter _ _ => exact absurd (List.cons.inj hcs).1 hslash
  | code _ _ _ => exact absurd (List.cons.inj hcs).1 hslash

theorem of_letter {c x : Char} {cs text rest : List Char} (hletter : (c, x) ∈ escapeLetters)
    (h : Quotation ('\\' :: c :: cs) text rest) : ∃ text', text = x :: text' ∧ Quotation cs text' rest := by
  generalize hcs : '\\' :: c :: cs = cs' at h
  cases h with
  | close rest' => exact absurd (List.cons.inj hcs).1 (by decide)
  | plain _ hslash _ => exact absurd (List.cons.inj hcs).1.symm hslash
  | letter hletter' h =>
    obtain ⟨rfl, rfl⟩ := List.cons.inj (List.cons.inj hcs).2
    exact ⟨_, by rw [escapeLetters_unique hletter hletter'], h⟩
  | code _ _ _ =>
    rw [(List.cons.inj (List.cons.inj hcs).2).1] at hletter
    exact absurd hletter (not_mem_escapeLetters x)

theorem of_code {c : Char} {ds cs text rest : List Char} (hds : ∀ d ∈ ds, (hexValue? d).isSome = true)
    (hnumber : hexNumber ds = c.toNat) (h : Quotation ('\\' :: 'u' :: '\x7b' :: (ds ++ '\x7d' :: cs)) text rest) :
    ∃ text', text = c :: text' ∧ Quotation cs text' rest := by
  generalize hcs : '\\' :: 'u' :: '\x7b' :: (ds ++ '\x7d' :: cs) = cs' at h
  cases h with
  | close rest' => exact absurd (List.cons.inj hcs).1 (by decide)
  | plain _ hslash _ => exact absurd (List.cons.inj hcs).1.symm hslash
  | letter hletter _ =>
    rw [← (List.cons.inj (List.cons.inj hcs).2).1] at hletter
    exact absurd hletter (not_mem_escapeLetters _)
  | code hds' hnumber' h =>
    have hcode := (List.cons.inj (List.cons.inj (List.cons.inj hcs).2).2).2
    obtain rfl := (takeWhile_code hds _).symm.trans ((congrArg _ hcode).trans (takeWhile_code hds' _))
    obtain rfl := (List.cons.inj (List.append_cancel_left hcode)).2
    rw [Char.toNat_inj.mp (hnumber.symm.trans hnumber')]
    exact ⟨_, rfl, h⟩

/-- **Quoted characters say one text, and end at one place.** -/
theorem unique {cs text rest text' rest' : List Char} (h : Quotation cs text rest) (h' : Quotation cs text' rest') :
    text = text' ∧ rest = rest' := by
  induction h generalizing text' with
  | close rest =>
    obtain ⟨rfl, rfl⟩ := of_close h'
    exact ⟨rfl, rfl⟩
  | plain hmark hslash _ ih =>
    obtain ⟨tail, rfl, htail⟩ := of_plain hmark hslash h'
    obtain ⟨rfl, rfl⟩ := ih htail
    exact ⟨rfl, rfl⟩
  | letter hletter _ ih =>
    obtain ⟨tail, rfl, htail⟩ := of_letter hletter h'
    obtain ⟨rfl, rfl⟩ := ih htail
    exact ⟨rfl, rfl⟩
  | code hds hnumber _ ih =>
    obtain ⟨tail, rfl, htail⟩ := of_code hds hnumber h'
    obtain ⟨rfl, rfl⟩ := ih htail
    exact ⟨rfl, rfl⟩

end Quotation

/-! ## quoted texts -/

theorem hexValue?_digitChar : ∀ d < 16, hexValue? d.digitChar = some d := by decide

theorem hexDigits_sound (n : Nat) : (∀ d ∈ hexDigits n, (hexValue? d).isSome = true) ∧ hexNumber (hexDigits n) = n := by
  unfold hexDigits
  induction n using Nat.strongRecOn with
  | ind n ih =>
    by_cases hn : n < 16
    · rw [Nat.toDigits_of_lt_base hn, List.forall_mem_singleton, hexNumber, List.foldl_cons, hexValue?_digitChar n hn]
      exact ⟨rfl, Nat.zero_add n⟩
    · have hlast := hexValue?_digitChar (n % 16) (Nat.mod_lt n (by decide))
      obtain ⟨hdigits, hnumber⟩ := ih (n / 16) (by omega)
      rw [hexNumber] at hnumber
      rw [Nat.toDigits_of_base_le (by decide) (Nat.not_lt.mp hn), List.forall_mem_append, List.forall_mem_singleton,
        hexNumber, List.foldl_append, hnumber, List.foldl_cons, List.foldl_nil, hlast]
      exact ⟨⟨hdigits, rfl⟩, Nat.div_add_mod n 16⟩

theorem Quotation.escapeIn {cs text rest : List Char} (h : Quotation cs text rest) (c : Char) :
    Quotation (escapeIn '"' c ++ cs) (c :: text) rest := by
  unfold TunnelControl.escapeIn
  split
  · rename_i hc
    exact hc ▸ .letter (by decide) h
  split
  · rename_i hc
    exact hc ▸ .letter (by decide) h
  split
  · rename_i hc
    exact hc ▸ .letter (by decide) h
  split
  · rename_i hc
    exact hc ▸ .letter (by decide) h
  split
  · rename_i hc
    rw [Bool.or_eq_true, decide_eq_true_eq, decide_eq_true_eq] at hc
    obtain rfl | rfl := hc
    · exact .letter (by decide) h
    · exact .letter (by decide) h
  · rename_i hc
    rw [Bool.or_eq_true, decide_eq_true_eq, decide_eq_true_eq, not_or] at hc
    split
    · exact .plain hc.2 hc.1 h
    · obtain ⟨hdigits, hnumber⟩ := hexDigits_sound c.toNat
      have hcode := h.code hdigits hnumber
      simpa using hcode

/-- **A quoted text says the text.** -/
theorem quotation_quoteText (s : String) (rest : List Char) :
    ∃ cs, (quoteText s).toList ++ rest = '"' :: cs ∧ Quotation cs s.toList rest := by
  have hescaped (text : List Char) : Quotation (text.flatMap (escapeIn '"') ++ '"' :: rest) text rest := by
    induction text with
    | nil => exact .close rest
    | cons c text ih =>
      rw [List.flatMap_cons, List.append_assoc]
      exact ih.escapeIn c
  refine ⟨_, ?_, hescaped s.toList⟩
  rw [quoteText, String.toList_ofList]
  simp

end TunnelControl
