import Mathlib.Tactic.SplitIfs
import TunnelControl.Toml.Printer
import TunnelControl.Toml.Text

/-!
# Texts are read back

Whatever the characters of a text are, the form in which it is written is read back as that text.

* `Unescapes.escape`   a reader that knows the escapes reads an escaped character back as the character;
* `Spells`             characters that spell a text between three marks, with no three marks in a row among them;
* `read_of_spells`     a reader that ends a text at three marks reads such characters up to there;
* `readText_writeText` the written text, whichever of the four forms it has.
-/

namespace TunnelControl.Toml

/-! ## characters as they stand -/

theorem isPlain_of_needsCode {c : Char} (h : needsCode c = false) (hline : c ≠ '\n') : isPlain c := by
  by_cases htab : c = '\t'
  · simp [isPlain, htab]
  · simp only [needsCode, Bool.or_eq_false_iff, Bool.and_eq_false_iff, decide_eq_false_iff_not] at h
    simp only [isPlain, Bool.or_eq_true, Bool.and_eq_true, decide_eq_true_eq]
    refine .inr ⟨?_, h.2⟩
    rcases h.1 with (hlow | hne) | hne
    · exact Nat.not_lt.mp hlow
    · exact absurd htab hne
    · exact absurd hline hne

theorem needsCode_lt {c : Char} (h : needsCode c) : c.toNat < 128 := by
  simp only [needsCode, Bool.or_eq_true, Bool.and_eq_true, decide_eq_true_eq] at h
  omega

theorem ne_return_of_needsCode {c : Char} (h : needsCode c = false) : c ≠ '\r' := by
  rintro rfl
  cases h

/-! ## escapes -/

theorem unicode?_codeDigits : ∀ n < 128,
    unicode? ['0', '0', (hexDigit (n / 16)).toUpper, (hexDigit (n % 16)).toUpper] = some (Char.ofNat n) := by
  decide +kernel

/-- a reader that takes escapes for the characters they stand for, and line ends as they are if it reads
several lines -/
structure Unescapes (multi : Bool) (read : Reader (List Char)) : Prop where
  letter {c x : Char} (h : escaped? c = some x) (cs : List Char) : read ('\\' :: c :: cs) = before x (read cs)
  code {a b c d x : Char} (h : unicode? [a, b, c, d] = some x) (cs : List Char) :
    read ('\\' :: 'u' :: a :: b :: c :: d :: cs) = before x (read cs)
  plain {c : Char} (h : isPlain c) (hquote : c ≠ '"') (hslash : c ≠ '\\') (cs : List Char) :
    read (c :: cs) = before c (read cs)
  lineEnd (h : multi) (cs : List Char) : read ('\n' :: cs) = before '\n' (read cs)

theorem unescapes_readBasic : Unescapes false readBasic where
  letter {c x} h cs := by
    rw [readBasic.eq_def]
    simp only [Char.reduceEq, if_false, if_true]
    split <;> simp_all [escaped?]
  code h cs := by
    rw [readBasic.eq_def]
    simp [h]
  plain {c} h hquote hslash cs := by
    rw [readBasic.eq_def]
    simp [hquote, hslash, h]
  lineEnd h := nomatch h

theorem unescapes_readMultiBasic : Unescapes true (readMultiBasic .plain) where
  letter {c x} h cs := by
    rw [readMultiBasic.eq_def]
    simp only [reduceCtorEq, false_and, if_false, Char.reduceEq, if_true]
    split <;> simp_all [escaped?]
  code h cs := by
    rw [readMultiBasic.eq_def]
    simp [h]
  plain {c} h hquote hslash cs := by
    have hreturn : c ≠ '\r' := by
      rintro rfl
      cases h
    rw [readMultiBasic.eq_def]
    simp [hquote, hslash, hreturn, h]
  lineEnd _ cs := by
    rw [readMultiBasic.eq_def]
    simp

section
variable {multi : Bool} {read : Reader (List Char)}

theorem Unescapes.escape (h : Unescapes multi read) {c : Char} (hquote : c ≠ '"') (cs : List Char) :
    read (Toml.escape multi c ++ cs) = before c (read cs) := by
  unfold Toml.escape
  split_ifs with hb ht hn hm hf hr hs hcode
  · exact hb ▸ h.letter rfl cs
  · exact ht ▸ h.letter rfl cs
  · exact hn ▸ h.lineEnd hm cs
  · exact hn ▸ h.letter rfl cs
  · exact hf ▸ h.letter rfl cs
  · exact hr ▸ h.letter rfl cs
  · rw [hs]
    exact h.letter rfl cs
  · refine h.code ?_ cs
    rw [unicode?_codeDigits c.toNat (needsCode_lt hcode), Char.ofNat_toNat]
  · exact h.plain (isPlain_of_needsCode (Bool.eq_false_iff.mpr hcode) hn) hquote hs cs

/-- an escaped character begins with itself or with a backslash -/
theorem head?_escape (multi : Bool) (c : Char) (cs : List Char) :
    (Toml.escape multi c ++ cs).head? = some c ∧ c ≠ '\r' ∨
      (Toml.escape multi c ++ cs).head? = some '\\' := by
  unfold Toml.escape
  split_ifs <;> simp_all

end

/-! ## texts on one line -/

theorem escapeText_quote {multi : Bool} {allowed run : Nat} (h : ¬ run < allowed) (cs : List Char) :
    escapeText multi allowed run ('"' :: cs) = ['\\', '"'] ++ escapeText multi allowed 0 cs := by
  rw [escapeText, if_neg h]

theorem escapeText_mark {multi : Bool} {allowed run : Nat} (h : run < allowed) (cs : List Char) :
    escapeText multi allowed run ('"' :: cs) = '"' :: escapeText multi allowed (run + 1) cs := by
  rw [escapeText, if_pos h]

theorem escapeText_other {c : Char} (h : c ≠ '"') (multi : Bool) (allowed run : Nat) (cs : List Char) :
    escapeText multi allowed run (c :: cs) = escape multi c ++ escapeText multi allowed 0 cs := by
  rw [escapeText]
  exact h

theorem readBasic_escapeText (cs rest : List Char) :
    readBasic (escapeText false 0 0 cs ++ '"' :: rest) = some (cs, rest) := by
  induction cs with
  | nil => simp [escapeText, readBasic.eq_def]
  | cons c cs ih =>
    by_cases hquote : c = '"'
    · subst hquote
      rw [escapeText_quote (Nat.lt_irrefl 0)]
      exact (unescapes_readBasic.letter rfl _).trans (congrArg (before '"') ih)
    · rw [escapeText_other hquote, List.append_assoc, unescapes_readBasic.escape hquote, ih]
      rfl

theorem readLiteral_append {cs : List Char} (h : ∀ c ∈ cs, isPlain c ∧ c ≠ '\'') (rest : List Char) :
    readLiteral (cs ++ '\'' :: rest) = some (cs, rest) := by
  induction cs with
  | nil => rfl
  | cons c cs ih =>
    obtain ⟨⟨hplain, hmark⟩, hcs⟩ := List.forall_mem_cons.mp h
    rw [List.cons_append, readLiteral, if_pos hplain, ih hcs]
    · rfl
    · exact hmark

/-! ## texts between three marks -/

/-- a reader that ends a text at three marks, unless one or two more follow, which then come first -/
structure EndsAt (mark : Char) (read : Reader (List Char)) : Prop where
  three {rest : List Char} (h : rest.head? ≠ some mark) :
    read (mark :: mark :: mark :: rest) = some ([], rest)
  four {rest : List Char} (h : rest.head? ≠ some mark) :
    read (mark :: mark :: mark :: mark :: rest) = some ([mark], rest)
  five (rest : List Char) : read (mark :: mark :: mark :: mark :: mark :: rest) = some ([mark, mark], rest)
  fewer {cs : List Char} (h : ¬ [mark, mark] <+: cs) : read (mark :: cs) = before mark (read cs)

theorem ne_of_head?_ne {c d : Char} {cs : List Char} (h : (d :: cs).head? ≠ some c) : d ≠ c :=
  fun hd => h (congrArg some hd)

theorem endsAt_readMultiBasic : EndsAt '"' (readMultiBasic .plain) where
  three {rest} h := by
    cases rest with
    | nil => rfl
    | cons d ds =>
      rw [readMultiBasic.eq_def]
      simp [ne_of_head?_ne h]
  four {rest} h := by
    cases rest with
    | nil => rfl
    | cons d ds =>
      rw [readMultiBasic.eq_def]
      simp [ne_of_head?_ne h]
  five rest := rfl
  fewer {cs} h := by
    rw [readMultiBasic.eq_def]
    simp only [reduceCtorEq, false_and, if_false, if_true]
    split
    · exact absurd ⟨_, rfl⟩ h
    · exact absurd ⟨_, rfl⟩ h
    · exact absurd ⟨_, rfl⟩ h
    · rfl

theorem endsAt_readMultiLiteral : EndsAt '\'' readMultiLiteral where
  three {rest} h := by
    rw [readMultiLiteral]
    all_goals
      rintro _ rfl
      exact h rfl
  four {rest} h := by
    rw [readMultiLiteral]
    rintro _ rfl
    exact h rfl
  five rest := by
    rw [readMultiLiteral]
  fewer {cs} h := by
    rw [readMultiLiteral, if_pos (by decide)]
    · rintro ds - rfl
      exact h ⟨_, rfl⟩
    · rintro ds - rfl
      exact h ⟨_, rfl⟩
    · rintro ds - rfl
      exact h ⟨_, rfl⟩
    · exact fun _ hc => nomatch hc
    · decide

/-- the characters `ws`, behind so many marks, spell the text `cs`: a reader makes a character of each piece of them
that is no mark, and marks, of which there are never three in a row, stand as they are -/
inductive Spells (read : Reader (List Char)) (mark : Char) : Nat → List Char → List Char → Prop
  | nil (run : Nat) : Spells read mark run [] []
  | mark {run : Nat} {ws cs : List Char} (hrun : run < 2) (h : Spells read mark (run + 1) ws cs) :
    Spells read mark run (mark :: ws) (mark :: cs)
  | piece {run : Nat} {c : Char} {w ws cs : List Char} (hhead : ∀ tail, (w ++ tail).head? ≠ some mark)
    (hread : ∀ tail, read (w ++ tail) = before c (read tail)) (h : Spells read mark 0 ws cs) :
    Spells read mark run (w ++ ws) (c :: cs)

section
variable {read : Reader (List Char)} {mark : Char}

theorem not_isPrefix_of_head? {cs marks : List Char} (h : cs.head? ≠ some mark) : ¬ mark :: marks <+: cs := by
  rintro ⟨more, rfl⟩
  exact h rfl

theorem read_of_spells {run : Nat} {ws cs : List Char} (hends : EndsAt mark read) (h : Spells read mark run ws cs)
    {rest : List Char} (hrest : rest.head? ≠ some mark) :
    read (ws ++ mark :: mark :: mark :: rest) = some (cs, rest) := by
  induction h with
  | nil run => exact hends.three hrest
  | piece _ hread _ ih => rw [List.append_assoc, hread, ih, before]
  | @mark run ws cs hrun h ih =>
    -- two marks may stand behind this one: those that close the text, or one of the text and the first of those
    rw [List.cons_append]
    cases h with
    | nil => exact hends.four hrest
    | piece hhead =>
      rw [hends.fewer, ih, before]
      rw [List.append_assoc]
      exact not_isPrefix_of_head? (hhead _)
    | mark hrun h =>
      cases h with
      | nil => exact hends.five rest
      | mark hrun => omega
      | piece hhead =>
        rw [hends.fewer, ih, before]
        rw [List.cons_append, List.cons_prefix_cons, List.append_assoc]
        exact fun hpair => not_isPrefix_of_head? (hhead _) hpair.2

/-! ### what the two forms write -/

theorem le_longestRun (mark : Char) (run : Nat) (cs : List Char) : run ≤ longestRun mark run cs := by
  induction cs generalizing run with
  | nil => exact Nat.le_refl run
  | cons c cs ih =>
    unfold longestRun
    split
    · exact Nat.le_of_succ_le (ih (run + 1))
    · exact Nat.le_max_left _ _

/-- what has no three marks in a row spells itself -/
theorem spells_self {run : Nat} {cs : List Char} (hrun : longestRun mark run cs ≤ 2)
    (hread : ∀ c ∈ cs, c ≠ mark → ∀ tail, read (c :: tail) = before c (read tail)) : Spells read mark run cs cs := by
  induction cs generalizing run with
  | nil => exact .nil run
  | cons c cs ih =>
    obtain ⟨hc, hcs⟩ := List.forall_mem_cons.mp hread
    unfold longestRun at hrun
    split at hrun
    · rename_i hmark
      subst hmark
      exact .mark (Nat.le_trans (le_longestRun c (run + 1) cs) hrun) (ih hrun hcs)
    · rename_i hmark
      have hnext : longestRun mark 0 cs ≤ 2 := Nat.le_trans (Nat.le_max_right _ _) hrun
      exact .piece (w := [c]) (fun _ hhead => hmark (Option.some.inj hhead)) (hc hmark) (ih hnext hcs)

end

theorem head?_escape_ne {c : Char} (h : c ≠ '"') (multi : Bool) (cs : List Char) :
    (escape multi c ++ cs).head? ≠ some '"' := by
  rcases head?_escape multi c cs with ⟨hhead, -⟩ | hhead
  · exact hhead ▸ fun hc => h (Option.some.inj hc)
  · exact hhead ▸ nofun

theorem spells_escapeText (run : Nat) (cs : List Char) :
    Spells (readMultiBasic .plain) '"' run (escapeText true 2 run cs) cs := by
  induction cs generalizing run with
  | nil => exact .nil run
  | cons c cs ih =>
    by_cases hquote : c = '"'
    · subst hquote
      by_cases hrun : run < 2
      · rw [escapeText_mark hrun]
        exact .mark hrun (ih (run + 1))
      · rw [escapeText_quote hrun]
        exact .piece (fun _ => nofun) (unescapes_readMultiBasic.letter rfl) (ih 0)
    · rw [escapeText_other hquote]
      exact .piece (head?_escape_ne hquote true) (unescapes_readMultiBasic.escape hquote) (ih 0)

/-! ## the written text -/

theorem dropLineEnd_of_head? {cs : List Char} (hline : cs.head? ≠ some '\n') (hreturn : cs.head? ≠ some '\r') :
    dropLineEnd cs = cs := by
  unfold dropLineEnd
  split
  · exact absurd rfl hline
  · exact absurd rfl hreturn
  · rfl

theorem readText_cons {mark : Char} {cs : List Char} (h : ¬ [mark, mark] <+: cs) :
    readText (mark :: cs) = readLineText (mark :: cs) := by
  rw [readText]
  · rintro ds ⟨⟩
    exact h ⟨_, rfl⟩
  · rintro ds ⟨⟩
    exact h ⟨_, rfl⟩

/-! ### which form is chosen -/

theorem not_mem_of_longestRun {mark : Char} {cs : List Char} (h : longestRun mark 0 cs = 0) : mark ∉ cs := by
  induction cs with
  | nil => exact List.not_mem_nil
  | cons c cs ih =>
    unfold longestRun at h
    split at h
    · have hpos := le_longestRun mark (0 + 1) cs
      omega
    · rename_i hmark
      rw [Nat.zero_max] at h
      exact List.not_mem_cons_of_ne_of_not_mem (Ne.symm hmark) (ih h)

theorem plain_of_literal {cs : List Char} (h : chooseForm cs = .literal) : ∀ c ∈ cs, isPlain c ∧ c ≠ '\'' := by
  unfold chooseForm at h
  simp only at h
  split_ifs at h with h1 h2
  simp only [Bool.and_eq_true, Bool.not_eq_true', List.any_eq_false, decide_eq_true_eq, List.contains_eq_mem,
    decide_eq_false_iff_not] at h2
  obtain ⟨⟨hcodes, hmarks⟩, hlines⟩ := h2
  intro c hc
  refine ⟨isPlain_of_needsCode (Bool.eq_false_iff.mpr (hcodes c hc)) ?_, ?_⟩
  · rintro rfl
    exact hlines hc
  · rintro rfl
    exact not_mem_of_longestRun hmarks hc

theorem codeless_of_multiLiteral {cs : List Char} (h : chooseForm cs = .multiLiteral) :
    (∀ c ∈ cs, needsCode c = false) ∧ longestRun '\'' 0 cs ≤ 2 := by
  unfold chooseForm at h
  simp only at h
  split_ifs at h with h1 h2 h3 h4
  simpa only [Bool.and_eq_true, Bool.not_eq_true', List.any_eq_false, decide_eq_true_eq, Bool.not_eq_true] using h4

/-! ### each form is read back -/

/-- the line end behind the opening marks is dropped, and nothing else -/
theorem dropLineEnd_opening {cs ws : List Char} (hline : '\n' ∉ cs → ws.head? ≠ some '\n')
    (hreturn : ws.head? ≠ some '\r') : dropLineEnd ((if cs.contains '\n' then ['\n'] else []) ++ ws) = ws := by
  split
  · rfl
  · rename_i hcs
    exact dropLineEnd_of_head? (hline (by simpa using hcs)) hreturn

/-- a text on one line is not taken for one between three marks, not even if it is empty -/
theorem readText_line {mark : Char} (hmark : mark ≠ '\n') {ws : List Char} (hws : ws.head? ≠ some mark)
    (rest : List Char) :
    readText (mark :: ws ++ [mark] ++ '\n' :: rest) = readLineText (mark :: (ws ++ mark :: '\n' :: rest)) := by
  rw [List.append_assoc, List.cons_append, List.singleton_append, readText_cons]
  cases ws with
  | nil =>
    intro hpair
    rw [List.nil_append, List.cons_prefix_cons, List.cons_prefix_cons] at hpair
    exact hmark hpair.2.1
  | cons w ws => exact not_isPrefix_of_head? hws

theorem head?_escapeText_zero (cs : List Char) : (escapeText false 0 0 cs).head? ≠ some '"' := by
  cases cs with
  | nil => exact nofun
  | cons c cs =>
    by_cases hquote : c = '"'
    · subst hquote
      rw [escapeText_quote (Nat.lt_irrefl 0)]
      exact nofun
    · rw [escapeText_other hquote]
      exact head?_escape_ne hquote _ _

theorem readText_basic (cs rest : List Char) :
    readText ('"' :: escapeText false 0 0 cs ++ ['"'] ++ '\n' :: rest) = some (cs, '\n' :: rest) := by
  rw [readText_line (by decide) (head?_escapeText_zero cs)]
  exact readBasic_escapeText cs _

theorem readText_literal {cs : List Char} (h : ∀ c ∈ cs, isPlain c ∧ c ≠ '\'') (rest : List Char) :
    readText ('\'' :: cs ++ ['\''] ++ '\n' :: rest) = some (cs, '\n' :: rest) := by
  have hhead : cs.head? ≠ some '\'' := fun hc => (h _ (List.mem_of_mem_head? hc)).2 rfl
  rw [readText_line (by decide) hhead]
  exact readLiteral_append h _

theorem head?_escapeText (cs tail : List Char) :
    ('\n' ∉ cs → (escapeText true 2 0 cs ++ '"' :: tail).head? ≠ some '\n') ∧
      (escapeText true 2 0 cs ++ '"' :: tail).head? ≠ some '\r' := by
  cases cs with
  | nil => exact ⟨nofun, nofun⟩
  | cons c cs =>
    by_cases hquote : c = '"'
    · subst hquote
      rw [escapeText_mark Nat.zero_lt_two]
      exact ⟨nofun, nofun⟩
    · rw [escapeText_other hquote, List.append_assoc]
      rcases head?_escape true c (escapeText true 2 0 cs ++ '"' :: tail) with ⟨hhead, hreturn⟩ | hhead
      · rw [hhead]
        refine ⟨fun hline hc => hline ?_, fun hc => hreturn (Option.some.inj hc)⟩
        exact Option.some.inj hc ▸ List.mem_cons_self
      · exact hhead ▸ ⟨nofun, nofun⟩

theorem readText_multiBasic (cs rest : List Char) :
    readText (['"', '"', '"'] ++ (if cs.contains '\n' then ['\n'] else []) ++ escapeText true 2 0 cs ++
      ['"', '"', '"'] ++ '\n' :: rest) = some (cs, '\n' :: rest) := by
  have hhead := head?_escapeText cs ('"' :: '"' :: '\n' :: rest)
  have hrest : ('\n' :: rest).head? ≠ some '"' := nofun
  have hread := read_of_spells endsAt_readMultiBasic (spells_escapeText 0 cs) hrest
  rw [← dropLineEnd_opening hhead.1 hhead.2] at hread
  simpa only [List.append_assoc, List.cons_append, List.nil_append, readText] using hread

theorem readText_multiLiteral {cs : List Char} (hcodes : ∀ c ∈ cs, needsCode c = false)
    (hmarks : longestRun '\'' 0 cs ≤ 2) (rest : List Char) :
    readText (['\'', '\'', '\''] ++ (if cs.contains '\n' then ['\n'] else []) ++ cs ++
      ['\'', '\'', '\''] ++ '\n' :: rest) = some (cs, '\n' :: rest) := by
  have hspells : Spells readMultiLiteral '\'' 0 cs cs := by
    refine spells_self hmarks fun c hc hmark tail => ?_
    by_cases hline : c = '\n'
    · subst hline
      rw [readMultiLiteral]
    · rw [readMultiLiteral, if_pos (isPlain_of_needsCode (hcodes c hc) hline)]
      · exact fun _ hc => absurd hc hmark
      · exact fun _ hc => absurd hc hmark
      · exact fun _ hc => absurd hc hmark
      · exact fun _ hreturn => absurd hreturn (ne_return_of_needsCode (hcodes c hc))
      · exact hline
  have hline : '\n' ∉ cs → (cs ++ '\'' :: '\'' :: '\'' :: '\n' :: rest).head? ≠ some '\n' := by
    intro hcs
    cases cs with
    | nil => exact nofun
    | cons c cs => exact fun hc => hcs (Option.some.inj hc ▸ List.mem_cons_self)
  have hreturn : (cs ++ '\'' :: '\'' :: '\'' :: '\n' :: rest).head? ≠ some '\r' := by
    cases cs with
    | nil => exact nofun
    | cons c cs => exact fun hc => ne_return_of_needsCode (hcodes c List.mem_cons_self) (Option.some.inj hc)
  have hrest : ('\n' :: rest).head? ≠ some '\'' := nofun
  have hread := read_of_spells endsAt_readMultiLiteral hspells hrest
  rw [← dropLineEnd_opening hline hreturn] at hread
  simpa only [List.append_assoc, List.cons_append, List.nil_append, readText] using hread

/-- **The written text is read back.** -/
theorem readText_writeText (s : String) (rest : List Char) :
    readText ((writeText s).toList ++ '\n' :: rest) = some (s.toList, '\n' :: rest) := by
  unfold writeText
  simp only [String.toList_ofList]
  cases hform : chooseForm s.toList with
  | basic => exact readText_basic s.toList rest
  | literal => exact readText_literal (plain_of_literal hform) rest
  | multiBasic => exact readText_multiBasic s.toList rest
  | multiLiteral =>
    obtain ⟨hcodes, hmarks⟩ := codeless_of_multiLiteral hform
    exact readText_multiLiteral hcodes hmarks rest

end TunnelControl.Toml
