import TunnelControl.Daemon

/-!
# The levels that settings may name

The check of the settings takes ASCII letters for their small forms, and the reader of level names takes all letters
for theirs.  The two agree on every text: beyond ASCII only the Kelvin sign has an ASCII letter for its small form, and
no level is named with a k; the capital I with a dot above keeps its dot.

* `InSmallLetters`                 a text and its small form, with either form of a capital sigma;
* `InSmallLetters.ascii_of_level`  what reads as the name of a level in small letters is ASCII;
* `ofName?_small`                  so both readers find the same level, or none;
* `levels_agree`                   the check passes the texts that name a level, and no others.
-/

namespace TunnelControl

/-! ## small letters -/

/-- what may stand for a character in small letters: a capital sigma has a second form, for the end of a word -/
def smallForms (c : Char) : List (List Char) :=
  if c.toNat = 0x3A3 then [smallLetters c, [Char.ofNat 0x3C2]] else [smallLetters c]

/-- characters, and the same in small letters -/
inductive InSmallLetters : List Char → List Char → Prop
  | nil : InSmallLetters [] []
  | cons {c : Char} {form cs small : List Char} (hform : form ∈ smallForms c) (h : InSmallLetters cs small) :
      InSmallLetters (c :: cs) (form ++ small)

theorem smallLetters_mem_smallForms (c : Char) : smallLetters c ∈ smallForms c := by
  unfold smallForms
  split <;> exact List.mem_cons_self

theorem inSmallLetters_flatMap (cs : List Char) : InSmallLetters cs (cs.flatMap smallLetters) := by
  induction cs with
  | nil => exact .nil
  | cons c cs ih =>
    rw [List.flatMap_cons]
    exact .cons (smallLetters_mem_smallForms c) ih

theorem inSmallLetters_lowerCase (s : String) : InSmallLetters s.toList (lowerCase s).toList := by
  rw [lowerCase, String.toList_ofList]
  exact inSmallLetters_flatMap s.toList

theorem LetterRun.holds_iff {run : LetterRun} {n : Nat} :
    run.holds n = true ↔ run.first ≤ n ∧ n ≤ run.last ∧ (n - run.first) % run.stride = 0 := by
  simp only [holds, Bool.and_eq_true, decide_eq_true_eq, beq_iff_eq, and_assoc]

/-- the run of the ASCII letters -/
def capitals : LetterRun := ⟨0x41, 0x5A, 1, 32⟩

theorem capitals_holds_iff {n : Nat} : capitals.holds n = true ↔ 0x41 ≤ n ∧ n ≤ 0x5A := by
  rw [LetterRun.holds_iff]
  show 0x41 ≤ n ∧ n ≤ 0x5A ∧ (n - 0x41) % 1 = 0 ↔ _
  rw [Nat.mod_one, and_iff_left rfl]

theorem find?_run_of_ascii {n : Nat} (h : n < 0x80) :
    smallLetterRuns.find? (·.holds n) = if capitals.holds n then some capitals else none := by
  have hsplit : smallLetterRuns = capitals :: smallLetterRuns.tail := rfl
  have hbeyond : ∀ run ∈ smallLetterRuns.tail, 0x80 ≤ run.first := by decide +kernel
  have hnone : smallLetterRuns.tail.find? (·.holds n) = none := by
    rw [List.find?_eq_none]
    intro run hrun hholds
    exact absurd (Nat.le_trans (hbeyond run hrun) (LetterRun.holds_iff.mp hholds).1) (Nat.not_le_of_lt h)
  rw [hsplit, List.find?_cons, hnone]
  cases capitals.holds n <;> rfl

theorem toLower_of_capital {c : Char} (h : capitals.holds c.toNat = true) : c.toLower = capitals.small c.toNat := by
  have heach : ∀ k : Fin 26, (Char.ofNat (0x41 + k)).toLower = capitals.small (0x41 + k) := by decide
  rw [capitals_holds_iff] at h
  have hc := heach ⟨c.toNat - 0x41, by omega⟩
  have hsum : 0x41 + (c.toNat - 0x41) = c.toNat := by omega
  rwa [hsum, Char.ofNat_toNat] at hc

theorem toLower_of_not_capital {c : Char} (h : ¬ capitals.holds c.toNat = true) : c.toLower = c := by
  unfold Char.toLower
  split
  · rename_i hcapital
    have hfirst : 0x41 ≤ c.toNat := UInt32.le_iff_toNat_le.mp hcapital.1
    have hlast : c.toNat ≤ 0x5A := UInt32.le_iff_toNat_le.mp hcapital.2
    exact absurd (capitals_holds_iff.mpr ⟨hfirst, hlast⟩) h
  · rfl

/-- an ASCII character has one small form, the one that the check takes -/
theorem smallForms_of_ascii {c : Char} (h : c.toNat < 0x80) : smallForms c = [[c.toLower]] := by
  have hsigma : c.toNat ≠ 0x3A3 := by omega
  have hdotted : c.toNat ≠ 0x130 := by omega
  rw [smallForms, if_neg hsigma, smallLetters, if_neg hdotted, find?_run_of_ascii h]
  by_cases hcapital : capitals.holds c.toNat = true
  · rw [toLower_of_capital hcapital, if_pos hcapital]
  · rw [toLower_of_not_capital hcapital, if_neg hcapital]

/-! ## letters of level names -/

/-- no level is named with a k -/
theorem letter_of_level {l : LogLevel} {d : Char} (h : d ∈ l.name.toList) :
    0 < d.toNat ∧ d.toNat < 0x80 ∧ d.toNat ≠ 0x6B := by
  have heach : (l.name.toList.all fun d => 0 < d.toNat ∧ d.toNat < 0x80 ∧ d.toNat ≠ 0x6B) = true := by
    cases l <;> decide
  simpa using List.all_eq_true.mp heach d h

theorem ascii_of_toLower {l : LogLevel} {c : Char} (h : c.toLower ∈ l.name.toList) : c.toNat < 0x80 := by
  by_cases hcapital : capitals.holds c.toNat = true
  · exact Nat.lt_of_le_of_lt (capitals_holds_iff.mp hcapital).2 (by decide)
  · rw [toLower_of_not_capital hcapital] at h
    exact (letter_of_level h).2.1

/-- the small forms of a run begin beyond ASCII where the run does, but for the Kelvin sign, which becomes a k -/
theorem smallLetterRuns_beyond : ∀ run ∈ smallLetterRuns, 0x80 ≤ run.last →
    0x80 ≤ run.first + run.distance ∨ run.first = run.last ∧ run.first + run.distance = 0x6B := by decide +kernel

theorem toNat_ofNat_or (n : Nat) : (Char.ofNat n).toNat = n ∨ (Char.ofNat n).toNat = 0 := by
  rw [Char.ofNat]
  by_cases hvalid : n.isValidChar
  · exact .inl (by rw [dif_pos hvalid]; rfl)
  · exact .inr (by rw [dif_neg hvalid]; rfl)

theorem small_not_letter {run : LetterRun} {n : Nat} (hrun : run ∈ smallLetterRuns) (hholds : run.holds n = true)
    (h : 0x80 ≤ n) (l : LogLevel) : run.small n ∉ l.name.toList := by
  obtain ⟨hfirst, hlast, -⟩ := LetterRun.holds_iff.mp hholds
  have hbeyond := smallLetterRuns_beyond run hrun (Nat.le_trans h hlast)
  intro hmem
  obtain ⟨hpositive, hascii, hk⟩ := letter_of_level hmem
  have hsmall : (run.small n).toNat = (n + run.distance).toNat ∨ (run.small n).toNat = 0 := toNat_ofNat_or _
  omega

/-- a character beyond ASCII has no small form that is written in letters of level names -/
theorem ascii_of_smallForms {l : LogLevel} {c : Char} {form : List Char} (hform : form ∈ smallForms c)
    (h : ∀ d ∈ form, d ∈ l.name.toList) : c.toNat < 0x80 := by
  refine Nat.lt_of_not_le fun hc => ?_
  have hsmall : form = smallLetters c ∨ form = [Char.ofNat 0x3C2] := by
    unfold smallForms at hform
    split at hform
    · simpa using hform
    · exact .inl (List.mem_singleton.mp hform)
  obtain rfl | rfl := hsmall
  · unfold smallLetters at h
    split at h
    · exact absurd (letter_of_level (h (Char.ofNat 0x307) (by decide))).2.1 (by decide)
    · split at h
      · rename_i run hrun
        have hholds := List.find?_some hrun
        exact small_not_letter (List.mem_of_find?_eq_some hrun) hholds hc l (h _ List.mem_cons_self)
      · exact absurd (letter_of_level (h c List.mem_cons_self)).2.1 (Nat.not_lt_of_le hc)
  · exact absurd (letter_of_level (h _ List.mem_cons_self)).2.1 (by decide)

/-! ## texts in small letters -/

namespace InSmallLetters

variable {l : LogLevel} {cs small : List Char}

theorem ascii_of_level (h : InSmallLetters cs small) (hsmall : ∀ d ∈ small, d ∈ l.name.toList) :
    ∀ c ∈ cs, c.toNat < 0x80 := by
  induction h with
  | nil => exact fun c hc => nomatch hc
  | cons hform h ih =>
    rw [List.forall_mem_append] at hsmall
    rw [List.forall_mem_cons]
    exact ⟨ascii_of_smallForms hform hsmall.1, ih hsmall.2⟩

theorem eq_of_ascii (h : InSmallLetters cs small) (hcs : ∀ c ∈ cs, c.toNat < 0x80) : small = cs.map Char.toLower := by
  induction h with
  | nil => rfl
  | cons hform h ih =>
    rw [List.forall_mem_cons] at hcs
    rw [smallForms_of_ascii hcs.1, List.mem_singleton] at hform
    rw [hform, ih hcs.2, List.map_cons, List.singleton_append]

/-- letters of all kinds read as the name of a level exactly if ASCII letters do -/
theorem eq_name_iff (h : InSmallLetters cs small) : small = l.name.toList ↔ cs.map Char.toLower = l.name.toList := by
  constructor
  · intro hsmall
    rw [← h.eq_of_ascii (h.ascii_of_level fun d hd => hsmall ▸ hd), hsmall]
  · intro hlower
    have hascii : ∀ c ∈ cs, c.toNat < 0x80 := fun c hc =>
      ascii_of_toLower (l := l) (hlower ▸ List.mem_map_of_mem hc)
    rw [h.eq_of_ascii hascii, hlower]

end InSmallLetters

/-! ## levels -/

theorem LogLevel.ofName?_eq_some_iff {s : String} {l : LogLevel} : ofName? s = some l ↔ l.name = s := by
  constructor
  · intro h
    have hname := List.find?_some h
    exact beq_iff_eq.mp hname
  · rintro rfl
    cases l <;> rfl

/-- both readers find the same level -/
theorem LogLevel.ofName?_small {name small : String} (h : InSmallLetters name.toList small.toList) :
    ofName? small = ofName? (String.ofList (name.toList.map Char.toLower)) := by
  refine Option.ext fun l => ?_
  rw [ofName?_eq_some_iff, ofName?_eq_some_iff, ← String.toList_inj, ← String.toList_inj, String.toList_ofList, eq_comm,
    h.eq_name_iff, eq_comm]

namespace Settings

theorem isLogLevel_iff {name small : String} (h : InSmallLetters name.toList small.toList) :
    isLogLevel name = true ↔ ∃ l, LogLevel.ofName? small = some l := by
  rw [isLogLevel, ← LogLevel.ofName?_small h, Option.isSome_iff_exists]

theorem isLogLevel_of_check {s t : Settings} (h : s.check = .ok t) : isLogLevel t.logLevel = true := by
  obtain ⟨hfault, rfl⟩ := check_eq_ok_iff.mp h
  unfold firstFault at hfault
  cases hlevel : isLogLevel s.logLevel with
  | true => rfl
  | false =>
    rw [hlevel] at hfault
    cases hfault

/-- the level is looked at first -/
theorem firstFault_withLevel {s : Settings} (hs : s.firstFault = none) (name : String) :
    { s with logLevel := name }.firstFault = if isLogLevel name then none else some .logLevel := by
  have hlevel : isLogLevel s.logLevel = true := isLogLevel_of_check (check_eq_ok_iff.mpr ⟨hs, rfl⟩)
  unfold firstFault at hs ⊢
  rw [hlevel] at hs
  cases isLogLevel name with
  | true => exact hs
  | false => rfl

/-- settings that pass do so with another level exactly if it is one -/
theorem check_withLevel {s : Settings} (hs : s.check = .ok s) (name : String) :
    { s with logLevel := name }.check
      = if isLogLevel name then .ok { s with logLevel := name } else .error (.invalid .logLevel) := by
  rw [check, firstFault_withLevel (check_eq_ok_iff.mp hs).1]
  cases isLogLevel name <;> rfl

/-- the settings that the service starts with have passed the check, be they loaded or the default ones -/
theorem exists_check_of_settingsOf {env : Environment} {file : FileState} {s : Settings}
    (h : Daemon.settingsOf env (load env file) = .ok s) : ∃ base : Settings, base.check = .ok s := by
  unfold Daemon.settingsOf at h
  split at h
  · rename_i loaded hload
    cases h
    simp only [load, bind, Except.bind] at hload
    split at hload
    · cases hload
    · split at hload
      · cases hload
      · exact ⟨_, hload⟩
  · exact ⟨_, h⟩

/-- **The check of the settings passes the texts that name a level, and no others.**  In settings that pass otherwise,
whatever stands for a text in small letters: it is the name of a level, and the level of that name is read, or it is
none, the settings are refused for it, and the reader falls back to `info`.  So the level of the settings that the
service starts with is always one that they name. -/
theorem levels_agree {s : Settings} (hs : s.check = .ok s) {name small : String}
    (hsmall : InSmallLetters name.toList small.toList) :
    ({ s with logLevel := name }.check = .ok { s with logLevel := name } ↔ ∃ l, LogLevel.ofName? small = some l) ∧
      (∀ l, LogLevel.ofName? small = some l → l.name = small ∧ LogLevel.ofName name = l) ∧
      (LogLevel.ofName? small = none →
        { s with logLevel := name }.check = .error (.invalid .logLevel) ∧ LogLevel.ofName name = .info) ∧
      ∀ (env : Environment) (file : FileState) (t : Settings), Daemon.settingsOf env (load env file) = .ok t →
        ∃ l, LogLevel.ofName? (lowerCase t.logLevel) = some l ∧ LogLevel.ofName t.logLevel = l := by
  have hread : LogLevel.ofName name = (LogLevel.ofName? small).getD .info := by
    rw [LogLevel.ofName, LogLevel.ofName?_small (inSmallLetters_lowerCase name), LogLevel.ofName?_small hsmall]
  refine ⟨?_, fun l hl => ⟨LogLevel.ofName?_eq_some_iff.mp hl, ?_⟩, fun hnone => ⟨?_, ?_⟩, fun env file t ht => ?_⟩
  · rw [check_withLevel hs, ← isLogLevel_iff hsmall]
    cases isLogLevel name <;> simp
  · rw [hread, hl, Option.getD_some]
  · have hlevel : ¬ isLogLevel name = true := by
      rw [isLogLevel_iff hsmall, hnone]
      exact fun ⟨l, hl⟩ => nomatch hl
    rw [check_withLevel hs, if_neg hlevel]
  · rw [hread, hnone, Option.getD_none]
  · obtain ⟨base, hbase⟩ := exists_check_of_settingsOf ht
    obtain ⟨l, hl⟩ := (isLogLevel_iff (inSmallLetters_lowerCase t.logLevel)).mp (isLogLevel_of_check hbase)
    exact ⟨l, hl, by rw [LogLevel.ofName, hl, Option.getD_some]⟩

/-- a name in letters of both cases, and one with a capital I that keeps its dot -/
theorem levels_agree_dotted :
    { logLevel := "wARn" : Settings }.check = .ok { logLevel := "wARn" } ∧ LogLevel.ofName "wARn" = .warn ∧
      { logLevel := "\u0130NFO" : Settings }.check = .error (.invalid .logLevel) := by
  have hs : ({} : Settings).check = .ok {} := check_eq_ok_iff.mpr ⟨by decide, rfl⟩
  obtain ⟨hpass, hlevel, -⟩ := levels_agree hs (inSmallLetters_lowerCase "wARn")
  obtain ⟨-, -, hrefused, -⟩ := levels_agree hs (inSmallLetters_lowerCase "\u0130NFO")
  have hwarn : LogLevel.ofName? (lowerCase "wARn") = some .warn := by decide +kernel
  exact ⟨hpass.mpr ⟨_, hwarn⟩, (hlevel .warn hwarn).2, (hrefused (by decide +kernel)).1⟩

end Settings

end TunnelControl
