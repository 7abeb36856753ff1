import TunnelControl.Proofs.Text.Decimal
import TunnelControl.Proofs.Text.Split
import TunnelControl.Settings.Environment

/-!
# What variables say

How the values of variables are written, told without how they are read.

* `Environment.Says env name text`   a variable is set, and its value is a text;
* `NumberItem item n`                a number up to 2^32 - 1 with blanks around it;
* `NumbersText text ns`              the numbers of a list, which may hold other things that are left out;
* `FlagText text value`              a word for yes or for no, in small or capital letters;
* `numbersText_iff`, `flagOfWord?_eq_some_iff`   this is what is read.
-/

namespace TunnelControl

/-! ## how values are written -/

/-- a variable is set to the bytes of a text -/
def Environment.Says (env : Environment) (name text : String) : Prop := env.bytes? name = some (Utf8.encode text)

/-- a number in decimal digits, behind zeros and a plus sign perhaps, with blanks before and behind it -/
def NumberItem (item : List Char) (n : UInt32) : Prop :=
  ∃ (front sign back : List Char) (zeros : Nat),
    (∀ c ∈ front, isBlank c) ∧ (∀ c ∈ back, isBlank c) ∧ (sign = [] ∨ sign = ['+']) ∧
      item = front ++ (sign ++ List.replicate zeros '0' ++ Nat.toDigits 10 n.toNat) ++ back

/-- the numbers among some items, in their order -/
inductive NumbersAmong : List (List Char) → List UInt32 → Prop
  | nil : NumbersAmong [] []
  | number {item : List Char} {items : List (List Char)} {n : UInt32} {ns : List UInt32} (h : NumberItem item n)
      (hrest : NumbersAmong items ns) : NumbersAmong (item :: items) (n :: ns)
  | other {item : List Char} {items : List (List Char)} {ns : List UInt32} (h : ∀ n, ¬NumberItem item n)
      (hrest : NumbersAmong items ns) : NumbersAmong (item :: items) ns

/-- items between commas, and the numbers among them -/
def NumbersText (text : String) (ns : List UInt32) : Prop :=
  ∃ items : List (List Char), items ≠ [] ∧ (∀ item ∈ items, ',' ∉ item) ∧ text.toList = [','].intercalate items ∧
    NumbersAmong items ns

def yesWords : List String := ["true", "1", "yes", "y"]

def noWords : List String := ["false", "0", "no", "n"]

/-- a word for yes or for no, whatever the size of its letters -/
def FlagText (text : String) (value : Bool) : Prop :=
  ∃ word ∈ (if value then yesWords else noWords), text.toList.map Char.toLower = word.toList

/-! ## variables -/

theorem Environment.text?_eq_some_iff {env : Environment} {name text : String} :
    env.text? name = some text ↔ env.Says name text := by
  unfold Environment.text? Environment.Says
  cases env.bytes? name with
  | none => exact ⟨nofun, nofun⟩
  | some bytes =>
    show (Utf8.decode bytes).toOption = some text ↔ some bytes = some (Utf8.encode text)
    constructor
    · intro h
      cases hdecode : Utf8.decode bytes with
      | error fault =>
        rw [hdecode] at h
        cases h
      | ok s =>
        rw [hdecode] at h
        cases h
        rw [Utf8.encode_of_decode hdecode]
    · intro h
      rw [Option.some.inj h, Utf8.decode_encode]
      rfl

/-! ## blanks around a text -/

theorem exists_blanks_around (cs : List Char) :
    ∃ front back, (∀ c ∈ front, isBlank c) ∧ (∀ c ∈ back, isBlank c) ∧ cs = front ++ trim cs ++ back := by
  have hmem (ds : List Char) : ∀ c ∈ ds.takeWhile isBlank, isBlank c := fun c hc =>
    List.all_eq_true.mp List.all_takeWhile c hc
  refine ⟨cs.takeWhile isBlank, ((cs.dropWhile isBlank).reverse.takeWhile isBlank).reverse, hmem cs, ?_, ?_⟩
  · intro c hc
    exact hmem _ c (List.mem_reverse.mp hc)
  · rw [trim, List.append_assoc, ← List.reverse_append, List.takeWhile_append_dropWhile, List.reverse_reverse,
      List.takeWhile_append_dropWhile]

theorem dropWhile_blanks {front cs : List Char} (hfront : ∀ c ∈ front, isBlank c) (hcs : ∀ c ∈ cs, isBlank c = false)
    (back : List Char) :
    (front ++ (cs ++ back)).dropWhile isBlank = if cs = [] then back.dropWhile isBlank else cs ++ back := by
  rw [List.dropWhile_append_of_pos hfront]
  cases cs with
  | nil => rfl
  | cons c cs => exact List.dropWhile_cons_of_neg (by simp [hcs c List.mem_cons_self])

theorem trim_blanks {front cs back : List Char} (hfront : ∀ c ∈ front, isBlank c) (hback : ∀ c ∈ back, isBlank c)
    (hcs : ∀ c ∈ cs, isBlank c = false) : trim (front ++ cs ++ back) = cs := by
  by_cases hnil : cs = []
  · subst hnil
    rw [trim_eq_nil_iff, List.append_nil]
    exact List.forall_mem_append.mpr ⟨hfront, hback⟩
  · have hreverse : (cs ++ back).reverse = back.reverse ++ (cs.reverse ++ []) := by simp
    rw [trim, List.append_assoc, dropWhile_blanks hfront hcs, if_neg hnil, hreverse, dropWhile_blanks, if_neg,
      List.append_nil, List.reverse_reverse]
    · simpa using hnil
    · simpa using hback
    · simpa using hcs

theorem isBlank_of_isDigit {c : Char} (h : isDigit c) : isBlank c = false := by
  simp only [isDigit, Bool.and_eq_true, decide_eq_true_eq, Char.le_def, UInt32.le_iff_toNat_le] at h
  have hlow : 48 ≤ c.toNat := h.1
  have hhigh : c.toNat ≤ 57 := h.2
  simp only [isBlank, blankRanges, List.any_cons, List.any_nil, Bool.or_eq_false_iff, Bool.and_eq_false_iff,
    decide_eq_false_iff_not, and_true]
  omega

/-! ## lists of numbers -/

theorem numberItem_iff {item : List Char} {n : UInt32} :
    (readNumber? (UInt32.size - 1) (trim item)).map UInt32.ofNat = some n ↔ NumberItem item n := by
  rw [Option.map_eq_some_iff]
  simp only [readNumber?_eq_some_iff]
  constructor
  · rintro ⟨k, ⟨hlimit, sign, zeros, hsign, htrim⟩, rfl⟩
    obtain ⟨front, back, hfront, hback, hitem⟩ := exists_blanks_around item
    have hk : (UInt32.ofNat k).toNat = k := UInt32.toNat_ofNat_of_lt' (Nat.lt_of_le_pred (by decide) hlimit)
    exact ⟨front, sign, back, zeros, hfront, hback, hsign, by rw [hk, ← htrim, ← hitem]⟩
  · rintro ⟨front, sign, back, zeros, hfront, hback, hsign, rfl⟩
    refine ⟨n.toNat, ⟨Nat.le_pred_of_lt n.toNat_lt, sign, zeros, hsign, ?_⟩, UInt32.ofNat_toNat⟩
    refine trim_blanks hfront hback ?_
    simp only [List.forall_mem_append]
    refine ⟨⟨?_, ?_⟩, fun c hc => isBlank_of_isDigit (isDigit_of_mem_toDigits hc)⟩
    · rcases hsign with rfl | rfl <;> simp [isBlank, blankRanges]
    · intro c hc
      rw [List.eq_of_mem_replicate hc]
      rfl

theorem numbersAmong_iff {items : List (List Char)} {ns : List UInt32} :
    NumbersAmong items ns ↔
      ns = items.filterMap fun item => (readNumber? (UInt32.size - 1) (trim item)).map UInt32.ofNat := by
  induction items generalizing ns with
  | nil =>
    constructor
    · rintro ⟨⟩
      rfl
    · rintro rfl
      exact .nil
  | cons item items ih =>
    rw [List.filterMap_cons]
    constructor
    · intro h
      cases h with
      | number hitem hrest => rw [numberItem_iff.mpr hitem, ih.mp hrest]
      | other hitem hrest =>
        rw [Option.eq_none_iff_forall_ne_some.mpr fun n hn => hitem n (numberItem_iff.mp hn), ih.mp hrest]
    · intro h
      cases hread : (readNumber? (UInt32.size - 1) (trim item)).map UInt32.ofNat with
      | none =>
        rw [hread] at h
        exact .other (fun n hn => nomatch hread.symm.trans (numberItem_iff.mpr hn)) (ih.mpr h)
      | some n =>
        rw [hread] at h
        rw [h]
        exact .number (numberItem_iff.mp hread) (ih.mpr rfl)

theorem numbersText_iff {text : String} {ns : List UInt32} : NumbersText text ns ↔ numbersOf text = ns := by
  unfold NumbersText numbersOf
  simp only [numbersAmong_iff]
  constructor
  · rintro ⟨items, hne, hcomma, htext, rfl⟩
    rw [htext, pieces_intercalate hne hcomma]
  · rintro rfl
    exact ⟨pieces ',' text.toList, pieces_ne_nil _ _, fun item => not_mem_of_mem_pieces,
      (intercalate_pieces ',' text.toList).symm, rfl⟩

/-! ## flags -/

theorem flagOfWord?_eq_some_iff {text : String} {value : Bool} :
    flagOfWord? text = some value ↔ FlagText text value := by
  have hword (words : List String) : words.contains (String.ofList (text.toList.map Char.toLower)) = true ↔
      ∃ word ∈ words, text.toList.map Char.toLower = word.toList := by
    rw [List.contains_iff_mem]
    constructor
    · exact fun hmem => ⟨_, hmem, String.toList_ofList.symm⟩
    · rintro ⟨word, hmem, htext⟩
      rwa [htext, String.ofList_toList]
  -- no word says both
  have hboth : (∃ word ∈ yesWords, text.toList.map Char.toLower = word.toList) →
      ¬∃ word ∈ noWords, text.toList.map Char.toLower = word.toList := by
    rintro ⟨yes, hyes, htext⟩ ⟨no, hno, hother⟩
    rw [htext, String.toList_inj] at hother
    subst hother
    have hdisjoint : ∀ word ∈ yesWords, word ∉ noWords := by decide
    exact hdisjoint yes hyes hno
  unfold flagOfWord? FlagText
  simp only [hword]
  cases value with
  | true =>
    simp only [if_true]
    split
    · rename_i hyes
      exact iff_of_true rfl hyes
    · rename_i hyes
      refine iff_of_false ?_ hyes
      split <;> simp
  | false =>
    simp only [Bool.false_eq_true, if_false]
    split
    · rename_i hyes
      exact iff_of_false nofun (hboth hyes)
    · split
      · rename_i hno
        exact iff_of_true rfl hno
      · rename_i hno
        exact iff_of_false nofun hno

end TunnelControl
