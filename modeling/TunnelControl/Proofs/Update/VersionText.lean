import TunnelControl.Proofs.Text.Decimal
import TunnelControl.Proofs.Text.Split
import TunnelControl.Update.Manifest

/-!
# The texts of versions

How a version is written, told without how it is read.

* `Identifier.chars`, `Version.chars`            an identifier and a version, written down;
* `Identifier.FitsIn`, `Version.IsWritable`      the identifiers and versions that a text can hold;
* `Version.readPart_eq_ok_iff`, `Version.readIdentifiers_eq_ok_iff`, `Version.readMarked_eq_ok_iff`   what is read
  off the front of a text, up to the first character that does not belong to it;
* `Version.ofChars?_eq_ok_iff`   the texts that are read, each as the one version it is written for;
* `readRelease_eq_ok_iff`        before which any number of the letter v may stand.
-/

namespace TunnelControl

theorem except_bind_eq_ok_iff {ε α β : Type} {x : Except ε α} {f : α → Except ε β} {b : β} :
    x >>= f = .ok b ↔ ∃ a, x = .ok a ∧ f a = .ok b := by
  cases x with
  | error fault => simp [bind, Except.bind]
  | ok a => simp [bind, Except.bind]

theorem except_mapError_eq_ok_iff {ε δ α : Type} {x : Except ε α} {f : ε → δ} {a : α} :
    x.mapError f = .ok a ↔ x = .ok a := by
  cases x <;> simp [Except.mapError]

/-! ## numbers -/

namespace Version

theorem readPart_eq_ok_iff {part : VersionPart} {n : Nat} {cs rest : List Char} :
    readPart part cs = .ok (n, rest) ↔
      n ≤ numberLimit ∧ cs = Nat.toDigits 10 n ++ rest ∧ Stops isDigit rest := by
  constructor
  · intro h
    unfold readPart at h
    simp only at h
    split at h
    · cases h
    · cases h
    · cases h
    · rename_i cs _ _ hzero hnil hcons
      split at h
      · cases h
      · rename_i hlimit
        cases h
        -- what is left are digits that are no zero with more behind it, and so those of their number
        have hne : cs.takeWhile isDigit ≠ [] := by
          intro htake
          cases cs with
          | nil => exact hnil htake rfl
          | cons c cs => exact hcons c cs htake rfl
        have hdigits := eq_toDigits_of_ne_zero_cons_cons hne (fun c => List.mem_takeWhile_imp) hzero
        refine ⟨Nat.le_of_not_lt hlimit, ?_, stops_dropWhile isDigit cs⟩
        rw [← hdigits, List.takeWhile_append_dropWhile]
  · rintro ⟨hlimit, rfl, hrest⟩
    have hdigits : ∀ c ∈ Nat.toDigits 10 n, isDigit c := fun c => isDigit_of_mem_toDigits
    unfold readPart
    simp only [takeWhile_append_of_stops hdigits hrest, dropWhile_append_of_stops hdigits hrest]
    split
    · rename_i hnil _
      exact absurd hnil Nat.toDigits_ne_nil
    · rename_i hnil _
      exact absurd hnil Nat.toDigits_ne_nil
    · rename_i hzero
      exact absurd hzero (toDigits_ne_zero_cons_cons n _ _)
    · rw [digitsValue_toDigits, if_neg (Nat.not_lt.mpr hlimit)]

theorem readPoint_eq_ok_iff {part : VersionPart} {cs rest : List Char} :
    readPoint part cs = .ok rest ↔ cs = '.' :: rest := by
  constructor
  · intro h
    unfold readPoint at h
    split at h
    · cases h
    · cases h
      rfl
    · cases h
  · rintro rfl
    rfl

end Version

/-! ## identifiers -/

namespace Identifier

/-- how an identifier is written: a number with zeros in front, up to its number of digits -/
def chars : Identifier → List Char
  | number n k => List.replicate (k - (Nat.toDigits 10 n).length) '0' ++ Nat.toDigits 10 n
  | word cs => cs

/-- an identifier that may stand in a part of a version; no number of a pre-release has zeros in front -/
def FitsIn (part : VersionPart) : Identifier → Prop
  | number n k => (Nat.toDigits 10 n).length ≤ k ∧ (part = .preRelease → k = (Nat.toDigits 10 n).length)
  | word cs => (∀ c ∈ cs, Version.isIdentifierChar c) ∧ ∃ c ∈ cs, isDigit c = false

variable {part : VersionPart} {i : Identifier}

theorem isDigit_of_mem_chars {n k : Nat} : ∀ c ∈ (number n k).chars, isDigit c := by
  refine List.forall_mem_append.mpr ⟨fun c hc => ?_, fun c => isDigit_of_mem_toDigits⟩
  rw [List.eq_of_mem_replicate hc]
  rfl

theorem isIdentifierChar_of_isDigit {c : Char} (h : isDigit c) : Version.isIdentifierChar c := by
  simp [Version.isIdentifierChar, Char.isAlphanum, isDigit_iff.mp h]

theorem FitsIn.isIdentifierChar (h : i.FitsIn part) : ∀ c ∈ i.chars, Version.isIdentifierChar c := by
  cases i with
  | number n k => exact fun c hc => isIdentifierChar_of_isDigit (isDigit_of_mem_chars c hc)
  | word cs => exact h.1

theorem FitsIn.chars_ne_nil (h : i.FitsIn part) : i.chars ≠ [] := by
  cases i with
  | number n k => exact List.append_ne_nil_of_right_ne_nil _ Nat.toDigits_ne_nil
  | word cs =>
    obtain ⟨-, c, hc, -⟩ := h
    exact List.ne_nil_of_mem hc

theorem FitsIn.ne_zero_cons_cons (h : i.FitsIn .preRelease) (hdigits : ∀ c ∈ i.chars, isDigit c) (c : Char)
    (rest : List Char) : i.chars ≠ '0' :: c :: rest := by
  cases i with
  | number n k =>
    rw [chars, h.2 rfl, Nat.sub_self, List.replicate_zero, List.nil_append]
    exact toDigits_ne_zero_cons_cons n c rest
  | word cs =>
    obtain ⟨-, d, hd, hdigit⟩ := h
    cases hdigit.symm.trans (hdigits d hd)

theorem FitsIn.identifierOf_chars (h : i.FitsIn part) : Version.identifierOf i.chars = i := by
  unfold Version.identifierOf
  cases i with
  | number n k =>
    rw [if_pos (List.all_eq_true.mpr isDigit_of_mem_chars), chars, digitsValue_zeros_append, digitsValue_toDigits,
      List.length_append, List.length_replicate, Nat.sub_add_cancel h.1]
  | word cs =>
    obtain ⟨-, c, hc, hdigit⟩ := h
    refine if_neg fun hall => ?_
    cases hdigit.symm.trans (List.all_eq_true.mp hall c hc)

end Identifier

namespace Version

variable {part : VersionPart}

/-- digits are the number they denote, with as many zeros in front as there are -/
theorem chars_identifierOf {cs : List Char} (hne : cs ≠ []) : (identifierOf cs).chars = cs := by
  unfold identifierOf
  split
  · rename_i hall
    obtain ⟨zeros, hzeros⟩ := exists_eq_zeros_append_toDigits hne (List.all_eq_true.mp hall)
    have hlength := congrArg List.length hzeros
    rw [List.length_append, List.length_replicate] at hlength
    rw [Identifier.chars, hlength, Nat.add_sub_cancel, ← hzeros]
  · rfl

theorem fitsIn_identifierOf {cs : List Char} (hcs : ∀ c ∈ cs, isIdentifierChar c) (hne : cs ≠ [])
    (hzero : part = .preRelease → (∀ c ∈ cs, isDigit c) → ∀ c rest, cs ≠ '0' :: c :: rest) :
    (identifierOf cs).FitsIn part := by
  unfold identifierOf
  split
  · rename_i hall
    have hdigits := List.all_eq_true.mp hall
    obtain ⟨zeros, hzeros⟩ := exists_eq_zeros_append_toDigits hne hdigits
    refine ⟨?_, fun hpart => ?_⟩
    · have hlength := congrArg List.length hzeros
      rw [List.length_append] at hlength
      omega
    · exact congrArg List.length (eq_toDigits_of_ne_zero_cons_cons hne hdigits (hzero hpart hdigits))
  · rename_i hall
    refine ⟨hcs, ?_⟩
    simpa using hall

theorem leadingZero_iff {cs : List Char} :
    1 < cs.length ∧ cs.head? = some '0' ↔ ∃ c rest, cs = '0' :: c :: rest := by
  match cs with
  | [] => simp
  | [c] => simp
  | c :: d :: cs => simp

theorem checkIdentifier_eq_ok_iff {cs : List Char} (hcs : ∀ c ∈ cs, isIdentifierChar c) {i : Identifier} :
    checkIdentifier part cs = .ok i ↔ i.FitsIn part ∧ i.chars = cs := by
  constructor
  · intro h
    unfold checkIdentifier at h
    split at h
    · cases h
    · rename_i hne
      split at h
      · cases h
      · rename_i hzero
        cases h
        refine ⟨fitsIn_identifierOf hcs hne fun hpart hdigits c rest hcons => ?_, chars_identifierOf hne⟩
        exact hzero ⟨hpart, List.all_eq_true.mpr hdigits, leadingZero_iff.mpr ⟨c, rest, hcons⟩⟩
  · rintro ⟨hfits, rfl⟩
    unfold checkIdentifier
    rw [if_neg hfits.chars_ne_nil, if_neg, hfits.identifierOf_chars]
    rintro ⟨rfl, hall, hzero⟩
    obtain ⟨c, rest, hcons⟩ := leadingZero_iff.mp hzero
    exact hfits.ne_zero_cons_cons (List.all_eq_true.mp hall) c rest hcons

theorem checkIdentifiers_eq_ok_iff {items : List (List Char)} (h : ∀ item ∈ items, ∀ c ∈ item, isIdentifierChar c)
    {is : List Identifier} :
    checkIdentifiers part items = .ok is ↔ (∀ i ∈ is, i.FitsIn part) ∧ is.map Identifier.chars = items := by
  induction items generalizing is with
  | nil =>
    rw [checkIdentifiers, List.map_eq_nil_iff]
    constructor
    · rintro ⟨⟩
      exact ⟨List.forall_mem_nil _, rfl⟩
    · rintro ⟨-, rfl⟩
      rfl
  | cons item items ih =>
    obtain ⟨hitem, hitems⟩ := List.forall_mem_cons.mp h
    simp only [checkIdentifiers, except_bind_eq_ok_iff, checkIdentifier_eq_ok_iff hitem, ih hitems]
    constructor
    · rintro ⟨i, ⟨hfits, rfl⟩, is, ⟨hall, rfl⟩, ⟨⟩⟩
      exact ⟨List.forall_mem_cons.mpr ⟨hfits, hall⟩, rfl⟩
    · rintro ⟨hall, hmap⟩
      obtain ⟨i, is, rfl, hi, his⟩ := List.map_eq_cons_iff.mp hmap
      obtain ⟨hfits, hrest⟩ := List.forall_mem_cons.mp hall
      exact ⟨i, ⟨hfits, hi⟩, is, ⟨hrest, his⟩, rfl⟩

/-- the characters of identifiers, and the points between them -/
def isBodyChar (c : Char) : Bool := isIdentifierChar c || c = '.'

/-- how identifiers are written -/
def joinedChars (is : List Identifier) : List Char := ['.'].intercalate (is.map Identifier.chars)

theorem isBodyChar_of_mem_joinedChars {is : List Identifier} (h : ∀ i ∈ is, i.FitsIn part) :
    ∀ c ∈ joinedChars is, isBodyChar c := by
  intro c hc
  by_cases hpoint : c = '.'
  · simp [isBodyChar, hpoint]
  · obtain ⟨item, hitem, hmem⟩ := (mem_intercalate hpoint).mp hc
    obtain ⟨i, hi, rfl⟩ := List.mem_map.mp hitem
    simp [isBodyChar, (h i hi).isIdentifierChar c hmem]

theorem pieces_joinedChars {is : List Identifier} (hne : is ≠ []) (h : ∀ i ∈ is, i.FitsIn part) :
    pieces '.' (joinedChars is) = is.map Identifier.chars := by
  refine pieces_intercalate (List.map_eq_nil_iff.not.mpr hne) fun item hitem hmem => ?_
  obtain ⟨i, hi, rfl⟩ := List.mem_map.mp hitem
  exact absurd ((h i hi).isIdentifierChar '.' hmem) (by decide)

theorem isIdentifierChar_of_mem_pieces {body : List Char} (h : ∀ c ∈ body, isBodyChar c) :
    ∀ item ∈ pieces '.' body, ∀ c ∈ item, isIdentifierChar c := by
  intro item hitem c hc
  have hbody := h c (mem_of_mem_pieces hitem hc)
  have hpoint : c ≠ '.' := ne_of_mem_of_not_mem hc (not_mem_of_mem_pieces hitem)
  simpa [isBodyChar, hpoint] using hbody

theorem readIdentifiers_eq_ok_iff_pieces {cs rest : List Char} {is : List Identifier} :
    readIdentifiers part cs = .ok (is, rest) ↔
      checkIdentifiers part (pieces '.' (cs.takeWhile isBodyChar)) = .ok is ∧ cs.dropWhile isBodyChar = rest := by
  have hbody : (fun c => isIdentifierChar c || decide (c = '.')) = isBodyChar := rfl
  simp only [readIdentifiers, hbody, drop_length_takeWhile]
  cases checkIdentifiers part (pieces '.' (cs.takeWhile isBodyChar)) <;> simp

/-- at least one identifier is read, and all there are -/
theorem readIdentifiers_eq_ok_iff {cs rest : List Char} {is : List Identifier} :
    readIdentifiers part cs = .ok (is, rest) ↔
      is ≠ [] ∧ (∀ i ∈ is, i.FitsIn part) ∧ cs = joinedChars is ++ rest ∧ Stops isBodyChar rest := by
  have hbody : ∀ c ∈ cs.takeWhile isBodyChar, isBodyChar c := fun c => List.mem_takeWhile_imp
  rw [readIdentifiers_eq_ok_iff_pieces, checkIdentifiers_eq_ok_iff (isIdentifierChar_of_mem_pieces hbody)]
  constructor
  · rintro ⟨⟨hfits, hpieces⟩, rfl⟩
    refine ⟨?_, hfits, ?_, stops_dropWhile isBodyChar cs⟩
    · rintro rfl
      exact pieces_ne_nil '.' _ hpieces.symm
    · rw [joinedChars, hpieces, intercalate_pieces, List.takeWhile_append_dropWhile]
  · rintro ⟨hne, hfits, rfl, hrest⟩
    have hjoined := isBodyChar_of_mem_joinedChars hfits
    rw [takeWhile_append_of_stops hjoined hrest, dropWhile_append_of_stops hjoined hrest]
    exact ⟨⟨hfits, (pieces_joinedChars hne hfits).symm⟩, rfl⟩

/-- identifiers behind their mark, if there are any -/
def markedChars (mark : Char) (is : List Identifier) : List Char := if is = [] then [] else mark :: joinedChars is

/-- what follows such identifiers is neither one of them nor, if there are none, their mark -/
def EndsMarked (mark : Char) (is : List Identifier) (rest : List Char) : Prop :=
  if is = [] then Stops (· = mark) rest else Stops isBodyChar rest

theorem stops_markedChars_append {p : Char → Bool} {mark : Char} (h : p mark = false) (is : List Identifier)
    {rest : List Char} (hrest : Stops p rest) : Stops p (markedChars mark is ++ rest) := by
  unfold markedChars
  split
  · exact hrest
  · exact stops_cons.mpr h

theorem endsMarked_of_stops {mark : Char} {rest : List Char} (hmark : Stops (· = mark) rest)
    (hbody : Stops isBodyChar rest) (is : List Identifier) : EndsMarked mark is rest := by
  unfold EndsMarked
  split
  · exact hmark
  · exact hbody

theorem readMarked_eq_ok_iff {mark : Char} {cs rest : List Char} {is : List Identifier} :
    readMarked part mark cs = .ok (is, rest) ↔
      (∀ i ∈ is, i.FitsIn part) ∧ cs = markedChars mark is ++ rest ∧ EndsMarked mark is rest := by
  by_cases hmark : ∃ tail, cs = mark :: tail
  · obtain ⟨tail, rfl⟩ := hmark
    rw [readMarked, if_pos rfl, readIdentifiers_eq_ok_iff]
    by_cases his : is = []
    · -- the mark itself would be left, which nothing that ends without identifiers leaves
      subst his
      simp only [ne_eq, not_true_eq_false, false_and, markedChars, EndsMarked, if_true, List.nil_append, false_iff]
      rintro ⟨-, rfl, hstops⟩
      simp [stops_cons] at hstops
    · simp [his, markedChars, EndsMarked]
  · have hread : readMarked part mark cs = .ok ([], cs) := by
      cases cs with
      | nil => rfl
      | cons c cs =>
        refine if_neg ?_
        rintro rfl
        exact hmark ⟨cs, rfl⟩
    rw [hread]
    constructor
    · rintro ⟨⟩
      refine ⟨List.forall_mem_nil _, rfl, ?_⟩
      intro c hc
      obtain ⟨tail, rfl⟩ := List.head?_eq_some_iff.mp hc
      exact decide_eq_false fun heq => hmark ⟨tail, by rw [heq]⟩
    · rintro ⟨-, hcs, -⟩
      by_cases his : is = []
      · subst his
        rw [hcs]
        rfl
      · rw [markedChars, if_neg his, List.cons_append] at hcs
        exact absurd ⟨_, hcs⟩ hmark

/-! ## versions -/

/-- how a version is written -/
def chars (v : Version) : List Char :=
  Nat.toDigits 10 v.major ++ '.' :: (Nat.toDigits 10 v.minor ++ '.' :: (Nat.toDigits 10 v.patch ++
    (markedChars '-' v.preRelease ++ markedChars '+' v.build)))

/-- a version that a text can hold -/
structure IsWritable (v : Version) : Prop where
  major : v.major ≤ numberLimit
  minor : v.minor ≤ numberLimit
  patch : v.patch ≤ numberLimit
  preRelease : ∀ i ∈ v.preRelease, i.FitsIn .preRelease
  build : ∀ i ∈ v.build, i.FitsIn .build

theorem ofChars?_eq_ok_iff_parts {cs : List Char} {v : Version} :
    ofChars? cs = .ok v ↔ ∃ r₁ r₂ r₃ r₄ r₅ r₆,
      readPart .major cs = .ok (v.major, r₁) ∧ readPoint .major r₁ = .ok r₂ ∧
      readPart .minor r₂ = .ok (v.minor, r₃) ∧ readPoint .minor r₃ = .ok r₄ ∧
      readPart .patch r₄ = .ok (v.patch, r₅) ∧
      readMarked .preRelease '-' r₅ = .ok (v.preRelease, r₆) ∧ readMarked .build '+' r₆ = .ok (v.build, []) := by
  unfold ofChars?
  by_cases hcs : cs = []
  · subst hcs
    constructor
    · rintro ⟨⟩
    · rintro ⟨r₁, r₂, r₃, r₄, r₅, r₆, h₁, -⟩
      cases h₁
  · rw [if_neg hcs]
    simp only [except_bind_eq_ok_iff, Prod.exists]
    constructor
    · rintro ⟨major, r₁, h₁, r₂, h₂, minor, r₃, h₃, r₄, h₄, patch, r₅, h₅, preRelease, r₆, h₆, build, r₇, h₇, hend⟩
      cases r₇ with
      | nil =>
        cases hend
        exact ⟨r₁, r₂, r₃, r₄, r₅, r₆, h₁, h₂, h₃, h₄, h₅, h₆, h₇⟩
      | cons c tail => cases hend
    · rintro ⟨r₁, r₂, r₃, r₄, r₅, r₆, h₁, h₂, h₃, h₄, h₅, h₆, h₇⟩
      exact ⟨_, r₁, h₁, r₂, h₂, _, r₃, h₃, r₄, h₄, _, r₅, h₅, _, r₆, h₆, _, [], h₇, rfl⟩

/-- **A text is read as the version it is written for, and no other text is.** -/
theorem ofChars?_eq_ok_iff {cs : List Char} {v : Version} : ofChars? cs = .ok v ↔ v.IsWritable ∧ cs = v.chars := by
  rw [ofChars?_eq_ok_iff_parts]
  simp only [readPart_eq_ok_iff, readPoint_eq_ok_iff, readMarked_eq_ok_iff, List.append_nil]
  constructor
  · rintro ⟨r₁, r₂, r₃, r₄, r₅, r₆, ⟨hmajor, rfl, -⟩, rfl, ⟨hminor, rfl, -⟩, rfl, ⟨hpatch, rfl, -⟩, ⟨hpre, rfl, -⟩,
      ⟨hbuild, rfl, -⟩⟩
    exact ⟨⟨hmajor, hminor, hpatch, hpre, hbuild⟩, rfl⟩
  · rintro ⟨⟨hmajor, hminor, hpatch, hpre, hbuild⟩, rfl⟩
    -- each part ends where the next one begins, with a point, a mark or the end of the text
    have hstops (p : Char → Bool) (hp : p '+' = false) : Stops p (markedChars '+' v.build) :=
      List.append_nil (markedChars '+' v.build) ▸ stops_markedChars_append hp v.build (stops_nil p)
    exact ⟨_, _, _, _, _, _, ⟨hmajor, rfl, stops_cons.mpr rfl⟩, rfl, ⟨hminor, rfl, stops_cons.mpr rfl⟩, rfl,
      ⟨hpatch, rfl, stops_markedChars_append rfl _ (hstops _ rfl)⟩,
      ⟨hpre, rfl, endsMarked_of_stops (hstops _ rfl) (hstops _ (by decide)) _⟩,
      ⟨hbuild, rfl, endsMarked_of_stops (stops_nil _) (stops_nil _) _⟩⟩

theorem exists_cons_chars (v : Version) : ∃ c cs, v.chars = c :: cs ∧ isDigit c := by
  obtain ⟨d, ds, hcons, hd⟩ := exists_cons_toDigits v.major
  exact ⟨d, _, by rw [chars, hcons, List.cons_append], hd⟩

end Version

/-- any number of the letter v may stand before a version -/
theorem readRelease_eq_ok_iff {text : String} {v : Version} :
    readRelease text = .ok v ↔ v.IsWritable ∧ ∃ marks, text.toList = List.replicate marks 'v' ++ v.chars := by
  have hread : readRelease text = .ok v ↔ Version.ofChars? (text.toList.dropWhile (· == 'v')) = .ok v := by
    unfold readRelease
    cases Version.ofChars? (text.toList.dropWhile (· == 'v')) <;> simp
  rw [hread, Version.ofChars?_eq_ok_iff]
  refine and_congr_right fun _ => ⟨fun hdrop => ?_, ?_⟩
  · have hmarks : ∀ c ∈ text.toList.takeWhile (· == 'v'), c = 'v' := by
      intro c hc
      have hmark : (c == 'v') = true := (List.mem_takeWhile_imp hc :)
      exact beq_iff_eq.mp hmark
    refine ⟨(text.toList.takeWhile (· == 'v')).length, ?_⟩
    rw [← List.eq_replicate_of_mem hmarks, ← hdrop, List.takeWhile_append_dropWhile]
  · rintro ⟨marks, htext⟩
    have hmarks : ∀ c ∈ List.replicate marks 'v', c == 'v' := fun c hc => beq_iff_eq.mpr (List.eq_of_mem_replicate hc)
    obtain ⟨c, cs, hcons, hc⟩ := v.exists_cons_chars
    have hstops : Stops (· == 'v') v.chars := by
      rw [hcons, stops_cons]
      refine beq_eq_false_iff_ne.mpr ?_
      rintro rfl
      cases hc
    rw [htext, dropWhile_append_of_stops hmarks hstops]

end TunnelControl
