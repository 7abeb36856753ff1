import TunnelControl.Update.Version

/-!
# Which of two versions is the earlier

`Version.compare` and `Identifier.compare` look at one rank after the other, and so are linear orders.

* `Identifier.compare_eq_ranks`, `Version.compare_eq_ranks`   the ranks;
* `Identifier.Precedes`, `Version.Precedes`   the rules by which one precedes another, and
* `Identifier.compare_eq_lt_iff`, `Version.lt_iff_precedes`   that the comparisons follow them.
-/

namespace TunnelControl

open Std

/-! ## lists -/

theorem compareLex_eq_lt_iff {α : Type} {cmp : α → α → Ordering} [LawfulEqCmp cmp] {xs ys : List α} :
    List.compareLex cmp xs ys = .lt ↔ List.Lex (fun x y => cmp x y = .lt) xs ys := by
  induction xs generalizing ys with
  | nil => cases ys <;> simp [List.compareLex_nil_nil, List.compareLex_nil_cons]
  | cons x xs ih =>
    cases ys with
    | nil => simp [List.compareLex_cons_nil]
    | cons y ys =>
      rw [List.compareLex_cons_cons, Ordering.then_eq_lt, ih, LawfulEqCmp.compare_eq_iff_eq, List.cons_lex_cons_iff]

theorem compare_list_eq_lt {α : Type} [Ord α] [LawfulEqOrd α] [LT α]
    (h : ∀ {x y : α}, Ord.compare x y = .lt ↔ x < y) {xs ys : List α} : Ord.compare xs ys = .lt ↔ xs < ys := by
  rw [List.compare_eq_compareLex, compareLex_eq_lt_iff]
  simp only [h]
  exact Iff.rfl

/-! ## characters -/

theorem compare_toNat (c d : Char) : Ord.compare c.toNat d.toNat = Ord.compare c d := by
  have hlt : c.toNat < d.toNat ↔ c < d := UInt32.lt_iff_toNat_lt.symm
  change compareOfLessAndEq c.toNat d.toNat = compareOfLessAndEq c d
  simp only [compareOfLessAndEq, hlt, Char.toNat_inj]

theorem compare_chars_eq_lt {cs ds : List Char} : Ord.compare cs ds = .lt ↔ cs < ds :=
  compare_list_eq_lt compareOfLessAndEq_eq_lt

/-! ## identifiers -/

namespace Identifier

variable {i j : Identifier}

/-- numbers come before words -/
def kind : Identifier → Nat
  | number _ _ => 0
  | word _ => 1

def value : Identifier → Nat
  | number n _ => n
  | word _ => 0

def digits : Identifier → Nat
  | number _ k => k
  | word _ => 0

def letters : Identifier → List Char
  | number _ _ => []
  | word cs => cs

theorem compareWords_eq (cs ds : List Char) : compare.compareWords cs ds = Ord.compare cs ds := by
  rw [List.compare_eq_compareLex]
  induction cs generalizing ds with
  | nil => cases ds <;> rfl
  | cons c cs ih =>
    cases ds with
    | nil => rfl
    | cons d ds => rw [compare.compareWords, ih, compare_toNat, List.compareLex_cons_cons]

theorem compare_eq_ranks : Identifier.compare =
    compareLex (compareOn kind) (compareLex (compareOn value) (compareLex (compareOn digits) (compareOn letters))) := by
  funext i j
  cases i with
  | number m k =>
    cases j with
    | number n l => exact congrArg (Ord.compare m n).then Ordering.then_eq.symm
    | word ds => rfl
  | word cs =>
    cases j with
    | number n l => rfl
    | word ds => exact compareWords_eq cs ds

theorem ext_ranks (hkind : i.kind = j.kind) (hvalue : i.value = j.value) (hdigits : i.digits = j.digits)
    (hletters : i.letters = j.letters) : i = j := by
  cases i with
  | number m k =>
    cases j with
    | number n l =>
      cases hvalue
      cases hdigits
      rfl
    | word ds => cases hkind
  | word cs =>
    cases j with
    | number n l => cases hkind
    | word ds =>
      cases hletters
      rfl

instance : Ord Identifier := ⟨Identifier.compare⟩

instance : TransOrd Identifier := by
  show TransCmp Identifier.compare
  rw [compare_eq_ranks]
  infer_instance

instance : LawfulEqOrd Identifier where
  eq_of_compare {i j} h := by
    change i.compare j = .eq at h
    simp only [compare_eq_ranks, compareLex_eq_eq, compareOn, LawfulEqOrd.compare_eq_iff_eq] at h
    exact ext_ranks h.1 h.2.1 h.2.2.1 h.2.2.2

/-- the rules for two identifiers -/
inductive Precedes : Identifier → Identifier → Prop
  /-- the smaller number -/
  | value {m n j k : Nat} (h : m < n) : Precedes (number m j) (number n k)
  /-- of one number the shorter spelling -/
  | digits {n j k : Nat} (h : j < k) : Precedes (number n j) (number n k)
  /-- a number and a word -/
  | kind (n k : Nat) (cs : List Char) : Precedes (number n k) (word cs)
  /-- the word that comes first in a dictionary -/
  | letters {cs ds : List Char} (h : cs < ds) : Precedes (word cs) (word ds)

theorem compare_eq_lt_iff : Ord.compare i j = .lt ↔ i.Precedes j := by
  change i.compare j = .lt ↔ _
  cases i with
  | number m k =>
    cases j with
    | number n l =>
      rw [Identifier.compare, Ordering.then_eq_lt, Nat.compare_eq_lt, Nat.compare_eq_lt, LawfulEqOrd.compare_eq_iff_eq]
      constructor
      · rintro (hvalue | ⟨rfl, hdigits⟩)
        · exact .value hvalue
        · exact .digits hdigits
      · rintro (hvalue | hdigits)
        · exact .inl hvalue
        · exact .inr ⟨rfl, hdigits⟩
    | word ds => exact iff_of_true rfl (.kind m k ds)
  | word cs =>
    cases j with
    | number n l => exact iff_of_false (fun h => nomatch h) (fun h => nomatch h)
    | word ds =>
      rw [Identifier.compare, compareWords_eq, compare_chars_eq_lt]
      constructor
      · exact .letters
      · rintro (_ | _ | _ | hletters)
        exact hletters

end Identifier

namespace Version

variable {v w : Version}

def numbers (v : Version) : List Nat := [v.major, v.minor, v.patch]

theorem compare_numbers (v w : Version) : Ord.compare v.numbers w.numbers =
    (Ord.compare v.major w.major).then ((Ord.compare v.minor w.minor).then (Ord.compare v.patch w.patch)) := by
  rw [List.compare_eq_compareLex, numbers, numbers, List.compareLex_cons_cons, List.compareLex_cons_cons,
    List.compareLex_cons_cons, List.compareLex_nil_nil, Ordering.then_eq]

theorem compareIdentifiers_eq (is js : List Identifier) : compareIdentifiers is js = Ord.compare is js := by
  rw [List.compare_eq_compareLex]
  induction is generalizing js with
  | nil => cases js <;> rfl
  | cons i is ih =>
    cases js with
    | nil => rfl
    | cons j js =>
      rw [compareIdentifiers, ih, List.compareLex_cons_cons]
      rfl

/-- versions that are no pre-releases come behind those that are -/
def isRelease (v : Version) : Bool := v.preRelease.isEmpty

theorem comparePreReleases_eq (is js : List Identifier) :
    comparePreReleases is js = (Ord.compare is.isEmpty js.isEmpty).then (Ord.compare is js) := by
  cases is with
  | nil => cases js <;> rfl
  | cons i is =>
    cases js with
    | nil => rfl
    | cons j js => exact compareIdentifiers_eq (i :: is) (j :: js)

theorem compare_eq_ranks : Version.compare =
    compareLex (compareOn numbers)
      (compareLex (compareLex (compareOn isRelease) (compareOn preRelease)) (compareOn build)) := by
  funext v w
  rw [Version.compare, comparePreReleases_eq, compareIdentifiers_eq, ← Ordering.then_assoc, ← Ordering.then_assoc,
    Ordering.then_assoc (Ord.compare v.major w.major), ← compare_numbers]
  rfl

instance : Ord Version := ⟨Version.compare⟩

instance : TransOrd Version := by
  show TransCmp Version.compare
  rw [compare_eq_ranks]
  infer_instance

instance : LawfulEqOrd Version where
  eq_of_compare {v w} h := by
    change v.compare w = .eq at h
    simp only [compare_eq_ranks, compareLex_eq_eq, compareOn, LawfulEqOrd.compare_eq_iff_eq] at h
    obtain ⟨hnumbers, ⟨-, hpreRelease⟩, hbuild⟩ := h
    cases v
    cases w
    simp_all [numbers]

/-- the rules for what may mark a pre-release: a release has no identifiers -/
def MarksEarlier (is js : List Identifier) : Prop := is ≠ [] ∧ (js = [] ∨ List.Lex Identifier.Precedes is js)

/-- the rules for two versions -/
inductive Precedes (v w : Version) : Prop
  | numbers (h : v.numbers < w.numbers)
  | preRelease (hnumbers : v.numbers = w.numbers) (h : MarksEarlier v.preRelease w.preRelease)
  | build (hnumbers : v.numbers = w.numbers) (hpreRelease : v.preRelease = w.preRelease)
      (h : List.Lex Identifier.Precedes v.build w.build)

theorem compare_identifiers_eq_lt {is js : List Identifier} :
    Ord.compare is js = .lt ↔ List.Lex Identifier.Precedes is js := by
  rw [List.compare_eq_compareLex, compareLex_eq_lt_iff]
  simp only [Identifier.compare_eq_lt_iff]

theorem comparePreReleases_eq_lt {is js : List Identifier} : comparePreReleases is js = .lt ↔ MarksEarlier is js := by
  rw [comparePreReleases_eq, Ordering.then_eq_lt, LawfulEqOrd.compare_eq_iff_eq, compare_identifiers_eq_lt]
  have hflags : Ord.compare false true = .lt := rfl
  cases is <;> cases js <;> simp [MarksEarlier, hflags]

theorem comparePreReleases_eq_eq {is js : List Identifier} : comparePreReleases is js = .eq ↔ is = js := by
  rw [comparePreReleases_eq, Ordering.then_eq_eq, LawfulEqOrd.compare_eq_iff_eq, LawfulEqOrd.compare_eq_iff_eq]
  exact and_iff_right_of_imp (congrArg List.isEmpty)

theorem compare_eq_lt_iff : Ord.compare v w = .lt ↔ v.Precedes w := by
  change v.compare w = .lt ↔ _
  simp only [compare_eq_ranks, compareLex, compareOn, isRelease, ← comparePreReleases_eq, Ordering.then_eq_lt,
    compare_list_eq_lt Nat.compare_eq_lt, LawfulEqOrd.compare_eq_iff_eq, comparePreReleases_eq_lt,
    comparePreReleases_eq_eq, compare_identifiers_eq_lt]
  constructor
  · rintro (h | ⟨hnumbers, h | ⟨hpreRelease, h⟩⟩)
    · exact .numbers h
    · exact .preRelease hnumbers h
    · exact .build hnumbers hpreRelease h
  · rintro (h | ⟨hnumbers, h⟩ | ⟨hnumbers, hpreRelease, h⟩)
    · exact .inl h
    · exact .inr ⟨hnumbers, .inl h⟩
    · exact .inr ⟨hnumbers, .inr ⟨hpreRelease, h⟩⟩

/-- **The order of versions follows the rules.** -/
theorem lt_iff_precedes : v.lt w ↔ v.Precedes w := by
  rw [lt, decide_eq_true_eq]
  exact compare_eq_lt_iff

instance : Decidable (v.Precedes w) := decidable_of_iff _ lt_iff_precedes

theorem not_precedes_self (v : Version) : ¬ v.Precedes v := by
  rw [← compare_eq_lt_iff, ReflOrd.compare_self]
  exact fun h => nomatch h

theorem Precedes.trans {u : Version} (huv : u.Precedes v) (hvw : v.Precedes w) : u.Precedes w := by
  rw [← compare_eq_lt_iff] at huv hvw ⊢
  exact TransCmp.lt_trans huv hvw

/-- of two different versions one precedes the other -/
theorem eq_of_not_precedes (hvw : ¬ v.Precedes w) (hwv : ¬ w.Precedes v) : v = w := by
  rw [← compare_eq_lt_iff] at hvw hwv
  refine LawfulEqOrd.eq_of_compare ?_
  cases hcompare : Ord.compare v w with
  | lt => exact absurd hcompare hvw
  | eq => rfl
  | gt => exact absurd (OrientedCmp.lt_of_gt hcompare) hwv

end Version

end TunnelControl
