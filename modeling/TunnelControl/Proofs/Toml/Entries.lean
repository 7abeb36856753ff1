import TunnelControl.Proofs.Toml.Numbers
import TunnelControl.Proofs.Toml.Texts

/-!
# Written values are read back

`Writes ws v` says that characters are read as a value, from the first of them up to the end of the line.

* `readItems_itemLines`   the items of a list, each on its line;
* `writes_text`, `writes_bool`, `writes_number`, `writes_numbers`   what is written for each kind of value.
-/

namespace TunnelControl.Toml

/-! ## which reader takes the characters -/

theorem exists_mark_of_readText {cs : List Char} {r : List Char × List Char} (h : readText cs = some r) :
    ∃ mark tail, cs = mark :: tail ∧ (mark = '"' ∨ mark = '\'') := by
  unfold readText readLineText at h
  split at h
  · exact ⟨_, _, rfl, .inl rfl⟩
  · exact ⟨_, _, rfl, .inr rfl⟩
  · split at h
    · exact ⟨_, _, rfl, .inl rfl⟩
    · exact ⟨_, _, rfl, .inr rfl⟩
    · cases h

theorem readText_digits (n : Nat) (tail : List Char) : readText (Nat.toDigits 10 n ++ tail) = none := by
  cases h : readText (Nat.toDigits 10 n ++ tail) with
  | none => rfl
  | some r =>
    obtain ⟨mark, cs, hcs, hmark⟩ := exists_mark_of_readText h
    refine absurd hcs (digits_ne_cons n ?_ tail cs)
    rcases hmark with rfl | rfl <;> rfl

theorem readValue_digits {n : Nat} (h : (n : Int) ≤ integerMax) {t : Char} (ht : isStop t) (fuel depth : Nat)
    (rest : List Char) :
    readValue (fuel + 1) depth (Nat.toDigits 10 n ++ t :: rest) = some (integer n, t :: rest) := by
  rw [readValue, readText_digits, readNumber_digits ht rest h]
  · exact fun _ => digits_ne_cons n rfl _ _
  · exact fun _ => digits_ne_cons n rfl _ _
  · exact fun _ => digits_ne_cons n rfl _ _
  · exact fun _ => digits_ne_cons n rfl _ _

/-! ## items of a list -/

/-- the lines of the items of a list -/
def itemLines (ns : List Nat) : List Char :=
  ns.flatMap fun n => [' ', ' ', ' ', ' '] ++ Nat.toDigits 10 n ++ [',', '\n']

theorem ne_of_isDigit {c d : Char} (hd : isDigit d) (hc : isDigit c = false) : d ≠ c := fun h => by
  rw [h, hc] at hd
  cases hd

theorem isSpace_of_isDigit {d : Char} (hd : isDigit d) : isSpace d = false := by
  simp [isSpace, ne_of_isDigit hd (c := ' ') rfl, ne_of_isDigit hd (c := '\t') rfl]

theorem skipLines_digits (n : Nat) (tail : List Char) :
    skipLines false (Nat.toDigits 10 n ++ tail) = Nat.toDigits 10 n ++ tail := by
  obtain ⟨d, ds, hcons, hd⟩ := exists_cons_toDigits n
  rw [hcons, List.cons_append, skipLines]
  · simp [isSpace_of_isDigit hd, ne_of_isDigit hd (c := '#') rfl]
  · exact ne_of_isDigit hd rfl
  · exact fun _ hc => absurd hc (ne_of_isDigit hd rfl)

theorem readItems_lineEnd (fuel depth : Nat) (cs : List Char) :
    readItems fuel depth ('\n' :: cs) = readItems fuel depth cs := by
  cases fuel with
  | zero => rw [readItems, readItems]
  | succ fuel => rw [readItems, readItems, skipLines]

/-- an item is read, and what stands behind it decides how the list goes on -/
theorem readItems_digits {n : Nat} (h : (n : Int) ≤ integerMax) {t : Char} (ht : isStop t) (fuel depth : Nat)
    {cs rest : List Char} (hcs : skipLines false cs = Nat.toDigits 10 n ++ t :: rest) :
    readItems (fuel + 2) depth cs =
      (match skipLines false (t :: rest) with
      | ',' :: rest => do
        let (vs, rest) ← readItems (fuel + 1) depth rest
        some (integer n :: vs, rest)
      | ']' :: rest => some ([integer n], rest)
      | _ => none) := by
  rw [readItems, hcs]
  split
  · rename_i hhead
    exact absurd hhead (digits_ne_cons n rfl _ _)
  · rw [readValue_digits h ht]
    rfl

theorem readItems_itemLines {ns : List Nat} (hns : ∀ n ∈ ns, (n : Int) ≤ integerMax) {fuel : Nat}
    (hfuel : ns.length < fuel) (depth : Nat) (tail : List Char) :
    readItems fuel depth (itemLines ns ++ ']' :: tail) = some (ns.map fun (n : Nat) => integer n, tail) := by
  induction ns generalizing fuel with
  | nil =>
    obtain ⟨fuel, rfl⟩ := Nat.exists_eq_add_one.mpr hfuel
    rfl
  | cons n ns ih =>
    obtain ⟨hn, hns⟩ := List.forall_mem_cons.mp hns
    obtain ⟨fuel, rfl⟩ : ∃ f, fuel = f + 2 := ⟨fuel - 2, by simp at hfuel; omega⟩
    have hskip : skipLines false (itemLines (n :: ns) ++ ']' :: tail) =
        Nat.toDigits 10 n ++ ',' :: '\n' :: (itemLines ns ++ ']' :: tail) := by
      simp only [itemLines, List.flatMap_cons, List.append_assoc]
      exact skipLines_digits n _
    rw [readItems_digits hn rfl fuel depth hskip]
    have hrest := readItems_lineEnd (fuel + 1) depth (itemLines ns ++ ']' :: tail)
    rw [ih hns (by simp at hfuel; omega)] at hrest
    exact congrArg (Option.bind · _) hrest

theorem length_le_length_itemLines (ns : List Nat) : ns.length ≤ (itemLines ns).length := by
  induction ns with
  | nil => exact Nat.le_refl 0
  | cons n ns ih =>
    simp only [itemLines, List.flatMap_cons, List.length_append, List.length_cons] at ih ⊢
    omega

/-! ## written values -/

/-- the characters are read as the value, from the first of them up to the end of the line -/
structure Writes (ws : List Char) (v : Toml) : Prop where
  read {fuel : Nat} (h : ws.length < fuel) (depth : Nat) (rest : List Char) :
    readValue fuel (depth + 1) (ws ++ '\n' :: rest) = some (v, '\n' :: rest)
  begins : ∃ c cs, ws = c :: cs ∧ isSpace c = false

theorem writes_text (s : String) : Writes (writeText s).toList (text s) where
  read {fuel} h depth rest := by
    obtain ⟨fuel, rfl⟩ := Nat.exists_eq_add_one.mpr (Nat.zero_lt_of_lt h)
    have hread := readText_writeText s rest
    obtain ⟨mark, tail, hcs, hmark⟩ := exists_mark_of_readText hread
    rw [readValue]
    · rw [hread]
      simp
    all_goals
      intro cs hhead
      rw [hcs] at hhead
      rcases hmark with rfl | rfl <;> cases hhead
  begins := by
    obtain ⟨mark, tail, hcs, hmark⟩ := exists_mark_of_readText (readText_writeText s [])
    cases hws : (writeText s).toList with
    | nil =>
      rw [hws] at hcs
      rcases hmark with rfl | rfl <;> cases hcs
    | cons c cs =>
      rw [hws] at hcs
      refine ⟨c, cs, rfl, ?_⟩
      rcases hmark with rfl | rfl <;> (cases hcs; rfl)

theorem writes_bool (b : Bool) : Writes (writeBool b).toList (boolean b) where
  read {fuel} h depth rest := by
    obtain ⟨fuel, rfl⟩ := Nat.exists_eq_add_one.mpr (Nat.zero_lt_of_lt h)
    cases b <;> rfl
  begins := by cases b <;> exact ⟨_, _, rfl, rfl⟩

theorem writes_number {n : Nat} (h : (n : Int) ≤ integerMax) : Writes (Nat.toDigits 10 n) (integer n) where
  read {fuel} hfuel depth rest := by
    obtain ⟨fuel, rfl⟩ := Nat.exists_eq_add_one.mpr (Nat.zero_lt_of_lt hfuel)
    exact readValue_digits h rfl fuel (depth + 1) rest
  begins := by
    obtain ⟨d, ds, hcons, hd⟩ := exists_cons_toDigits n
    exact ⟨d, ds, hcons, isSpace_of_isDigit hd⟩

theorem toList_writeNumbers_one (n : Nat) : (writeNumbers [n]).toList = '[' :: Nat.toDigits 10 n ++ [']'] := by
  simp [writeNumbers, ToString.toString]

theorem toList_writeNumbers_more (n m : Nat) (ns : List Nat) :
    (writeNumbers (n :: m :: ns)).toList = '[' :: '\n' :: itemLines (n :: m :: ns) ++ [']'] := by
  simp [writeNumbers, ToString.toString, itemLines, List.flatMap_map]

theorem writes_numbers {ns : List Nat} (h : ∀ n ∈ ns, (n : Int) ≤ integerMax) :
    Writes (writeNumbers ns).toList (array (ns.map fun (n : Nat) => integer n)) where
  read {fuel} hfuel depth rest := by
    rcases ns with _ | ⟨n, _ | ⟨m, ns⟩⟩
    · obtain ⟨fuel, rfl⟩ : ∃ f, fuel = f + 2 := Nat.exists_eq_add_of_le' (Nat.le_of_lt hfuel)
      rfl
    · rw [toList_writeNumbers_one] at hfuel ⊢
      obtain ⟨fuel, rfl⟩ : ∃ f, fuel = f + 3 := Nat.exists_eq_add_of_le' (by simp at hfuel; omega)
      have hitem := skipLines_digits n (']' :: '\n' :: rest)
      have hitems := readItems_digits (h n List.mem_cons_self) rfl fuel depth hitem
      simp only [List.cons_append, List.append_assoc, List.nil_append, readValue, hitems]
      rfl
    · rw [toList_writeNumbers_more] at hfuel ⊢
      have hlength := length_le_length_itemLines (n :: m :: ns)
      simp only [List.length_append, List.length_cons, List.length_nil] at hfuel hlength
      obtain ⟨fuel, rfl⟩ := Nat.exists_eq_add_one.mpr (Nat.zero_lt_of_lt hfuel)
      have hshort : (n :: m :: ns).length < fuel := by
        simp only [List.length_cons]
        omega
      have hitems := readItems_itemLines h hshort depth ('\n' :: rest)
      rw [← readItems_lineEnd] at hitems
      simp only [List.cons_append, List.append_assoc, List.nil_append, readValue, hitems]
      rfl
  begins := by
    rcases ns with _ | ⟨n, _ | ⟨m, ns⟩⟩
    · exact ⟨_, _, rfl, rfl⟩
    · exact ⟨_, _, toList_writeNumbers_one n, rfl⟩
    · exact ⟨_, _, toList_writeNumbers_more n m ns, rfl⟩

end TunnelControl.Toml
