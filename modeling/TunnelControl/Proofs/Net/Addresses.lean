import TunnelControl.Net.Address
import TunnelControl.Proofs.Text.Decimal
import TunnelControl.Proofs.Text.Split

/-!
# The grammar of network addresses

What a text of an address is made of, and that the texts that are accepted are those.

* `QuadText cs`            four decimal numbers up to 255, without leading zeros, between points;
* `GroupsText quad n cs`   `n` groups of hexadecimal digits between colons, the last two perhaps as such a quad;
* `AddressText cs`         a quad, eight groups, or up to seven with a pair of colons in the place of the others;
* `isAddress_iff`          these are the texts that are addresses.
-/

namespace TunnelControl

/-! ## the grammar -/

/-- four numbers up to 255 between points -/
def QuadText (cs : List Char) : Prop :=
  ∃ a b c d : Nat, (a ≤ 255 ∧ b ≤ 255 ∧ c ≤ 255 ∧ d ≤ 255) ∧
    cs = Nat.toDigits 10 a ++ '.' :: (Nat.toDigits 10 b ++ '.' :: (Nat.toDigits 10 c ++ '.' :: Nat.toDigits 10 d))

def IsHexDigit (c : Char) : Prop := ('0' ≤ c ∧ c ≤ '9') ∨ ('a' ≤ c ∧ c ≤ 'f') ∨ ('A' ≤ c ∧ c ≤ 'F')

/-- one to four hexadecimal digits -/
structure GroupText (cs : List Char) : Prop where
  one_le : 1 ≤ cs.length
  le_four : cs.length ≤ 4
  digits : ∀ c ∈ cs, IsHexDigit c

/-- so many groups between colons; a quad stands for the last two, where it is allowed -/
inductive GroupsText (quad : Bool) : Nat → List Char → Prop
  | group {cs : List Char} (h : GroupText cs) : GroupsText quad 1 cs
  | quad {cs : List Char} (hquad : quad = true) (h : QuadText cs) : GroupsText quad 2 cs
  | more {n : Nat} {cs rest : List Char} (h : GroupText cs) (hrest : GroupsText quad n rest) :
      GroupsText quad (n + 1) (cs ++ ':' :: rest)

/-- so many groups, or none -/
def SideText (quad : Bool) (n : Nat) (cs : List Char) : Prop := n = 0 ∧ cs = [] ∨ GroupsText quad n cs

inductive AddressText : List Char → Prop
  | quad {cs : List Char} (h : QuadText cs) : AddressText cs
  | groups {cs : List Char} (h : GroupsText true 8 cs) : AddressText cs
  /-- a pair of colons in the place of one group at least -/
  | short {m n : Nat} {front back : List Char} (hfront : SideText false m front) (hback : SideText true n back)
      (h : m + n ≤ 7) : AddressText (front ++ ':' :: ':' :: back)

/-! ## quads -/

theorem isOctet_iff (cs : List Char) : isOctet cs = true ↔ ∃ n ≤ 255, cs = Nat.toDigits 10 n := by
  unfold isOctet
  rw [Bool.and_eq_true, Option.isSome_iff_exists]
  constructor
  · rintro ⟨⟨n, hn⟩, hhead⟩
    obtain ⟨hlimit, zeros, rfl⟩ := readDigits?_eq_some_iff_zeros.mp hn
    refine ⟨n, hlimit, ?_⟩
    cases zeros with
    | zero => rfl
    | succ zeros =>
      -- a zero leads, so that there is no other digit
      simp [List.replicate_succ] at hhead
  · rintro ⟨n, hn, rfl⟩
    refine ⟨⟨n, readDigits?_zeros_append hn 0⟩, ?_⟩
    rw [Bool.or_eq_true, decide_eq_true_eq, decide_eq_true_eq]
    by_cases h0 : n = 0
    · exact .inl (by rw [h0, Nat.toDigits_zero]; rfl)
    · refine .inr fun hhead => ?_
      obtain ⟨tail, htail⟩ := List.head?_eq_some_iff.mp hhead
      exact digits_ne_zero_cons (Nat.pos_of_ne_zero h0) [] tail (by rw [List.append_nil, htail])

theorem not_mem_toDigits {c : Char} (h : isDigit c = false) (n : Nat) : c ∉ Nat.toDigits 10 n := by
  intro hmem
  rw [isDigit_of_mem_toDigits hmem] at h
  cases h

theorem isDottedAddress_iff (cs : List Char) : isDottedAddress cs = true ↔ QuadText cs := by
  unfold isDottedAddress
  simp only [Bool.and_eq_true, decide_eq_true_eq, List.all_eq_true]
  constructor
  · rintro ⟨hfour, hall⟩
    have hjoin := intercalate_pieces '.' cs
    obtain ⟨p, q, r, s, hpieces⟩ : ∃ p q r s, pieces '.' cs = [p, q, r, s] := by
      match pieces '.' cs, hfour with
      | [p, q, r, s], _ => exact ⟨p, q, r, s, rfl⟩
    rw [hpieces] at hjoin hall
    obtain ⟨a, ha, rfl⟩ := (isOctet_iff p).mp (hall p (by simp))
    obtain ⟨b, hb, rfl⟩ := (isOctet_iff q).mp (hall q (by simp))
    obtain ⟨c, hc, rfl⟩ := (isOctet_iff r).mp (hall r (by simp))
    obtain ⟨d, hd, rfl⟩ := (isOctet_iff s).mp (hall s (by simp))
    refine ⟨a, b, c, d, ⟨ha, hb, hc, hd⟩, ?_⟩
    rw [← hjoin]
    simp
  · rintro ⟨a, b, c, d, ⟨ha, hb, hc, hd⟩, rfl⟩
    have hdot (n : Nat) : '.' ∉ Nat.toDigits 10 n := not_mem_toDigits (by decide) n
    rw [pieces_append_cons (hdot a), pieces_append_cons (hdot b), pieces_append_cons (hdot c), pieces_of_not_mem (hdot d)]
    refine ⟨rfl, ?_⟩
    simp only [List.forall_mem_cons, isOctet_iff]
    exact ⟨⟨a, ha, rfl⟩, ⟨b, hb, rfl⟩, ⟨c, hc, rfl⟩, ⟨d, hd, rfl⟩, nofun⟩

/-! ## groups -/

theorem isHexDigit_iff (c : Char) : (hexValue? c).isSome = true ↔ IsHexDigit c := by
  unfold hexValue? IsHexDigit
  simp only [Bool.and_eq_true, decide_eq_true_eq]
  split
  · simp [*]
  · split
    · simp [*]
    · split <;> simp [*]

theorem isGroup_iff (cs : List Char) : isGroup cs = true ↔ GroupText cs := by
  unfold isGroup
  simp only [Bool.and_eq_true, decide_eq_true_eq, List.all_eq_true, isHexDigit_iff]
  constructor
  · rintro ⟨⟨hne, hle⟩, hall⟩
    exact ⟨List.length_pos_iff.mpr hne, hle, hall⟩
  · rintro ⟨hpos, hle, hall⟩
    exact ⟨⟨List.length_pos_iff.mp hpos, hle⟩, hall⟩

theorem GroupText.colon_not_mem {cs : List Char} (h : GroupText cs) : ':' ∉ cs := by
  intro hmem
  have hcolon := h.digits ':' hmem
  revert hcolon
  unfold IsHexDigit
  decide

theorem QuadText.colon_not_mem {cs : List Char} (h : QuadText cs) : ':' ∉ cs := by
  obtain ⟨a, b, c, d, -, rfl⟩ := h
  have hcolon (n : Nat) : ':' ∉ Nat.toDigits 10 n := not_mem_toDigits (by decide) n
  simp [hcolon]

theorem QuadText.ne_nil {cs : List Char} (h : QuadText cs) : cs ≠ [] := by
  obtain ⟨a, b, c, d, -, rfl⟩ := h
  simp

theorem QuadText.not_isGroup {cs : List Char} (h : QuadText cs) : isGroup cs = false := by
  obtain ⟨a, b, c, d, -, rfl⟩ := h
  refine Bool.eq_false_iff.mpr fun hgroup => ?_
  have hpoint := ((isGroup_iff _).mp hgroup).digits '.' (by simp)
  revert hpoint
  unfold IsHexDigit
  decide

theorem countGroups_cons {piece : List Char} {rest : List (List Char)} (hgroup : isGroup piece = true) (hne : rest ≠ [])
    (quad : Bool) : countGroups quad (piece :: rest) = (countGroups quad rest).map (· + 1) := by
  rw [countGroups, if_pos hgroup]
  exact hne

/-- pieces that stand for so many groups join up to them -/
theorem groupsText_of_countGroups {quad : Bool} {ps : List (List Char)} {n : Nat} (hne : ps ≠ [])
    (h : countGroups quad ps = some n) : GroupsText quad n ([':'].intercalate ps) := by
  fun_induction countGroups quad ps generalizing n with
  | case1 => exact absurd rfl hne
  | case2 piece hgroup =>
    cases h
    rw [List.intercalate_singleton]
    exact .group ((isGroup_iff piece).mp hgroup)
  | case3 piece hgroup hquad =>
    cases h
    rw [Bool.and_eq_true] at hquad
    rw [List.intercalate_singleton]
    exact .quad hquad.1 ((isDottedAddress_iff piece).mp hquad.2)
  | case4 => cases h
  | case5 piece rest hrest hgroup ih =>
    obtain ⟨m, hm, rfl⟩ := Option.map_eq_some_iff.mp h
    have hrest' : rest ≠ [] := fun heq => hrest heq
    rw [List.intercalate_cons_of_ne_nil hrest', List.append_assoc]
    exact .more ((isGroup_iff piece).mp hgroup) (ih hrest' hm)
  | case6 => cases h

theorem countGroups_of_groupsText {quad : Bool} {n : Nat} {cs : List Char} (h : GroupsText quad n cs) :
    countGroups quad (pieces ':' cs) = some n := by
  induction h with
  | group h =>
    rw [pieces_of_not_mem h.colon_not_mem, countGroups, if_pos ((isGroup_iff _).mpr h)]
  | quad hquad h =>
    rw [pieces_of_not_mem h.colon_not_mem, countGroups, h.not_isGroup, hquad, (isDottedAddress_iff _).mpr h]
    rfl
  | more h _ ih =>
    rw [pieces_append_cons h.colon_not_mem, countGroups_cons ((isGroup_iff _).mpr h) (pieces_ne_nil _ _), ih]
    rfl

theorem countGroups_pieces_iff {quad : Bool} {n : Nat} {cs : List Char} :
    countGroups quad (pieces ':' cs) = some n ↔ GroupsText quad n cs := by
  refine ⟨fun h => ?_, countGroups_of_groupsText⟩
  have hgroups := groupsText_of_countGroups (pieces_ne_nil ':' cs) h
  rwa [intercalate_pieces] at hgroups

theorem GroupsText.exists_cons {quad : Bool} {n : Nat} {cs : List Char} (h : GroupsText quad n cs) :
    ∃ c tail, cs = c :: tail ∧ c ≠ ':' := by
  have hcons {cs : List Char} (hne : cs ≠ []) (hcolon : ':' ∉ cs) (rest : List Char) :
      ∃ c tail, cs ++ rest = c :: tail ∧ c ≠ ':' := by
    obtain ⟨c, tail, rfl⟩ := List.exists_cons_of_ne_nil hne
    exact ⟨c, tail ++ rest, rfl, fun heq => hcolon (heq ▸ List.mem_cons_self)⟩
  cases h with
  | group h => exact List.append_nil cs ▸ hcons (List.length_pos_iff.mp h.one_le) h.colon_not_mem []
  | quad _ h => exact List.append_nil cs ▸ hcons h.ne_nil h.colon_not_mem []
  | more h _ => exact hcons (List.length_pos_iff.mp h.one_le) h.colon_not_mem _

theorem groupsIn_iff {quad : Bool} {n : Nat} {cs : List Char} : groupsIn quad cs = some n ↔ SideText quad n cs := by
  unfold groupsIn SideText
  by_cases hnil : cs = []
  · rw [if_pos hnil, Option.some_inj]
    refine ⟨fun h => .inl ⟨h.symm, hnil⟩, ?_⟩
    rintro (⟨rfl, -⟩ | h)
    · rfl
    · obtain ⟨c, tail, hcons, -⟩ := h.exists_cons
      cases hnil.symm.trans hcons
  · rw [if_neg hnil, countGroups_pieces_iff]
    refine ⟨.inr, ?_⟩
    rintro (⟨-, rfl⟩ | h)
    · exact absurd rfl hnil
    · exact h

/-! ## pairs of colons -/

/-- there is no pair of colons among groups, nor a colon at their end -/
theorem GroupsText.cutAtPair_append {quad : Bool} {n : Nat} {cs : List Char} (h : GroupsText quad n cs)
    (rest : List Char) :
    cutAtPair ':' (cs ++ rest) = (cutAtPair ':' rest).map fun (front, back) => (cs ++ front, back) := by
  induction h with
  | group h => exact TunnelControl.cutAtPair_append h.colon_not_mem rest
  | quad _ h => exact TunnelControl.cutAtPair_append h.colon_not_mem rest
  | @more n cs groups h hrest ih =>
    have hnext : ∀ tail, groups ++ rest ≠ ':' :: tail := by
      obtain ⟨c, tail, rfl, hc⟩ := hrest.exists_cons
      rintro tail' ⟨⟩
      exact hc rfl
    rw [List.append_assoc, TunnelControl.cutAtPair_append h.colon_not_mem, List.cons_append, cutAtPair_cons hnext, ih,
      Option.map_map, Option.map_map]
    simp [Function.comp_def]

theorem SideText.cutAtPair_append {quad : Bool} {n : Nat} {cs : List Char} (h : SideText quad n cs) (back : List Char) :
    cutAtPair ':' (cs ++ ':' :: ':' :: back) = some (cs, back) := by
  obtain ⟨-, rfl⟩ | h := h
  · exact cutAtPair_pair ':' back
  · rw [h.cutAtPair_append, cutAtPair_pair, Option.map_some]
    exact congrArg (fun front => some (front, back)) (List.append_nil cs)

theorem isGroupedAddress_iff (cs : List Char) :
    isGroupedAddress cs = true ↔ GroupsText true 8 cs ∨ ∃ m n front back, SideText false m front ∧ SideText true n back ∧
      m + n ≤ 7 ∧ cs = front ++ ':' :: ':' :: back := by
  constructor
  · intro h
    unfold isGroupedAddress at h
    cases hcut : cutAtPair ':' cs with
    | none =>
      simp only [hcut, decide_eq_true_eq] at h
      obtain ⟨h0, -⟩ | h := groupsIn_iff.mp h
      · cases h0
      · exact .inl h
    | some cut =>
      obtain ⟨front, back⟩ := cut
      simp only [hcut] at h
      split at h
      · rename_i m n hm hn
        refine .inr ⟨m, n, front, back, groupsIn_iff.mp hm, groupsIn_iff.mp hn, of_decide_eq_true h, ?_⟩
        rw [append_of_cutAtPair hcut]
        simp
      · cases h
  · rintro (h | ⟨m, n, front, back, hfront, hback, hle, rfl⟩)
    · have hcut : cutAtPair ':' cs = none := by
        have hcut := h.cutAtPair_append []
        rwa [List.append_nil] at hcut
      rw [isGroupedAddress, hcut]
      exact decide_eq_true (groupsIn_iff.mpr (.inr h))
    · rw [isGroupedAddress, hfront.cutAtPair_append]
      simp only [groupsIn_iff.mpr hfront, groupsIn_iff.mpr hback, hle, decide_true]

/-- **The texts that are addresses are those of the grammar.** -/
theorem isAddress_iff (cs : List Char) : isAddress cs = true ↔ AddressText cs := by
  rw [isAddress, Bool.or_eq_true, isDottedAddress_iff, isGroupedAddress_iff]
  constructor
  · rintro (h | h | ⟨m, n, front, back, hfront, hback, hle, rfl⟩)
    · exact .quad h
    · exact .groups h
    · exact .short hfront hback hle
  · rintro (h | h | ⟨hfront, hback, hle⟩)
    · exact .inl h
    · exact .inr (.inl h)
    · exact .inr (.inr ⟨_, _, _, _, hfront, hback, hle, rfl⟩)

end TunnelControl
