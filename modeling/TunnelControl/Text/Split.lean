/-!
# Texts in pieces

* `pieces sep cs`     the pieces between the separators of a text, of which there is always one;
* `cutAtLast sep cs`  what lies before and behind the last separator;
* `cutAtPair sep cs`  what lies before and behind the first two separators in a row.
-/

namespace TunnelControl

def pieces (sep : Char) : List Char → List (List Char)
  | [] => [[]]
  | c :: cs =>
    if c = sep then [] :: pieces sep cs
    else
      match pieces sep cs with
      | [] => [[c]]
      | piece :: rest => (c :: piece) :: rest

def cutAtLast (sep : Char) (cs : List Char) : Option (List Char × List Char) :=
  match cs.reverse.dropWhile (· != sep) with
  | [] => none
  | _ :: front => some (front.reverse, (cs.reverse.takeWhile (· != sep)).reverse)

def cutAtPair (sep : Char) : List Char → Option (List Char × List Char)
  | [] => none
  | [_] => none
  | c :: d :: cs =>
    if c = sep ∧ d = sep then some ([], cs)
    else (cutAtPair sep (d :: cs)).map fun (front, back) => (c :: front, back)

theorem pieces_nil (sep : Char) : pieces sep [] = [[]] := rfl

theorem pieces_ne_nil (sep : Char) (cs : List Char) : pieces sep cs ≠ [] := by
  cases cs with
  | nil => simp [pieces]
  | cons c cs =>
    unfold pieces
    split
    · simp
    · split <;> simp

theorem append_of_cutAtPair {sep : Char} {cs front back : List Char}
    (h : cutAtPair sep cs = some (front, back)) : cs = front ++ [sep, sep] ++ back := by
  fun_induction cutAtPair sep cs generalizing front with
  | case1 => cases h
  | case2 => cases h
  | case3 c d cs hcd =>
    cases h
    rw [hcd.1, hcd.2]
    rfl
  | case4 c d cs _ ih =>
    obtain ⟨⟨front', back'⟩, hw, hr⟩ := Option.map_eq_some_iff.mp h
    cases hr
    rw [ih hw]
    rfl

end TunnelControl
