import Mathlib.Data.List.TakeWhile
import TunnelControl.Text.Split

/-!
# Texts in pieces, and what they are made of

* `Stops`                    where a run of characters of a kind ends, and
* `takeWhile_append_of_stops`, `dropWhile_append_of_stops`   what is taken then and what is left;
* `pieces_eq_splitOn`        the pieces of a text are those of the library, and so join up to it again;
* `not_mem_of_mem_pieces`    no separator is left in a piece;
* `cutAtLast_eq_some_iff`    a text is cut at the separator behind which there is no other;
* `cutAtPair_append`, `cutAtPair_cons`   the first two separators in a row lie behind all that has none.
-/

namespace TunnelControl

/-! ## runs of characters -/

/-- no character that satisfies `p` is next -/
def Stops (p : Char → Bool) (cs : List Char) : Prop := ∀ c ∈ cs.head?, p c = false

theorem stops_nil (p : Char → Bool) : Stops p [] := fun _ h => nomatch h

theorem stops_cons {p : Char → Bool} {c : Char} {cs : List Char} : Stops p (c :: cs) ↔ p c = false := by
  simp [Stops]

theorem stops_dropWhile (p : Char → Bool) (cs : List Char) : Stops p (cs.dropWhile p) := by
  intro c hc
  have hhead := List.head?_dropWhile_not p cs
  rw [hc] at hhead
  exact hhead

theorem takeWhile_append_of_stops {p : Char → Bool} {run rest : List Char} (hrun : ∀ c ∈ run, p c)
    (hrest : Stops p rest) : (run ++ rest).takeWhile p = run := by
  rw [List.takeWhile_append_of_pos hrun]
  cases rest with
  | nil => simp
  | cons c cs => rw [List.takeWhile_cons_of_neg (by simp [stops_cons.mp hrest]), List.append_nil]

theorem dropWhile_append_of_stops {p : Char → Bool} {run rest : List Char} (hrun : ∀ c ∈ run, p c)
    (hrest : Stops p rest) : (run ++ rest).dropWhile p = rest := by
  rw [List.dropWhile_append_of_pos hrun]
  cases rest with
  | nil => rfl
  | cons c cs => exact List.dropWhile_cons_of_neg (by simp [stops_cons.mp hrest])

theorem drop_length_takeWhile (p : Char → Bool) (cs : List Char) :
    cs.drop (cs.takeWhile p).length = cs.dropWhile p := by
  have happend : cs = cs.takeWhile p ++ cs.dropWhile p := List.takeWhile_append_dropWhile.symm
  calc cs.drop (cs.takeWhile p).length
      = (cs.takeWhile p ++ cs.dropWhile p).drop (cs.takeWhile p).length := congrArg _ happend
    _ = cs.dropWhile p := List.drop_left

/-! ## pieces -/

variable {sep : Char}

theorem pieces_eq_splitOn (sep : Char) (cs : List Char) : pieces sep cs = cs.splitOn sep := by
  induction cs with
  | nil => rfl
  | cons c cs ih =>
    rw [pieces, ih, List.splitOn_cons_eq_if_modifyHead]
    simp only [beq_iff_eq]
    split
    · rfl
    · cases h : cs.splitOn sep with
      | nil => exact absurd h (List.splitOn_ne_nil sep cs)
      | cons piece rest => rfl

theorem intercalate_pieces (sep : Char) (cs : List Char) : [sep].intercalate (pieces sep cs) = cs := by
  rw [pieces_eq_splitOn, List.intercalate_splitOn]

theorem pieces_intercalate {items : List (List Char)} (hne : items ≠ []) (h : ∀ item ∈ items, sep ∉ item) :
    pieces sep ([sep].intercalate items) = items := by
  rw [pieces_eq_splitOn, List.splitOn_intercalate sep h hne]

theorem not_mem_of_mem_pieces {cs piece : List Char} (h : piece ∈ pieces sep cs) : sep ∉ piece := by
  induction cs generalizing piece with
  | nil => simp [List.mem_singleton.mp h]
  | cons c cs ih =>
    rw [pieces] at h
    split at h
    · rcases List.mem_cons.mp h with rfl | hrest
      · exact List.not_mem_nil
      · exact ih hrest
    · rename_i hc
      split at h
      · rename_i hnil
        exact absurd hnil (pieces_ne_nil sep cs)
      · rename_i first rest hpieces
        rw [hpieces] at ih
        rcases List.mem_cons.mp h with rfl | hrest
        · exact List.not_mem_cons_of_ne_of_not_mem (Ne.symm hc) (ih List.mem_cons_self)
        · exact ih (List.mem_cons_of_mem _ hrest)

theorem mem_intercalate {items : List (List Char)} {c : Char} (hc : c ≠ sep) :
    c ∈ [sep].intercalate items ↔ ∃ item ∈ items, c ∈ item := by
  induction items with
  | nil => simp
  | cons item items ih =>
    cases items with
    | nil => simp
    | cons next items => simp [List.intercalate_cons_cons, ih, hc]

theorem mem_of_mem_pieces {cs piece : List Char} (h : piece ∈ pieces sep cs) {c : Char} (hc : c ∈ piece) : c ∈ cs := by
  rw [← intercalate_pieces sep cs, mem_intercalate (ne_of_mem_of_not_mem hc (not_mem_of_mem_pieces h))]
  exact ⟨piece, h, hc⟩

theorem pieces_of_not_mem {cs : List Char} (h : sep ∉ cs) : pieces sep cs = [cs] := by
  rw [pieces_eq_splitOn, List.splitOn_eq_singleton h]

theorem pieces_append_cons {cs : List Char} (h : sep ∉ cs) (rest : List Char) :
    pieces sep (cs ++ sep :: rest) = cs :: pieces sep rest := by
  rw [pieces_eq_splitOn, pieces_eq_splitOn, List.splitOn_append_cons_self_of_not_mem h]

/-! ## the last separator -/

theorem cutAtLast_append {back : List Char} (h : sep ∉ back) (front : List Char) :
    cutAtLast sep (front ++ sep :: back) = some (front, back) := by
  have hback : ∀ c ∈ back.reverse, (c != sep) = true := by
    intro c hc
    rw [List.mem_reverse] at hc
    exact bne_iff_ne.mpr fun heq => h (heq ▸ hc)
  have hstops : Stops (· != sep) (sep :: front.reverse) := stops_cons.mpr (bne_self_eq_false sep)
  have hreverse : (front ++ sep :: back).reverse = back.reverse ++ sep :: front.reverse := by simp
  rw [cutAtLast, hreverse, dropWhile_append_of_stops hback hstops, takeWhile_append_of_stops hback hstops]
  simp

theorem cutAtLast_of_not_mem {cs : List Char} (h : sep ∉ cs) : cutAtLast sep cs = none := by
  have hall : cs.reverse.dropWhile (· != sep) = [] := by
    refine List.dropWhile_eq_nil_iff.mpr fun c hc => ?_
    rw [List.mem_reverse] at hc
    exact bne_iff_ne.mpr fun heq => h (heq ▸ hc)
  rw [cutAtLast, hall]

theorem exists_last_of_mem {cs : List Char} (h : sep ∈ cs) : ∃ front back, cs = front ++ sep :: back ∧ sep ∉ back := by
  obtain ⟨back, front, hcut, hnot⟩ := List.eq_append_cons_of_mem (List.mem_reverse.mpr h)
  refine ⟨front.reverse, back.reverse, ?_, fun hmem => hnot (List.mem_reverse.mp hmem)⟩
  rw [← List.reverse_reverse cs, hcut]
  simp

theorem cutAtLast_eq_some_iff {cs front back : List Char} :
    cutAtLast sep cs = some (front, back) ↔ cs = front ++ sep :: back ∧ sep ∉ back := by
  constructor
  · intro h
    by_cases hmem : sep ∈ cs
    · obtain ⟨front', back', rfl, hnot⟩ := exists_last_of_mem hmem
      rw [cutAtLast_append hnot] at h
      cases h
      exact ⟨rfl, hnot⟩
    · rw [cutAtLast_of_not_mem hmem] at h
      cases h
  · rintro ⟨rfl, hnot⟩
    exact cutAtLast_append hnot front

/-! ## two separators in a row -/

theorem cutAtPair_pair (sep : Char) (cs : List Char) : cutAtPair sep (sep :: sep :: cs) = some ([], cs) := by
  rw [cutAtPair, if_pos ⟨rfl, rfl⟩]

/-- what has no separator does not matter -/
theorem cutAtPair_append {cs : List Char} (h : sep ∉ cs) (rest : List Char) :
    cutAtPair sep (cs ++ rest) = (cutAtPair sep rest).map fun (front, back) => (cs ++ front, back) := by
  induction cs with
  | nil => exact (Option.map_id' (x := cutAtPair sep rest)).symm
  | cons c cs ih =>
    obtain ⟨hc, hcs⟩ := List.ne_and_not_mem_of_not_mem_cons h
    have hstep (tail : List Char) :
        cutAtPair sep (c :: tail) = (cutAtPair sep tail).map fun (front, back) => (c :: front, back) := by
      cases tail with
      | nil => rfl
      | cons d tail => rw [cutAtPair, if_neg fun hboth => hc hboth.1.symm]
    rw [List.cons_append, hstep, ih hcs, Option.map_map]
    rfl

/-- nor does a separator behind which there is none -/
theorem cutAtPair_cons {cs : List Char} (h : ∀ rest, cs ≠ sep :: rest) :
    cutAtPair sep (sep :: cs) = (cutAtPair sep cs).map fun (front, back) => (sep :: front, back) := by
  cases cs with
  | nil => rfl
  | cons c cs => rw [cutAtPair, if_neg fun hboth => h cs (by rw [hboth.2])]

end TunnelControl
