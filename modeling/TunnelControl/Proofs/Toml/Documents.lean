import Mathlib.Data.List.Forall2
import TunnelControl.Proofs.Text.Split
import TunnelControl.Proofs.Toml.Entries

/-!
# Written documents are read back

A document of pairs, the header of a table and the pairs of that table describes just these pairs, if no key
occurs twice.

* `IsLine`                what is read as a line;
* `readLines_joinLines`   lines are read one after the other, and each does its part to the tree;
* `WrittenPair`           a key, a value, and the characters of the value;
* `parse_pairs`           the entries of a document without a table;
* `foldlM_linesOf`        the tree that the lines of a document with a table build up, and
* `parse_document`        its entries.
-/

namespace TunnelControl.Toml

/-! ## keys -/

/-- a key that is written without quotation marks -/
def IsBareKey (key : String) : Prop := key.toList ≠ [] ∧ ∀ c ∈ key.toList, isBareKeyChar c

instance (key : String) : Decidable (IsBareKey key) :=
  decidable_of_iff ((!key.toList.isEmpty && key.toList.all isBareKeyChar) = true) (by simp [IsBareKey])

theorem ne_of_isBareKeyChar {c d : Char} (hc : isBareKeyChar c) (hd : isBareKeyChar d = false) : c ≠ d := fun h => by
  rw [h, hd] at hc
  cases hc

theorem skipSpaces_cons {c : Char} (h : isSpace c = false) (cs : List Char) : skipSpaces (c :: cs) = c :: cs :=
  List.dropWhile_cons_of_neg (by simp [h])

section
variable {key : String} (h : IsBareKey key)
include h

theorem IsBareKey.exists_cons : ∃ c cs, key.toList = c :: cs ∧ isBareKeyChar c := by
  obtain ⟨c, cs, hcons⟩ := List.exists_cons_of_ne_nil h.1
  exact ⟨c, cs, hcons, h.2 c (hcons ▸ List.mem_cons_self)⟩

theorem IsBareKey.ne_cons {d : Char} (hd : isBareKeyChar d = false) (tail cs : List Char) :
    key.toList ++ tail ≠ d :: cs := by
  obtain ⟨c, ds, hcons, hc⟩ := h.exists_cons
  rw [hcons]
  exact fun hhead => ne_of_isBareKeyChar hc hd (List.cons.inj hhead).1

theorem IsBareKey.skipSpaces_append (tail : List Char) : skipSpaces (key.toList ++ tail) = key.toList ++ tail := by
  obtain ⟨c, cs, hcons, hc⟩ := h.exists_cons
  have hspace : isSpace c = false := by
    simp [isSpace, ne_of_isBareKeyChar hc (d := ' ') rfl, ne_of_isBareKeyChar hc (d := '\t') rfl]
  rw [hcons, List.cons_append, skipSpaces_cons hspace]

theorem readKeyPart_append {t : Char} (ht : isBareKeyChar t = false) (tail : List Char) :
    readKeyPart (key.toList ++ t :: tail) = some (key, t :: tail) := by
  have htext : readLineText (key.toList ++ t :: tail) = none := by
    rw [readLineText]
    · exact h.ne_cons rfl _
    · exact h.ne_cons rfl _
  have hstops : Stops isBareKeyChar (t :: tail) := stops_cons.mpr ht
  rw [readKeyPart, htext, takeWhile_append_of_stops h.2 hstops, dropWhile_append_of_stops h.2 hstops]
  simp only
  split
  · rename_i hnil
    exact absurd hnil h.1
  · rw [String.ofList_toList]

/-- a key ends at a character that stands in none, unless it goes on behind a point -/
theorem readKey_append {t d : Char} {tail rest : List Char} (ht : isBareKeyChar t = false)
    (hrest : skipSpaces (t :: tail) = d :: rest) (hpoint : d ≠ '.') (n : Nat) :
    readKey (n + 1) (key.toList ++ t :: tail) = some (([], key), d :: rest) := by
  rw [readKey, h.skipSpaces_append, readKeyPart_append h ht]
  simp only [Option.bind_eq_bind, Option.bind_some, hrest]
  split
  · rename_i hhead
    exact absurd (List.cons.inj hhead).1 hpoint
  · rfl

end

/-! ## lines -/

/-- the characters, up to the end of their line, are read as the line -/
def IsLine (l : List Char) (line : Line) : Prop :=
  ∀ size : Nat, l.length ≤ size → ∀ rest, readLine size (l ++ '\n' :: rest) = some (line, rest)

theorem isLine_blank : IsLine [] .blank := fun _ _ _ => rfl

theorem readLine_bracket {cs : List Char} (h : ∀ rest, cs ≠ '[' :: rest) (size : Nat) :
    readLine size ('[' :: cs) = (do
      let ((path, key), rest) ← readKey maxDepth cs
      let (_, rest) ← readMark ']' rest
      some (.table path key, ← finishLine rest)) := by
  rw [readLine.eq_def, skipSpaces_cons rfl]
  split <;> simp_all

theorem readLine_bare {key : String} (h : IsBareKey key) (tail : List Char) (size : Nat) :
    readLine size (key.toList ++ tail) = (do
      let ((path, key), rest) ← readKey maxDepth (key.toList ++ tail)
      let (_, rest) ← readMark '=' rest
      let (v, rest) ← readValue (2 * size) maxDepth (skipSpaces rest)
      some (.pair path key v, ← finishLine rest)) := by
  rw [readLine.eq_def, h.skipSpaces_append]
  split
  · rename_i hnil
    exact absurd (List.append_eq_nil_iff.mp hnil).1 h.1
  · rename_i hhead
    exact absurd hhead (h.ne_cons rfl _ _)
  · rename_i hhead
    exact absurd hhead (h.ne_cons rfl _ _)
  · rename_i hhead
    exact absurd hhead (h.ne_cons rfl _ _)
  · rename_i hhead
    exact absurd hhead (h.ne_cons rfl _ _)
  · rename_i hhead
    exact absurd hhead (h.ne_cons rfl _ _)
  · rfl

theorem isLine_table {key : String} (h : IsBareKey key) : IsLine ('[' :: key.toList ++ [']']) (.table [] key) := by
  intro size _ rest
  have hkey : readKey maxDepth (key.toList ++ ']' :: '\n' :: rest) = some (([], key), ']' :: '\n' :: rest) :=
    readKey_append h rfl rfl (by decide) _
  rw [List.append_assoc, List.cons_append, List.singleton_append, readLine_bracket (h.ne_cons rfl _), hkey]
  rfl

theorem isLine_pair {key : String} (h : IsBareKey key) {ws : List Char} {v : Toml} (hws : Writes ws v) :
    IsLine (key.toList ++ ' ' :: '=' :: ' ' :: ws) (.pair [] key v) := by
  intro size hsize rest
  obtain ⟨w, ws', hw, hspace⟩ := hws.begins
  have hkey : readKey maxDepth (key.toList ++ ' ' :: '=' :: ' ' :: (ws ++ '\n' :: rest)) =
      some (([], key), '=' :: ' ' :: (ws ++ '\n' :: rest)) := readKey_append h rfl rfl (by decide) _
  have hmark : readMark '=' ('=' :: ' ' :: (ws ++ '\n' :: rest)) = some ((), ' ' :: (ws ++ '\n' :: rest)) := rfl
  have hspaces : skipSpaces (' ' :: (ws ++ '\n' :: rest)) = ws ++ '\n' :: rest := by
    rw [hw]
    exact skipSpaces_cons hspace _
  have hvalue : readValue (2 * size) maxDepth (ws ++ '\n' :: rest) = some (v, '\n' :: rest) := by
    refine hws.read ?_ _ rest
    simp only [List.length_append, List.length_cons] at hsize
    omega
  have hend : finishLine ('\n' :: rest) = some rest := rfl
  simp only [List.append_assoc, List.cons_append, readLine_bare h, hkey, hmark, hspaces, hvalue, hend,
    Option.bind_eq_bind, Option.bind_some]

/-- lines, each with its end -/
def joinLines (ls : List (List Char)) : List Char := ls.flatMap fun l => l ++ ['\n']

theorem joinLines_cons (l : List Char) (ls : List (List Char)) : joinLines (l :: ls) = l ++ '\n' :: joinLines ls := by
  simp [joinLines]

theorem readLines_joinLines {ls : List (List Char)} {lines : List Line} (h : List.Forall₂ IsLine ls lines)
    {fuel : Nat} (hfuel : (joinLines ls).length ≤ fuel) (d : Draft) :
    readLines fuel (joinLines ls) d = lines.foldlM Draft.add d := by
  induction h generalizing fuel d with
  | nil => cases fuel <;> rfl
  | @cons l line ls lines hl h ih =>
    rw [joinLines_cons, List.length_append, List.length_cons] at hfuel
    obtain ⟨fuel, rfl⟩ : ∃ f, fuel = f + 1 := ⟨fuel - 1, by omega⟩
    have hline : readLine (fuel + 1) (l ++ '\n' :: joinLines ls) = some (line, joinLines ls) := hl _ (by omega) _
    obtain ⟨c, cs, hcons⟩ : ∃ c cs, l ++ '\n' :: joinLines ls = c :: cs := List.exists_cons_of_ne_nil (by simp)
    rw [joinLines_cons, List.foldlM_cons]
    rw [hcons] at hline ⊢
    rw [readLines, hline]
    simp only [Option.bind_eq_bind, Option.bind_some]
    cases d.add line with
    | none => rfl
    | some next => exact ih (by omega) next

/-! ## the tree -/

/-- the entries that pairs make up, the latest first -/
def nodesOf (ps : List (String × Toml)) : Entries := (ps.map fun p => (p.1, Node.value p.2)).reverse

theorem map_fst_nodesOf (ps : List (String × Toml)) : (nodesOf ps).map Prod.fst = (ps.map Prod.fst).reverse := by
  simp [nodesOf, Function.comp_def]

theorem nodesOf_concat (ps : List (String × Toml)) (p : String × Toml) :
    nodesOf (ps ++ [p]) = (p.1, .value p.2) :: nodesOf ps := by
  simp [nodesOf]

theorem update_of_new {key : String} {entries : Entries} (h : key ∉ entries.map Prod.fst)
    (change : Option Node → Option Node) :
    update key change entries = (change none).map fun node => (key, node) :: entries := by
  have hany : (entries.any fun entry => entry.1 = key) = false := by
    simp only [List.any_eq_false, decide_eq_true_eq]
    intro entry hentry hkey
    exact h (hkey ▸ List.mem_map_of_mem hentry)
  rw [update, hany]
  cases change none <;> rfl

theorem update_of_first (key : String) (change : Option Node → Option Node) (node : Node) (entries : Entries) :
    update key change ((key, node) :: entries) = (change (some node)).map fun node => (key, node) :: entries := by
  simp only [update, replace, List.any_cons, decide_true, Bool.true_or, if_true]
  cases change (some node) <;> rfl

theorem addDotted_of_new {key : String} {entries : Entries} (h : key ∉ entries.map Prod.fst) (v : Toml) :
    addDotted [] key v .defined entries = some ((key, .value v) :: entries) := by
  simp [addDotted, changeAt, update_of_new h]

/-- a line with a pair, where the header of a table with these entries came last -/
theorem add_pair_inner {key : String} {entries : Entries} (h : key ∉ entries.map Prod.fst) (v : Toml)
    (name : String) (others : Entries) :
    Draft.add ⟨(name, .table .defined entries) :: others, [name]⟩ (.pair [] key v) =
      some ⟨(name, .table .defined ((key, .value v) :: entries)) :: others, [name]⟩ := by
  simp [Draft.add, addPair, changeAt, update_of_first, addDotted_of_new h]

theorem add_pair_outer {key : String} {entries : Entries} (h : key ∉ entries.map Prod.fst) (v : Toml) :
    Draft.add ⟨entries, []⟩ (.pair [] key v) = some ⟨(key, .value v) :: entries, []⟩ := by
  simp [Draft.add, addPair, changeAt, addDotted_of_new h]

theorem add_table {name : String} {entries : Entries} (h : name ∉ entries.map Prod.fst) (current : List String) :
    Draft.add ⟨entries, current⟩ (.table [] name) = some ⟨(name, .table .defined []) :: entries, [name]⟩ := by
  simp [Draft.add, addTable, changeAt, update_of_new h]

def pairLines (ps : List (String × Toml)) : List Line := ps.map fun p => .pair [] p.1 p.2

/-- pairs are added one after the other, wherever in the tree they go -/
theorem foldlM_pairLines (place : Entries → Draft)
    (hadd : ∀ entries key v, key ∉ entries.map Prod.fst →
      (place entries).add (.pair [] key v) = some (place ((key, .value v) :: entries)))
    (before : List (String × Toml)) {ps : List (String × Toml)} (h : ((before ++ ps).map Prod.fst).Nodup) :
    (pairLines ps).foldlM Draft.add (place (nodesOf before)) = some (place (nodesOf (before ++ ps))) := by
  induction ps generalizing before with
  | nil => simp [pairLines]
  | cons p ps ih =>
    have hnew : p.1 ∉ (nodesOf before).map Prod.fst := by
      rw [map_fst_nodesOf, List.mem_reverse]
      intro hmem
      rw [List.map_append] at h
      exact (List.nodup_append.mp h).2.2 p.1 hmem p.1 List.mem_cons_self rfl
    have hnext : before ++ p :: ps = before ++ [p] ++ ps := by simp
    rw [pairLines, List.map_cons, List.foldlM_cons, hadd _ _ _ hnew, hnext, ← nodesOf_concat]
    exact ih (before ++ [p]) (hnext ▸ h)

theorem freezeEntries_eq (entries : Entries) (later : List (String × Toml)) :
    freezeEntries entries later = (entries.map fun entry => (entry.1, freeze entry.2)).reverse ++ later := by
  induction entries generalizing later with
  | nil => rfl
  | cons entry entries ih =>
    rw [freezeEntries, ih]
    simp

theorem freezeEntries_nodesOf (ps : List (String × Toml)) (later : List (String × Toml)) :
    freezeEntries (nodesOf ps) later = ps ++ later := by
  simp [freezeEntries_eq, nodesOf, Function.comp_def, freeze]

/-! ## documents -/

/-- a pair with the characters of its value -/
structure WrittenPair where
  key : String
  text : List Char
  value : Toml
  bare : IsBareKey key
  writes : Writes text value

namespace WrittenPair

def line (p : WrittenPair) : List Char := p.key.toList ++ ' ' :: '=' :: ' ' :: p.text

def entry (p : WrittenPair) : String × Toml := (p.key, p.value)

theorem isLine (ps : List WrittenPair) : List.Forall₂ IsLine (ps.map line) (pairLines (ps.map entry)) := by
  induction ps with
  | nil => exact .nil
  | cons p ps ih => exact .cons (isLine_pair p.bare p.writes) ih

/-- no key begins with the mark of byte order -/
theorem dropOrderMark_joinLines (ps : List WrittenPair) {ls : List (List Char)}
    (h : dropOrderMark (joinLines ls) = joinLines ls) :
    dropOrderMark (joinLines (ps.map line ++ ls)) = joinLines (ps.map line ++ ls) := by
  cases ps with
  | nil => exact h
  | cons p ps =>
    unfold dropOrderMark
    split
    · rename_i hmark
      rw [List.map_cons, List.cons_append, joinLines_cons, line, List.append_assoc] at hmark
      exact absurd hmark (p.bare.ne_cons (by decide) _ _)
    · rfl

end WrittenPair

theorem foldlM_outerPairs {ps : List (String × Toml)} (hkeys : (ps.map Prod.fst).Nodup) :
    (pairLines ps).foldlM Draft.add {} = some ⟨nodesOf ps, []⟩ :=
  foldlM_pairLines (fun entries => ⟨entries, []⟩) (fun _ _ v h => add_pair_outer h v) [] hkeys

/-- a document of pairs alone is read back -/
theorem parse_pairs {ps : List WrittenPair} {s : String} (hkeys : ((ps.map WrittenPair.entry).map Prod.fst).Nodup)
    (hs : s.toList = joinLines (ps.map WrittenPair.line)) : parse s = some (ps.map WrittenPair.entry) := by
  have hmark : dropOrderMark (joinLines (ps.map WrittenPair.line ++ [])) = joinLines (ps.map WrittenPair.line ++ []) :=
    WrittenPair.dropOrderMark_joinLines ps rfl
  rw [List.append_nil] at hmark
  rw [parse, hs, hmark]
  simp only [readLines_joinLines (WrittenPair.isLine ps) (Nat.le_refl _), foldlM_outerPairs hkeys]
  simp [freezeEntries_nodesOf]

/-- the lines of some pairs, and of a table with others -/
def documentLines (outer : List WrittenPair) (name : String) (inner : List WrittenPair) : List (List Char) :=
  outer.map WrittenPair.line ++ [] :: ('[' :: name.toList ++ [']']) :: inner.map WrittenPair.line

/-- the lines of such a document, as they are read -/
def linesOf (outer : List (String × Toml)) (name : String) (inner : List (String × Toml)) : List Line :=
  pairLines outer ++ .blank :: .table [] name :: pairLines inner

theorem foldlM_linesOf {outer inner : List (String × Toml)} {name : String}
    (houter : (outer.map Prod.fst ++ [name]).Nodup) (hinner : (inner.map Prod.fst).Nodup) :
    (linesOf outer name inner).foldlM Draft.add {} =
      some ⟨(name, .table .defined (nodesOf inner)) :: nodesOf outer, [name]⟩ := by
  obtain ⟨hkeys, -, hname⟩ := List.nodup_append.mp houter
  have hnew : name ∉ (nodesOf outer).map Prod.fst := by
    rw [map_fst_nodesOf, List.mem_reverse]
    exact fun hmem => hname name hmem name (List.mem_singleton_self name) rfl
  have htable : Draft.add ⟨nodesOf outer, []⟩ (.table [] name) =
      some ⟨(name, .table .defined (nodesOf [])) :: nodesOf outer, [name]⟩ := add_table hnew []
  have hrest := foldlM_pairLines (fun entries => ⟨(name, .table .defined entries) :: nodesOf outer, [name]⟩)
    (fun _ _ v h => add_pair_inner h v name _) [] hinner
  rw [linesOf, List.foldlM_append, foldlM_outerPairs hkeys]
  exact (congrArg (Option.bind · _) htable).trans hrest

/-- **A written document is read back.** -/
theorem parse_document {outer inner : List WrittenPair} {name s : String} (hname : IsBareKey name)
    (houter : ((outer.map WrittenPair.entry).map Prod.fst ++ [name]).Nodup)
    (hinner : ((inner.map WrittenPair.entry).map Prod.fst).Nodup)
    (hs : s.toList = joinLines (documentLines outer name inner)) :
    parse s = some (outer.map WrittenPair.entry ++ [(name, .table (inner.map WrittenPair.entry))]) := by
  have hlines : List.Forall₂ IsLine (documentLines outer name inner)
      (linesOf (outer.map WrittenPair.entry) name (inner.map WrittenPair.entry)) :=
    List.rel_append (WrittenPair.isLine outer)
      (.cons isLine_blank (.cons (isLine_table hname) (WrittenPair.isLine inner)))
  have hmark : dropOrderMark (joinLines (documentLines outer name inner)) =
      joinLines (documentLines outer name inner) := WrittenPair.dropOrderMark_joinLines outer rfl
  rw [parse, hs, hmark]
  simp only [readLines_joinLines hlines (Nat.le_refl _), foldlM_linesOf houter hinner]
  simp [freezeEntries, freezeEntries_nodesOf, freeze]

end TunnelControl.Toml
