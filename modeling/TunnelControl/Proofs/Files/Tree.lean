import TunnelControl.Files.Tree

/-!
# What stays in a tree of files

* `FileTree.entry?_put_of_ne`, `entry?_without_of_ne`   what is put at a place, or taken away, leaves all other places;
* `FileTree.find_concat`            a path leads to its last place if the others on it are directories;
* `FileTree.KeepsDirectories`       all directories stay, and with them what paths they lead to;
* `FileTree.grows_makeDirectories`  directories are made where nothing was, and nothing else changes.
-/

namespace TunnelControl

theorem placeOf_concat (path : Names) (name : String) : placeOf (path ++ [name]) = follow (placeOf path) name := by
  rw [placeOf, List.foldl_append]
  rfl

theorem not_mem_follow {place : Names} (h : ".." ∉ place) (name : String) : ".." ∉ follow place name := by
  unfold follow
  split
  · exact fun hmem => h ((List.dropLast_sublist place).subset hmem)
  · rename_i hname
    rw [List.mem_append, List.mem_singleton]
    exact fun hmem => hmem.elim h fun heq => hname heq.symm

/-- names that do not lead back say the place themselves -/
theorem placeOf_of_not_mem {path : Names} (h : ".." ∉ path) : placeOf path = path := by
  have hfrom (base : Names) : path.foldl follow base = base ++ path := by
    induction path generalizing base with
    | nil => exact (List.append_nil base).symm
    | cons name names ih =>
      obtain ⟨hname, hnames⟩ := not_or.mp (mt List.mem_cons.mpr h)
      rw [List.foldl_cons, ih hnames, follow, if_neg (Ne.symm hname), List.append_assoc]
      rfl
  exact hfrom []

namespace FileTree

variable {t t' : FileTree} {path place base : Names} {e : FileEntry}

/-! ## entries -/

/-- the tree without what is at a place -/
def without (t : FileTree) (place : Names) : FileTree := t.filter (·.1 != place)

@[simp] theorem entry?_root (t : FileTree) : t.entry? [] = some .directory := rfl

/-- what is no directory is not the root -/
theorem place_ne_nil_of_some (h : t.entry? place = some e) (he : e ≠ .directory) : place ≠ [] := by
  rintro rfl
  exact he (Option.some.inj h).symm

theorem place_ne_nil_of_none (h : t.entry? place = none) : place ≠ [] := by
  rintro rfl
  cases h

theorem lookup_without_self (t : FileTree) (place : Names) : List.lookup place (t.without place) = none := by
  induction t with
  | nil => rfl
  | cons entry t ih =>
    rw [without, List.filter_cons]
    split
    · rename_i hne
      have hplace : (place == entry.1) = false := by
        rw [beq_eq_false_iff_ne]
        exact Ne.symm (bne_iff_ne.mp hne)
      rw [List.lookup_cons, hplace]
      exact ih
    · exact ih

theorem lookup_without_of_ne {other : Names} (h : place ≠ other) (t : FileTree) :
    List.lookup place (t.without other) = List.lookup place t := by
  induction t with
  | nil => rfl
  | cons entry t ih =>
    rw [without, List.filter_cons, List.lookup_cons]
    split
    · rw [List.lookup_cons]
      split
      · rfl
      · exact ih
    · rename_i heq
      have hentry : entry.1 = other := by simpa using heq
      have hplace : (place == entry.1) = false := by
        rw [beq_eq_false_iff_ne, hentry]
        exact h
      rw [hplace]
      exact ih

theorem entry?_of_ne_nil (h : place ≠ []) (t : FileTree) : t.entry? place = List.lookup place t := by
  unfold entry?
  exact if_neg (by simpa using h)

theorem entry?_without_self (h : place ≠ []) (t : FileTree) : entry? (t.without place) place = none := by
  rw [entry?_of_ne_nil h, lookup_without_self]

theorem entry?_without_of_ne {other : Names} (h : place ≠ other) (t : FileTree) :
    entry? (t.without other) place = t.entry? place := by
  by_cases hroot : place = []
  · rw [hroot, entry?_root, entry?_root]
  · rw [entry?_of_ne_nil hroot, entry?_of_ne_nil hroot, lookup_without_of_ne h]

theorem put_eq (t : FileTree) (path : Names) (e : FileEntry) :
    t.put path e = (placeOf path, e) :: t.without (placeOf path) := rfl

theorem entry?_put_self (h : placeOf path ≠ []) (t : FileTree) (e : FileEntry) :
    entry? (t.put path e) (placeOf path) = some e := by
  rw [entry?_of_ne_nil h, put_eq, List.lookup_cons, beq_self_eq_true]

theorem entry?_put_of_ne (h : place ≠ placeOf path) (t : FileTree) (e : FileEntry) :
    entry? (t.put path e) place = t.entry? place := by
  by_cases hroot : place = []
  · rw [hroot, entry?_root, entry?_root]
  · have hplace : (place == placeOf path) = false := beq_eq_false_iff_ne.mpr h
    rw [entry?_of_ne_nil hroot, entry?_of_ne_nil hroot, put_eq, List.lookup_cons, hplace, lookup_without_of_ne h]

/-! ## finding -/

theorem findFrom_concat (t : FileTree) (base names : Names) (name : String) :
    t.findFrom base (names ++ [name]) =
      match t.findFrom base names with
      | .ok .directory => t.findFrom (follow (names.foldl follow base) name) []
      | .ok _ => .error .notADirectory
      | .error fault => .error fault := by
  induction names generalizing base with
  | nil =>
    cases hentry : t.entry? base with
    | none => simp only [List.nil_append, findFrom, hentry]
    | some e => cases e <;> simp only [List.nil_append, List.foldl_nil, findFrom, hentry]
  | cons n names ih =>
    cases hentry : t.entry? base with
    | none => simp only [List.cons_append, findFrom, hentry]
    | some e =>
      cases e with
      | directory => simp only [List.cons_append, List.foldl_cons, findFrom, hentry, ih]
      | file => simp only [List.cons_append, findFrom, hentry]
      | socket l => simp only [List.cons_append, findFrom, hentry]

theorem entry?_of_findFrom {names : Names} (h : t.findFrom base names = .ok e) :
    t.entry? (names.foldl follow base) = some e := by
  induction names generalizing base with
  | nil =>
    rw [findFrom] at h
    split at h
    · rename_i hentry
      cases h
      exact hentry
    · cases h
  | cons name names ih =>
    rw [findFrom] at h
    split at h
    · exact ih h
    · cases h
    · cases h

theorem entry?_of_find (h : t.find path = .ok e) : t.entry? (placeOf path) = some e := entry?_of_findFrom h

/-- the places before the last one are directories -/
def Leads (t : FileTree) (path : Names) : Prop := path ≠ [] ∧ t.find path.dropLast = .ok .directory

/-- what is found at a place that can be reached -/
def found : Option FileEntry → Except FileFault FileEntry
  | some e => .ok e
  | none => .error .notFound

theorem found_eq_ok_iff {entry : Option FileEntry} : found entry = .ok e ↔ entry = some e := by
  cases entry <;> simp [found]

theorem Leads.find_eq (h : t.Leads path) : t.find path = found (t.entry? (placeOf path)) := by
  obtain ⟨hne, hparent⟩ := h
  have hpath : path.dropLast ++ [path.getLast hne] = path := List.dropLast_concat_getLast hne
  rw [← hpath, find, findFrom_concat]
  rw [find] at hparent
  rw [hparent, placeOf_concat]
  show t.findFrom (follow (placeOf path.dropLast) (path.getLast hne)) [] = _
  rw [findFrom]
  cases t.entry? (follow (placeOf path.dropLast) (path.getLast hne)) <;> rfl

/-! ## trees that keep what they have -/

/-- all directories stay -/
def KeepsDirectories (t t' : FileTree) : Prop :=
  ∀ place, t.entry? place = some .directory → t'.entry? place = some .directory

/-- nothing changes but that there are directories where nothing was -/
def Grows (t t' : FileTree) : Prop :=
  ∀ place, t'.entry? place = t.entry? place ∨ t.entry? place = none ∧ t'.entry? place = some .directory

theorem Grows.refl (t : FileTree) : Grows t t := fun _ => .inl rfl

theorem Grows.trans {t'' : FileTree} (h : Grows t t') (h' : Grows t' t'') : Grows t t'' := by
  intro place
  obtain hsame | ⟨hnone, hdirectory⟩ := h' place
  · rw [hsame]
    exact h place
  · obtain hsame' | ⟨-, hdirectory'⟩ := h place
    · exact .inr ⟨hsame'.symm.trans hnone, hdirectory⟩
    · rw [hnone] at hdirectory'
      cases hdirectory'

theorem Grows.entry? (h : Grows t t') (hentry : t.entry? place = some e) : t'.entry? place = some e := by
  obtain hsame | ⟨hnone, -⟩ := h place
  · rw [hsame, hentry]
  · rw [hnone] at hentry
    cases hentry

theorem Grows.socket {n : Nat} (h : Grows t t') (hentry : t'.entry? place = some (.socket n)) :
    t.entry? place = some (.socket n) := by
  obtain hsame | ⟨-, hdirectory⟩ := h place
  · rw [← hsame, hentry]
  · rw [hdirectory] at hentry
    cases hentry

theorem Grows.directories (h : Grows t t') : KeepsDirectories t t' := fun _ => h.entry?

theorem KeepsDirectories.findFrom {names : Names} (h : KeepsDirectories t t')
    (hfind : t.findFrom base names = .ok .directory) : t'.findFrom base names = .ok .directory := by
  induction names generalizing base with
  | nil =>
    rw [FileTree.findFrom, h base (entry?_of_findFrom hfind)]
  | cons name names ih =>
    rw [FileTree.findFrom] at hfind ⊢
    split at hfind
    · rename_i hentry
      rw [h base hentry]
      exact ih hfind
    · cases hfind
    · cases hfind

theorem Leads.mono (h : t.Leads path) (hkeeps : KeepsDirectories t t') : t'.Leads path :=
  ⟨h.1, hkeeps.findFrom h.2⟩

theorem grows_put (h : t.entry? (placeOf path) = none) : Grows t (t.put path .directory) := by
  intro place
  by_cases hplace : place = placeOf path
  · subst hplace
    exact .inr ⟨h, entry?_put_self (place_ne_nil_of_none h) ..⟩
  · exact .inl (entry?_put_of_ne hplace ..)

theorem keepsDirectories_put (h : t.entry? (placeOf path) = none) (e : FileEntry) :
    KeepsDirectories t (t.put path e) := by
  intro other hother
  have hne : other ≠ placeOf path := by
    rintro rfl
    rw [h] at hother
    cases hother
  rw [entry?_put_of_ne hne, hother]

/-- a tree without what is no directory keeps its directories -/
theorem keepsDirectories_without (h : t.entry? place = some e) (he : e ≠ .directory) :
    KeepsDirectories t (t.without place) := by
  intro other hother
  have hne : other ≠ place := by
    rintro rfl
    rw [h, Option.some.injEq] at hother
    exact he hother
  rw [entry?_without_of_ne hne, hother]

theorem grows_makeDirectoriesFrom {names : Names} (hbase : ".." ∉ base)
    (h : t.makeDirectoriesFrom base names = .ok t') : Grows t t' := by
  induction names generalizing t base with
  | nil =>
    cases h
    exact .refl _
  | cons name names ih =>
    have hplace : ".." ∉ follow base name := not_mem_follow hbase name
    simp only [makeDirectoriesFrom] at h
    split at h
    · exact ih hplace h
    · cases h
    · rename_i hnone
      split at h
      · cases h
      · have hput : Grows t (t.put (follow base name) .directory) :=
          grows_put (by rw [placeOf_of_not_mem hplace, hnone])
        exact hput.trans (ih hplace h)

theorem grows_makeDirectories (h : t.makeDirectories path = .ok t') : Grows t t' := by
  unfold makeDirectories at h
  split at h
  · cases h
  · split at h
    · cases h
    · exact grows_makeDirectoriesFrom List.not_mem_nil h

theorem removeFile_of_find (h : t.find path = .ok e) (he : e ≠ .directory) :
    t.removeFile path = .ok (t.without (placeOf path)) := by
  unfold removeFile
  rw [h]
  cases e with
  | directory => exact absurd rfl he
  | file => rfl
  | socket l => rfl

end FileTree

end TunnelControl
