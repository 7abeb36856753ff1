import TunnelControl.Connection.Listener
import TunnelControl.Proofs.Files.Tree

/-!
# Listeners and the sockets at their paths

A listener removes by its path: when it is bound, what was there, and when it is dropped, what is there then, be it
its own socket or not.  Here it is told which moves take the socket of a listener away, of all that can be done with
listeners at any paths.

* `SocketSpace.Unlinks`             a move takes away what is at a place;
* `SocketSpace.Rooted`              a path at which a socket can stand, and always could since it was bound;
* `SocketSpace.holds_move_iff`      a listener keeps its socket in a move that does not take it away;
* `reached_iff_not_unlinked`        so clients reach it unless a move since has done so;
* `reached_of_apart`                as long as nobody else uses its place, they do;
* `unreached_of_older_drop`         of two at one path, the older takes the socket of the newer with it.
-/

namespace TunnelControl

open FileTree

def Listener.place (l : Listener) : Names := placeOf (namesOf l.path)

/-- what is done with listeners -/
inductive ListenerMove
  | bind (path : String)
  /-- of listeners that live, one is dropped -/
  | drop (l : Listener)

namespace SocketSpace

def move (s : SocketSpace) : ListenerMove → SocketSpace
  | .bind path => (s.bind path).2
  | .drop l => if l ∈ s.alive then s.drop l else s

def run (s : SocketSpace) (moves : List ListenerMove) : SocketSpace := moves.foldl move s

@[simp] theorem run_append (s : SocketSpace) (before later : List ListenerMove) :
    s.run (before ++ later) = (s.run before).run later := List.foldl_append

@[simp] theorem run_cons (s : SocketSpace) (m : ListenerMove) (later : List ListenerMove) :
    s.run (m :: later) = (s.move m).run later := rfl

theorem not_mem_alive_drop (s : SocketSpace) (l : Listener) : l ∉ (s.drop l).alive := by
  simp [drop]

/-- a listener that is bound at a path removes what it finds there -/
def Clears (s : SocketSpace) (path : String) : Prop :=
  ∃ tree e, prepare s.tree (namesOf path) = .ok tree ∧ tree.findAt path = .ok e ∧ e ≠ .directory

/-- a move takes away what is at a place -/
def Unlinks (s : SocketSpace) : ListenerMove → Names → Prop
  | .bind path, place => s.Clears path ∧ placeOf (namesOf path) = place
  | .drop l, place => l ∈ s.alive ∧ l.place = place

variable {s s' : SocketSpace} {t tree : FileTree} {path : String} {l : Listener} {m : ListenerMove} {place : Names}
  {e : FileEntry}

/-! ## paths of sockets -/

/-- a socket can stand at the path -/
structure Rooted (t : FileTree) (path : String) : Prop where
  checked : checkPath path = .ok ()
  ending : pathEnd path = .nothing
  leads : t.Leads (namesOf path)

theorem Rooted.mono (h : Rooted t path) (hkeeps : KeepsDirectories t tree) : Rooted tree path :=
  ⟨h.checked, h.ending, h.leads.mono hkeeps⟩

theorem findAt_of_ending (t : FileTree) (h : pathEnd path = .nothing) : t.findAt path = t.find (namesOf path) := by
  have hasks : asksDirectory path = false := by rw [asksDirectory, h]; rfl
  unfold findAt
  cases t.find (namesOf path) with
  | error fault => rfl
  | ok e => cases e <;> simp [hasks]

theorem find_of_findAt (h : t.findAt path = .ok e) : t.find (namesOf path) = .ok e := by
  unfold findAt at h
  split at h
  · rename_i hfind
    rw [hfind, h]
  · rename_i hfind
    split at h
    · cases h
    · rw [hfind, h]
  · cases h

theorem Rooted.findAt_eq (h : Rooted t path) : t.findAt path = found (t.entry? (placeOf (namesOf path))) := by
  rw [findAt_of_ending t h.ending, h.leads.find_eq]

theorem isNameless_of_checked (h : checkPath path = .ok ()) : isNameless path = false := by
  unfold checkPath at h
  split at h
  · cases h
  · rename_i hnul
    rw [isNameless, decide_eq_false_iff_not]
    intro hhead
    exact hnul (List.contains_iff_mem.mpr (List.mem_of_mem_head? hhead))

/-- clients reach a listener that lives exactly if its socket is at its place -/
theorem connect_eq_ok_iff (h : Rooted s.tree l.path) (hl : l ∈ s.alive) :
    s.connect l.path = .ok l.number ↔ s.tree.entry? l.place = some (.socket l.number) := by
  have hany : s.alive.any (·.number == l.number) = true := List.any_eq_true.mpr ⟨l, hl, beq_self_eq_true _⟩
  unfold connect
  rw [isNameless_of_checked h.checked, h.checked, h.findAt_eq, Listener.place]
  cases s.tree.entry? (placeOf (namesOf l.path)) with
  | none => simp [found]
  | some e =>
    cases e with
    | directory => simp [found]
    | file => simp [found]
    | socket n =>
      simp only [found, Bool.false_eq_true, if_false, Option.some.injEq, FileEntry.socket.injEq]
      constructor
      · intro h
        split at h
        · exact Except.ok.inj h
        · cases h
      · rintro rfl
        rw [if_pos hany]

/-! ## what a move does to the files -/

/-- the files when what was at a path is removed, if something was -/
inductive Emptied (s : SocketSpace) (path : String) : FileTree → Prop
  | nothing {tree : FileTree} (hclears : ¬ s.Clears path) (hgrows : Grows s.tree tree) : Emptied s path tree
  | removed {tree : FileTree} {e : FileEntry} (hclears : s.Clears path) (hgrows : Grows s.tree tree)
      (hentry : tree.entry? (placeOf (namesOf path)) = some e) (he : e ≠ .directory) :
      Emptied s path (tree.without (placeOf (namesOf path)))

theorem grows_of_prepare {path : Names} (h : prepare t path = .ok tree) : Grows t tree := by
  unfold prepare at h
  split at h
  · cases h
    exact .refl _
  · cases hmake : t.makeDirectories path.dropLast with
    | error fault =>
      rw [hmake] at h
      cases h
    | ok made =>
      rw [hmake] at h
      cases h
      exact grows_makeDirectories hmake

theorem refusal?_eq_none (h : refusal? t path = none) :
    checkPath path = .ok () ∧ t.find (namesOf path).dropLast = .ok .directory ∧ pathEnd path = .nothing := by
  unfold refusal? at h
  split at h
  · cases h
  · cases h
  · rename_i hchecked hparent
    refine ⟨hchecked, hparent, ?_⟩
    split at h
    · assumption
    all_goals cases h
  · cases h

theorem clear_of_findAt (h : t.findAt path = .ok e) (he : e ≠ .directory) :
    clear t path = .ok (t.without (placeOf (namesOf path))) := by
  have hok : (t.findAt path).isOk = true := by rw [h]; rfl
  rw [clear, if_pos hok, removeFile_of_find (find_of_findAt h) he]
  rfl

theorem clear_of_not_found (h : ∀ e, t.findAt path ≠ .ok e) : clear t path = .ok t := by
  unfold clear
  cases hfind : t.findAt path with
  | error fault => rfl
  | ok e => exact absurd hfind (h e)

theorem clear_of_directory (h : t.findAt path = .ok .directory) :
    clear t path = .error (.removeSocket .isADirectory) := by
  have hok : (t.findAt path).isOk = true := by rw [h]; rfl
  rw [clear, if_pos hok, removeFile, find_of_findAt h]
  rfl

theorem findAt_root (h : namesOf path = []) (t : FileTree) : t.findAt path = .ok .directory := by
  rw [findAt, h]
  rfl

/-- how binding ends once the path is empty: the path is refused, or a socket is made there -/
def Ends (s : SocketSpace) (path : String) (tree : FileTree) : Prop :=
  (∃ fault, s.bind path = (.error fault, { s with tree })) ∨
    Rooted tree path ∧ tree.entry? (placeOf (namesOf path)) = none ∧
      s.bind path = (.ok ⟨s.next, path⟩,
        { tree := tree.put (namesOf path) (.socket s.next),
          alive := s.alive ++ [⟨s.next, path⟩], next := s.next + 1 })

theorem ends_of_clear (hprepare : prepare s.tree (namesOf path) = .ok t) (hclear : clear t path = .ok tree)
    (hroot : namesOf path ≠ []) (hnone : Rooted tree path → tree.entry? (placeOf (namesOf path)) = none) :
    s.Ends path tree := by
  unfold Ends bind
  rw [hprepare]
  simp only [hclear]
  cases hrefusal : refusal? tree path with
  | some fault => exact .inl ⟨_, rfl⟩
  | none =>
    obtain ⟨hchecked, hparent, hending⟩ := refusal?_eq_none hrefusal
    have hrooted : Rooted tree path := ⟨hchecked, hending, hroot, hparent⟩
    exact .inr ⟨hrooted, hnone hrooted, rfl⟩

theorem clears_iff (hprepare : prepare s.tree (namesOf path) = .ok t) :
    s.Clears path ↔ ∃ e, t.findAt path = .ok e ∧ e ≠ .directory := by
  constructor
  · rintro ⟨tree, e, hok, h⟩
    cases hprepare.symm.trans hok
    exact ⟨e, h⟩
  · exact fun ⟨e, h⟩ => ⟨t, e, hprepare, h⟩

theorem not_clears_of_fault {fault : ConnectionFault} (hprepare : prepare s.tree (namesOf path) = .error fault) :
    ¬ s.Clears path := by
  rintro ⟨tree, e, hok, -⟩
  cases hprepare.symm.trans hok

/-- binding empties the path, as far as it can, and ends there or in a fault -/
theorem bind_cases (s : SocketSpace) (path : String) : ∃ tree, Emptied s path tree ∧ s.Ends path tree := by
  cases hprepare : prepare s.tree (namesOf path) with
  | error fault =>
    exact ⟨s.tree, .nothing (not_clears_of_fault hprepare) (.refl _), .inl ⟨fault, by rw [bind, hprepare]⟩⟩
  | ok t =>
    have hgrows : Grows s.tree t := grows_of_prepare hprepare
    cases hfind : t.findAt path with
    | error fault =>
      have hnothing (e : FileEntry) : t.findAt path ≠ .ok e := by rw [hfind]; nofun
      have hroot : namesOf path ≠ [] := fun h => hnothing _ (findAt_root h t)
      have hnone (hrooted : Rooted t path) : t.entry? (placeOf (namesOf path)) = none :=
        Option.eq_none_iff_forall_ne_some.mpr fun e hentry =>
          hnothing e (hrooted.findAt_eq.trans (found_eq_ok_iff.mpr hentry))
      refine ⟨t, .nothing ?_ hgrows, ends_of_clear hprepare (clear_of_not_found hnothing) hroot hnone⟩
      rw [clears_iff hprepare]
      exact fun ⟨e, h, _⟩ => hnothing e h
    | ok e =>
      by_cases he : e = .directory
      · subst he
        refine ⟨t, .nothing ?_ hgrows, .inl ⟨.removeSocket .isADirectory, ?_⟩⟩
        · rw [clears_iff hprepare, hfind]
          exact fun ⟨e, h, he⟩ => he (Except.ok.inj h).symm
        · unfold bind
          rw [hprepare]
          simp only [clear_of_directory hfind]
      · have hentry := entry?_of_find (find_of_findAt hfind)
        have hroot : namesOf path ≠ [] := fun h => he (Except.ok.inj (hfind.symm.trans (findAt_root h t)))
        have hnone : entry? (t.without (placeOf (namesOf path))) (placeOf (namesOf path)) = none :=
          entry?_without_self (place_ne_nil_of_some hentry he) t
        exact ⟨_, .removed ((clears_iff hprepare).mpr ⟨e, hfind, he⟩) hgrows hentry he,
          ends_of_clear hprepare (clear_of_findAt hfind he) hroot fun _ => hnone⟩

namespace Emptied

/-- what is not taken away stays -/
theorem entry? (h : Emptied s path tree) (hplace : ¬ s.Unlinks (.bind path) place)
    (hentry : s.tree.entry? place = some e) : tree.entry? place = some e := by
  cases h with
  | nothing _ hgrows => exact hgrows.entry? hentry
  | removed hclears hgrows _ _ =>
    have hne : place ≠ placeOf (namesOf path) := fun heq => hplace ⟨hclears, heq.symm⟩
    rw [entry?_without_of_ne hne]
    exact hgrows.entry? hentry

theorem entry?_eq_none (h : Emptied s path tree) (hclears : s.Clears path) :
    tree.entry? (placeOf (namesOf path)) = none := by
  cases h with
  | nothing hnone _ => exact absurd hclears hnone
  | removed _ _ hentry he => exact entry?_without_self (place_ne_nil_of_some hentry he) _

/-- no socket comes from elsewhere -/
theorem socket {n : Nat} (h : Emptied s path tree) (hentry : tree.entry? place = some (.socket n)) :
    s.tree.entry? place = some (.socket n) := by
  cases h with
  | nothing _ hgrows => exact hgrows.socket hentry
  | removed hclears hgrows hremoved he =>
    have hne : place ≠ placeOf (namesOf path) := by
      rintro rfl
      rw [entry?_without_self (place_ne_nil_of_some hremoved he)] at hentry
      cases hentry
    rw [entry?_without_of_ne hne] at hentry
    exact hgrows.socket hentry

theorem directories (h : Emptied s path tree) : KeepsDirectories s.tree tree := by
  cases h with
  | nothing _ hgrows => exact hgrows.directories
  | removed _ hgrows hentry he =>
    exact fun place hplace => keepsDirectories_without hentry he place (hgrows.directories place hplace)

end Emptied

/-- dropping removes what is at the path, if that is no directory -/
theorem tree_drop (s : SocketSpace) (l : Listener) :
    (s.drop l).tree = s.tree ∧ (∀ e, s.tree.find (namesOf l.path) = .ok e → e = .directory) ∨
      ∃ e, s.tree.entry? l.place = some e ∧ e ≠ .directory ∧ (s.drop l).tree = s.tree.without l.place := by
  cases hfind : s.tree.find (namesOf l.path) with
  | error fault =>
    have hremove : s.tree.removeFile (namesOf l.path) = .error fault := by rw [removeFile, hfind]
    exact .inl ⟨by rw [drop, hremove]; rfl, nofun⟩
  | ok e =>
    by_cases he : e = .directory
    · subst he
      have hremove : s.tree.removeFile (namesOf l.path) = .error .isADirectory := by rw [removeFile, hfind]
      exact .inl ⟨by rw [drop, hremove]; rfl, fun e he => (Except.ok.inj he).symm⟩
    · exact .inr ⟨e, entry?_of_find hfind, he, by rw [drop, removeFile_of_find hfind he]; rfl⟩

theorem move_drop (hl : l ∈ s.alive) : s.move (.drop l) = s.drop l := if_pos hl

theorem move_drop_of_not_mem (hl : l ∉ s.alive) : s.move (.drop l) = s := if_neg hl

theorem directories_move (s : SocketSpace) (m : ListenerMove) : KeepsDirectories s.tree (s.move m).tree := by
  cases m with
  | bind path =>
    obtain ⟨tree, hemptied, ⟨fault, hbind⟩ | ⟨-, hnone, hbind⟩⟩ := bind_cases s path
    · rw [move, hbind]
      exact hemptied.directories
    · rw [move, hbind]
      exact fun place hplace => keepsDirectories_put hnone _ place (hemptied.directories place hplace)
  | drop l =>
    by_cases hl : l ∈ s.alive
    · rw [move_drop hl]
      obtain ⟨hsame, -⟩ | ⟨e, hentry, he, htree⟩ := tree_drop s l
      · rw [hsame]
        exact fun place hplace => hplace
      · rw [htree]
        exact keepsDirectories_without hentry he
    · rw [move_drop_of_not_mem hl]
      exact fun place hplace => hplace

/-- what a move does not take away stays -/
theorem entry?_move (hplace : ¬ s.Unlinks m place) (hentry : s.tree.entry? place = some e) :
    entry? (s.move m).tree place = some e := by
  cases m with
  | bind path =>
    obtain ⟨tree, hemptied, hends⟩ := bind_cases s path
    have htree : tree.entry? place = some e := hemptied.entry? hplace hentry
    obtain ⟨fault, hbind⟩ | ⟨-, hnone, hbind⟩ := hends
    · rw [move, hbind]
      exact htree
    · have hne : place ≠ placeOf (namesOf path) := by
        rintro rfl
        rw [hnone] at htree
        cases htree
      rw [move, hbind]
      exact (entry?_put_of_ne hne ..).trans htree
  | drop l =>
    by_cases hl : l ∈ s.alive
    · have hne : place ≠ l.place := fun heq => hplace ⟨hl, heq.symm⟩
      rw [move_drop hl]
      obtain ⟨hsame, -⟩ | ⟨-, -, -, htree⟩ := tree_drop s l
      · rw [hsame, hentry]
      · rw [htree, entry?_without_of_ne hne, hentry]
    · rw [move_drop_of_not_mem hl, hentry]

/-- a move makes no socket but that of the next number -/
theorem socket_of_move {n : Nat} (hn : n < s.next) (hentry : entry? (s.move m).tree place = some (.socket n)) :
    s.tree.entry? place = some (.socket n) := by
  cases m with
  | bind path =>
    obtain ⟨tree, hemptied, hends⟩ := bind_cases s path
    obtain ⟨fault, hbind⟩ | ⟨hrooted, hnone, hbind⟩ := hends
    · rw [move, hbind] at hentry
      exact hemptied.socket hentry
    · rw [move, hbind] at hentry
      by_cases hplace : place = placeOf (namesOf path)
      · subst hplace
        have hroot : placeOf (namesOf path) ≠ [] := place_ne_nil_of_none hnone
        have hnew := (entry?_put_self hroot tree (.socket s.next)).symm.trans hentry
        cases hnew
        exact absurd hn (Nat.lt_irrefl _)
      · exact hemptied.socket ((entry?_put_of_ne hplace ..).symm.trans hentry)
  | drop l =>
    by_cases hl : l ∈ s.alive
    · rw [move_drop hl] at hentry
      obtain ⟨hsame, -⟩ | ⟨e, hremoved, he, htree⟩ := tree_drop s l
      · rwa [hsame] at hentry
      · rw [htree] at hentry
        have hne : place ≠ l.place := by
          rintro rfl
          rw [entry?_without_self (place_ne_nil_of_some hremoved he)] at hentry
          cases hentry
        rwa [entry?_without_of_ne hne] at hentry
    · rwa [move_drop_of_not_mem hl] at hentry

/-! ## listeners and their sockets -/

/-- the listeners that live have numbers of their own, and paths at which their sockets can stand -/
structure Sound (s : SocketSpace) : Prop where
  numbered (l : Listener) (h : l ∈ s.alive) : l.number < s.next
  rooted (l : Listener) (h : l ∈ s.alive) : Rooted s.tree l.path

/-- where there are only files, any run of moves may begin -/
theorem sound_of_alive_eq_nil (h : s.alive = []) : s.Sound where
  numbered l hl := by rw [h] at hl; cases hl
  rooted l hl := by rw [h] at hl; cases hl

/-- a place that a move empties has no socket of those that were numbered before -/
theorem not_socket_of_unlinks (hs : s.Sound) {n : Nat} (hn : n < s.next) (hplace : s.Unlinks m place) :
    entry? (s.move m).tree place ≠ some (.socket n) := by
  cases m with
  | bind path =>
    obtain ⟨hclears, rfl⟩ := hplace
    obtain ⟨tree, hemptied, hends⟩ := bind_cases s path
    obtain ⟨fault, hbind⟩ | ⟨-, hnone, hbind⟩ := hends
    · rw [move, hbind]
      show tree.entry? _ ≠ _
      rw [hemptied.entry?_eq_none hclears]
      nofun
    · have hroot : placeOf (namesOf path) ≠ [] := place_ne_nil_of_none hnone
      rw [move, hbind]
      show entry? (tree.put (namesOf path) (.socket s.next)) _ ≠ _
      rw [entry?_put_self hroot]
      intro hnew
      cases hnew
      exact absurd hn (Nat.lt_irrefl _)
  | drop l =>
    obtain ⟨hl, rfl⟩ := hplace
    rw [move_drop hl]
    obtain ⟨hsame, hdirectory⟩ | ⟨e, hremoved, he, htree⟩ := tree_drop s l
    · rw [hsame]
      intro hentry
      have hfind : s.tree.find (namesOf l.path) = .ok (.socket n) := by
        rw [(hs.rooted l hl).leads.find_eq, found_eq_ok_iff]
        exact hentry
      cases hdirectory _ hfind
    · rw [htree, entry?_without_self (place_ne_nil_of_some hremoved he)]
      nofun

theorem next_le_move (s : SocketSpace) (m : ListenerMove) : s.next ≤ (s.move m).next := by
  cases m with
  | bind path =>
    obtain ⟨tree, -, ⟨fault, hbind⟩ | ⟨-, -, hbind⟩⟩ := bind_cases s path
    · have hnext : (s.move (.bind path)).next = s.next := by rw [move, hbind]
      exact Nat.le_of_eq hnext.symm
    · have hnext : (s.move (.bind path)).next = s.next + 1 := by rw [move, hbind]
      exact hnext ▸ Nat.le_succ s.next
  | drop l =>
    by_cases hl : l ∈ s.alive
    · exact Nat.le_of_eq (congrArg SocketSpace.next (move_drop hl)).symm
    · exact Nat.le_of_eq (congrArg SocketSpace.next (move_drop_of_not_mem hl)).symm

/-- a listener lives after a move if it did before, or was bound by it -/
theorem alive_of_move (h : l ∈ (s.move m).alive) :
    l ∈ s.alive ∨ l.number = s.next ∧ (s.move m).next = s.next + 1 ∧ Rooted (s.move m).tree l.path := by
  cases m with
  | bind path =>
    obtain ⟨tree, -, ⟨fault, hbind⟩ | ⟨hrooted, hnone, hbind⟩⟩ := bind_cases s path
    · rw [move, hbind] at h
      exact .inl h
    · rw [move, hbind] at h ⊢
      obtain hold | hnew := List.mem_append.mp h
      · exact .inl hold
      · obtain rfl := List.mem_singleton.mp hnew
        exact .inr ⟨rfl, rfl, hrooted.mono (keepsDirectories_put hnone _)⟩
  | drop other =>
    by_cases hother : other ∈ s.alive
    · rw [move_drop hother] at h
      exact .inl (List.mem_filter.mp h).1
    · rw [move_drop_of_not_mem hother] at h
      exact .inl h

theorem Sound.move (hs : s.Sound) (m : ListenerMove) : (s.move m).Sound where
  numbered l hl := by
    obtain hold | ⟨hnumber, hnext, -⟩ := alive_of_move hl
    · exact Nat.lt_of_lt_of_le (hs.numbered l hold) (next_le_move s m)
    · omega
  rooted l hl := by
    obtain hold | ⟨-, -, hrooted⟩ := alive_of_move hl
    · exact (hs.rooted l hold).mono (directories_move s m)
    · exact hrooted

theorem Sound.run (hs : s.Sound) (moves : List ListenerMove) : (s.run moves).Sound := by
  induction moves generalizing s with
  | nil => exact hs
  | cons m moves ih => exact ih (hs.move m)

theorem next_le_run (s : SocketSpace) (moves : List ListenerMove) : s.next ≤ (s.run moves).next := by
  induction moves generalizing s with
  | nil => exact Nat.le_refl _
  | cons m moves ih => exact Nat.le_trans (next_le_move s m) (ih (s.move m))

/-- nobody who is gone comes back -/
theorem alive_of_run (hn : l.number < s.next) {moves : List ListenerMove} (h : l ∈ (s.run moves).alive) :
    l ∈ s.alive := by
  induction moves generalizing s with
  | nil => exact h
  | cons m moves ih =>
    have hmove : l ∈ (s.move m).alive := ih (Nat.lt_of_lt_of_le hn (next_le_move s m)) h
    obtain hold | ⟨hnumber, -⟩ := alive_of_move hmove
    · exact hold
    · exact absurd hnumber (Nat.ne_of_lt hn)

/-- the socket of a listener is at its place -/
def Holds (s : SocketSpace) (l : Listener) : Prop := s.tree.entry? l.place = some (.socket l.number)

theorem holds_move_iff (hs : s.Sound) (hn : l.number < s.next) (m : ListenerMove) :
    (s.move m).Holds l ↔ s.Holds l ∧ ¬ s.Unlinks m l.place := by
  constructor
  · intro h
    exact ⟨socket_of_move hn h, fun hplace => not_socket_of_unlinks hs hn hplace h⟩
  · exact fun ⟨h, hplace⟩ => entry?_move hplace h

theorem holds_run_iff (hs : s.Sound) (hn : l.number < s.next) (moves : List ListenerMove) :
    (s.run moves).Holds l ↔ s.Holds l ∧
      ∀ before m later, moves = before ++ m :: later → ¬ (s.run before).Unlinks m l.place := by
  induction moves generalizing s with
  | nil =>
    refine ⟨fun h => ⟨h, fun before m later hmoves => ?_⟩, And.left⟩
    exact absurd hmoves.symm (List.append_ne_nil_of_right_ne_nil _ (List.cons_ne_nil m later))
  | cons m moves ih =>
    show ((s.move m).run moves).Holds l ↔ _
    rw [ih (hs.move m) (Nat.lt_of_lt_of_le hn (next_le_move s m)), holds_move_iff hs hn, and_assoc]
    refine and_congr_right fun _ => ⟨fun ⟨hfirst, hrest⟩ before m' later hmoves => ?_, fun h => ⟨?_, ?_⟩⟩
    · cases before with
      | nil =>
        cases hmoves
        exact hfirst
      | cons m'' before =>
        cases hmoves
        exact hrest before m' later rfl
    · exact h [] m moves rfl
    · rintro before m' later rfl
      exact h (m :: before) m' later rfl

/-! ## who is reached -/

theorem bind_eq_ok (h : s.bind path = (.ok l, s')) : l = ⟨s.next, path⟩ ∧ s'.next = s.next + 1 ∧
    s'.alive = s.alive ++ [l] ∧ Rooted s'.tree path ∧ s'.Holds l := by
  obtain ⟨tree, -, ⟨fault, hbind⟩ | ⟨hrooted, hnone, hbind⟩⟩ := bind_cases s path
  · rw [hbind] at h
    cases h
  · have hroot : placeOf (namesOf path) ≠ [] := place_ne_nil_of_none hnone
    rw [hbind] at h
    cases h
    exact ⟨rfl, rfl, rfl, hrooted.mono (keepsDirectories_put hnone _), entry?_put_self hroot ..⟩

theorem sound_of_bind (hs : s.Sound) (h : s.bind path = (.ok l, s')) : s'.Sound := by
  have hmove : s.move (.bind path) = s' := by rw [move, h]
  exact hmove ▸ hs.move (.bind path)

/-- **A listener is reached at its path unless a move since has taken its socket away**: clients come to it, as long as
it lives, exactly if neither a listener that was bound since removed what it found at that place, nor another one of
that place was dropped. -/
theorem reached_iff_not_unlinked (hs : s.Sound) (hbind : s.bind path = (.ok l, s')) {moves : List ListenerMove}
    (hlive : l ∈ (s'.run moves).alive) :
    (s'.run moves).connect path = .ok l.number ↔
      ∀ before m later, moves = before ++ m :: later → ¬ (s'.run before).Unlinks m l.place := by
  obtain ⟨hl, hnext, -, -, hholds⟩ := bind_eq_ok hbind
  have hsound : s'.Sound := sound_of_bind hs hbind
  have hn : l.number < s'.next := by rw [hl, hnext]; exact Nat.lt_succ_self _
  have hpath : l.path = path := by rw [hl]
  have hreached := connect_eq_ok_iff ((hsound.run moves).rooted l hlive) hlive
  rw [hpath] at hreached
  exact hreached.trans ((holds_run_iff hsound hn moves).trans (and_iff_right hholds))

/-- As long as nobody else uses its place, a listener is reached. -/
theorem reached_of_apart (hs : s.Sound) (hbind : s.bind path = (.ok l, s')) {moves : List ListenerMove}
    (hlive : l ∈ (s'.run moves).alive)
    (hbinds : ∀ other, .bind other ∈ moves → placeOf (namesOf other) ≠ l.place)
    (hdrops : ∀ other, .drop other ∈ moves → other ≠ l → other.place ≠ l.place) :
    (s'.run moves).connect path = .ok l.number := by
  obtain ⟨hl, hnext, -, -, -⟩ := bind_eq_ok hbind
  have hn : l.number < s'.next := by rw [hl, hnext]; exact Nat.lt_succ_self _
  rw [reached_iff_not_unlinked hs hbind hlive]
  rintro before m later rfl hunlinks
  have hmem : m ∈ before ++ m :: later := List.mem_append_right _ List.mem_cons_self
  cases m with
  | bind other => exact hbinds other hmem hunlinks.2
  | drop other =>
    by_cases hother : other = l
    · -- it is dropped itself, and so it lives no more
      subst hother
      rw [run_append, run_cons] at hlive
      have hback := alive_of_run (Nat.lt_of_lt_of_le hn ?_) hlive
      · rw [move_drop hunlinks.1] at hback
        exact not_mem_alive_drop _ _ hback
      · exact Nat.le_trans (next_le_run s' before) (next_le_move _ _)
    · exact hdrops other hmem hother hunlinks.2

/-- a path at which there is a file can be bound: the socket takes its place -/
theorem bind_of_rooted (hrooted : Rooted s.tree path) (hentry : s.tree.entry? (placeOf (namesOf path)) = some e)
    (he : e ≠ .directory) : ∃ s', s.bind path = (.ok ⟨s.next, path⟩, s') := by
  have hprepare : prepare s.tree (namesOf path) = .ok s.tree := by
    rw [prepare, if_pos]
    rw [isThere, hrooted.leads.2]
    rfl
  have hfound : s.tree.findAt path = .ok e := by rw [hrooted.findAt_eq, hentry]; rfl
  have hstill : Rooted (s.tree.without (placeOf (namesOf path))) path :=
    hrooted.mono (keepsDirectories_without hentry he)
  have hrefusal : refusal? (s.tree.without (placeOf (namesOf path))) path = none := by
    unfold refusal?
    rw [hstill.checked, hstill.leads.2, hstill.ending]
  unfold bind
  rw [hprepare]
  simp only [clear_of_findAt hfound he, hrefusal]
  exact ⟨_, rfl⟩

theorem tree_drop_of_entry? (hrooted : Rooted s.tree l.path) (hentry : s.tree.entry? l.place = some e)
    (he : e ≠ .directory) : (s.drop l).tree = s.tree.without l.place := by
  have hfind : s.tree.find (namesOf l.path) = .ok e := by
    rw [hrooted.leads.find_eq, found_eq_ok_iff]
    exact hentry
  rw [drop, removeFile_of_find hfind he]
  rfl

/-- **Of two listeners at one path the older takes the socket of the newer with it**, whatever the path: the newer one
lives, and clients do not find it. -/
theorem unreached_of_older_drop (hbind : s.bind path = (.ok l, s')) :
    ∃ l' s'', s'.bind path = (.ok l', s'') ∧ l' ∈ (s''.drop l).alive ∧
      (s''.drop l).connect path = .error (.connect .notFound) := by
  obtain ⟨rfl, hnext, -, hrooted, hholds⟩ := bind_eq_ok hbind
  obtain ⟨s'', hagain⟩ := bind_of_rooted hrooted hholds nofun
  obtain ⟨-, -, halive, hrooted', hholds'⟩ := bind_eq_ok hagain
  refine ⟨_, s'', hagain, ?_, ?_⟩
  · have hother : (⟨s'.next, path⟩ : Listener) ≠ ⟨s.next, path⟩ := by
      rw [hnext, Ne, Listener.mk.injEq]
      omega
    exact List.mem_filter.mpr ⟨halive ▸ List.mem_append_right _ List.mem_cons_self, bne_iff_ne.mpr hother⟩
  · -- what stands at the path is the socket of the newer one, and it is removed all the same
    have htree : (s''.drop ⟨s.next, path⟩).tree = s''.tree.without (placeOf (namesOf path)) :=
      tree_drop_of_entry? (l := ⟨s.next, path⟩) hrooted' hholds' nofun
    have hgone : entry? (s''.drop ⟨s.next, path⟩).tree (placeOf (namesOf path)) = none := by
      rw [htree]
      exact entry?_without_self (place_ne_nil_of_some hholds' nofun) _
    have hkept : Rooted (s''.drop ⟨s.next, path⟩).tree path := by
      rw [htree]
      exact hrooted'.mono (keepsDirectories_without hholds' nofun)
    unfold connect
    rw [isNameless_of_checked hkept.checked, hkept.checked, hkept.findAt_eq, hgone]
    rfl

/-- two listeners in the directory of the root, of which the older is dropped -/
example : (SocketSpace.run {} [.bind "/m", .bind "/m", .drop ⟨0, "/m"⟩]).alive = [⟨1, "/m"⟩] ∧
    (SocketSpace.run {} [.bind "/m", .bind "/m", .drop ⟨0, "/m"⟩]).connect "/m" = .error (.connect .notFound) := by
  constructor <;> cbv

end SocketSpace

end TunnelControl
