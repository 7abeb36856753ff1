import Mathlib.Data.List.Lex
import TunnelControl.Proofs.Toml.Documents
import TunnelControl.Proofs.Update.Precedence
import TunnelControl.Proofs.Update.VersionText

/-!
# Which release is newer

A check reports the release of the manifest if the running version precedes it.

* `FileState.TellsOf`           the file is a manifest with a release, as there is one for every release;
* `ReleaseChecker.check_eq_some_iff`   when an update is reported, and which;
* `Newer`                       a check reports one version to another;
* `Newer.iff_precedes`          it does so in the order of the versions;
* `ReportsLater`, `reports_later`   the laws of that order.
-/

namespace TunnelControl

/-! ## manifests -/

/-- the file is a manifest with this release -/
def FileState.TellsOf (file : FileState) (release : Release) : Prop :=
  ∃ text, file.readText = .ok text ∧ Release.ofText? text = some release

namespace Release

/-- the pairs of a manifest -/
def pairs (release : Release) : List Toml.WrittenPair :=
  [⟨"version", _, _, by decide, Toml.writes_text release.version⟩,
    ⟨"url", _, _, by decide, Toml.writes_text release.url⟩]

theorem exists_tellsOf (release : Release) : ∃ file : FileState, file.TellsOf release := by
  have hkeys : ((release.pairs.map Toml.WrittenPair.entry).map Prod.fst).Nodup := by
    simp [pairs, Toml.WrittenPair.entry]
  let text := String.ofList (Toml.joinLines (release.pairs.map Toml.WrittenPair.line))
  have hparse : Toml.parse text = some (release.pairs.map Toml.WrittenPair.entry) :=
    Toml.parse_pairs hkeys String.toList_ofList
  refine ⟨.content (Utf8.encode text), text, FileState.readText_content text, ?_⟩
  simp [ofText?, hparse, pairs, Toml.WrittenPair.entry, Toml.lookup_cons]

end Release

/-! ## checks -/

namespace ReleaseChecker

variable {c : ReleaseChecker} {file : FileState} {path : String} {release : Release}

theorem check_of_tellsOf (hpath : c.manifest = some path) (hfile : file.TellsOf release) :
    c.check file = (do
      let latest ← readRelease release.version
      let current ← readRelease c.current
      pure (if current.lt latest then some release else none)) := by
  obtain ⟨text, htext, hread⟩ := hfile
  simp only [check, hpath, htext, hread, Except.mapError, bind, Except.bind]

theorem check_of_versions (hpath : c.manifest = some path) (hfile : file.TellsOf release) {latest running : Version}
    (hlatest : readRelease release.version = .ok latest) (hrunning : readRelease c.current = .ok running) :
    c.check file = .ok (if running.Precedes latest then some release else none) := by
  rw [check_of_tellsOf hpath hfile, hlatest, hrunning]
  simp only [← Version.lt_iff_precedes]
  rfl

/-- an update is reported if the running version precedes the manifest's, and it is the manifest's release -/
theorem check_eq_some_iff : c.check file = .ok (some release) ↔
    (∃ path, c.manifest = some path) ∧ file.TellsOf release ∧
      ∃ latest running, readRelease release.version = .ok latest ∧ readRelease c.current = .ok running ∧
        running.Precedes latest := by
  constructor
  · intro h
    unfold check at h
    split at h
    · cases h
    · rename_i path hpath
      obtain ⟨text, htext, h⟩ := except_bind_eq_ok_iff.mp h
      have hread : file.readText = .ok text := except_mapError_eq_ok_iff.mp htext
      split at h
      · cases h
      · rename_i found hfound
        obtain ⟨latest, hlatest, h⟩ := except_bind_eq_ok_iff.mp h
        obtain ⟨running, hrunning, h⟩ := except_bind_eq_ok_iff.mp h
        by_cases hlt : running.lt latest
        · rw [if_pos hlt] at h
          cases h
          exact ⟨⟨path, hpath⟩, ⟨text, hread, hfound⟩, latest, running, hlatest, hrunning,
            Version.lt_iff_precedes.mp hlt⟩
        · rw [if_neg hlt] at h
          cases h
  · rintro ⟨⟨path, hpath⟩, hfile, latest, running, hlatest, hrunning, hprecedes⟩
    rw [check_of_versions hpath hfile hlatest hrunning, if_pos hprecedes]

end ReleaseChecker

/-- a check finds a manifest with the version `latest` and reports it to the version `running` -/
def Newer (latest running : String) : Prop :=
  ∃ (path : String) (file : FileState) (url : String), file.TellsOf ⟨latest, url⟩ ∧
    ReleaseChecker.check ⟨some path, running⟩ file = .ok (some ⟨latest, url⟩)

namespace Newer

theorem iff_precedes {a b : String} :
    Newer a b ↔ ∃ v w, readRelease a = .ok v ∧ readRelease b = .ok w ∧ w.Precedes v := by
  constructor
  · rintro ⟨path, file, url, -, hcheck⟩
    exact (ReleaseChecker.check_eq_some_iff.mp hcheck).2.2
  · intro h
    obtain ⟨file, hfile⟩ := Release.exists_tellsOf ⟨a, ""⟩
    exact ⟨"", file, "", hfile, ReleaseChecker.check_eq_some_iff.mpr ⟨⟨"", rfl⟩, hfile, h⟩⟩

section
variable {a b : String} {v w : Version} (ha : readRelease a = .ok v) (hb : readRelease b = .ok w)
include ha hb

theorem iff_of_versions : Newer a b ↔ w.Precedes v := by
  rw [iff_precedes]
  constructor
  · rintro ⟨v', w', hv, hw, h⟩
    cases ha.symm.trans hv
    cases hb.symm.trans hw
    exact h
  · exact fun h => ⟨v, w, ha, hb, h⟩

end

theorem irrefl (a : String) : ¬ Newer a a := by
  rw [iff_precedes]
  rintro ⟨v, w, hv, hw, h⟩
  cases hv.symm.trans hw
  exact v.not_precedes_self h

theorem trans {a b c : String} (hab : Newer a b) (hbc : Newer b c) : Newer a c := by
  obtain ⟨u, v, hu, hv, hvu⟩ := iff_precedes.mp hab
  obtain ⟨v', w, hv', hw, hwv⟩ := iff_precedes.mp hbc
  cases hv.symm.trans hv'
  exact iff_precedes.mpr ⟨u, w, hu, hw, hwv.trans hvu⟩

end Newer

/-- a text with more letters v in front -/
def marked (marks : Nat) (text : String) : String := String.ofList (List.replicate marks 'v' ++ text.toList)

theorem readRelease_marked (marks : Nat) (text : String) {v : Version} :
    readRelease (marked marks text) = .ok v ↔ readRelease text = .ok v := by
  have hmarks : ∀ c ∈ List.replicate marks 'v', c == 'v' := fun c hc => beq_iff_eq.mpr (List.eq_of_mem_replicate hc)
  unfold readRelease
  rw [marked, String.toList_ofList, List.dropWhile_append_of_pos hmarks]
  cases Version.ofChars? (text.toList.dropWhile (· == 'v')) <;> simp

/-- what updates are reported -/
structure ReportsLater : Prop where
  /-- the texts that are versions, each of one: numbers are written by their values -/
  versions (text : String) (v : Version) :
    readRelease text = .ok v ↔ v.IsWritable ∧ ∃ marks, text.toList = List.replicate marks 'v' ++ v.chars
  /-- if the versions can be read, the release of the manifest is reported or none -/
  answers {c : ReleaseChecker} {file : FileState} {path : String} {release : Release} {latest running : Version}
    (hpath : c.manifest = some path) (hfile : file.TellsOf release) (hlatest : readRelease release.version = .ok latest)
    (hrunning : readRelease c.current = .ok running) :
    c.check file = .ok (if running.Precedes latest then some release else none)
  /-- what is reported are the manifest's own texts -/
  own {c : ReleaseChecker} {file : FileState} {release : Release} (h : c.check file = .ok (some release)) :
    file.TellsOf release
  /-- versions are newer than those that precede them -/
  rules {a b : String} {v w : Version} (ha : readRelease a = .ok v) (hb : readRelease b = .ok w) :
    Newer a b ↔ w.Precedes v
  irrefl (a : String) : ¬ Newer a a
  asymm {a b : String} (h : Newer a b) : ¬ Newer b a
  trans {a b c : String} (hab : Newer a b) (hbc : Newer b c) : Newer a c
  /-- of two versions one is newer, unless they are the same, down to the build -/
  same {a b : String} {v w : Version} (ha : readRelease a = .ok v) (hb : readRelease b = .ok w) (hab : ¬ Newer a b)
    (hba : ¬ Newer b a) : v = w
  /-- a release is newer than what marks itself as coming before it -/
  release {a b : String} {v w : Version} (ha : readRelease a = .ok v) (hb : readRelease b = .ok w)
    (hnumbers : v.numbers = w.numbers) (hv : v.preRelease = []) (hw : w.preRelease ≠ []) : Newer a b
  /-- the first number in which they differ decides -/
  numbers {a b : String} {v w : Version} (ha : readRelease a = .ok v) (hb : readRelease b = .ok w)
    (h : w.numbers < v.numbers) : Newer a b
  /-- where two pre-releases first differ, the values of numbers are compared -/
  identifiers {a b : String} {v w : Version} {is js : List Identifier} {m n j k : Nat}
    (ha : readRelease a = .ok v) (hb : readRelease b = .ok w) (hnumbers : v.numbers = w.numbers)
    (front : List Identifier) (hv : v.preRelease = front ++ .number m j :: is)
    (hw : w.preRelease = front ++ .number n k :: js) (h : n < m) : Newer a b
  /-- letters v in front do not matter -/
  marks (m n : Nat) (a b : String) : Newer (marked m a) (marked n b) ↔ Newer a b

/-- **The updates that checks report are ordered as the versions are.** -/
theorem reports_later : ReportsLater where
  versions _ _ := readRelease_eq_ok_iff
  answers hpath hfile hlatest hrunning := ReleaseChecker.check_of_versions hpath hfile hlatest hrunning
  own h := (ReleaseChecker.check_eq_some_iff.mp h).2.1
  rules ha hb := Newer.iff_of_versions ha hb
  irrefl := Newer.irrefl
  asymm h h' := Newer.irrefl _ (h.trans h')
  trans := Newer.trans
  same ha hb hab hba := by
    rw [Newer.iff_of_versions ha hb] at hab
    rw [Newer.iff_of_versions hb ha] at hba
    exact Version.eq_of_not_precedes hba hab
  release ha hb hnumbers hv hw := by
    rw [Newer.iff_of_versions ha hb]
    exact .preRelease hnumbers.symm ⟨hw, .inl hv⟩
  numbers ha hb h := (Newer.iff_of_versions ha hb).mpr (.numbers h)
  identifiers ha hb hnumbers front hv hw h := by
    rw [Newer.iff_of_versions ha hb]
    refine .preRelease hnumbers.symm ⟨?_, .inr ?_⟩
    · simp [hw]
    · rw [hv, hw]
      exact List.Lex.append_left _ (.rel (.value h)) front
  marks m n a b := by
    simp only [Newer.iff_precedes, readRelease_marked]

theorem reports_later_candidate : Newer "v1.0.0-rc.10" "1.0.0-rc.9+build.007" := by
  have hlatest : readRelease "v1.0.0-rc.10" =
      .ok ⟨1, 0, 0, [.word ['r', 'c'], .number 10 2], []⟩ := by decide
  have hrunning : readRelease "1.0.0-rc.9+build.007" =
      .ok ⟨1, 0, 0, [.word ['r', 'c'], .number 9 1], [.word ['b', 'u', 'i', 'l', 'd'], .number 7 3]⟩ := by decide
  exact reports_later.identifiers hlatest hrunning rfl [.word ['r', 'c']] rfl rfl (by decide)

end TunnelControl
