import TunnelControl.Proofs.Settings.Saving
import TunnelControl.Proofs.Settings.Variables

/-!
# Settings in layers

A file gives settings, and the variables of the environment go over them, one setting each.

* `Overridden env name Gives old new`   what becomes of a setting: what its variable gives, if it gives anything;
* `Settings.Layered env s t`            what becomes of all of them;
* `Settings.LoadsInLayers`              loading a file: its settings have to pass by themselves, and then with the
  variables over them;
* `loads_in_layers`                     a file with settings is loaded in this way.
-/

namespace TunnelControl

/-! ## one setting -/

/-- a setting becomes what its variable says, if that gives a value, and stays what it was otherwise -/
inductive Overridden {α : Type} (env : Environment) (name : String) (Gives : String → α → Prop) (old : α) : α → Prop
  | given {text : String} {value : α} (hsaid : env.Says name text) (hgives : Gives text value) :
      Overridden env name Gives old value
  | kept (h : ∀ text value, env.Says name text → ¬Gives text value) : Overridden env name Gives old old

/-- what a variable gives is read from its text -/
theorem overridden_iff {α : Type} {env : Environment} {name : String} {Gives : String → α → Prop}
    {read : String → Option α} (hread : ∀ text value, read text = some value ↔ Gives text value) {old new : α} :
    Overridden env name Gives old new ↔ new = ((env.text? name).bind read).getD old := by
  have hgiven (value : α) :
      (env.text? name).bind read = some value ↔ ∃ text, env.Says name text ∧ Gives text value := by
    rw [Option.bind_eq_some_iff]
    exact exists_congr fun text => and_congr Environment.text?_eq_some_iff (hread text value)
  constructor
  · intro h
    cases h with
    | given hsaid hgives => rw [(hgiven new).mpr ⟨_, hsaid, hgives⟩, Option.getD_some]
    | kept hnone =>
      have hbind : (env.text? name).bind read = none := by
        apply Option.eq_none_iff_forall_ne_some.mpr
        intro value hvalue
        obtain ⟨text, hsaid, hgives⟩ := (hgiven value).mp hvalue
        exact hnone text value hsaid hgives
      rw [hbind, Option.getD_none]
  · rintro rfl
    cases hbind : (env.text? name).bind read with
    | some value =>
      obtain ⟨text, hsaid, hgives⟩ := (hgiven value).mp hbind
      exact .given hsaid hgives
    | none =>
      refine .kept fun text value hsaid hgives => ?_
      rw [(hgiven value).mpr ⟨text, hsaid, hgives⟩] at hbind
      cases hbind

/-! ## all settings -/

/-- a text that is not empty -/
def SomeText (text value : String) : Prop := text ≠ "" ∧ value = text

def SomeManifest (text : String) (value : Option String) : Prop := text ≠ "" ∧ value = some text

/-- what becomes of settings, each under its own variable; the times have none -/
structure Settings.Layered (env : Environment) (s t : Settings) : Prop where
  logLevel : Overridden env "TUNNEL_MANAGER_LOG_LEVEL" SomeText s.logLevel t.logLevel
  socketPath : Overridden env "TUNNEL_MANAGER_SOCKET_PATH" SomeText s.manager.socketPath t.manager.socketPath
  adminUids : Overridden env "TUNNEL_MANAGER_ADMIN_UIDS" NumbersText s.manager.adminUids t.manager.adminUids
  adminGids : Overridden env "TUNNEL_MANAGER_ADMIN_GIDS" NumbersText s.manager.adminGids t.manager.adminGids
  allowRoot : Overridden env "TUNNEL_MANAGER_ALLOW_ROOT" FlagText s.manager.allowRoot t.manager.allowRoot
  allowUnofficialUpdates : Overridden env "TUNNEL_MANAGER_ALLOW_DEV_UPDATES" FlagText s.manager.allowUnofficialUpdates
    t.manager.allowUnofficialUpdates
  updateManifest : Overridden env "TUNNEL_MANAGER_UPDATE_MANIFEST" SomeManifest s.manager.updateManifest
    t.manager.updateManifest
  broadcastTimeoutMs : t.manager.broadcastTimeoutMs = s.manager.broadcastTimeoutMs
  pairingTimeoutMs : t.manager.pairingTimeoutMs = s.manager.pairingTimeoutMs

section
variable {env : Environment} {name : String}

theorem overridden_someText_iff {old new : String} :
    Overridden env name SomeText old new ↔ new = (env.someText? name).getD old := by
  apply overridden_iff
  intro text value
  unfold SomeText
  split <;> simp_all [eq_comm]

theorem overridden_someManifest_iff {old new : Option String} :
    Overridden env name SomeManifest old new ↔ new = (env.someText? name).orElse fun _ => old := by
  have hread (text : String) (value : Option String) :
      (if text = "" then none else some (some text)) = some value ↔ SomeManifest text value := by
    unfold SomeManifest
    split <;> simp_all [eq_comm]
  rw [overridden_iff hread]
  unfold Environment.someText?
  cases env.text? name with
  | none => exact Iff.rfl
  | some text => by_cases htext : text = "" <;> simp [htext]

theorem overridden_numbersText_iff {old new : List UInt32} :
    Overridden env name NumbersText old new ↔ new = ((env.text? name).map numbersOf).getD old := by
  rw [Option.map_eq_bind]
  apply overridden_iff
  intro text value
  rw [numbersText_iff]
  exact Option.some_inj

theorem overridden_flagText_iff {old new : Bool} :
    Overridden env name FlagText old new ↔ new = ((env.text? name).bind flagOfWord?).getD old :=
  overridden_iff fun _ _ => flagOfWord?_eq_some_iff

end

namespace Settings

variable {env : Environment} {s t : Settings}

theorem layered_iff : s.Layered env t ↔ t = s.withVariables env := by
  constructor
  · intro h
    obtain ⟨level, ⟨socketPath, uids, gids, root, unofficial, manifest, broadcast, pairing⟩⟩ := t
    simp only [withVariables, mk.injEq, ManagerSettings.mk.injEq]
    exact ⟨overridden_someText_iff.mp h.logLevel, overridden_someText_iff.mp h.socketPath,
      overridden_numbersText_iff.mp h.adminUids, overridden_numbersText_iff.mp h.adminGids,
      overridden_flagText_iff.mp h.allowRoot, overridden_flagText_iff.mp h.allowUnofficialUpdates,
      overridden_someManifest_iff.mp h.updateManifest, h.broadcastTimeoutMs, h.pairingTimeoutMs⟩
  · rintro rfl
    exact
      { logLevel := overridden_someText_iff.mpr rfl
        socketPath := overridden_someText_iff.mpr rfl
        adminUids := overridden_numbersText_iff.mpr rfl
        adminGids := overridden_numbersText_iff.mpr rfl
        allowRoot := overridden_flagText_iff.mpr rfl
        allowUnofficialUpdates := overridden_flagText_iff.mpr rfl
        updateManifest := overridden_someManifest_iff.mpr rfl
        broadcastTimeoutMs := rfl
        pairingTimeoutMs := rfl }

theorem getD_getD {α : Type} (o : Option α) (a : α) : o.getD (o.getD a) = o.getD a := by cases o <;> rfl

/-- the same variables once more change nothing -/
theorem withVariables_withVariables (env : Environment) (s : Settings) :
    (s.withVariables env).withVariables env = s.withVariables env := by
  have hmanifest (o : Option String) : (o.orElse fun _ => o.orElse fun _ => s.manager.updateManifest) =
      o.orElse fun _ => s.manager.updateManifest := by cases o <;> rfl
  unfold withVariables
  simp only [getD_getD, hmanifest]

theorem withEnvironment_eq_ok_iff :
    s.withEnvironment env = .ok t ↔ (s.withVariables env).firstFault = none ∧ s.withVariables env = t :=
  check_eq_ok_iff

theorem withEnvironment_again (h : s.withEnvironment env = .ok t) : t.withEnvironment env = .ok t := by
  obtain ⟨hfault, rfl⟩ := withEnvironment_eq_ok_iff.mp h
  rw [withEnvironment_eq_ok_iff, withVariables_withVariables]
  exact ⟨hfault, rfl⟩

/-! ## loading -/

theorem load_of_check_error {file : FileState} {fault : SettingsError} (hfile : ofFile file = .ok s)
    (hcheck : s.check = .error fault) (env : Environment) : load env file = .error fault := by
  simp only [load, hfile, bind, Except.bind, hcheck]

theorem load_of_check_ok {file : FileState} (hfile : ofFile file = .ok s) (hcheck : s.check = .ok t)
    (env : Environment) : load env file = (s.withVariables env).check := by
  obtain ⟨-, rfl⟩ := check_eq_ok_iff.mp hcheck
  simp only [load, hfile, bind, Except.bind, hcheck]
  rfl

/-- what comes of loading a file with settings -/
structure LoadsInLayers (env : Environment) (file : FileState) (s : Settings) : Prop where
  /-- settings that will not do by themselves are refused, whatever the variables would make of them -/
  refused (fault : SettingsError) (h : s.check = .error fault) : load env file = .error fault
  /-- others are overridden, in the one way there is, and pass or fail as they are then -/
  combined (h : s.check = .ok s) : ∃ t, s.Layered env t ∧ (∀ u, s.Layered env u → u = t) ∧ load env file = t.check
  /-- what is loaded passes the check, and stays as it is when the same variables go over it again -/
  loaded (t : Settings) (h : load env file = .ok t) : t.check = .ok t ∧ t.Layered env t ∧ t.withEnvironment env = .ok t
  /-- nor does anything change for other settings that the variables have gone over -/
  again (t u : Settings) (h : t.withEnvironment env = .ok u) : u.withEnvironment env = .ok u

/-- **A file is loaded layer by layer.** -/
theorem loads_in_layers {file : FileState} {s : Settings} (hfile : ofFile file = .ok s) (env : Environment) :
    LoadsInLayers env file s where
  refused fault h := load_of_check_error hfile h env
  combined h := by
    refine ⟨s.withVariables env, layered_iff.mpr rfl, ?_, load_of_check_ok hfile h env⟩
    intro u hu
    exact layered_iff.mp hu
  loaded t h := by
    cases hcheck : s.check with
    | error fault =>
      rw [load_of_check_error hfile hcheck] at h
      cases h
    | ok u =>
      rw [load_of_check_ok hfile hcheck] at h
      have hagain : t.withEnvironment env = .ok t := withEnvironment_again h
      obtain ⟨hfault, rfl⟩ := check_eq_ok_iff.mp h
      refine ⟨h, ?_, hagain⟩
      rw [layered_iff, withVariables_withVariables]
  again t u h := withEnvironment_again h

/-- numbers among other items, a word, an empty text and bytes that are no text -/
def mixedVariables : Environment :=
  [("TUNNEL_MANAGER_ADMIN_UIDS", Utf8.encode " 7 ,x,+0012,,4294967296"),
    ("TUNNEL_MANAGER_ALLOW_ROOT", Utf8.encode "No"), ("TUNNEL_MANAGER_LOG_LEVEL", []), ("TUNNEL_MANAGER_SOCKET_PATH", [0xFF])]

theorem loads_in_layers_mixed : ∃ text, ({} : Settings).render = some text ∧
    load mixedVariables (.content (Utf8.encode text)) = .ok { manager := { adminUids := [7, 12], allowRoot := false } } := by
  obtain ⟨text, htext, -⟩ := render_of_isWritable (s := {}) ⟨by decide, by decide⟩
  have hfile : ofFile (.content (Utf8.encode text)) = .ok {} := ofFile_of_render ⟨by decide, by decide⟩ htext
  have hvariables : ({} : Settings).withVariables mixedVariables =
      { manager := { adminUids := [7, 12], allowRoot := false } } := by
    decide +kernel
  obtain ⟨t, -, hunique, hload⟩ := (loads_in_layers hfile mixedVariables).combined (by decide)
  cases hunique _ (layered_iff.mpr rfl)
  refine ⟨text, htext, ?_⟩
  rw [hload, hvariables]
  decide

end Settings

end TunnelControl
