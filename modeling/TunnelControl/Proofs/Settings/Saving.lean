import TunnelControl.Proofs.Toml.Documents
import TunnelControl.Settings.File

/-!
# Saved settings are loaded again

* `Settings.store`        saving settings to a file, with what there is in the file afterwards;
* `ofText?_of_render`     the text that is written gives the settings again;
* `saves_and_loads`       settings that are saved and loaded are the same, if they pass the check.
-/

namespace TunnelControl

open Toml (IsBareKey WrittenPair integerMax joinLines documentLines writeText writes_text writes_bool writes_number
  writes_numbers)

/-! ## writing a file -/

/-- writing to a file, unless the place refuses it -/
def FileState.write (place : Option FileFault) (bytes : Bytes) (file : FileState) : Except FileFault Unit × FileState :=
  match place with
  | some fault => (.error fault, file)
  | none => (.ok (), .content bytes)

namespace Settings

/-- saving settings: their text is made first, and then written -/
def store (place : Option FileFault) (s : Settings) (file : FileState) : Except SettingsError Unit × FileState :=
  match s.render with
  | none => (.error .notWritable, file)
  | some text =>
    let (outcome, after) := file.write place (Utf8.encode text)
    (outcome.mapError .io, after)

theorem store_eq (place : Option FileFault) (s : Settings) (file : FileState) :
    s.store place file =
      match s.save place with
      | .ok text => (.ok (), .content (Utf8.encode text))
      | .error error => (.error error, file) := by
  unfold store save
  cases s.render with
  | none => rfl
  | some text => cases place <;> rfl

/-! ## the text of the settings -/

/-- times that a number of a file can hold -/
def IsWritable (s : Settings) : Prop :=
  s.manager.broadcastTimeoutMs.toNat ≤ 0x7FFFFFFFFFFFFFFF ∧ s.manager.pairingTimeoutMs.toNat ≤ 0x7FFFFFFFFFFFFFFF

theorem le_integerMax_iff (n : Nat) : (n : Int) ≤ integerMax ↔ n ≤ 0x7FFFFFFFFFFFFFFF := by
  unfold integerMax
  omega

theorem intercalate_concat_nil (ls : List (List Char)) : List.intercalate ['\n'] (ls ++ [[]]) = joinLines ls := by
  induction ls with
  | nil => rfl
  | cons l ls ih =>
    rw [List.cons_append, List.intercalate_cons_of_ne_nil (by simp), ih, Toml.joinLines_cons]
    simp

def outerPairs (s : Settings) : List WrittenPair :=
  [⟨"log_level", (writeText s.logLevel).toList, .text s.logLevel, by decide, writes_text _⟩]

theorem le_integerMax_of_mem (ns : List UInt32) : ∀ n ∈ ns.map UInt32.toNat, (n : Int) ≤ integerMax := by
  intro n hn
  obtain ⟨k, -, rfl⟩ := List.mem_map.mp hn
  have hk := k.toNat_lt
  unfold integerMax
  omega

/-- the pairs of the table -/
def innerPairs (s : Settings) (h : s.IsWritable) : List WrittenPair :=
  [⟨"socket_path", (writeText s.manager.socketPath).toList, .text s.manager.socketPath, by decide, writes_text _⟩,
    ⟨"admin_uids", _, _, by decide, writes_numbers (le_integerMax_of_mem s.manager.adminUids)⟩,
    ⟨"admin_gids", _, _, by decide, writes_numbers (le_integerMax_of_mem s.manager.adminGids)⟩,
    ⟨"allow_root", _, _, by decide, writes_bool s.manager.allowRoot⟩,
    ⟨"allow_unofficial_updates", _, _, by decide, writes_bool s.manager.allowUnofficialUpdates⟩]
  ++ (match s.manager.updateManifest with
      | some path => [⟨"update_manifest", _, _, by decide, writes_text path⟩]
      | none => [])
  ++ [⟨"broadcast_timeout_ms", _, _, by decide, writes_number ((le_integerMax_iff _).mpr h.1)⟩,
    ⟨"pairing_timeout_ms", _, _, by decide, writes_number ((le_integerMax_iff _).mpr h.2)⟩]

theorem render_of_isWritable {s : Settings} (h : s.IsWritable) :
    ∃ text, s.render = some text ∧
      text.toList = joinLines (documentLines s.outerPairs "manager" (s.innerPairs h)) := by
  have hb := (le_integerMax_iff _).mpr h.1
  have hp := (le_integerMax_iff _).mpr h.2
  unfold render
  simp only
  rw [if_neg (by simp [hb, hp])]
  refine ⟨_, rfl, ?_⟩
  rw [String.toList_intercalate, ← intercalate_concat_nil]
  refine congrArg (List.intercalate ['\n']) ?_
  unfold innerPairs outerPairs
  cases s.manager.updateManifest <;> simp [documentLines, WrittenPair.line, ToString.toString]

theorem render_of_not_isWritable {s : Settings} (h : ¬ s.IsWritable) : s.render = none := by
  unfold render
  refine if_pos ?_
  simp only [Bool.or_eq_true, decide_eq_true_eq, ← Int.not_le, le_integerMax_iff]
  exact Classical.not_and_iff_not_or_not.mp h

/-! ## the settings of the text -/

theorem number?_integer {limit n : Nat} (h : n ≤ limit) : Toml.number? limit (.integer n) = some n := by
  simp [Toml.number?, h]

theorem number32?_toNat (n : UInt32) : Toml.number32? (.integer n.toNat) = some n := by
  have hn : n.toNat ≤ UInt32.size - 1 := Nat.le_pred_of_lt n.toNat_lt
  rw [Toml.number32?, number?_integer hn, Option.map_some, UInt32.ofNat_toNat]

theorem number64?_toNat (n : UInt64) : Toml.number64? (.integer n.toNat) = some n := by
  have hn : n.toNat ≤ UInt64.size - 1 := Nat.le_pred_of_lt n.toNat_lt
  rw [Toml.number64?, number?_integer hn, Option.map_some, UInt64.ofNat_toNat]

theorem numbers?_toNat (ns : List UInt32) :
    Toml.numbers? (.array ((ns.map UInt32.toNat).map fun (n : Nat) => .integer n)) = some ns := by
  unfold Toml.numbers?
  induction ns with
  | nil => rfl
  | cons n ns ih =>
    simp only [List.map_cons, List.mapM_cons, number32?_toNat, ih, Option.bind_eq_bind, Option.bind_some,
      Option.pure_def]

theorem ofEntries?_innerPairs {s : Settings} (h : s.IsWritable) :
    ManagerSettings.ofEntries? ((s.innerPairs h).map WrittenPair.entry) = some s.manager := by
  obtain ⟨level, ⟨socketPath, adminUids, adminGids, allowRoot, unofficial, updateManifest, broadcast, pairing⟩⟩ := s
  unfold ManagerSettings.ofEntries? innerPairs
  cases updateManifest <;>
    simp [Toml.field?, Toml.lookup_nil, Toml.lookup_cons, WrittenPair.entry, Toml.text?, Toml.flag?, numbers?_toNat,
      number64?_toNat, -List.map_map]

theorem ofText?_of_render {s : Settings} (h : s.IsWritable) {text : String} (htext : s.render = some text) :
    ofText? text = some s := by
  obtain ⟨written, hwritten, hlines⟩ := render_of_isWritable h
  cases htext.symm.trans hwritten
  have houter : ((s.outerPairs.map WrittenPair.entry).map Prod.fst ++ ["manager"]).Nodup := by
    simp [outerPairs, WrittenPair.entry]
  have hinner : (((s.innerPairs h).map WrittenPair.entry).map Prod.fst).Nodup := by
    unfold innerPairs
    cases s.manager.updateManifest <;> simp [WrittenPair.entry]
  have hparse := Toml.parse_document (by decide) houter hinner hlines
  have hmanager : ManagerSettings.ofToml? (.table ((s.innerPairs h).map WrittenPair.entry)) = some s.manager :=
    ofEntries?_innerPairs h
  simp [ofText?, hparse, Toml.field?, Toml.lookup_cons, outerPairs, WrittenPair.entry, Toml.text?, hmanager]

end Settings

/-! ## loading the settings -/

/-- no variable is set that could override a setting -/
def Environment.OverridesNothing (env : Environment) : Prop :=
  ∀ entry ∈ env, ¬ "TUNNEL_MANAGER_".toList <+: entry.1.toList

instance (env : Environment) : Decidable env.OverridesNothing :=
  inferInstanceAs (Decidable (∀ entry ∈ env, ¬ "TUNNEL_MANAGER_".toList <+: entry.1.toList))

theorem Environment.OverridesNothing.bytes?_eq_none {env : Environment} (h : env.OverridesNothing) {name : String}
    (hname : "TUNNEL_MANAGER_".toList <+: name.toList) : env.bytes? name = none := by
  unfold Environment.bytes?
  rw [Option.map_eq_none_iff, List.find?_eq_none]
  intro entry hentry hkey
  exact h entry hentry (beq_iff_eq.mp hkey ▸ hname)

namespace Settings

theorem withVariables_of_overridesNothing {env : Environment} (h : env.OverridesNothing) (s : Settings) :
    s.withVariables env = s := by
  have htext {name : String} (hname : "TUNNEL_MANAGER_".toList <+: name.toList) : env.text? name = none := by
    simp [Environment.text?, h.bytes?_eq_none hname]
  have hsome {name : String} (hname : "TUNNEL_MANAGER_".toList <+: name.toList) : env.someText? name = none := by
    simp [Environment.someText?, htext hname]
  unfold withVariables
  rw [hsome (by decide), hsome (by decide), htext (by decide), htext (by decide), htext (by decide), htext (by decide),
    hsome (by decide)]
  rfl

theorem ofFile_of_render {s : Settings} (h : s.IsWritable) {text : String} (htext : s.render = some text) :
    ofFile (.content (Utf8.encode text)) = .ok s := by
  simp [ofFile, FileState.readText_content, ofText?_of_render h htext]

theorem load_of_render {env : Environment} (henv : env.OverridesNothing) {s : Settings} (h : s.IsWritable)
    {text : String} (htext : s.render = some text) : load env (.content (Utf8.encode text)) = s.check := by
  rw [load, ofFile_of_render h htext]
  cases hcheck : s.check with
  | error error => simp [bind, Except.bind, hcheck]
  | ok t =>
    obtain ⟨-, rfl⟩ := check_eq_ok_iff.mp hcheck
    simp [bind, Except.bind, hcheck, withEnvironment, withVariables_of_overridesNothing henv]

/-- what comes of saving settings and loading them -/
structure SavesAndLoads (env : Environment) (s : Settings) (file : FileState) : Prop where
  /-- settings whose times can be written are written, and loading gives them back or names their fault -/
  short (h : s.IsWritable) : ∃ text, s.save none = .ok text ∧
    s.store none file = (.ok (), .content (Utf8.encode text)) ∧
    (s.firstFault = none → load env (.content (Utf8.encode text)) = .ok s) ∧
    ∀ key, s.firstFault = some key → load env (.content (Utf8.encode text)) = .error (.invalid key)
  /-- others are refused, and the file stays as it was -/
  long (h : ¬ s.IsWritable) (place : Option FileFault) :
    s.save place = .error .notWritable ∧ s.store place file = (.error .notWritable, file)

/-- **Saving and loading agree.** -/
theorem saves_and_loads {env : Environment} (henv : env.OverridesNothing) (s : Settings) (file : FileState) :
    SavesAndLoads env s file where
  short h := by
    obtain ⟨text, htext, -⟩ := render_of_isWritable h
    have hsave : s.save none = .ok text := by
      simp only [save, htext]
    have hload := load_of_render henv h htext
    refine ⟨text, hsave, ?_, ?_, ?_⟩
    · rw [store_eq, hsave]
    · intro hfault
      rw [hload, check, hfault]
    · intro key hfault
      rw [hload, check, hfault]
  long h place := by
    have hsave : s.save place = .error .notWritable := by
      simp only [save, render_of_not_isWritable h]
    refine ⟨hsave, ?_⟩
    rw [store_eq, hsave]

/-- texts with marks, escapes and line ends -/
def awkwardSettings : Settings where
  logLevel := "info"
  manager :=
    { socketPath := "/run/'a' \"b\"\\c\n\x01.sock", adminUids := [0, 1000], updateManifest := some "'''\"\"\"",
      broadcastTimeoutMs := 0x7FFFFFFFFFFFFFFF }

theorem saves_and_loads_awkward : ∃ text, awkwardSettings.save none = .ok text ∧
    load [("HOME", [0x2F])] (.content (Utf8.encode text)) = .ok awkwardSettings := by
  have henv : Environment.OverridesNothing [("HOME", [0x2F])] := by decide
  have hfault : awkwardSettings.firstFault = none := by decide
  obtain ⟨text, hsave, -, hload, -⟩ := (saves_and_loads henv awkwardSettings .missing).short ⟨by decide, by decide⟩
  exact ⟨text, hsave, hload hfault⟩

end Settings

end TunnelControl
