import TunnelControl.Daemon
import TunnelControl.Proofs.Cli.StandIns
import TunnelControl.Proofs.Settings.Variables

/-!
# Where the two programs meet

The service binds a socket, and the control program connects to one.  Each finds the path by itself: from its command
line, from the file with the settings and from the environment.

* `ControlOptions.NamesNoSocket`  a command line of the control program without a socket;
* `socket_of_unnamed`             then the socket is that of the variable, as it is;
* `Daemon.Configured`             the service is past its configuration;
* `Daemon.BindsAt`                the path that it goes on to bind;
* `StartedAlike`                  both programs are started in the same place, and neither is told a socket;
* `meet_iff`                      they meet if and only if the variable is a text, or not set at all.
-/

namespace TunnelControl

/-- a variable is not set, or to a text -/
def Environment.IsTextual (env : Environment) (name : String) : Prop :=
  env.bytes? name = none ∨ ∃ text, env.Says name text

/-! ## the control program -/

namespace ControlOptions

def socketOption : OptionSpec :=
  { name := "socket", short := some 's', kind := .path, standIn? := some "TUNNEL_MANAGER_SOCKET_PATH" }

theorem socketOption_mem : socketOption ∈ spec.options := by decide

theorem plain_of_mem_subcommands : ∀ sub ∈ spec.subcommands, sub.2.Plain := by
  have hleaf (options : List OptionSpec) (h : ∀ o ∈ options, o.standIn? = none) : (leaf options).Plain :=
    .mk h (by simp)
  have htunnel : tunnelSpec.Plain := by
    refine .mk (by simp) ?_
    simp only [List.forall_mem_cons]
    exact ⟨hleaf _ (by simp), hleaf _ (by simp), hleaf _ (by simp), by simp⟩
  simp only [spec, CommandSpec.subcommands, List.forall_mem_cons]
  exact ⟨hleaf _ (by simp), hleaf _ (by simp), htunnel, hleaf _ (by simp), hleaf _ (by simp), by simp⟩

/-- read without any variable, the words give no value to the option for the socket -/
def NamesNoSocket (words : List Bytes) : Prop :=
  ∀ m, spec.read [] words = .ok m → m.values.lookup "socket" = none

/-- words that name no socket leave it to the variable, which may be anything but empty -/
theorem socket_of_unnamed {env : Environment} {words : List Bytes} {o : ControlOptions} (h : read env words = .ok o)
    (hunnamed : NamesNoSocket words) :
    o.socket = env.bytes? "TUNNEL_MANAGER_SOCKET_PATH" ∧ o.socket ≠ some [] := by
  unfold read at h
  cases hm : spec.read env words with
  | error fault =>
    rw [hm] at h
    cases h
  | ok m =>
    rw [hm] at h
    cases h
    obtain ⟨bare, hbare, hcompleted⟩ := CommandSpec.read_completed (by decide) plain_of_mem_subcommands hm
    obtain ⟨hlookup, hne⟩ := ArgScan.lookup_withVariables hcompleted.values socketOption_mem (by decide) rfl rfl
      (hunnamed bare hbare)
    have hfirst : m.first? "socket" = (env.bytes? "TUNNEL_MANAGER_SOCKET_PATH").map .path := by
      show (m.values.lookup socketOption.name).bind List.head? = _
      rw [hlookup]
      show Option.bind (Option.map _ (env.bytes? "TUNNEL_MANAGER_SOCKET_PATH")) _ = _
      cases env.bytes? "TUNNEL_MANAGER_SOCKET_PATH" <;> rfl
    have hsocket : (ofMatches m).socket = env.bytes? "TUNNEL_MANAGER_SOCKET_PATH" := by
      show m.path? "socket" = _
      rw [Matches.path?, hfirst]
      cases env.bytes? "TUNNEL_MANAGER_SOCKET_PATH" <;> rfl
    rw [hsocket]
    exact ⟨rfl, hne⟩

end ControlOptions

/-! ## the service -/

namespace Daemon

variable {s : Surroundings} {words : List Bytes} {d : DaemonOptions} {settings : Settings}

/-- the service gets past its command line and its settings -/
structure Configured (s : Surroundings) (words : List Bytes) (d : DaemonOptions) (settings : Settings) : Prop where
  options : DaemonOptions.read s.env words = .ok d
  settings : settingsOf s.env (Settings.load s.env (s.file (d.configPath s.env s.userHome))) = .ok settings

/-- what becomes of the service is what becomes of binding a path -/
def BindsAt (s : Surroundings) (words : List Bytes) (startedWithSystem : Bool) (path : String) : Prop :=
  ∃ (d : Daemon) (m : ManagerSettings), d.serving = none ∧ m.socketPath = path ∧
    start s words startedWithSystem = d.serve s m startedWithSystem

theorem serving_record (d : Daemon) (level : LogLevel) (text : String) : (d.record level text).serving = d.serving := by
  unfold record
  split <;> rfl

theorem serving_recordEach (d : Daemon) (records : List (LogLevel × String)) :
    (d.recordEach records).serving = d.serving := by
  induction records generalizing d with
  | nil => rfl
  | cons r records ih => exact (ih (d.record r.1 r.2)).trans (serving_record d r.1 r.2)

theorem serving_openLog {d d' : Daemon} {o : DaemonOptions} {level : LogLevel} (h : d.openLog s o level = some d') :
    d'.serving = d.serving := by
  unfold openLog at h
  obtain ⟨filter, -, h⟩ := Option.bind_eq_some_iff.mp h
  split at h
  · cases h
    rfl
  · obtain ⟨tree, -, h⟩ := Option.bind_eq_some_iff.mp h
    cases h
    rfl

/-- past its settings, the service binds their socket, unless it can keep no log -/
theorem bindsAt_of_configured (h : Configured s words d settings) (startedWithSystem : Bool) :
    (start s words startedWithSystem).exit = some noLogStatus ∧ (start s words startedWithSystem).serving = none ∨
      BindsAt s words startedWithSystem (withOptions d settings).manager.socketPath := by
  unfold BindsAt start
  simp only [h.options, h.settings]
  cases hlog : openLog _ s d _ with
  | none => exact .inl ⟨rfl, rfl⟩
  | some d' =>
    refine .inr ⟨_, _, ?_, rfl, rfl⟩
    rw [serving_recordEach, serving_record, serving_openLog hlog]

theorem path_of_bind {space space' : SocketSpace} {path : String} {l : Listener}
    (h : space.bind path = (.ok l, space')) : l.path = path := by
  unfold SocketSpace.bind at h
  split at h
  · cases h
  · split at h
    · cases h
    · split at h <;> cases h
      rfl

/-- whoever serves does so at the path that was to be bound -/
theorem path_eq_of_bindsAt {startedWithSystem : Bool} {path : String} (h : BindsAt s words startedWithSystem path)
    {l : Listener} {running : Running} (hserving : (start s words startedWithSystem).serving = some (l, running)) :
    l.path = path := by
  obtain ⟨d, m, hnone, rfl, hstart⟩ := h
  rw [hstart, serve] at hserving
  split at hserving
  · rw [hnone] at hserving
    cases hserving
  · rename_i hbind
    cases hserving
    exact path_of_bind hbind

/-- what is loaded has the variables over it -/
theorem exists_of_load {env : Environment} {file : FileState} (h : Settings.load env file = .ok settings) :
    ∃ base : Settings, settings = base.withVariables env := by
  unfold Settings.load at h
  cases hfile : Settings.ofFile file with
  | error fault =>
    rw [hfile] at h
    cases h
  | ok base =>
    rw [hfile] at h
    cases hcheck : base.check with
    | error fault =>
      simp only [bind, Except.bind, hcheck] at h
      cases h
    | ok base' =>
      simp only [bind, Except.bind, hcheck] at h
      exact ⟨base', (Settings.check_eq_ok_iff.mp h).2.symm⟩

/-- the socket is that of the variable, if it is a text, and otherwise that of the file, or the default one if the file
cannot be loaded -/
theorem socketPath_of_settingsOf {env : Environment} {file : FileState}
    (h : settingsOf env (Settings.load env file) = .ok settings) :
    settings.manager.socketPath = (env.someText? "TUNNEL_MANAGER_SOCKET_PATH").getD
      (match Settings.load env file with
        | .ok s => s.manager.socketPath
        | .error _ => ({} : ManagerSettings).socketPath) := by
  unfold settingsOf at h
  cases hload : Settings.load env file with
  | error fault =>
    rw [hload] at h
    obtain ⟨-, rfl⟩ := Settings.check_eq_ok_iff.mp h
    rfl
  | ok s =>
    rw [hload] at h
    cases h
    obtain ⟨base, rfl⟩ := exists_of_load hload
    -- the variable has gone over the file already
    show (env.someText? _).getD _ = (env.someText? _).getD ((env.someText? _).getD _)
    cases env.someText? "TUNNEL_MANAGER_SOCKET_PATH" <;> rfl

end Daemon

/-! ## both -/

/-- both programs are started in the same place, with the same file or none on their command lines, and no socket; the
service gets past its configuration, and the words of the control program can be read -/
structure StartedAlike (s : Surroundings) (control service : List Bytes) (o : ControlOptions) (d : DaemonOptions)
    (settings : Settings) : Prop where
  read : ControlOptions.read s.env control = .ok o
  configured : Daemon.Configured s service d settings
  sameFile : o.config = d.config
  unnamed : ControlOptions.NamesNoSocket control
  unnamed_service : d.socketPath = none

namespace StartedAlike

variable {s : Surroundings} {control service : List Bytes} {o : ControlOptions} {d : DaemonOptions}
  {settings : Settings}

theorem withOptions_eq (h : StartedAlike s control service o d settings) : Daemon.withOptions d settings = settings := by
  rw [Daemon.withOptions, h.unnamed_service]

/-- a variable that is no text is nothing to the service -/
theorem ne_of_not_text (h : StartedAlike s control service o d settings) {bytes : Bytes}
    (hset : s.env.bytes? "TUNNEL_MANAGER_SOCKET_PATH" = some bytes) (hnot : ∀ text, bytes ≠ Utf8.encode text) :
    o.socketIn s ≠ Utf8.encode settings.manager.socketPath := by
  have hsocket : o.socketIn s = bytes := by
    rw [ControlOptions.socketIn, ControlOptions.serviceSocket, (ControlOptions.socket_of_unnamed h.read h.unnamed).1,
      hset]
  rw [hsocket]
  exact hnot _

theorem eq_of_text (h : StartedAlike s control service o d settings) {text : String}
    (hset : s.env.Says "TUNNEL_MANAGER_SOCKET_PATH" text) :
    o.socketIn s = Utf8.encode settings.manager.socketPath := by
  obtain ⟨hsocket, hne⟩ := ControlOptions.socket_of_unnamed h.read h.unnamed
  rw [hsocket, hset] at hne
  have htext : text ≠ "" := by
    rintro rfl
    exact hne rfl
  have hsome : s.env.someText? "TUNNEL_MANAGER_SOCKET_PATH" = some text := by
    rw [Environment.someText?, Environment.text?_eq_some_iff.mpr hset]
    exact if_neg htext
  rw [ControlOptions.socketIn, ControlOptions.serviceSocket, hsocket, hset,
    Daemon.socketPath_of_settingsOf h.configured.settings, hsome]
  rfl

/-- without the variable both look into the same file -/
theorem eq_of_unset (h : StartedAlike s control service o d settings)
    (hset : s.env.bytes? "TUNNEL_MANAGER_SOCKET_PATH" = none) :
    o.socketIn s = Utf8.encode settings.manager.socketPath := by
  have hnone : s.env.someText? "TUNNEL_MANAGER_SOCKET_PATH" = none := by
    rw [Environment.someText?, Environment.text?, hset]
    rfl
  have hpath : o.configPath s.env s.userHome = d.configPath s.env s.userHome := by
    rw [ControlOptions.configPath, h.sameFile]
    rfl
  rw [ControlOptions.socketIn, ControlOptions.serviceSocket, (ControlOptions.socket_of_unnamed h.read h.unnamed).1,
    hset, Daemon.socketPath_of_settingsOf h.configured.settings, hnone, hpath]
  show (match Settings.load _ _ with
    | .ok s => _
    | .error _ => _) = _
  cases Settings.load s.env (s.file (d.configPath s.env s.userHome)) <;> rfl

end StartedAlike

/-- **The programs meet unless the variable is set to what is no text.**  The service does not mind such a variable, and
the control program takes it as it is. -/
theorem meet_iff {s : Surroundings} {control service : List Bytes} {o : ControlOptions} {d : DaemonOptions}
    {settings : Settings} (h : StartedAlike s control service o d settings) (startedWithSystem : Bool) :
    ((Daemon.start s service startedWithSystem).exit = some Daemon.noLogStatus ∨
        Daemon.BindsAt s service startedWithSystem settings.manager.socketPath) ∧
      (∀ l running, (Daemon.start s service startedWithSystem).serving = some (l, running) →
        l.path = settings.manager.socketPath) ∧
      (o.socketIn s = Utf8.encode settings.manager.socketPath ↔ s.env.IsTextual "TUNNEL_MANAGER_SOCKET_PATH") := by
  have hbinds := Daemon.bindsAt_of_configured h.configured startedWithSystem
  rw [h.withOptions_eq] at hbinds
  refine ⟨hbinds.imp_left And.left, ?_, ?_⟩
  · intro l running hserving
    obtain ⟨-, hnone⟩ | hbinds := hbinds
    · rw [hserving] at hnone
      cases hnone
    · exact Daemon.path_eq_of_bindsAt hbinds hserving
  · constructor
    · intro hmeet
      by_contra hnot
      obtain ⟨hset, htext⟩ := not_or.mp hnot
      obtain ⟨bytes, hbytes⟩ := Option.ne_none_iff_exists'.mp hset
      refine h.ne_of_not_text hbytes (fun text heq => htext ⟨text, ?_⟩) hmeet
      rw [Environment.Says, hbytes, heq]
    · rintro (hunset | ⟨text, hset⟩)
      · exact h.eq_of_unset hunset
      · exact h.eq_of_text hset

/-! ## a file and a variable -/

/-- a file with a socket, and the variable set to some bytes -/
def placeWith (value : Bytes) : Surroundings where
  env := [("TUNNEL_MANAGER_SOCKET_PATH", value)]
  files := [(Utf8.encode "t.toml", .content (Utf8.encode "[manager]\nsocket_path = \"/run/t.sock\"\n"))]

/-- the words for the service, which name the file -/
def fileWords : List Bytes := [Utf8.encode "--config", Utf8.encode "t.toml"]

def controlWords : List Bytes := fileWords ++ [Utf8.encode "update-state"]

def controlOptions (socket : Bytes) : ControlOptions where
  logLevel := .warn
  jsonLogs := false
  output := .table
  socket := some socket
  config := some (Utf8.encode "t.toml")
  command := .updateState

def serviceOptions : DaemonOptions where
  socketPath := none
  logLevel := none
  config := some (Utf8.encode "t.toml")
  logDirectory := none
  jsonLogs := false

theorem startedAlike_placeWith {b : UInt8} {bytes : Bytes} {path : String}
    (hload : (Daemon.settingsOf (placeWith (b :: bytes)).env (Settings.load (placeWith (b :: bytes)).env
      ((placeWith (b :: bytes)).file (Utf8.encode "t.toml")))).toOption = some { manager := { socketPath := path } }) :
    StartedAlike (placeWith (b :: bytes)) controlWords fileWords (controlOptions (b :: bytes)) serviceOptions
      { manager := { socketPath := path } } where
  read := rfl
  configured := by
    refine ⟨rfl, ?_⟩
    show Daemon.settingsOf _ (Settings.load _ (Surroundings.file _ (Utf8.encode "t.toml"))) = _
    revert hload
    cases Daemon.settingsOf _ _ with
    | error fault => exact nofun
    | ok settings => exact fun hload => congrArg Except.ok (Option.some.inj hload)
  sameFile := rfl
  unnamed := by
    intro m hm
    have hbare : ControlOptions.spec.read [] controlWords =
        .ok (.mk [("config", [.path (Utf8.encode "t.toml")])] (some ("update-state", .mk [] none))) := rfl
    rw [hbare] at hm
    cases hm
    rfl
  unnamed_service := rfl

/-- a text goes before the file, for both programs -/
theorem meet_iff_text :
    (controlOptions (Utf8.encode "/run/é.sock")).socketIn (placeWith (Utf8.encode "/run/é.sock")) =
      Utf8.encode "/run/é.sock" := by
  have h : StartedAlike (placeWith (Utf8.encode "/run/é.sock")) controlWords fileWords
      (controlOptions (Utf8.encode "/run/é.sock")) serviceOptions { manager := { socketPath := "/run/é.sock" } } :=
    startedAlike_placeWith (by decide +kernel)
  exact (meet_iff h false).2.2.mpr (.inr ⟨"/run/é.sock", rfl⟩)

/-- a path that is no text is taken by the control program, while the service binds the path of the file -/
theorem not_meet_of_raw_path :
    StartedAlike (placeWith [0x2F, 0xFF]) controlWords fileWords (controlOptions [0x2F, 0xFF]) serviceOptions
        { manager := { socketPath := "/run/t.sock" } } ∧
      (controlOptions [0x2F, 0xFF]).socketIn (placeWith [0x2F, 0xFF]) = [0x2F, 0xFF] ∧
      ¬∀ s control service o d settings, StartedAlike s control service o d settings →
        o.socketIn s = Utf8.encode settings.manager.socketPath := by
  have h : StartedAlike (placeWith [0x2F, 0xFF]) controlWords fileWords (controlOptions [0x2F, 0xFF]) serviceOptions
      { manager := { socketPath := "/run/t.sock" } } :=
    startedAlike_placeWith (by decide +kernel)
  refine ⟨h, rfl, fun hmeet => ?_⟩
  have heq := hmeet _ _ _ _ _ _ h
  revert heq
  decide

end TunnelControl
