import TunnelControl.Files.Content
import TunnelControl.Toml.Document
import TunnelControl.Update.Version

/-!
# The manifest of the latest release

A manifest is a settings file with the keys `version` and `url`.  `ReleaseChecker.check` reports the release
of the manifest if it is newer than the running version.
-/

namespace TunnelControl

structure Release where
  version : String
  url : String
  deriving DecidableEq, Repr

inductive UpdateFault
  | manifestUnreadable (path : String) (fault : FileFault)
  | manifestFormat
  | version (text : String) (fault : VersionFault)
  | unsupported
  | checkFailed (reason : String)
  deriving DecidableEq, Repr

def UpdateFault.message : UpdateFault → String
  | .manifestUnreadable path fault => s!"Failed to read update manifest {path}: {fault.message}"
  | .manifestFormat => "Invalid update manifest"
  | .version text fault => s!"Invalid version {quoteText text}: {fault.message}"
  | .unsupported => "Automatic installation is not supported on this platform"
  | .checkFailed reason => s!"Update check failed: {reason}"

/-- the version that runs, unless another one is named -/
def runningVersion : String := "0.1.0"

/-- reads a version, before which any number of the letter v may stand -/
def readRelease (text : String) : Except UpdateFault Version :=
  match Version.ofChars? (text.toList.dropWhile (· == 'v')) with
  | .ok v => .ok v
  | .error fault => .error (.version text fault)

def Release.ofText? (s : String) : Option Release := do
  let entries ← Toml.parse s
  match Toml.lookup "version" entries, Toml.lookup "url" entries with
  | some (.text version), some (.text url) => some { version, url }
  | _, _ => none

/-- where the manifest is, if there is one, and the version to compare with -/
structure ReleaseChecker where
  manifest : Option String
  current : String := runningVersion

/-- the release of the manifest, if it is newer; `file` is what is found at its path -/
def ReleaseChecker.check (c : ReleaseChecker) (file : FileState) :
    Except UpdateFault (Option Release) :=
  match c.manifest with
  | none => .ok none
  | some path => do
    let text ← file.readText.mapError (.manifestUnreadable path)
    match Release.ofText? text with
    | none => throw .manifestFormat
    | some release =>
      let latest ← readRelease release.version
      let current ← readRelease c.current
      pure (if current.lt latest then some release else none)

end TunnelControl
