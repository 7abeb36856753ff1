import TunnelControl.Program
import TunnelControl.Uptime

/-!
# The command line

Reads the environment and the files, runs the program and prints what it has to say.
-/

namespace TunnelControl

/-- what is at a path; what cannot be read counts as missing -/
def lookAt (path : Bytes) : IO FileState := do
  try
    let content ← IO.FS.readBinFile (Utf8.repair path)
    return .content content.toList
  catch _ => return .missing

def readEnvironment : IO Environment :=
  Program.variableNames.filterMapM fun name => do
    return (← IO.getEnv name).map fun value => (name, Utf8.encode value)

/-- runs the program with the words of a command line; the status that it ends with -/
def runProgram (words : List Bytes) : IO UInt32 := do
  let env ← readEnvironment
  let userHome := env.bytes? "HOME"
  let path := Program.configPath env userHome words
  let file ← lookAt path
  let manifests ← (Program.manifestPath? env file).toList.mapM fun name => do
    return (Utf8.encode name, ← lookAt (Utf8.encode name))
  let uptime ← lookAt (Utf8.encode "/proc/uptime")
  let atBoot := match uptime with
    | .content bytes => startedWithSystem startWindow (some bytes)
    | _ => false
  let r := Program.run { env, userHome, files := (path, file) :: manifests } path words atBoot
  IO.print r.printed
  for text in r.complaint do IO.eprintln s!"Error: {text}"
  return UInt32.ofNat r.status

end TunnelControl

def main (words : List String) : IO UInt32 :=
  TunnelControl.runProgram (words.map TunnelControl.Utf8.encode)
