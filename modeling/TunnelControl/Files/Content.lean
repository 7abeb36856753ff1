import TunnelControl.Files.Fault
import TunnelControl.Text.Utf8

/-!
# What a path leads to

`FileState` is what is found at a path, and `FileState.readText` the text of a file or the fault that
keeps it from being read.
-/

namespace TunnelControl

inductive FileState
  | missing
  | directory
  | content (bytes : Bytes)
  deriving DecidableEq, Repr

/-- a file that is there has its content -/
def FileState.ofContent? : Option Bytes → FileState
  | some bytes => .content bytes
  | none => .missing

def FileState.readText : FileState → Except FileFault String
  | .missing => .error .notFound
  | .directory => .error .isADirectory
  | .content bytes =>
    match Utf8.decode bytes with
    | .ok s => .ok s
    | .error _ => .error .notText

theorem FileState.readText_content (s : String) :
    FileState.readText (.content (Utf8.encode s)) = .ok s := by
  simp [FileState.readText, Utf8.decode_encode]

end TunnelControl
