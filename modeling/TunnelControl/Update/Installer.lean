import TunnelControl.Message.Basic
import TunnelControl.Update.Manifest

/-!
# Installing an update

An installer that is asked to install an update reports its progress on a stream of its own.  A scripted
one reports what it was told to, run after run, and may keep its streams open.
-/

namespace TunnelControl

/-- whether the program was built and published by the project itself -/
def isOfficial : Bool := false

inductive Installer
  | unsupported
  | scripted (runs : List (List Progress)) (staysOpen : Bool)
  deriving Repr

/-- a stream of progress: what it holds, and whether more may come -/
structure ProgressStream where
  waiting : List Progress
  senderOpen : Bool
  deriving DecidableEq, Repr

namespace Installer

/-- what an installer reports that cannot install anything -/
def refusal : Progress := .failed "Preparing update" UpdateFault.unsupported.message

def install : Installer → ProgressStream × Installer
  | unsupported => (⟨[refusal], false⟩, unsupported)
  | scripted runs staysOpen => (⟨runs.headD [], staysOpen⟩, scripted runs.tail staysOpen)

end Installer

end TunnelControl
