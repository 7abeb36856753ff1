import TunnelControl.Message.Json
import TunnelControl.Update.Schedule

/-!
# Scripts for update checks

What a check finds may be laid down in JSON: the manifest that it reads, or its end.

* `ReleaseChecker.ofScript`   a checker, and what is found at the path of its manifest;
* `Reply.ofScript`           how a check ends.
-/

namespace TunnelControl

/-- a manifest that is not there at all, one that is missing, a directory, or the content of one -/
def ReleaseChecker.ofScript (j : Json) : ReleaseChecker × FileState :=
  let manifest := j.field "manifest"
  let file : FileState := match manifest with
    | .text "$missing" => .missing
    | .text "$directory" => .directory
    | content => .ofContent? content.bytes?
  ({ manifest := if manifest.isNull then none else some "manifest",
     current := (j.textOf? "current").getD runningVersion },
    file)

/-- the outcome of a check as a script has it -/
def CheckOutcome.ofScript (j : Json) : CheckOutcome :=
  match j.textOf? "found", j.textOf? "fail" with
  | some version, _ => .found version
  | none, some reason => .failed (.checkFailed reason)
  | none, none =>
    let (checker, file) := ReleaseChecker.ofScript j
    .ofResult (checker.check file)

def Reply.ofScript : Json → Reply
  | .null => .checked .nothing false
  | .text "cancel" => .interrupted
  | .text "cancel_none" => .checked .nothing true
  | .text _ => .checked (.failed .unsupported) false
  | j => .checked (.ofScript j) false

end TunnelControl
