import TunnelControl.Message.Basic

/-!
# Events for people

`Event.describe` is one line about an event.
-/

namespace TunnelControl

/-- one line: the error if there is one, else how far the step has come -/
def Progress.describe (p : Progress) : String :=
  match p.error with
  | some reason => s!"progress: {p.activity} failed: {reason}"
  | none =>
    let amount :=
      if 0 < p.bytesTotal then s!" ({p.bytesDownloaded}/{p.bytesTotal} bytes)" else ""
    let done := if p.complete then " [complete]" else ""
    s!"progress: {p.activity}{amount}{done}"

def Event.describe : Event → String
  | .updateFound state => s!"update: {state.description}"
  | .updateProgress progress => progress.describe
  | .managerStopping => "manager: stopping"
  | .tunnelStateChanged state => s!"tunnel: {state.description}"

end TunnelControl
