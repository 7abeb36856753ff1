import TunnelControl.Number.Binary64
import TunnelControl.Text.Blank
import TunnelControl.Text.Utf8
import TunnelControl.Time.Jitter

/-!
# Whether the system has just started

The first word of the uptime file is the time since the start in seconds.  The service counts as started
with the system if that time is below a window; a file that does not say counts as a later start.

`UptimeJudge` answers the question once and then remembers the answer.
-/

namespace TunnelControl

/-- ten minutes, in nanoseconds -/
def startWindow : Nat := 600 * nanosPerSecond

/-- the time in nanoseconds; nothing that is negative, infinite or above the range of a duration -/
def uptimeOfWord (word : List Char) : Option Nat := do
  let x ← Decimal.ofChars? word
  let m ← x.magnitude
  if x.negative && m.mantissa ≠ 0 then none
  else
    let nanos := m.timesRounded nanosPerSecond
    if UInt64.size * nanosPerSecond ≤ nanos then none else some nanos

/-- the uptime that the content of the file gives -/
def uptimeOf (content : Bytes) : Option Nat := do
  let text ← (Utf8.decode content).toOption
  uptimeOfWord (← firstWord text.toList)

/-- whether a file, if it is there, shows an uptime below the window -/
def startedWithSystem (window : Nat) (file : Option Bytes) : Bool :=
  match file.bind uptimeOf with
  | some nanos => nanos < window
  | none => false

/-- the window, and the answer once it has been given -/
structure UptimeJudge where
  window : Nat := startWindow
  answer : Option Bool := none
  deriving Repr

/-- the answer, and the detector that remembers it -/
def UptimeJudge.ask (d : UptimeJudge) (file : Option Bytes) : Bool × UptimeJudge :=
  let a := d.answer.getD (startedWithSystem d.window file)
  (a, { d with answer := some a })

/-- the answers of one detector, for what the file is each time -/
def UptimeJudge.askEach (d : UptimeJudge) : List (Option Bytes) → List Bool
  | [] => []
  | file :: files => (d.ask file).1 :: (d.ask file).2.askEach files

theorem UptimeJudge.ask_ask (d : UptimeJudge) (file later : Option Bytes) :
    ((d.ask file).2.ask later).1 = (d.ask file).1 := rfl

end TunnelControl
