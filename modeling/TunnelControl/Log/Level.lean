import TunnelControl.Text.LowerCase

/-!
# Log levels

`LogLevel.ofName` reads the name of a level without regard to case; any other name stands for `info`.
-/

namespace TunnelControl

inductive LogLevel
  | trace
  | debug
  | info
  | warn
  | error
  deriving DecidableEq, Repr

namespace LogLevel

def all : List LogLevel := [trace, debug, info, warn, error]

def name : LogLevel → String
  | trace => "trace"
  | debug => "debug"
  | info => "info"
  | warn => "warn"
  | error => "error"

/-- the name in log records -/
def label : LogLevel → String
  | trace => "TRACE"
  | debug => "DEBUG"
  | info => "INFO"
  | warn => "WARN"
  | error => "ERROR"

/-- the level of a name in small letters -/
def ofName? (s : String) : Option LogLevel := all.find? (·.name == s)

def ofName (s : String) : LogLevel := (ofName? (lowerCase s)).getD info

/-- from the gravest level on: the records that a level lets through -/
def severity : LogLevel → Nat
  | error => 0
  | warn => 1
  | info => 2
  | debug => 3
  | trace => 4

def admits (threshold level : LogLevel) : Bool := level.severity ≤ threshold.severity

theorem mem_all (l : LogLevel) : l ∈ all := by cases l <;> decide

end LogLevel

end TunnelControl
