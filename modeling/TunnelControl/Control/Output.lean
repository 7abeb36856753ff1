import TunnelControl.Cli.Control
import TunnelControl.Message.Describe
import TunnelControl.Message.Json

/-!
# What the control program prints

A report is one line, a status and a detail, or a JSON object over several lines.  An event is one line, in
words or in JSON.
-/

namespace TunnelControl

structure Report where
  status : String
  detail : String
  deriving DecidableEq, Repr

def Report.ok (detail : String) : Report := ⟨"ok", detail⟩

/-- no more progress has come -/
def Report.timeout : Report :=
  ⟨"timeout", "no further progress; updates require an elevated session"⟩

/-- one thing that is printed -/
inductive Printed
  | report (r : Report)
  | event (e : Event)
  deriving DecidableEq, Repr

namespace OutputForm

def report (f : OutputForm) (r : Report) : String :=
  match f with
  | table => s!"{r.status}: {r.detail}"
  | json => (Json.object [("status", .text r.status), ("detail", .text r.detail)]).pretty

def event (f : OutputForm) (e : Event) : String :=
  match f with
  | table => e.describe
  | json => (JsonForm.json e).compact

def line (f : OutputForm) : Printed → String
  | .report r => f.report r
  | .event e => f.event e

/-- each thing on lines of its own -/
def lines (f : OutputForm) (printed : List Printed) : String :=
  String.join (printed.map fun p => f.line p ++ "\n")

end OutputForm

end TunnelControl
