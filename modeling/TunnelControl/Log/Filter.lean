import TunnelControl.Log.Directive
import TunnelControl.Text.Split

/-!
# Filters of log records

A filter is a list of directives, of which the one that fits a record most closely decides; of two that fit
equally, the later one.  The last directive has the threshold for all other records.

* `LogFilter.ofText? base s`   the directives between the commas of a text, and a threshold for the rest.
  What is no directive is ignored, but a torn one spoils all;
* `LogFilter.admits`           whether a record of a source is let through.
-/

namespace TunnelControl

/-- the fields of a log record: its text is the only one -/
def recordFields : List String := ["message"]

structure LogFilter where
  directives : List LogDirective := [{ threshold := some .info }]
  deriving DecidableEq, Repr

namespace LogFilter

/-- the directives of some texts, unless one is torn -/
def readEach : List (List Char) → Option (List LogDirective)
  | [] => some []
  | s :: ss =>
    match LogDirective.read? s with
    | .error .torn => none
    | .error .malformed => readEach ss
    | .ok d => (readEach ss).map (d.toList ++ ·)

def ofText? (base : LogLevel) (s : String) : Option LogFilter :=
  (readEach ((pieces ',' s.toList).filter (!·.isEmpty))).map fun directives =>
    ⟨directives ++ [{ threshold := some base }]⟩

/-- of two directives the closer one, and of equally close ones the later -/
def closer (best : Option LogDirective) (d : LogDirective) : Option LogDirective :=
  match best with
  | some b => if b.isCloser d then some b else some d
  | none => some d

/-- the threshold for the records of a source -/
def thresholdFor (f : LogFilter) (source : String) : Option LogLevel :=
  ((f.directives.filter (·.applies source recordFields)).foldl closer none).bind
    LogDirective.threshold

def admits (f : LogFilter) (source : String) (level : LogLevel) : Bool :=
  (f.thresholdFor source).any (·.admits level)

/-- without directives of its own, a filter goes by its threshold -/
theorem admits_of_no_directives (base : LogLevel) (source : String) (level : LogLevel) :
    (LogFilter.mk [{ threshold := some base }]).admits source level = base.admits level := rfl

end LogFilter

end TunnelControl
