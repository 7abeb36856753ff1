import TunnelControl.Log.Level
import TunnelControl.Text.Alphanumeric
import TunnelControl.Text.Blank
import TunnelControl.Text.Decimal
import TunnelControl.Text.Utf8

/-!
# Directives for log records

A directive lets the records of some sources through from a level on: `source[span\x7bfield\x7d]=level`, of
which the parts in front of the level may be left out, and the level too; a level may also stand alone.

* `thresholdOf? word`        a level by its name or its number; some word for "nothing at all";
* `LogDirective.read? s`     the directive that a text gives.  One that is about spans only is none of the
  records' business.

The marks of a directive count from its first character that is no blank, but the parts between them are cut
from the whole text, so that blanks in front push what is cut to the left.  A cut inside a character is torn
(`DirectiveFault.torn`), which is worse than a text that is no directive.
-/

namespace TunnelControl

structure LogDirective where
  /-- the beginning of the names of the sources; all sources without one -/
  source : Option (List Char) := none
  /-- a field that the records must have -/
  field : Option (List Char) := none
  /-- nothing is let through without one -/
  threshold : Option LogLevel
  deriving DecidableEq, Repr

inductive DirectiveFault
  | malformed
  | torn
  deriving DecidableEq, Repr

/-- a threshold by its name or its number -/
def thresholdOf? (word : List Char) : Option (Option LogLevel) :=
  match readNumber? 5 word, String.ofList (word.map Char.toLower) with
  | some 0, _ | _, "off" => some none
  | some 1, _ => some (some .error)
  | some 2, _ => some (some .warn)
  | some 3, _ => some (some .info)
  | some 4, _ => some (some .debug)
  | some _, _ => some (some .trace)
  | none, name => (LogLevel.ofName? name).map some

/-- the part of a directive that is being read, and where it begins -/
inductive DirectivePart
  | start
  /-- a source, or a level alone -/
  | head (since : Nat)
  | span (since : Nat)
  | field (since : Nat)
  | fieldsEnd
  /-- the level may follow, and nothing else -/
  | tail
  | level (since : Nat)
  deriving DecidableEq, Repr

/-- what has been read of a directive -/
structure DirectiveScan where
  part : DirectivePart := .start
  source : Option (List Char) := none
  /-- it has the name of a span -/
  namesSpan : Bool := false
  /-- the fields, each with whether it has a value -/
  fields : List (List Char × Bool) := []
  deriving DecidableEq, Repr

namespace DirectiveScan

/-- a place between two characters -/
def isBoundary (text : Bytes) (i : Nat) : Bool :=
  !(text[i]?).any Utf8.continuing && i ≤ text.length

/-- the text between two places -/
def cut (text : Bytes) (lo hi : Nat) : Except DirectiveFault (List Char) :=
  if isBoundary text lo && isBoundary text hi then
    .ok (Utf8.repair ((text.take hi).drop lo)).toList
  else .error .torn

/-- a character that a directive may begin with, besides the mark of a span -/
def isFirst (c : Char) : Bool := c = '-' || c = ':' || c = '_' || isAlphanumeric c

/-- a field, which may have a value behind an equals sign -/
def fieldOf (cs : List Char) : Except DirectiveFault (List Char × Bool) :=
  if cs.isEmpty then .error .malformed
  else .ok (cs.takeWhile (· != '='), cs.contains '=')

/-- the next character, at a place -/
def step (text : Bytes) (d : DirectiveScan) (i : Nat) (c : Char) :
    Except DirectiveFault DirectiveScan :=
  match d.part, c with
  | .start, '[' => .ok { d with part := .span (i + 1) }
  | .start, c => if isFirst c then .ok { d with part := .head i } else .error .malformed
  | .head since, '=' => do
    .ok { d with source := some (← cut text since i), part := .level (i + 1) }
  | .head since, '[' => do
    .ok { d with source := some (← cut text since i), part := .span (i + 1) }
  | .head _, _ => .ok d
  | .span since, ']' => do
    let _ ← cut text since i
    .ok { d with namesSpan := true, part := .tail }
  | .span since, '{' => do
    .ok { d with namesSpan := !(← cut text since i).isEmpty, part := .field (i + 1) }
  | .span _, _ => .ok d
  | .field since, '}' => do
    .ok { d with fields := d.fields ++ [← fieldOf (← cut text since i)], part := .fieldsEnd }
  | .field _, _ => .ok d
  | .fieldsEnd, ']' => .ok { d with part := .tail }
  | .fieldsEnd, _ => .error .malformed
  | .tail, '=' => .ok { d with part := .level (i + 1) }
  | .tail, _ => .error .malformed
  | .level _, _ => .ok d

/-- the characters one after the other, from a place on -/
def stepEach (text : Bytes) : Nat → DirectiveScan → List Char → Except DirectiveFault DirectiveScan
  | _, d, [] => .ok d
  | i, d, c :: cs => do stepEach text (i + c.utf8Size) (← d.step text i c) cs

/-- the source, if it is one, and the threshold of a directive whose characters have been read -/
def ending (text : Bytes) (d : DirectiveScan) :
    Except DirectiveFault (Option (List Char) × Option LogLevel) :=
  match d.part with
  | .head since => do
    let word ← cut text since text.length
    match thresholdOf? word with
    | some threshold => .ok (none, threshold)
    | none => .ok (some word, some .trace)
  | .level since => do
    let word ← cut text since text.length
    match if word.isEmpty then some (some .trace) else thresholdOf? word with
    | some threshold => .ok (d.source, threshold)
    | none => .error .malformed
  | .tail => .ok (d.source, some .trace)
  | .start | .span _ | .field _ | .fieldsEnd => .error .malformed

end DirectiveScan

namespace LogDirective

/-- the directive of a text, if it is about records -/
def read? (s : List Char) : Except DirectiveFault (Option LogDirective) := do
  let text := Utf8.encode (String.ofList s)
  let d ← DirectiveScan.stepEach text 0 {} (trim s)
  let (source, threshold) ← d.ending text
  if d.namesSpan || d.fields.any (·.2) then .ok none
  else .ok (some { source, field := d.fields.head?.map (·.1), threshold })

/-- whether a directive is about a record of a source that has some fields -/
def applies (d : LogDirective) (source : String) (fields : List String) : Bool :=
  (d.source.all (·.isPrefixOf source.toList)) &&
    d.field.all fun name => (fields.map String.toList).contains name

/-- the closer a directive fits, the more of a source it names; then one with a field is closer -/
def closeness (d : LogDirective) : Nat × Nat :=
  ((d.source.map fun cs => cs.length + 1).getD 0, (d.field.map fun _ => 1).getD 0)

def isCloser (d e : LogDirective) : Bool :=
  e.closeness.1 < d.closeness.1 ||
    (d.closeness.1 == e.closeness.1 && e.closeness.2 < d.closeness.2)

theorem applies_everywhere (threshold : Option LogLevel) (source : String) (fields : List String) :
    applies { threshold } source fields := rfl

end LogDirective

end TunnelControl
