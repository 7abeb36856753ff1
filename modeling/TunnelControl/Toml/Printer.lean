import TunnelControl.Text.Hex
import TunnelControl.Toml.Value

/-!
# Writing values of a settings file

Of the four forms of a text (see `TunnelControl.Toml.Text`) the first that needs no escape is taken, in the order:
between quotation marks, between apostrophes, between three of the one, between three of the other.  If
none will do, the text is written with escapes, over several lines if it has several.

A list of up to one item stands on one line; a longer one has a line for each item.
-/

namespace TunnelControl.Toml

/-! ## texts -/

inductive TextForm
  | basic
  | literal
  | multiBasic
  | multiLiteral
  deriving DecidableEq, Repr

/-- a control character that no form admits as it stands; the tab and the line end are not among them -/
def needsCode (c : Char) : Bool := (c.toNat < 0x20 && c ≠ '\t' && c ≠ '\n') || c.toNat = 0x7F

/-- the longest run of a character, of which `run` have just been seen -/
def longestRun (mark : Char) (run : Nat) : List Char → Nat
  | [] => run
  | c :: cs => if c = mark then longestRun mark (run + 1) cs else max run (longestRun mark 0 cs)

def chooseForm (cs : List Char) : TextForm :=
  let codes := cs.any needsCode
  let slashes := cs.contains '\\'
  let lines := cs.contains '\n'
  let quotes := longestRun '"' 0 cs
  let apostrophes := longestRun '\'' 0 cs
  if !codes && !slashes && quotes = 0 && !lines then .basic
  else if !codes && apostrophes = 0 && !lines then .literal
  else if !codes && !slashes && quotes ≤ 2 then .multiBasic
  else if !codes && apostrophes ≤ 2 then .multiLiteral
  else if lines then .multiBasic
  else .basic

/-- a character between quotation marks; over several lines, line ends stand as they are -/
def escape (multi : Bool) (c : Char) : List Char :=
  if c = '\x08' then ['\\', 'b']
  else if c = '\t' then ['\\', 't']
  else if c = '\n' then if multi then [c] else ['\\', 'n']
  else if c = '\x0c' then ['\\', 'f']
  else if c = '\r' then ['\\', 'r']
  else if c = '\\' then ['\\', '\\']
  else if needsCode c then
    ['\\', 'u', '0', '0'] ++
      [hexDigit (c.toNat / 16), hexDigit (c.toNat % 16)].map Char.toUpper
  else [c]

/-- a text between quotation marks; `allowed` marks in a row stand as they are, and `run` of them have
just been written -/
def escapeText (multi : Bool) (allowed run : Nat) : List Char → List Char
  | [] => []
  | '"' :: cs =>
    if run < allowed then '"' :: escapeText multi allowed (run + 1) cs
    else ['\\', '"'] ++ escapeText multi allowed 0 cs
  | c :: cs => escape multi c ++ escapeText multi allowed 0 cs

def writeText (s : String) : String :=
  let cs := s.toList
  let opening := if cs.contains '\n' then ['\n'] else []
  String.ofList <|
    match chooseForm cs with
    | .basic => '"' :: escapeText false 0 0 cs ++ ['"']
    | .literal => '\'' :: cs ++ ['\'']
    | .multiBasic => ['"', '"', '"'] ++ opening ++ escapeText true 2 0 cs ++ ['"', '"', '"']
    | .multiLiteral => ['\'', '\'', '\''] ++ opening ++ cs ++ ['\'', '\'', '\'']

/-! ## other values -/

def writeBool (b : Bool) : String := if b then "true" else "false"

def writeNumbers (ns : List Nat) : String :=
  match ns with
  | [] => "[]"
  | [n] => s!"[{n}]"
  | ns => "[\n" ++ String.join (ns.map fun n => s!"    {n},\n") ++ "]"

end TunnelControl.Toml
