import TunnelControl.Text.Hex

/-!
# JSON text

A JSON value (`Json`), whose objects keep the order of their fields, and its written forms: `Json.compact`,
without blanks, `Json.ascii`, the same in ASCII alone, and `Json.pretty`, indented by two spaces.

`Json.field`, `text?`, `number?`, `bool?` and `items` look into a value; what is not there is `null`, `none`
or empty.
-/

namespace TunnelControl

inductive Json
  | null
  | bool (b : Bool)
  | number (n : Nat)
  | text (s : String)
  | array (items : List Json)
  | object (fields : List (String × Json))
  deriving Inhabited

namespace Json

/-! ## looking into values -/

def field (j : Json) (key : String) : Json :=
  match j with
  | object fields => (fields.lookup key).getD null
  | _ => null

def text? : Json → Option String
  | text s => some s
  | _ => none

def number? : Json → Option Nat
  | number n => some n
  | _ => none

def bool? : Json → Option Bool
  | bool b => some b
  | _ => none

def items : Json → List Json
  | array items => items
  | _ => []

def isNull : Json → Bool
  | null => true
  | _ => false

/-- a value that may be missing -/
def ofOption (o : Option Json) : Json := o.getD null

/-! ## written forms -/

/-- a character of a text: only the marks of JSON itself and control characters are escaped -/
def escape (c : Char) : List Char :=
  if c = '"' then ['\\', '"']
  else if c = '\\' then ['\\', '\\']
  else if c = '\n' then ['\\', 'n']
  else if c = '\r' then ['\\', 'r']
  else if c = '\t' then ['\\', 't']
  else if c = '\x08' then ['\\', 'b']
  else if c = '\x0c' then ['\\', 'f']
  else if c.toNat < 0x20 then
    ['\\', 'u', '0', '0', hexDigit (c.toNat / 16), hexDigit (c.toNat % 16)]
  else [c]

def quote (s : String) : String := String.ofList ('"' :: s.toList.flatMap escape ++ ['"'])

/-- a 16-bit unit as an escape -/
def escapeUnit (n : Nat) : List Char :=
  ['\\', 'u', hexDigit (n / 0x1000 % 16), hexDigit (n / 0x100 % 16), hexDigit (n / 0x10 % 16),
    hexDigit (n % 16)]

/-- a character in ASCII: others become their one or two 16-bit units -/
def escapeAscii (c : Char) : List Char :=
  let n := c.toNat
  if n < 0x7f then escape c
  else if n < 0x10000 then escapeUnit n
  else escapeUnit (0xD800 + (n - 0x10000) / 0x400) ++ escapeUnit (0xDC00 + n % 0x400)

def quoteAscii (s : String) : String := String.ofList ('"' :: s.toList.flatMap escapeAscii ++ ['"'])

mutual

/-- the form without blanks, for a way to write texts -/
def compactWith (quoted : String → String) : Json → String
  | null => "null"
  | bool b => if b then "true" else "false"
  | number n => toString n
  | text s => quoted s
  | array items => "[" ++ ",".intercalate (compactItems quoted items) ++ "]"
  | object fields => "\x7b" ++ ",".intercalate (compactFields quoted fields) ++ "\x7d"

def compactItems (quoted : String → String) : List Json → List String
  | [] => []
  | item :: items => compactWith quoted item :: compactItems quoted items

def compactFields (quoted : String → String) : List (String × Json) → List String
  | [] => []
  | (key, value) :: fields =>
    (quoted key ++ ":" ++ compactWith quoted value) :: compactFields quoted fields

end

def compact (j : Json) : String := compactWith quote j

def ascii (j : Json) : String := compactWith quoteAscii j

/-- the lines of a list between its brackets; an empty list keeps the brackets together -/
def bracket (opening closing indent : String) (lines : List String) : String :=
  if lines.isEmpty then opening ++ closing
  else
    opening ++ "\n" ++ ",\n".intercalate (lines.map ((indent ++ "  ") ++ ·)) ++ "\n" ++ indent
      ++ closing

mutual

/-- the indented form of a value that stands behind `indent` -/
def prettyAt (indent : String) : Json → String
  | null => "null"
  | bool b => if b then "true" else "false"
  | number n => toString n
  | text s => quote s
  | array items => bracket "[" "]" indent (prettyItems (indent ++ "  ") items)
  | object fields => bracket "\x7b" "\x7d" indent (prettyFields (indent ++ "  ") fields)

def prettyItems (indent : String) : List Json → List String
  | [] => []
  | item :: items => prettyAt indent item :: prettyItems indent items

def prettyFields (indent : String) : List (String × Json) → List String
  | [] => []
  | (key, value) :: fields =>
    (quote key ++ ": " ++ prettyAt indent value) :: prettyFields indent fields

end

def pretty (j : Json) : String := prettyAt "" j

end Json

end TunnelControl
