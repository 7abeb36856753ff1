import TunnelControl.Text.Hex

/-!
# Texts in a settings file

There are four forms of a text: between quotation marks, with escapes, or between apostrophes, as it
stands; and each of the two between three marks instead of one, over several lines.  A reader here takes a
text off the front of some characters, from behind the opening marks on.

* `readBasic`, `readLiteral`             on one line;
* `readMultiBasic`, `readMultiLiteral`   over several lines, where one or two more marks may stand before
  the closing ones;
* `readText`                             any of them, with its opening marks.
-/

namespace TunnelControl.Toml

/-- takes something off the front of some characters -/
abbrev Reader (α : Type) := List Char → Option (α × List Char)

/-- characters that may stand in a text or a comment: neither control characters nor the end of a line -/
def isPlain (c : Char) : Bool := c = '\t' || (0x20 ≤ c.toNat && c.toNat ≠ 0x7F)

/-- the blanks of a line -/
def isSpace (c : Char) : Bool := c = ' ' || c = '\t'

/-- the character of an escape with one letter -/
def escaped? : Char → Option Char
  | 'b' => some '\x08'
  | 'f' => some '\x0c'
  | 'n' => some '\n'
  | 'r' => some '\r'
  | 't' => some '\t'
  | '\\' => some '\\'
  | '"' => some '"'
  | _ => none

def hexNumber? (cs : List Char) : Option Nat :=
  cs.foldl (fun n c => do pure (16 * (← n) + (← hexValue? c))) (some 0)

/-- the character with a number, if there is one -/
def charOf? (n : Nat) : Option Char :=
  if h : n.isValidChar then some (Char.ofNatAux n h) else none

/-- the character of some hexadecimal digits -/
def unicode? (digits : List Char) : Option Char := do charOf? (← hexNumber? digits)

/-- puts a character before what was read -/
def before (c : Char) : Option (List Char × List Char) → Option (List Char × List Char)
  | some (cs, rest) => some (c :: cs, rest)
  | none => none

def readBasic : Reader (List Char)
  | [] => none
  | c :: cs =>
    if c = '"' then some ([], cs)
    else if c = '\\' then
      match cs with
      | 'u' :: a :: b :: c :: d :: cs =>
        match unicode? [a, b, c, d] with
        | some x => before x (readBasic cs)
        | none => none
      | 'U' :: a :: b :: c :: d :: e :: f :: g :: h :: cs =>
        match unicode? [a, b, c, d, e, f, g, h] with
        | some x => before x (readBasic cs)
        | none => none
      | c :: cs =>
        match escaped? c with
        | some x => before x (readBasic cs)
        | none => none
      | [] => none
    else if isPlain c then before c (readBasic cs)
    else none

def readLiteral : Reader (List Char)
  | [] => none
  | '\'' :: cs => some ([], cs)
  | c :: cs => if isPlain c then before c (readLiteral cs) else none

/-- where a text over several lines stands -/
inductive LineMode
  | plain
  /-- behind a backslash that has to end its line -/
  | ending
  /-- in the blanks and line ends behind such a backslash -/
  | trimming
  deriving DecidableEq

def readMultiBasic : LineMode → Reader (List Char)
  | _, [] => none
  | .ending, '\n' :: cs => readMultiBasic .trimming cs
  | .ending, '\r' :: '\n' :: cs => readMultiBasic .trimming cs
  | .ending, c :: cs => if isSpace c then readMultiBasic .ending cs else none
  | mode, c :: cs =>
    if mode = .trimming ∧ (isSpace c ∨ c = '\n') then readMultiBasic .trimming cs
    else if c = '"' then
      match cs with
      | '"' :: '"' :: '"' :: '"' :: cs => some (['"', '"'], cs)
      | '"' :: '"' :: '"' :: cs => some (['"'], cs)
      | '"' :: '"' :: cs => some ([], cs)
      | cs => before '"' (readMultiBasic .plain cs)
    else if c = '\\' then
      match cs with
      | 'u' :: a :: b :: c :: d :: cs =>
        match unicode? [a, b, c, d] with
        | some x => before x (readMultiBasic .plain cs)
        | none => none
      | 'U' :: a :: b :: c :: d :: e :: f :: g :: h :: cs =>
        match unicode? [a, b, c, d, e, f, g, h] with
        | some x => before x (readMultiBasic .plain cs)
        | none => none
      | '\n' :: cs => readMultiBasic .trimming cs
      | '\r' :: '\n' :: cs => readMultiBasic .trimming cs
      | c :: cs =>
        match escaped? c with
        | some x => before x (readMultiBasic .plain cs)
        | none => if isSpace c then readMultiBasic .ending cs else none
      | [] => none
    else if c = '\r' then
      match cs with
      | '\n' :: cs =>
        if mode = .trimming then readMultiBasic .trimming cs else before '\n' (readMultiBasic .plain cs)
      | _ => none
    else if isPlain c ∨ c = '\n' then before c (readMultiBasic .plain cs)
    else none

def readMultiLiteral : Reader (List Char)
  | [] => none
  | '\'' :: '\'' :: '\'' :: '\'' :: '\'' :: cs => some (['\'', '\''], cs)
  | '\'' :: '\'' :: '\'' :: '\'' :: cs => some (['\''], cs)
  | '\'' :: '\'' :: '\'' :: cs => some ([], cs)
  | '\r' :: '\n' :: cs => before '\n' (readMultiLiteral cs)
  | '\n' :: cs => before '\n' (readMultiLiteral cs)
  | c :: cs => if isPlain c then before c (readMultiLiteral cs) else none

/-- without the line end that comes first -/
def dropLineEnd : List Char → List Char
  | '\n' :: cs => cs
  | '\r' :: '\n' :: cs => cs
  | cs => cs

/-- a text of one line; keys have no other form -/
def readLineText : Reader (List Char)
  | '"' :: cs => readBasic cs
  | '\'' :: cs => readLiteral cs
  | _ => none

def readText : Reader (List Char)
  | '"' :: '"' :: '"' :: cs => readMultiBasic .plain (dropLineEnd cs)
  | '\'' :: '\'' :: '\'' :: cs => readMultiLiteral (dropLineEnd cs)
  | cs => readLineText cs

end TunnelControl.Toml
