import TunnelControl.Toml.Number
import TunnelControl.Toml.Tree

/-!
# Documents

A document is lines of four kinds: blank ones, the header of a table, the header of an element of a list
of tables, and a key with a value.  `Toml.parse` reads a document and gives the entries of its root
table, or nothing if the text is no document or its lines contradict each other.
-/

namespace TunnelControl.Toml

/-- the deepest nesting of values, and the most parts of a key -/
def maxDepth : Nat := 79

/-! ## blanks, comments and line ends -/

def skipSpaces (cs : List Char) : List Char := cs.dropWhile isSpace

/-- without blanks, line ends and comments; `comment` says that a comment has begun -/
def skipLines (comment : Bool) : List Char → List Char
  | [] => []
  | '\n' :: cs => skipLines false cs
  | '\r' :: '\n' :: cs => skipLines false cs
  | c :: cs =>
    if comment then if isPlain c then skipLines true cs else c :: cs
    else if isSpace c then skipLines false cs
    else if c = '#' then skipLines true cs
    else c :: cs

/-- what follows a line end; the end of the text is one, too -/
def readLineEnd : List Char → Option (List Char)
  | [] => some []
  | '\n' :: cs => some cs
  | '\r' :: '\n' :: cs => some cs
  | _ => none

/-- what follows the rest of a line, which is a comment at most -/
def finishLine (cs : List Char) : Option (List Char) :=
  match skipSpaces cs with
  | '#' :: cs => readLineEnd (cs.dropWhile isPlain)
  | cs => readLineEnd cs

/-! ## keys -/

def isBareKeyChar (c : Char) : Bool := c.isAlphanum || c = '-' || c = '_'

def readKeyPart : Reader String := fun cs =>
  match readLineText cs with
  | some (part, rest) => some (String.ofList part, rest)
  | none =>
    match cs.takeWhile isBareKeyChar with
    | [] => none
    | part => some (String.ofList part, cs.dropWhile isBareKeyChar)

/-- a key of so many parts at most: the parts before the last, and the last -/
def readKey : Nat → Reader (List String × String)
  | 0, _ => none
  | n + 1, cs => do
    let (part, rest) ← readKeyPart (skipSpaces cs)
    match skipSpaces rest with
    | '.' :: rest =>
      let ((path, key), rest) ← readKey n rest
      some ((part :: path, key), rest)
    | rest => some (([], part), rest)

/-! ## values -/

mutual

/-- a value that may be nested so deep; twice the length of the text is fuel enough -/
def readValue : Nat → Nat → Reader Toml
  | 0, _, _ => none
  | fuel + 1, depth, cs =>
    match cs with
    | 't' :: 'r' :: 'u' :: 'e' :: rest => some (boolean true, rest)
    | 'f' :: 'a' :: 'l' :: 's' :: 'e' :: rest => some (boolean false, rest)
    | '[' :: rest =>
      match depth with
      | 0 => none
      | depth + 1 => (readItems fuel depth rest).map fun (vs, rest) => (array vs, rest)
    | '\x7b' :: rest =>
      match depth with
      | 0 => none
      | depth + 1 =>
        match skipSpaces rest with
        | '\x7d' :: rest => some (table [], rest)
        | rest => do
          let (pairs, rest) ← readPairs fuel depth rest
          some (← ofPairs pairs, rest)
    | cs =>
      match readText cs with
      | some (s, rest) => some (text (String.ofList s), rest)
      | none => readNumber cs

/-- the values of a list, behind its opening bracket or a comma -/
def readItems : Nat → Nat → Reader (List Toml)
  | 0, _, _ => none
  | fuel + 1, depth, cs =>
    match skipLines false cs with
    | ']' :: rest => some ([], rest)
    | cs => do
      let (v, rest) ← readValue fuel depth cs
      match skipLines false rest with
      | ',' :: rest =>
        let (vs, rest) ← readItems fuel depth rest
        some (v :: vs, rest)
      | ']' :: rest => some ([v], rest)
      | _ => none

/-- the pairs of a table within braces; they stand on one line -/
def readPairs : Nat → Nat → Reader (List ((List String × String) × Toml))
  | 0, _, _ => none
  | fuel + 1, depth, cs => do
    let (key, rest) ← readKey maxDepth cs
    let (_, rest) ← readMark '=' rest
    let (v, rest) ← readValue fuel depth (skipSpaces rest)
    match skipSpaces rest with
    | ',' :: rest =>
      let (pairs, rest) ← readPairs fuel depth rest
      some ((key, v) :: pairs, rest)
    | '\x7d' :: rest => some ([(key, v)], rest)
    | _ => none

end

/-! ## lines -/

inductive Line
  | blank
  | table (path : List String) (key : String)
  | element (path : List String) (key : String)
  | pair (path : List String) (key : String) (v : Toml)

/-- the line that begins here, up to its end, in a text of so many characters at most -/
def readLine (size : Nat) : Reader Line := fun cs =>
  match skipSpaces cs with
  | [] => some (.blank, [])
  | '\n' :: rest => some (.blank, rest)
  | '\r' :: '\n' :: rest => some (.blank, rest)
  | '#' :: rest => do some (.blank, ← finishLine ('#' :: rest))
  | '[' :: '[' :: rest => do
    let ((path, key), rest) ← readKey maxDepth rest
    let (_, rest) ← readMark ']' rest
    let (_, rest) ← readMark ']' rest
    some (.element path key, ← finishLine rest)
  | '[' :: rest => do
    let ((path, key), rest) ← readKey maxDepth rest
    let (_, rest) ← readMark ']' rest
    some (.table path key, ← finishLine rest)
  | cs => do
    let ((path, key), rest) ← readKey maxDepth cs
    let (_, rest) ← readMark '=' rest
    let (v, rest) ← readValue (2 * size) maxDepth (skipSpaces rest)
    some (.pair path key v, ← finishLine rest)

/-- the tree so far, and the table of the last header -/
structure Draft where
  root : Entries := []
  current : List String := []

def Draft.add (d : Draft) : Line → Option Draft
  | .blank => some d
  | .table path key => do some ⟨← addTable path key d.root, path ++ [key]⟩
  | .element path key => do some ⟨← addElement path key d.root, path ++ [key]⟩
  | .pair path key v => do some { d with root := ← addPair d.current path key v d.root }

/-- reads lines up to the end of the text; each takes a character at least, so that the length of the text
is fuel enough -/
def readLines : Nat → List Char → Draft → Option Draft
  | _, [], d => some d
  | 0, _ :: _, _ => none
  | fuel + 1, cs@(_ :: _), d => do
    let (line, rest) ← readLine (fuel + 1) cs
    readLines fuel rest (← d.add line)

/-- without the mark of byte order that may come first -/
def dropOrderMark : List Char → List Char
  | '\uFEFF' :: cs => cs
  | cs => cs

/-- the entries of the root table -/
def parse (s : String) : Option (List (String × Toml)) := do
  let cs := dropOrderMark s.toList
  let d ← readLines cs.length cs {}
  some (freezeEntries d.root [])

end TunnelControl.Toml
