import TunnelControl.Text.Decimal
import TunnelControl.Text.Quoted
import TunnelControl.Text.Split

/-!
# Release versions

A version is three numbers, identifiers that mark a pre-release, and identifiers of the build, which
count last.  `Version.ofText?` reads a version or names the fault, `Version.lt` is the order of releases.

* an identifier of digits is a number: of two, the smaller value comes first, and of two spellings of one
  value the shorter, which only builds can have;
* other identifiers follow in the order of their characters, all of them behind the numbers;
* of two lists of identifiers of which one continues the other, the longer is the later, but a version
  without pre-release identifiers is later than with them.
-/

namespace TunnelControl

inductive Identifier
  /-- digits: their value and their number -/
  | number (value digits : Nat)
  | word (letters : List Char)
  deriving DecidableEq, Repr

structure Version where
  major : Nat
  minor : Nat
  patch : Nat
  preRelease : List Identifier := []
  build : List Identifier := []
  deriving DecidableEq, Repr

/-! ## order -/

def Identifier.compare : Identifier → Identifier → Ordering
  | .number m j, .number n k => (Ord.compare m n).then (Ord.compare j k)
  | .number _ _, .word _ => .lt
  | .word _, .number _ _ => .gt
  | .word cs, .word ds => compareWords cs ds
where
  compareWords : List Char → List Char → Ordering
    | [], [] => .eq
    | [], _ :: _ => .lt
    | _ :: _, [] => .gt
    | c :: cs, d :: ds => (Ord.compare c.toNat d.toNat).then (compareWords cs ds)

namespace Version

def compareIdentifiers : List Identifier → List Identifier → Ordering
  | [], [] => .eq
  | [], _ :: _ => .lt
  | _ :: _, [] => .gt
  | i :: is, j :: js => (i.compare j).then (compareIdentifiers is js)

def comparePreReleases : List Identifier → List Identifier → Ordering
  | [], [] => .eq
  | [], _ :: _ => .gt
  | _ :: _, [] => .lt
  | is, js => compareIdentifiers is js

def compare (v w : Version) : Ordering :=
  (Ord.compare v.major w.major).then <|
  (Ord.compare v.minor w.minor).then <|
  (Ord.compare v.patch w.patch).then <|
  (comparePreReleases v.preRelease w.preRelease).then <|
  compareIdentifiers v.build w.build

def lt (v w : Version) : Bool := compare v w = .lt

end Version

/-! ## reading -/

/-- the parts of a version -/
inductive VersionPart
  | major
  | minor
  | patch
  | preRelease
  | build
  deriving DecidableEq, Repr

def VersionPart.description : VersionPart → String
  | .major => "major version number"
  | .minor => "minor version number"
  | .patch => "patch version number"
  | .preRelease => "pre-release identifier"
  | .build => "build metadata"

inductive VersionFault
  | empty
  | unexpectedEnd (part : VersionPart)
  | unexpectedIn (part : VersionPart) (found : Char)
  | unexpectedAfter (part : VersionPart) (found : Char)
  | leadingZero (part : VersionPart)
  | overflow (part : VersionPart)
  | emptySegment (part : VersionPart)
  deriving DecidableEq, Repr

def VersionFault.message : VersionFault → String
  | .empty => "empty string, expected a semver version"
  | .unexpectedEnd part => s!"unexpected end of input while parsing {part.description}"
  | .unexpectedIn part c =>
    s!"unexpected character {quoteChar c} while parsing {part.description}"
  | .unexpectedAfter part c => s!"unexpected character {quoteChar c} after {part.description}"
  | .leadingZero part => s!"invalid leading zero in {part.description}"
  | .overflow part => s!"value of {part.description} exceeds u64::MAX"
  | .emptySegment part => s!"empty identifier segment in {part.description}"

namespace Version

abbrev Reading (α : Type) := Except VersionFault (α × List Char)

/-- the largest number a version may hold -/
def numberLimit : Nat := UInt64.size - 1

/-- a number without leading zeros -/
def readPart (part : VersionPart) (cs : List Char) : Reading Nat :=
  let digits := cs.takeWhile isDigit
  match digits, cs with
  | [], [] => .error (.unexpectedEnd part)
  | [], c :: _ => .error (.unexpectedIn part c)
  | '0' :: _ :: _, _ => .error (.leadingZero part)
  | _, _ =>
    if numberLimit < digitsValue digits then .error (.overflow part)
    else .ok (digitsValue digits, cs.dropWhile isDigit)

/-- the point behind a number -/
def readPoint (part : VersionPart) : List Char → Except VersionFault (List Char)
  | [] => .error (.unexpectedEnd part)
  | '.' :: cs => .ok cs
  | c :: _ => .error (.unexpectedAfter part c)

/-- the characters of identifiers -/
def isIdentifierChar (c : Char) : Bool := c.isAlphanum || c = '-'

def identifierOf (cs : List Char) : Identifier :=
  if cs.all isDigit then .number (digitsValue cs) cs.length else .word cs

/-- an identifier that may stand in a part: pre-releases admit no leading zeros -/
def checkIdentifier (part : VersionPart) (cs : List Char) : Except VersionFault Identifier :=
  if cs = [] then .error (.emptySegment part)
  else if part = .preRelease ∧ cs.all isDigit ∧ 1 < cs.length ∧ cs.head? = some '0' then
    .error (.leadingZero part)
  else .ok (identifierOf cs)

def checkIdentifiers (part : VersionPart) : List (List Char) → Except VersionFault (List Identifier)
  | [] => .ok []
  | cs :: rest => do
    let identifier ← checkIdentifier part cs
    let identifiers ← checkIdentifiers part rest
    pure (identifier :: identifiers)

/-- the identifiers between points, at least one -/
def readIdentifiers (part : VersionPart) (cs : List Char) : Reading (List Identifier) :=
  let body := cs.takeWhile fun c => isIdentifierChar c || c = '.'
  match checkIdentifiers part (pieces '.' body) with
  | .ok identifiers => .ok (identifiers, cs.drop body.length)
  | .error fault => .error fault

/-- the identifiers behind a mark, if the mark is there -/
def readMarked (part : VersionPart) (mark : Char) : List Char → Reading (List Identifier)
  | [] => .ok ([], [])
  | c :: cs => if c = mark then readIdentifiers part cs else .ok ([], c :: cs)

def ofChars? (cs : List Char) : Except VersionFault Version := do
  if cs = [] then throw .empty
  let (major, cs) ← readPart .major cs
  let cs ← readPoint .major cs
  let (minor, cs) ← readPart .minor cs
  let cs ← readPoint .minor cs
  let (patch, cs) ← readPart .patch cs
  let preReleaseNext := cs.head? = some '-'
  let (preRelease, cs) ← readMarked .preRelease '-' cs
  let buildNext := cs.head? = some '+'
  let (build, cs) ← readMarked .build '+' cs
  match cs with
  | [] => pure { major, minor, patch, preRelease, build }
  | c :: _ =>
    let part := if buildNext then .build else if preReleaseNext then .preRelease else .patch
    throw (.unexpectedAfter part c)

def ofText? (s : String) : Except VersionFault Version := ofChars? s.toList

end Version

end TunnelControl
