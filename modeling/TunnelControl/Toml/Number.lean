import TunnelControl.Number.Binary64
import TunnelControl.Toml.Text
import TunnelControl.Toml.Value

/-!
# Numbers and points in time in a settings file

Each reader takes the longest number of its form off the front of some characters.

* `readTime`      a date, a time of day, or a date with a time and an offset;
* `readFloat`     a number with a fraction or an exponent, `inf` or `nan`; one that rounds to infinity is
  refused;
* `readInteger`   a whole number in decimal, or behind `0x`, `0o`, `0b` in another base, in 64 bits.
-/

namespace TunnelControl.Toml

/-! ## digits -/

/-- digits, between two of which an underscore may stand -/
def readRun (admits : Char → Bool) : Reader (List Char)
  | [] => none
  | c :: cs => if admits c then more c cs else none
where
  /-- the digits behind a first one -/
  more (first : Char) : List Char → Option (List Char × List Char)
    | [] => some ([first], [])
    | [c] => if admits c then some ([first, c], []) else if c = '_' then none else some ([first], [c])
    | c :: d :: cs =>
      if admits c then before first (more c (d :: cs))
      else if c = '_' then if admits d then before first (more d cs) else none
      else some ([first], c :: d :: cs)

def readSign : List Char → List Char × List Char
  | '+' :: cs => (['+'], cs)
  | '-' :: cs => (['-'], cs)
  | cs => ([], cs)

/-- a whole number in decimal: a sign or none, and digits of which only a lone one may be zero first -/
def readDecimal : Reader (List Char × List Char) := fun cs =>
  let (sign, cs) := readSign cs
  match cs with
  | '0' :: cs => some ((sign, ['0']), cs)
  | cs => (readRun isDigit cs).map fun (digits, rest) => ((sign, digits), rest)

def signed (sign : List Char) (n : Nat) : Int := if sign = ['-'] then -(n : Int) else n

/-! ## whole numbers -/

/-- digits of a base behind its mark -/
def readBased (base : Nat) : Reader Toml := fun cs => do
  let (digits, rest) ← readRun (fun c => (hexValue? c).any fun n => n < base) cs
  let n := joinDigits digits.length base (digits.reverse.map fun c => (hexValue? c).getD 0)
  if (n : Int) ≤ integerMax then some (integer n, rest) else none

def readInteger : Reader Toml
  | '0' :: 'x' :: cs => readBased 16 cs
  | '0' :: 'o' :: cs => readBased 8 cs
  | '0' :: 'b' :: cs => readBased 2 cs
  | cs => do
    let ((sign, digits), rest) ← readDecimal cs
    let n := signed sign (digitsValue digits)
    if integerMin ≤ n ∧ n ≤ integerMax then some (integer n, rest) else none

/-! ## numbers with a fraction -/

/-- the digits behind a point, if there is one -/
def readFraction : Reader (List Char)
  | '.' :: cs => readRun isDigit cs
  | cs => some ([], cs)

/-- the sign and digits of an exponent, if there is one -/
def readExponent : Reader (List Char) := fun cs =>
  match cs with
  | c :: ds =>
    if c = 'e' || c = 'E' then
      let (sign, es) := readSign ds
      (readRun isDigit es).map fun (digits, rest) => (sign ++ digits, rest)
    else some ([], cs)
  | [] => some ([], [])

def isOverflow (x : Decimal) : Bool := !x.negative && x.magnitude.isNone

def readWritten : Reader Toml := fun cs => do
  let ((sign, whole), rest) ← readDecimal cs
  let (part, rest) ← readFraction rest
  let (power, rest) ← readExponent rest
  if part = [] ∧ power = [] then none
  else
    let point := if part = [] then [] else '.' :: part
    let written := sign ++ whole ++ point ++ (if power = [] then [] else 'e' :: power)
    let x ← Decimal.ofChars? written
    if isOverflow x then none else some (float (String.ofList written), rest)

def readSpecial : Reader Toml := fun cs =>
  match readSign cs with
  | (sign, 'i' :: 'n' :: 'f' :: rest) => some (float (String.ofList (sign ++ ['i', 'n', 'f'])), rest)
  | (sign, 'n' :: 'a' :: 'n' :: rest) => some (float (String.ofList (sign ++ ['n', 'a', 'n'])), rest)
  | _ => none

def readFloat : Reader Toml := fun cs => readWritten cs <|> readSpecial cs

/-! ## points in time -/

/-- so many digits, for a number within limits -/
def readField (width lo hi : Nat) : Reader Nat := fun cs =>
  let digits := cs.take width
  let n := digitsValue digits
  if digits.length = width ∧ digits.all isDigit ∧ lo ≤ n ∧ n ≤ hi then some (n, cs.drop width) else none

def readMark (mark : Char) : Reader Unit
  | [] => none
  | c :: cs => if c = mark then some ((), cs) else none

def isLeapYear (year : Nat) : Bool := year % 4 = 0 && (year % 100 ≠ 0 || year % 400 = 0)

def daysIn (year month : Nat) : Nat :=
  if month = 2 then if isLeapYear year then 29 else 28
  else if month = 4 ∨ month = 6 ∨ month = 9 ∨ month = 11 then 30
  else 31

def readDate : Reader Unit := fun cs => do
  let (year, cs) ← readField 4 0 9999 cs
  let (_, cs) ← readMark '-' cs
  let (month, cs) ← readField 2 1 12 cs
  let (_, cs) ← readMark '-' cs
  let (day, cs) ← readField 2 1 31 cs
  if day ≤ daysIn year month then some ((), cs) else none

def readTimeOfDay : Reader Unit := fun cs => do
  let (_, cs) ← readField 2 0 23 cs
  let (_, cs) ← readMark ':' cs
  let (_, cs) ← readField 2 0 59 cs
  let (_, cs) ← readMark ':' cs
  let (_, cs) ← readField 2 0 60 cs
  match cs with
  | '.' :: ds =>
    let rest := ds.dropWhile isDigit
    if rest.length < ds.length then some ((), rest) else none
  | cs => some ((), cs)

/-- the offset behind a time, if there is one -/
def readOffset : Reader Unit := fun cs =>
  match cs with
  | c :: rest =>
    if c = 'Z' || c = 'z' then some ((), rest)
    else if c = '+' || c = '-' then do
      let (_, rest) ← readField 2 0 23 rest
      let (_, rest) ← readMark ':' rest
      let (_, rest) ← readField 2 0 59 rest
      some ((), rest)
    else some ((), cs)
  | [] => some ((), [])

/-- a date, with a time behind a `T` or a blank if one is there -/
def readDateTime : Reader Unit := fun cs => do
  let (_, rest) ← readDate cs
  match rest with
  | c :: ds =>
    if c = 'T' || c = 't' || c = ' ' then
      match readTimeOfDay ds with
      | some (_, es) => readOffset es
      | none => some ((), rest)
    else some ((), rest)
  | [] => some ((), [])

def readTime : Reader Toml := fun cs => do
  let (_, rest) ← readDateTime cs <|> readTimeOfDay cs
  some (time (String.ofList (cs.take (cs.length - rest.length))), rest)

def readNumber : Reader Toml := fun cs => readTime cs <|> readFloat cs <|> readInteger cs

end TunnelControl.Toml
