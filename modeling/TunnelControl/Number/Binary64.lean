import TunnelControl.Text.Decimal

/-!
# Numbers in binary with 53 digits

A number is read from decimal text exactly and then rounded to the nearest `Binary64`, a tie going to the
even neighbour.

* `roundDiv n d`         the quotient of two numbers, rounded in that way;
* `Binary64.ofRatio`     the nearest number to a ratio, unless that is beyond the largest;
* `Decimal.ofChars?`     a number as written: digits with a point, and a power of ten, of whose digits no more
  are read than make it out of reach of all but the longest numbers.
-/

namespace TunnelControl

/-- the quotient to the nearest, a tie going to the even number -/
def roundDiv (n d : Nat) : Nat :=
  let q := n / d
  let r := n % d
  if 2 * r < d then q else if d < 2 * r then q + 1 else if q % 2 = 0 then q else q + 1

/-- the number `mantissa * 2 ^ exponent` -/
structure Binary64 where
  mantissa : Nat
  exponent : Int
  deriving DecidableEq, Repr

namespace Binary64

/-- a ratio divided by a power of two, as a ratio -/
def scale (n d : Nat) (exponent : Int) : Nat × Nat :=
  if 0 ≤ exponent then (n, d <<< exponent.toNat) else (n <<< (-exponent).toNat, d)

/-- the exponent at which a positive ratio has a mantissa of 53 digits, but not below the least -/
def exponentFor (n d : Nat) : Int :=
  let e : Int := Nat.log2 n - Nat.log2 d - 52
  let (m, k) := scale n d e
  max (-1074) (if m < k <<< 52 then e - 1 else e)

/-- not below the power of two that only infinity reaches -/
def isTooLarge (x : Binary64) : Bool :=
  let (n, d) := scale x.mantissa 1 (-x.exponent)
  d <<< 1024 ≤ n

def ofRatio (n d : Nat) : Option Binary64 :=
  if n = 0 then some ⟨0, 0⟩
  else
    let e := exponentFor n d
    let (m, k) := scale n d e
    let x : Binary64 := ⟨roundDiv m k, e⟩
    if x.isTooLarge then none else some x

/-- the number times `k`, rounded to a whole number -/
def timesRounded (x : Binary64) (k : Nat) : Nat :=
  let (n, d) := scale (x.mantissa * k) 1 (-x.exponent)
  roundDiv n d

end Binary64

/-- a number as written: `digits * 10 ^ power`, with a sign -/
structure Decimal where
  negative : Bool
  digits : Nat
  power : Int
  deriving DecidableEq, Repr

namespace Decimal

/-- the nearest binary number to the magnitude; numbers that are out of reach by their length are settled
without their power of ten: ten binary digits are more than three decimal ones, and three binary ones less
than one -/
def magnitude (x : Decimal) : Option Binary64 :=
  let length := Nat.log2 x.digits
  if x.digits = 0 then some ⟨0, 0⟩
  else if 400 < x.power + (length * 3 / 10 : Nat) then none
  else if x.power + (length / 3 + 1 : Nat) < -400 then some ⟨0, 0⟩
  else if 0 ≤ x.power then Binary64.ofRatio (x.digits * Nat.pow 10 x.power.toNat) 1
  else Binary64.ofRatio x.digits (Nat.pow 10 (-x.power).toNat)

/-- a sign, if there is one -/
def sign : List Char → Bool × List Char
  | '-' :: cs => (true, cs)
  | '+' :: cs => (false, cs)
  | cs => (false, cs)

/-- an exponent that has got this far takes no further digits -/
def exponentLimit : Nat := 0x10000

/-- the digits of an exponent, read until it reaches the limit -/
def exponentValue (ds : List Char) : Nat :=
  ds.foldl (fun e c => if e < exponentLimit then 10 * e + digitValue c else e) 0

/-- the exponent behind a number, if there is one and nothing follows it -/
def exponent? : List Char → Option Int
  | [] => some 0
  | c :: cs =>
    if c = 'e' || c = 'E' then
      let (negative, ds) := sign cs
      if ds = [] || !ds.all isDigit then none
      else some (if negative then -(exponentValue ds : Int) else exponentValue ds)
    else none

/-- digits, a point among them or not, and an exponent or not; one digit at least -/
def ofChars? (cs : List Char) : Option Decimal :=
  let (negative, cs) := sign cs
  let whole := cs.takeWhile isDigit
  let rest := cs.dropWhile isDigit
  let (part, rest) :=
    match rest with
    | '.' :: cs => (cs.takeWhile isDigit, cs.dropWhile isDigit)
    | cs => ([], cs)
  if whole ++ part = [] then none
  else do
    let e ← exponent? rest
    pure { negative, digits := digitsValue (whole ++ part), power := e - part.length }

end Decimal

end TunnelControl
