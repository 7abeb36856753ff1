import TunnelControl.Text.Decimal
import TunnelControl.Text.Hex
import TunnelControl.Text.Split

/-!
# Texts of network addresses

An address of version 4 is four octets in decimal between points.  One of version 6 is eight groups of up
to four hexadecimal digits between colons; a dotted address may take the place of the last two groups, and
a pair of colons that of any number of groups, but of one at least.

* `isDottedAddress`, `isGroupedAddress`   the two kinds;
* `isAddress`                             either of them.
-/

namespace TunnelControl

/-- a number up to 255, written without leading zeros -/
def isOctet (cs : List Char) : Bool :=
  (readDigits? 255 cs).isSome && (cs.length = 1 || cs.head? ≠ some '0')

def isDottedAddress (cs : List Char) : Bool :=
  let octets := pieces '.' cs
  octets.length = 4 && octets.all isOctet

/-- one to four hexadecimal digits -/
def isGroup (cs : List Char) : Bool :=
  cs ≠ [] && cs.length ≤ 4 && cs.all fun c => (hexValue? c).isSome

/-- how many groups some pieces stand for; only the last may be a dotted address -/
def countGroups (dotted : Bool) : List (List Char) → Option Nat
  | [] => some 0
  | [piece] =>
    if isGroup piece then some 1
    else if dotted && isDottedAddress piece then some 2
    else none
  | piece :: rest => if isGroup piece then (countGroups dotted rest).map (· + 1) else none

/-- how many groups a text stands for -/
def groupsIn (dotted : Bool) (cs : List Char) : Option Nat :=
  if cs = [] then some 0 else countGroups dotted (pieces ':' cs)

def isGroupedAddress (cs : List Char) : Bool :=
  match cutAtPair ':' cs with
  | none => groupsIn true cs = some 8
  | some (front, back) =>
    match groupsIn false front, groupsIn true back with
    | some m, some n => m + n ≤ 7
    | _, _ => false

def isAddress (cs : List Char) : Bool := isDottedAddress cs || isGroupedAddress cs

end TunnelControl
