import TunnelControl.Wire.Bytes

/-!
# Hexadecimal digits

* `hexDigits n`    the digits of a number, without leading zeros;
* `Bytes.hex bs`   two small digits for each byte;
* `Bytes.ofHex?`   bytes read back from such digits.
-/

namespace TunnelControl

def hexDigit (n : Nat) : Char := "0123456789abcdef".toList.getD n '0'

def hexDigits (n : Nat) : List Char := Nat.toDigits 16 n

def hexValue? (c : Char) : Option Nat :=
  if '0' ≤ c && c ≤ '9' then some (c.toNat - '0'.toNat)
  else if 'a' ≤ c && c ≤ 'f' then some (c.toNat - 'a'.toNat + 10)
  else if 'A' ≤ c && c ≤ 'F' then some (c.toNat - 'A'.toNat + 10)
  else none

namespace Bytes

def hexChars (bs : Bytes) : List Char :=
  bs.flatMap fun b => [hexDigit (b.toNat / 16), hexDigit (b.toNat % 16)]

def hex (bs : Bytes) : String := String.ofList (hexChars bs)

def ofHexChars? : List Char → Option Bytes
  | [] => some []
  | [_] => none
  | c :: d :: cs => do
    let hi ← hexValue? c
    let lo ← hexValue? d
    let bs ← ofHexChars? cs
    pure (UInt8.ofNat (16 * hi + lo) :: bs)

def ofHex? (s : String) : Option Bytes := ofHexChars? s.toList

theorem hexChars_nil : hexChars [] = [] := rfl
theorem hexChars_append (as bs : Bytes) : hexChars (as ++ bs) = hexChars as ++ hexChars bs :=
  List.flatMap_append

end Bytes

end TunnelControl
