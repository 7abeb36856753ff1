import TunnelControl.Message.Wire
import TunnelControl.Text.Hex

/-!
# The text of session ids

A session id is written as its bytes in hexadecimal, in groups of 4, 2, 2, 2 and 6 bytes with hyphens
between them.
-/

namespace TunnelControl.SessionId

def groups : List Nat := [4, 2, 2, 2, 6]

/-- the groups of some bytes, each in hexadecimal -/
def groupTexts : List Nat → Bytes → List String
  | [], _ => []
  | n :: ns, bs => Bytes.hex (bs.take n) :: groupTexts ns (bs.drop n)

def text (id : SessionId) : String := "-".intercalate (groupTexts groups id.bytes)

/-- reads digits, of which hyphens are left out -/
def ofText? (s : String) : Option SessionId := do
  let bs ← Bytes.ofHexChars? (s.toList.filter (· != '-'))
  if bs.length = 16 then some (.ofBytes bs) else none

end TunnelControl.SessionId
