import TunnelControl.Text.Utf8

/-!
# Fingerprints of texts

The 64-bit FNV-1a fingerprint: for each byte, the bytes so far are mixed with it and spread by a prime.
-/

namespace TunnelControl.Fingerprint

def offset : UInt64 := 0xcbf29ce484222325
def prime : UInt64 := 0x100000001b3

def ofBytes (bs : Bytes) : UInt64 := bs.foldl (fun h b => (h ^^^ b.toUInt64) * prime) offset

def ofText (s : String) : UInt64 := ofBytes (Utf8.encode s)

theorem ofBytes_nil : ofBytes [] = offset := rfl

theorem ofBytes_concat (bs : Bytes) (b : UInt8) :
    ofBytes (bs ++ [b]) = (ofBytes bs ^^^ b.toUInt64) * prime := by
  simp [ofBytes, List.foldl_append]

end TunnelControl.Fingerprint
