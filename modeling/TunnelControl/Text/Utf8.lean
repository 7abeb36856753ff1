import TunnelControl.Wire.Bytes

/-!
# UTF-8 text in byte strings

`Utf8.encode` writes a text, `Utf8.decode` reads one back and otherwise says where the first fault
lies (`Utf8.Fault`).  A fault is either a sequence of one to three bytes that begins no character, or a
character cut off by the end of the bytes.

* `Utf8.decode_encode`       a written text is read back;
* `Utf8.encode_of_decode`    only written texts are read.

`Utf8.repair` reads any bytes, with the replacement character in the place of each fault.
-/

namespace TunnelControl.Utf8

/-- where bytes stop being text: at an offset, over so many bytes, or because they end too early -/
structure Fault where
  offset : Nat
  width : Option Nat
  deriving DecidableEq, Repr

def Fault.message (f : Fault) : String :=
  match f.width with
  | some w => s!"invalid utf-8 sequence of {w} bytes from index {f.offset}"
  | none => s!"incomplete utf-8 byte sequence from index {f.offset}"

/-- the number of bytes of the character that a first byte announces -/
def announced (b : UInt8) : Option Nat :=
  if b < 0x80 then some 1
  else if b < 0xC2 then none
  else if b < 0xE0 then some 2
  else if b < 0xF0 then some 3
  else if b < 0xF5 then some 4
  else none

/-- the second bytes that may follow a first byte: neither overlong forms nor surrogates nor numbers
above the last character -/
def second (b c : UInt8) : Bool :=
  if b == 0xE0 then 0xA0 ≤ c && c ≤ 0xBF
  else if b == 0xED then 0x80 ≤ c && c ≤ 0x9F
  else if b == 0xF0 then 0x90 ≤ c && c ≤ 0xBF
  else if b == 0xF4 then 0x80 ≤ c && c ≤ 0x8F
  else 0x80 ≤ c && c ≤ 0xBF

def continuing (c : UInt8) : Bool := 0x80 ≤ c && c ≤ 0xBF

/-- the outcome of looking at the first character of some bytes -/
inductive Lead
  /-- a whole character of so many bytes -/
  | whole (width : Nat)
  /-- so many bytes that begin no character -/
  | wrong (width : Nat)
  /-- the beginning of a character, up to the end of the bytes -/
  | cut

def lead : Bytes → Lead
  | [] => .cut
  | b :: bs =>
    match announced b with
    | none => .wrong 1
    | some 1 => .whole 1
    | some n =>
      match bs with
      | [] => .cut
      | c :: cs =>
        if !second b c then .wrong 1
        else if n = 2 then .whole 2
        else
          match cs with
          | [] => .cut
          | d :: ds =>
            if !continuing d then .wrong 2
            else if n = 3 then .whole 3
            else
              match ds with
              | [] => .cut
              | e :: _ => if continuing e then .whole 4 else .wrong 3

/-- the first fault of bytes that lie at an offset; `fuel` is at least their number -/
def faultFrom : Nat → Nat → Bytes → Option Fault
  | 0, _, _ => none
  | _, _, [] => none
  | fuel + 1, offset, bs@(_ :: _) =>
    match lead bs with
    | .whole w => faultFrom fuel (offset + w) (bs.drop w)
    | .wrong w => some ⟨offset, some w⟩
    | .cut => some ⟨offset, none⟩

/-- the first fault of bytes that are no text -/
def firstFault (bs : Bytes) : Fault := (faultFrom bs.length 0 bs).getD ⟨bs.length, none⟩

def encode (s : String) : Bytes := s.toByteArray.data.toList

def decode (bs : Bytes) : Except Fault String :=
  match String.fromUTF8? ⟨bs.toArray⟩ with
  | some s => .ok s
  | none => .error (firstFault bs)

theorem decode_encode (s : String) : decode (encode s) = .ok s := by
  have h : (⟨(encode s).toArray⟩ : ByteArray) = s.toByteArray := by simp [encode]
  simp [decode, h, String.fromUTF8?, s.isValidUTF8, String.fromUTF8]

theorem encode_of_decode {bs : Bytes} {s : String} (h : decode bs = .ok s) : bs = encode s := by
  unfold decode String.fromUTF8? at h
  split at h
  · rename_i t ht
    split at ht
    · cases ht
      cases h
      simp [encode, String.fromUTF8]
    · cases ht
  · cases h

theorem length_encode (s : String) : (encode s).length = s.utf8ByteSize := by
  rw [encode, Array.length_toList]
  rfl

/-- the text of any bytes, a replacement character standing for each fault -/
def repairFrom : Nat → Bytes → List Char
  | 0, _ => []
  | _, [] => []
  | fuel + 1, bs@(_ :: _) =>
    match lead bs with
    | .whole w =>
      match decode (bs.take w) with
      | .ok s => s.toList ++ repairFrom fuel (bs.drop w)
      | .error _ => '\uFFFD' :: repairFrom fuel (bs.drop w)
    | .wrong w => '\uFFFD' :: repairFrom fuel (bs.drop w)
    | .cut => ['\uFFFD']

def repair (bs : Bytes) : String :=
  match decode bs with
  | .ok s => s
  | .error _ => String.ofList (repairFrom bs.length bs)

theorem repair_encode (s : String) : repair (encode s) = s := by simp [repair, decode_encode]

end TunnelControl.Utf8
