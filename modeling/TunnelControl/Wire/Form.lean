import TunnelControl.Text.Utf8

/-!
# The wire form of values

A type with a wire form (`Wire`) has an `encode`, the bytes of a value, and a `decode`, which takes a
value off the front of some bytes and returns the rest, or a `Fault`.

* numbers are little-endian in their full width;
* a flag is one byte, `0` or `1`; an optional value is such a byte and then the value if there is one;
* texts and lists come behind their length in eight bytes;
* a union is a tag of four bytes, the place of the alternative in the list, and then its fields.

A payload is the wire form of one value and nothing else, and holds at most `maxPayload` bytes:
`encodePayload`, `decodePayload`.
-/

namespace TunnelControl

/-- why bytes are not the wire form of a value -/
inductive Fault
  /-- a number, tag, length, flag or presence byte is cut off -/
  | endOfInput
  /-- the content behind a length is cut off -/
  | contentCut
  | flag (found : Nat)
  | presence (found : Nat)
  | variant (found count : Nat)
  | text (cause : Utf8.Fault)
  | idLength (found : Nat)
  /-- bytes are left over behind the value -/
  | trailing
  /-- the value needs more bytes than a frame may hold -/
  | tooLong
  deriving DecidableEq, Repr

def Fault.message : Fault → String
  | .endOfInput => "io error: unexpected end of file"
  | .contentCut => "io error: "
  | .flag n => s!"invalid u8 while decoding bool, expected 0 or 1, found {n}"
  | .presence n => s!"tag for enum is not valid, found {n}"
  | .variant n count =>
    s!"invalid value: integer `{n}`, expected variant index 0 <= i < {count}"
  | .text cause => s!"string is not valid utf8: {cause.message}"
  | .idLength n => s!"UUID parsing failed: invalid length: expected 16 bytes, found {n}"
  | .trailing => "Slice had bytes remaining after deserialization"
  | .tooLong => "the size limit has been reached"

/-- takes a value off the front of some bytes -/
abbrev Decoder (α : Type) := StateT Bytes (Except Fault) α

namespace Decoder

/-- the next `n` bytes -/
def bytes (n : Nat) (short : Fault) : Decoder Bytes := fun p =>
  let front := p.take n
  if front.length = n then .ok (front, p.drop n) else .error short

/-- a number in `width` bytes -/
def number (width : Nat) : Decoder Nat := ofLittleEndian <$> bytes width .endOfInput

/-- the alternative whose place the tag names -/
def union {α : Type} (alternatives : List (Decoder α)) : Decoder α := do
  let n ← number 4
  match alternatives[n]? with
  | some decoder => decoder
  | none => throw (.variant n alternatives.length)

/-- as many values as a count says -/
def times {α : Type} (decoder : Decoder α) : Nat → Decoder (List α)
  | 0 => pure []
  | n + 1 => do
    let v ← decoder
    let vs ← times decoder n
    pure (v :: vs)

theorem bytes_append (n : Nat) (short : Fault) (front rest : Bytes) (h : front.length = n) :
    bytes n short (front ++ rest) = .ok (front, rest) := by
  subst h
  simp [bytes]

theorem append_of_bytes {n : Nat} {short : Fault} {p front rest : Bytes}
    (h : bytes n short p = .ok (front, rest)) : p = front ++ rest ∧ front.length = n := by
  unfold bytes at h
  simp only at h
  split at h
  · cases h
    exact ⟨(List.take_append_drop n p).symm, by assumption⟩
  · cases h

theorem number_append (width n : Nat) (rest : Bytes) (h : n < byteRange width) :
    number width (littleEndian width n ++ rest) = .ok (n, rest) := by
  show (ofLittleEndian <$> bytes width .endOfInput : Decoder Nat) _ = _
  have hb := bytes_append width .endOfInput (littleEndian width n) rest (length_littleEndian width n)
  simp only [Functor.map, StateT.map, hb, bind, Except.bind, pure, Except.pure,
    ofLittleEndian_littleEndian, Nat.mod_eq_of_lt h]

theorem append_of_number {width n : Nat} {p rest : Bytes}
    (h : number width p = .ok (n, rest)) :
    p = littleEndian width n ++ rest ∧ n < byteRange width := by
  simp only [number, Functor.map, StateT.map, bind, Except.bind, pure, Except.pure] at h
  split at h
  · cases h
  · rename_i w hw
    obtain ⟨front, rest'⟩ := w
    cases h
    obtain ⟨hp, hl⟩ := append_of_bytes hw
    subst hl
    exact ⟨by rw [littleEndian_ofLittleEndian, hp], ofLittleEndian_lt front⟩

end Decoder

/-- a type whose values have a wire form -/
class Wire (α : Type) where
  encode : α → Bytes
  decode : Decoder α

open Wire Decoder

/-- the four bytes of a tag -/
def tag (n : Nat) : Bytes := littleEndian 4 n

instance : Wire Unit where
  encode _ := []
  decode := pure ()

instance : Wire UInt32 where
  encode n := littleEndian 4 n.toNat
  decode := UInt32.ofNat <$> number 4

instance : Wire UInt64 where
  encode n := littleEndian 8 n.toNat
  decode := UInt64.ofNat <$> number 8

instance : Wire Bool where
  encode b := [if b then 1 else 0]
  decode := do
    match ← number 1 with
    | 0 => pure false
    | 1 => pure true
    | n => throw (.flag n)

instance : Wire String where
  encode s := littleEndian 8 s.utf8ByteSize ++ Utf8.encode s
  decode := do
    let n ← number 8
    let content ← bytes n .contentCut
    match Utf8.decode content with
    | .ok s => pure s
    | .error cause => throw (.text cause)

instance {α : Type} [Wire α] : Wire (Option α) where
  encode
    | none => [0]
    | some v => 1 :: encode v
  decode := do
    match ← number 1 with
    | 0 => pure none
    | 1 => some <$> decode
    | n => throw (.presence n)

instance {α : Type} [Wire α] : Wire (List α) where
  encode vs := littleEndian 8 vs.length ++ vs.flatMap encode
  decode := do times decode (← number 8)

/-- a type of bare names has for its wire form the tag that is the place of the name -/
@[reducible] def Wire.ofNames {α : Type} [BEq α] (names : List α) : Wire α where
  encode v := tag (names.idxOf v)
  decode := union (names.map pure)

/-! ## payloads -/

/-- the most bytes a payload may have, in either direction -/
def maxPayload : Nat := 65536

/-- the payload of a value -/
def encodePayload {α : Type} [Wire α] (v : α) : Except Fault Bytes :=
  let payload := encode v
  if payload.length ≤ maxPayload then .ok payload else .error .tooLong

/-- the value of a payload, which has to be used up -/
def decodePayload (α : Type) [Wire α] (payload : Bytes) : Except Fault α :=
  match decode (α := α) payload with
  | .ok (v, []) => .ok v
  | .ok (_, _ :: _) => .error .trailing
  | .error fault => .error fault

theorem encodePayload_eq_ok_iff {α : Type} [Wire α] {v : α} {p : Bytes} :
    encodePayload v = .ok p ↔ p = encode v ∧ (encode v).length ≤ maxPayload := by
  unfold encodePayload
  simp only
  split <;> rename_i h
  · constructor
    · intro hp
      cases hp
      exact ⟨rfl, h⟩
    · rintro ⟨rfl, _⟩
      rfl
  · constructor
    · intro hp
      cases hp
    · rintro ⟨_, hl⟩
      exact absurd hl h

end TunnelControl
