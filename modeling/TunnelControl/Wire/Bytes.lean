/-!
# Bytes and fixed-width numbers

A byte string is a list of bytes.  Numbers travel little-endian in a fixed number of bytes:

* `littleEndian w n`    the `w` lowest bytes of `n`, the lowest first;
* `ofLittleEndian bs`   the number those bytes denote;
* `byteRange w`         how many numbers `w` bytes can denote.

`ofLittleEndian_littleEndian` and `littleEndian_ofLittleEndian` say that the two are inverse to each
other, below `byteRange w` and on byte strings of length `w`.
-/

namespace TunnelControl

abbrev Bytes := List UInt8

/-- the `width` lowest bytes of `n`, the lowest first -/
def littleEndian : Nat → Nat → Bytes
  | 0, _ => []
  | width + 1, n => UInt8.ofNat n :: littleEndian width (n / 256)

/-- the number that bytes denote, the lowest first -/
def ofLittleEndian : Bytes → Nat
  | [] => 0
  | b :: bs => b.toNat + 256 * ofLittleEndian bs

/-- how many numbers so many bytes can denote -/
def byteRange : Nat → Nat
  | 0 => 1
  | width + 1 => 256 * byteRange width

theorem byteRange_zero : byteRange 0 = 1 := rfl
theorem byteRange_succ (width : Nat) : byteRange (width + 1) = 256 * byteRange width := rfl
theorem littleEndian_zero (n : Nat) : littleEndian 0 n = [] := rfl
theorem littleEndian_succ (width n : Nat) :
    littleEndian (width + 1) n = UInt8.ofNat n :: littleEndian width (n / 256) := rfl
theorem ofLittleEndian_nil : ofLittleEndian [] = 0 := rfl
theorem ofLittleEndian_cons (b : UInt8) (bs : Bytes) :
    ofLittleEndian (b :: bs) = b.toNat + 256 * ofLittleEndian bs := rfl

@[simp] theorem length_littleEndian (width n : Nat) : (littleEndian width n).length = width := by
  induction width generalizing n with
  | zero => rfl
  | succ width ih => simp [littleEndian_succ, ih]

theorem ofLittleEndian_littleEndian (width n : Nat) :
    ofLittleEndian (littleEndian width n) = n % byteRange width := by
  induction width generalizing n with
  | zero => simp [littleEndian_zero, ofLittleEndian_nil, byteRange_zero, Nat.mod_one]
  | succ width ih =>
    rw [littleEndian_succ, ofLittleEndian_cons, ih, byteRange_succ, Nat.mod_mul]
    simp

theorem ofLittleEndian_lt (bs : Bytes) : ofLittleEndian bs < byteRange bs.length := by
  induction bs with
  | nil => simp [ofLittleEndian_nil, byteRange_zero]
  | cons b bs ih =>
    have hb := b.toNat_lt
    rw [ofLittleEndian_cons, List.length_cons, byteRange_succ]
    omega

theorem littleEndian_ofLittleEndian (bs : Bytes) :
    littleEndian bs.length (ofLittleEndian bs) = bs := by
  induction bs with
  | nil => rfl
  | cons b bs ih =>
    have hb := b.toNat_lt
    have hm : (b.toNat + 256 * ofLittleEndian bs) % 256 = b.toNat := by omega
    have hd : (b.toNat + 256 * ofLittleEndian bs) / 256 = ofLittleEndian bs := by omega
    rw [List.length_cons, littleEndian_succ, ofLittleEndian_cons, hd, ih]
    congr 1
    apply UInt8.toNat_inj.mp
    rw [UInt8.toNat_ofNat']
    exact hm

end TunnelControl
