import TunnelControl.Wire.Form

/-!
# Wire forms that can be read in one way only

`Reads d S e` says that a decoder takes exactly the values of `S` off the front of bytes, each in its form
`e`.  A wire form is lawful (`LawfulWire`) if its decoder reads all values in the form that its encoder
gives them.

* `Reads.field`, `reads_pure`   records: one field after the other;
* `reads_union`                 unions: a tag and then the fields of the alternative;
* `encodePayload_eq_ok_iff_decodePayload`     the payloads of a lawful form are the forms of its values.

Lengths travel in eight bytes, so that only forms of fewer than `byteRange 8` bytes are read back.
-/

namespace TunnelControl

open Wire

namespace Decoder
variable {α β : Type}

/-! ## decoders step by step -/

theorem pure_eq_ok_iff {a v : α} {p rest : Bytes} :
    (pure a : Decoder α) p = .ok (v, rest) ↔ v = a ∧ p = rest := by
  constructor
  · intro h
    cases h
    exact ⟨rfl, rfl⟩
  · rintro ⟨rfl, rfl⟩
    rfl

theorem bind_eq_ok_iff {d : Decoder β} {f : β → Decoder α} {v : α} {p rest : Bytes} :
    (d >>= f) p = .ok (v, rest) ↔ ∃ b q, d p = .ok (b, q) ∧ f b q = .ok (v, rest) := by
  show (d p >>= fun r => f r.1 r.2) = _ ↔ _
  cases hd : d p with
  | error fault =>
    constructor
    · intro h
      cases h
    · rintro ⟨b, q, h, -⟩
      cases h
  | ok r =>
    obtain ⟨b, q⟩ := r
    constructor
    · intro h
      exact ⟨b, q, rfl, h⟩
    · rintro ⟨b', q', h, hf⟩
      cases h
      exact hf

theorem map_eq_ok_iff {d : Decoder β} {f : β → α} {v : α} {p rest : Bytes} :
    (f <$> d) p = .ok (v, rest) ↔ ∃ b, d p = .ok (b, rest) ∧ v = f b := by
  rw [map_eq_pure_bind, bind_eq_ok_iff]
  constructor
  · rintro ⟨b, q, hd, hp⟩
    obtain ⟨hv, rfl⟩ := pure_eq_ok_iff.mp hp
    exact ⟨b, hd, hv⟩
  · rintro ⟨b, hd, hv⟩
    exact ⟨b, rest, hd, pure_eq_ok_iff.mpr ⟨hv, rfl⟩⟩

theorem throw_ne_ok (fault : Fault) (p rest : Bytes) (v : α) :
    (throw fault : Decoder α) p ≠ .ok (v, rest) := nofun

/-! ## what a decoder reads -/

/-- the decoder takes exactly the values of `S` off the front of bytes, each in its form -/
structure Reads (d : Decoder α) (S : α → Prop) (e : α → Bytes) : Prop where
  sound : ∀ {p rest : Bytes} {v : α}, d p = .ok (v, rest) → S v ∧ p = e v ++ rest
  complete : ∀ {v : α} (rest : Bytes), S v → (e v).length < byteRange 8 →
    d (e v ++ rest) = .ok (v, rest)

theorem reads_pure {a : α} {S : α → Prop} {e : α → Bytes} (hS : ∀ v, S v ↔ v = a) (he : e a = []) :
    Reads (pure a) S e where
  sound h := by
    obtain ⟨rfl, rfl⟩ := pure_eq_ok_iff.mp h
    exact ⟨(hS _).mpr rfl, by rw [he]; rfl⟩
  complete rest hv _ := by
    obtain rfl := (hS _).mp hv
    rw [he]
    rfl

theorem reads_throw {S : α → Prop} {e : α → Bytes} (fault : Fault) (hS : ∀ v, ¬S v) :
    Reads (throw fault) S e where
  sound h := absurd h (throw_ne_ok _ _ _ _)
  complete _ hv _ := absurd hv (hS _)

theorem reads_bytes (n : Nat) (short : Fault) :
    Reads (bytes n short) (fun front => front.length = n) id where
  sound h := (append_of_bytes h).symm
  complete rest hl _ := bytes_append n short _ rest hl

theorem reads_number (width : Nat) :
    Reads (number width) (fun n => n < byteRange width) (littleEndian width) where
  sound h := (append_of_number h).symm
  complete rest hn _ := number_append width _ rest hn

theorem Reads.congr {d : Decoder α} {S : α → Prop} {e e' : α → Bytes} (h : Reads d S e)
    (he : ∀ v, e v = e' v) : Reads d S e' := by
  obtain rfl : e = e' := funext he
  exact h

/-- two decoders one behind the other, where the first reads a part of what the second then reads -/
theorem Reads.part {d : Decoder β} {f : β → Decoder α} {S₁ : β → Prop} {e₁ : β → Bytes}
    {S : α → Prop} {e : α → Bytes} (part : α → β) (hd : Reads d S₁ e₁)
    (hS : ∀ v, S v → (e v).length < byteRange 8 → S₁ (part v))
    (hf : ∀ b, S₁ b → Reads (f b) (fun v => S v ∧ part v = b) e) :
    Reads (d >>= f) S (fun v => e₁ (part v) ++ e v) where
  sound h := by
    obtain ⟨b, q, h₁, h₂⟩ := bind_eq_ok_iff.mp h
    obtain ⟨hb, rfl⟩ := hd.sound h₁
    obtain ⟨⟨hv, rfl⟩, rfl⟩ := (hf b hb).sound h₂
    exact ⟨hv, by rw [List.append_assoc]⟩
  complete {v} rest hv hl := by
    rw [List.length_append] at hl
    have hb := hS v hv (by omega)
    rw [List.append_assoc]
    refine bind_eq_ok_iff.mpr ⟨part v, e v ++ rest, hd.complete _ hb (by omega), ?_⟩
    exact (hf (part v) hb).complete rest ⟨hv, rfl⟩ (by omega)

end Decoder

open Decoder

/-! ## lawful forms -/

/-- the decoder reads every value in the form that the encoder gives it, and nothing else -/
class LawfulWire (α : Type) [Wire α] : Prop where
  reads : Reads (decode (α := α)) (fun _ => True) encode

section
variable {α β : Type} [Wire β] [LawfulWire β]

theorem append_of_decode {p rest : Bytes} {v : β} (h : decode p = .ok (v, rest)) :
    p = encode v ++ rest := (LawfulWire.reads.sound h).2

theorem decode_encode_append {v : β} (hl : (encode v).length < byteRange 8) (rest : Bytes) :
    decode (encode v ++ rest) = .ok (v, rest) := LawfulWire.reads.complete rest trivial hl

/-- a field of a record, and behind it the other fields -/
theorem Decoder.Reads.field {f : β → Decoder α} {S : α → Prop} {e : α → Bytes} (part : α → β)
    (hf : ∀ b, Reads (f b) (fun v => S v ∧ part v = b) e) :
    Reads (decode >>= f) S (fun v => encode (part v) ++ e v) :=
  LawfulWire.reads.part part (fun _ _ _ => trivial) fun b _ => hf b

/-- the only field of an alternative -/
theorem reads_map {c : β → α} {S : α → Prop} {e : α → Bytes} (hS : ∀ v, S v ↔ ∃ b, v = c b)
    (he : ∀ b, e (c b) = encode b) : Reads (c <$> decode) S e where
  sound h := by
    obtain ⟨b, hd, rfl⟩ := map_eq_ok_iff.mp h
    exact ⟨(hS _).mpr ⟨b, rfl⟩, by rw [he, append_of_decode hd]⟩
  complete rest hv hl := by
    obtain ⟨b, rfl⟩ := (hS _).mp hv
    rw [he] at hl ⊢
    exact map_eq_ok_iff.mpr ⟨b, decode_encode_append hl rest, rfl⟩

end

/-- a value is told by its place among the alternatives, which goes in front, and by the rest of its form -/
theorem reads_union {α : Type} {alternatives : List (Decoder α)} {e : α → Bytes} (place : α → Nat)
    (hl : alternatives.length ≤ byteRange 4) (hplace : ∀ v, place v < alternatives.length)
    (h : ∀ n (hn : n < alternatives.length), Reads alternatives[n] (fun v => place v = n) e) :
    Reads (union alternatives) (fun _ => True) (fun v => tag (place v) ++ e v) := by
  refine (reads_number 4).part place (fun v _ _ => Nat.lt_of_lt_of_le (hplace v) hl) fun n _ => ?_
  by_cases hn : n < alternatives.length
  · rw [List.getElem?_eq_getElem hn]
    simp only [true_and]
    exact h n hn
  · rw [List.getElem?_eq_none (Nat.le_of_not_lt hn)]
    exact reads_throw _ fun v hv => hn (hv.2 ▸ hplace v)

/-! ## basic forms -/

instance : LawfulWire Unit where
  reads := reads_pure (fun _ => by simp) rfl

/-- numbers of another type, of which there are as many -/
theorem reads_map_number {α : Type} {width : Nat} {ofNat : Nat → α} {toNat : α → Nat}
    (hlt : ∀ v, toNat v < byteRange width) (hof : ∀ v, ofNat (toNat v) = v)
    (hto : ∀ n, n < byteRange width → toNat (ofNat n) = n) :
    Reads (ofNat <$> number width) (fun _ => True) (fun v => littleEndian width (toNat v)) where
  sound h := by
    obtain ⟨n, hn, rfl⟩ := map_eq_ok_iff.mp h
    obtain ⟨hl, rfl⟩ := (reads_number width).sound hn
    exact ⟨trivial, by rw [hto n hl]⟩
  complete {v} rest _ hl :=
    map_eq_ok_iff.mpr ⟨toNat v, (reads_number width).complete rest (hlt v) hl, (hof v).symm⟩

instance : LawfulWire UInt32 where
  reads := reads_map_number UInt32.toNat_lt (fun _ => UInt32.ofNat_toNat)
    fun _ => UInt32.toNat_ofNat_of_lt'

instance : LawfulWire UInt64 where
  reads := reads_map_number UInt64.toNat_lt (fun _ => UInt64.ofNat_toNat)
    fun _ => UInt64.toNat_ofNat_of_lt'

/-- a byte that is `0` or `1`, and then what belongs to the one or the other -/
theorem reads_flag {α : Type} {no yes : Decoder α} {fault : Nat → Fault} {e : α → Bytes}
    (flag : α → Bool) (hno : Reads no (fun v => flag v = false) e)
    (hyes : Reads yes (fun v => flag v = true) e) :
    Reads (number 1 >>= fun n => match n with | 0 => no | 1 => yes | n => throw (fault n))
      (fun _ => True) (fun v => (if flag v then 1 else 0) :: e v) := by
  have h := (reads_number 1).part (S := fun _ => True) (e := e)
    (f := fun n => match n with | 0 => no | 1 => yes | n => throw (fault n))
    (fun v => (flag v).toNat) (fun v _ _ => Nat.lt_trans (flag v).toNat_lt (by decide)) fun n _ => ?_
  · refine h.congr fun v => ?_
    cases flag v <;> rfl
  · match n with
    | 0 =>
      simp only [true_and, Bool.toNat_eq_zero]
      exact hno
    | 1 =>
      simp only [true_and, Bool.toNat_eq_one]
      exact hyes
    | n + 2 =>
      refine reads_throw _ fun v hv => ?_
      have := (flag v).toNat_lt
      omega

instance : LawfulWire Bool where
  reads := (reads_flag (fun v => v) (reads_pure (fun _ => Iff.rfl) rfl)
    (reads_pure (fun _ => Iff.rfl) rfl)).congr fun _ => rfl

instance {α : Type} [Wire α] [LawfulWire α] : LawfulWire (Option α) where
  reads := (reads_flag Option.isSome (e := fun v => v.elim [] encode)
      (reads_pure (fun v => by cases v <;> simp) rfl)
      (reads_map (fun v => by cases v <;> simp) fun _ => rfl)).congr
    fun v => by cases v <;> rfl

theorem encode_string (s : String) : encode s = littleEndian 8 s.utf8ByteSize ++ Utf8.encode s := rfl

theorem length_encode_string (s : String) : (encode s).length = 8 + s.utf8ByteSize := by
  rw [encode_string, List.length_append, length_littleEndian, Utf8.length_encode]

instance : LawfulWire String where
  reads := by
    -- first the length, then so many bytes, of which the text is made
    refine ((reads_number 8).part (S := fun _ => True) String.utf8ByteSize (e := Utf8.encode) ?_
      fun n _ => ?_).congr encode_string
    · intro s _ hl
      rwa [Utf8.length_encode] at hl
    · constructor
      · intro p rest s h
        obtain ⟨content, q, hc, hq⟩ := bind_eq_ok_iff.mp h
        obtain ⟨rfl, rfl⟩ := (reads_bytes n .contentCut).sound hc
        cases hd : Utf8.decode content with
        | error cause =>
          rw [hd] at hq
          exact absurd hq (throw_ne_ok _ _ _ _)
        | ok t =>
          rw [hd] at hq
          obtain ⟨rfl, rfl⟩ := pure_eq_ok_iff.mp hq
          obtain rfl := Utf8.encode_of_decode hd
          exact ⟨⟨trivial, (Utf8.length_encode _).symm⟩, rfl⟩
      · rintro s rest ⟨-, rfl⟩ hl
        have hb := (reads_bytes s.utf8ByteSize .contentCut).complete rest (Utf8.length_encode s) hl
        refine bind_eq_ok_iff.mpr ⟨Utf8.encode s, rest, hb, ?_⟩
        rw [Utf8.decode_encode]
        rfl

/-- values that take a byte at least, each, take as many bytes as they are -/
theorem length_le_length_flatMap_encode {α : Type} [Wire α] (h : ∀ v : α, encode v ≠ [])
    (vs : List α) : vs.length ≤ (vs.flatMap encode).length := by
  induction vs with
  | nil => exact Nat.le_refl 0
  | cons v vs ih =>
    have hv := List.length_pos_iff.mpr (h v)
    rw [List.flatMap_cons, List.length_append, List.length_cons]
    omega

section
variable {α : Type} [Wire α] [LawfulWire α]

theorem reads_times (n : Nat) :
    Reads (times (decode (α := α)) n) (fun vs => vs.length = n) (fun vs => vs.flatMap encode) := by
  induction n with
  | zero => exact reads_pure (fun _ => List.length_eq_zero_iff) rfl
  | succ n ih =>
    constructor
    · intro p rest vs h
      obtain ⟨v, q, hv, hq⟩ := bind_eq_ok_iff.mp h
      obtain ⟨ws, r, hw, hr⟩ := bind_eq_ok_iff.mp hq
      obtain ⟨rfl, rfl⟩ := pure_eq_ok_iff.mp hr
      obtain rfl := append_of_decode hv
      obtain ⟨rfl, rfl⟩ := ih.sound hw
      exact ⟨rfl, by rw [List.flatMap_cons, List.append_assoc]⟩
    · intro vs rest hn hl
      cases vs with
      | nil => cases hn
      | cons v vs =>
        rw [List.flatMap_cons, List.length_append] at hl
        rw [List.flatMap_cons, List.append_assoc]
        have hv := decode_encode_append (v := v) (by omega) (vs.flatMap encode ++ rest)
        have hw := ih.complete (v := vs) rest (Nat.succ.inj hn) (by omega)
        exact bind_eq_ok_iff.mpr ⟨v, _, hv, bind_eq_ok_iff.mpr ⟨vs, rest, hw, rfl⟩⟩

/-- the length of a list has to fit into its eight bytes, so that values without a byte make no lawful lists -/
theorem lawfulWire_list (h : ∀ v : α, encode v ≠ []) : LawfulWire (List α) where
  reads := by
    refine (reads_number 8).part List.length (fun vs _ hl => ?_) fun n _ => ?_
    · exact Nat.lt_of_le_of_lt (length_le_length_flatMap_encode h vs) hl
    · simp only [true_and]
      exact reads_times n

end

instance : LawfulWire (List String) :=
  lawfulWire_list fun s h => by
    have hl := length_encode_string s
    rw [h, List.length_nil] at hl
    omega

/-- names that stand once in a list of all of them are told by their places -/
theorem lawfulWire_ofNames {α : Type} [BEq α] [LawfulBEq α] {names : List α}
    (hmem : ∀ v, v ∈ names) (hnodup : names.Nodup) (hl : names.length ≤ byteRange 4) :
    @LawfulWire α (Wire.ofNames names) := by
  let := Wire.ofNames names
  have hlength : (names.map (pure : α → Decoder α)).length = names.length := List.length_map _
  have h : Reads (union (names.map pure)) (fun _ => True) (fun v => tag (names.idxOf v) ++ []) := by
    refine reads_union names.idxOf (by omega) (fun v => ?_) fun n hn => ?_
    · rw [hlength]
      exact List.idxOf_lt_length_of_mem (hmem v)
    · rw [List.getElem_map]
      refine reads_pure (fun v => ?_) rfl
      constructor
      · rintro rfl
        exact (List.getElem_idxOf _).symm
      · rintro rfl
        exact hnodup.idxOf_getElem n _
  exact ⟨h.congr fun _ => List.append_nil _⟩

/-! ## payloads -/

section
variable {α : Type} [Wire α]

theorem decodePayload_eq_ok_iff {p : Bytes} {v : α} :
    decodePayload α p = .ok v ↔ decode p = .ok (v, []) := by
  unfold decodePayload
  cases decode (α := α) p with
  | error fault => exact ⟨nofun, nofun⟩
  | ok r =>
    obtain ⟨w, rest⟩ := r
    cases rest with
    | nil =>
      constructor <;> intro h <;> cases h <;> rfl
    | cons b rest => exact ⟨nofun, nofun⟩

theorem exists_error_of_forall_ne_ok {p : Bytes} (h : ∀ v : α, decodePayload α p ≠ .ok v) :
    ∃ fault, decodePayload α p = .error fault := by
  cases hd : decodePayload α p with
  | error fault => exact ⟨fault, rfl⟩
  | ok v => exact absurd hd (h v)

variable [LawfulWire α]

theorem eq_encode_of_decodePayload {p : Bytes} {v : α} (h : decodePayload α p = .ok v) :
    p = encode v := by
  have hp := append_of_decode (decodePayload_eq_ok_iff.mp h)
  rwa [List.append_nil] at hp

theorem decodePayload_encode {v : α} (hl : (encode v).length < byteRange 8) :
    decodePayload α (encode v) = .ok v := by
  have h := decode_encode_append hl []
  rw [List.append_nil] at h
  exact decodePayload_eq_ok_iff.mpr h

theorem decodePayload_encode_append {v : α} (hl : (encode v).length < byteRange 8) (b : UInt8)
    (more : Bytes) : decodePayload α (encode v ++ b :: more) = .error .trailing := by
  unfold decodePayload
  rw [decode_encode_append hl]

theorem encodePayload_eq_ok_iff_decodePayload {p : Bytes} {v : α} :
    encodePayload v = .ok p ↔ decodePayload α p = .ok v ∧ p.length ≤ maxPayload := by
  rw [encodePayload_eq_ok_iff]
  constructor
  · rintro ⟨rfl, hl⟩
    exact ⟨decodePayload_encode (Nat.lt_of_le_of_lt hl (by decide)), hl⟩
  · rintro ⟨h, hl⟩
    obtain rfl := eq_encode_of_decodePayload h
    exact ⟨rfl, hl⟩

/-- no form begins with another one -/
theorem decodePayload_error_of_prefix {v : α} {p cut : Bytes} (h : decodePayload α p = .ok v)
    (hl : p.length < byteRange 8) (hcut : cut <+: p) (hne : cut ≠ p) :
    ∃ fault, decodePayload α cut = .error fault := by
  refine exists_error_of_forall_ne_ok fun w hw => ?_
  obtain rfl := eq_encode_of_decodePayload hw
  obtain ⟨left, rfl⟩ := hcut
  cases left with
  | nil => exact hne (List.append_nil _).symm
  | cons b more =>
    rw [List.length_append] at hl
    rw [decodePayload_encode_append (by omega)] at h
    cases h

end

end TunnelControl
