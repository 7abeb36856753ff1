import TunnelControl.Connection.Values
import TunnelControl.Proofs.Wire.Framing
import TunnelControl.Proofs.Wire.Lawful

/-!
# The values that some bytes begin with

Any bytes are the frames of some values and then bytes that begin with no value.  What `splitValues` gives are these
values, and these bytes.

* `valueFrames vs`           the frames of some values;
* `Valueless α bs`           some bytes begin with no value;
* `exists_valueFrames`       any bytes are made up like this;
* `splitValues_valueFrames`  and are taken apart like this.
-/

namespace TunnelControl

open Wire

section
variable {α : Type} [Wire α]

/-- the frames of some values, one behind the other -/
def valueFrames (vs : List α) : Bytes := (vs.map fun v => frame (encode v)).flatten

theorem valueFrames_cons (v : α) (vs : List α) : valueFrames (v :: vs) = frame (encode v) ++ valueFrames vs := rfl

theorem valueFrames_concat (vs : List α) (v : α) : valueFrames (vs ++ [v]) = valueFrames vs ++ frame (encode v) := by
  rw [valueFrames, List.map_append, List.flatten_append, List.map_singleton, List.flatten_singleton]
  rfl

/-- all of some values have frames -/
def Short (vs : List α) : Prop := ∀ v ∈ vs, (encode v).length ≤ maxPayload

variable (α) in
/-- some bytes begin with no frame of a value: the frame is unfinished, or too large, or holds no value -/
def Valueless (bs : Bytes) : Prop :=
  ∀ payload left v, Ending.clean.firstFrame bs = (.payload payload, left) → decodePayload α payload ≠ .ok v

theorem valueless_of_unfinished {bs : Bytes} (h : FrameReader.Unfinished bs) : Valueless α bs := by
  intro payload left v hf
  rw [firstFrame_of_unfinished h] at hf
  exact absurd (Prod.mk.inj hf).1 (meaning_ne_payload _ _ _)

theorem valueless_of_undecodable {payload : Bytes} {fault : Fault} (hl : payload.length ≤ maxPayload)
    (hd : decodePayload α payload = .error fault) (more : Bytes) : Valueless α (frame payload ++ more) := by
  intro payload' left v hf
  rw [firstFrame_frame_append hl] at hf
  cases hf
  rw [hd]
  exact nofun

end

section
variable {α : Type} [Wire α] [LawfulWire α]

/-- bytes begin with a value, or with none -/
theorem valueless_or_value (bs : Bytes) :
    Valueless α bs ∨ ∃ (v : α) (left : Bytes), bs = frame (encode v) ++ left ∧ (encode v).length ≤ maxPayload := by
  by_cases h : ∃ payload left v, Ending.clean.firstFrame bs = (.payload payload, left) ∧ decodePayload α payload = .ok v
  · obtain ⟨payload, left, v, hf, hd⟩ := h
    obtain ⟨hbs, hl⟩ := eq_frame_append_of_firstFrame hf
    cases eq_encode_of_decodePayload hd
    exact .inr ⟨v, left, hbs, hl⟩
  · exact .inl fun payload left v hf hd => h ⟨payload, left, v, hf, hd⟩

/-- any bytes are the frames of some values, and bytes that begin with no value -/
theorem exists_valueFrames (bs : Bytes) :
    ∃ (vs : List α) (rest : Bytes), bs = valueFrames vs ++ rest ∧ Short vs ∧ Valueless α rest := by
  obtain h | ⟨v, left, hbs, hl⟩ := valueless_or_value (α := α) bs
  · exact ⟨[], bs, rfl, nofun, h⟩
  · have hlt : left.length < bs.length := by
      rw [hbs, List.length_append, length_frame]
      omega
    obtain ⟨vs, rest, hleft, hshort, hrest⟩ := exists_valueFrames left
    refine ⟨v :: vs, rest, ?_, List.forall_mem_cons.mpr ⟨hl, hshort⟩, hrest⟩
    rw [hbs, hleft, valueFrames_cons, List.append_assoc]
termination_by bs.length

omit [LawfulWire α] in
/-- there is nothing to take off bytes that begin with no value -/
theorem splitValues_go_of_valueless {source : Source} (he : source.ending = .clean)
    (hv : Valueless α source.content) (fuel : Nat) :
    splitValues.go (decodePayload α) fuel source = ([], source.content) := by
  cases fuel with
  | zero => rfl
  | succ fuel =>
    have hfst := nextFrame_fst source
    rw [splitValues.go]
    cases hn : nextFrame source with
    | mk result rest =>
      rw [hn, he] at hfst
      cases result with
      | payload payload =>
        simp only
        cases hd : decodePayload α payload with
        | error fault => rfl
        | ok v => exact absurd hd (hv payload _ v (Prod.ext hfst.symm rfl))
      | _ => rfl

theorem splitValues_go {vs : List α} {rest : Bytes} (hs : Short vs) (hr : Valueless α rest) {fuel : Nat}
    {source : Source} (he : source.ending = .clean) (hc : source.content = valueFrames vs ++ rest)
    (hf : source.content.length ≤ fuel) : splitValues.go (decodePayload α) fuel source = (vs, rest) := by
  induction vs generalizing fuel source with
  | nil =>
    have hrest : source.content = rest := hc
    rw [splitValues_go_of_valueless he (hrest ▸ hr), hrest]
  | cons v vs ih =>
    obtain ⟨hv, hvs⟩ := List.forall_mem_cons.mp hs
    rw [valueFrames_cons, List.append_assoc] at hc
    -- the first frame is that of the first value
    have hfirst : source.ending.firstFrame source.content = (.payload (encode v), valueFrames vs ++ rest) := by
      rw [hc, firstFrame_frame_append hv]
    have hfst := nextFrame_fst source
    have hsnd : (nextFrame source).2.content = valueFrames vs ++ rest := by rw [content_nextFrame, hfirst]
    have hending := ending_nextFrame source
    rw [hfirst] at hfst
    have hlen := congrArg List.length hc
    rw [List.length_append, length_frame] at hlen
    cases fuel with
    | zero => omega
    | succ fuel =>
      have hgo : splitValues.go (decodePayload α) fuel (nextFrame source).2 = (vs, rest) :=
        ih hvs (hending.trans he) hsnd (by rw [hsnd]; omega)
      rw [splitValues.go]
      generalize nextFrame source = next at hfst hgo
      obtain ⟨result, source'⟩ := next
      cases hfst
      simp only [decodePayload_encode (Nat.lt_of_le_of_lt hv (by decide)), hgo]

/-- **Bytes that are made up like this are taken apart like this.** -/
theorem splitValues_valueFrames {vs : List α} {rest : Bytes} (hs : Short vs) (hr : Valueless α rest) :
    splitValues (decodePayload α) (valueFrames vs ++ rest) = (vs, rest) := by
  have hcontent (bs : Bytes) : (Source.ofBytes bs).content = bs := List.append_nil bs
  exact splitValues_go hs hr rfl (hcontent _) (Nat.le_of_eq (congrArg List.length (hcontent _)))

/-- the values of some frames are the first of those that the bytes begin with -/
theorem isPrefix_splitValues {vs : List α} (hs : Short vs) (more : Bytes) :
    vs <+: (splitValues (decodePayload α) (valueFrames vs ++ more)).1 := by
  obtain ⟨ws, rest, rfl, hws, hrest⟩ := exists_valueFrames (α := α) more
  have happend : valueFrames vs ++ (valueFrames ws ++ rest) = valueFrames (vs ++ ws) ++ rest := by
    rw [← List.append_assoc, valueFrames, valueFrames, valueFrames, List.map_append, List.flatten_append]
  have hshort : Short (vs ++ ws) := fun v hv => (List.mem_append.mp hv).elim (hs v) (hws v)
  rw [happend, splitValues_valueFrames hshort hrest]
  exact List.prefix_append vs ws

end

end TunnelControl
