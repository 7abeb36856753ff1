import Mathlib.Data.Nat.Digits.Defs
import TunnelControl.Proofs.Message.Stream
import TunnelControl.Service.Basic

/-!
# How long answers are

An answer has a frame as long as it is short enough.  Those that tell of an error hold its text, and some texts quote
from the request.

* `utf8ByteSize_quoteText_le`   quotation marks and escapes make a text no more than six times as long, and two bytes;
* `ConfigFault.size_message`    how long the texts about a configuration are;
* `Answer.HasFrame`             an answer is short enough;
* `hasFrame_operation_iff`      how long the text of an error may be;
* `answerBytes`                 the frames of some answers.
-/

namespace TunnelControl

open Wire

/-! ## texts -/

/-- how many bytes some characters take -/
def bytesOf (cs : List Char) : Nat := (cs.map Char.utf8Size).sum

theorem bytesOf_append (cs ds : List Char) : bytesOf (cs ++ ds) = bytesOf cs + bytesOf ds := by
  rw [bytesOf, List.map_append, List.sum_append]
  rfl

theorem bytesOf_cons (c : Char) (cs : List Char) : bytesOf (c :: cs) = c.utf8Size + bytesOf cs := rfl

theorem bytesOf_le (cs : List Char) : bytesOf cs ≤ 4 * cs.length := by
  induction cs with
  | nil => exact Nat.le_refl _
  | cons c cs ih =>
    have hc := c.utf8Size_le_four
    rw [bytesOf_cons, List.length_cons]
    omega

theorem utf8ByteSize_ofList (cs : List Char) : (String.ofList cs).utf8ByteSize = bytesOf cs := by
  induction cs with
  | nil => rfl
  | cons c cs ih =>
    have hsplit : String.ofList (c :: cs) = String.singleton c ++ String.ofList cs := by
      rw [String.singleton_eq_ofList, ← String.ofList_append]
      rfl
    rw [hsplit, String.utf8ByteSize_append, String.utf8ByteSize_singleton, ih, bytesOf_cons]

theorem bytesOf_toList (s : String) : bytesOf s.toList = s.utf8ByteSize := by
  rw [← utf8ByteSize_ofList, String.ofList_toList]

theorem bytesOf_replicate (n : Nat) (c : Char) : bytesOf (List.replicate n c) = n * c.utf8Size := by
  rw [bytesOf, List.map_replicate, List.sum_replicate_nat]

/-! ## quoted texts -/

theorem bytesOf_hexDigits (n : Nat) : bytesOf (hexDigits n) = (hexDigits n).length := by
  have hdigit : ∀ n < 16, n.digitChar.utf8Size = 1 := by decide
  have hcore (fuel n : Nat) (ds : List Char) (hds : bytesOf ds = ds.length) :
      bytesOf (Nat.toDigitsCore 16 fuel n ds) = (Nat.toDigitsCore 16 fuel n ds).length := by
    induction fuel generalizing n ds with
    | zero => exact hds
    | succ fuel ih =>
      have hnext : bytesOf ((n % 16).digitChar :: ds) = ((n % 16).digitChar :: ds).length := by
        rw [bytesOf_cons, hdigit _ (Nat.mod_lt n (by decide)), hds, List.length_cons, Nat.add_comm]
      rw [Nat.toDigitsCore]
      split
      · exact hnext
      · exact ih _ _ hnext
  exact hcore _ _ _ rfl

/-- the characters beyond some numbers take so many bytes -/
theorem le_utf8Size (c : Char) :
    (0x7F < c.toNat → 2 ≤ c.utf8Size) ∧ (0x7FF < c.toNat → 3 ≤ c.utf8Size) ∧ (0xFFFF < c.toNat → 4 ≤ c.utf8Size) := by
  have hval : c.val.toNat = c.toNat := rfl
  unfold Char.utf8Size
  simp only [UInt32.le_iff_toNat_le, hval, UInt32.toNat_ofNatLT]
  split
  · omega
  split
  · omega
  split <;> omega

/-- an escape takes no more than six times the bytes of its character -/
theorem bytesOf_escapeIn_le (mark c : Char) : bytesOf (escapeIn mark c) ≤ 6 * c.utf8Size := by
  have hpos := c.utf8Size_pos
  have hescape (d : Char) (hd : d.utf8Size = 1) : bytesOf ['\\', d] ≤ 6 * c.utf8Size := by
    show 1 + (d.utf8Size + 0) ≤ _
    omega
  -- the number of a character has no more digits than this
  have hnumber : bytesOf (['\\', 'u', '\x7b'] ++ hexDigits c.toNat ++ ['\x7d']) ≤ 6 * c.utf8Size := by
    have hbytes := bytesOf_hexDigits c.toNat
    have hlength (e : Nat) (he : 0 < e) (hc : c.toNat < 16 ^ e) : (hexDigits c.toNat).length ≤ e :=
      Nat.toDigits_length 16 c.toNat e he hc
    rw [bytesOf_append, bytesOf_append, hbytes]
    show 3 + (hexDigits c.toNat).length + 1 ≤ 6 * c.utf8Size
    obtain ⟨h2, h3, h4⟩ := le_utf8Size c
    have hlast : c.toNat < 16 ^ 6 := by
      have hvalid : c.toNat < 0xD800 ∨ 0xDFFF < c.toNat ∧ c.toNat < 0x110000 := c.valid
      omega
    by_cases hc : c.toNat < 16 ^ 2
    · have hl := hlength 2 (by decide) hc
      omega
    · by_cases hc' : c.toNat < 16 ^ 4
      · have hl := hlength 4 (by decide) hc'
        omega
      · have hl := hlength 6 (by decide) hlast
        omega
  unfold escapeIn
  split
  · exact hescape _ rfl
  split
  · exact hescape _ rfl
  split
  · exact hescape _ rfl
  split
  · exact hescape _ rfl
  split
  · show 1 + (c.utf8Size + 0) ≤ _
    omega
  split
  · show c.utf8Size + 0 ≤ _
    omega
  · exact hnumber

theorem utf8ByteSize_quoteText (s : String) :
    (quoteText s).utf8ByteSize = 2 + bytesOf (s.toList.flatMap (escapeIn '"')) := by
  rw [quoteText, utf8ByteSize_ofList, List.cons_append, bytesOf_cons, bytesOf_append]
  show 1 + (_ + 1) = _
  omega

/-- **Quotation marks and escapes make a text no more than six times as long, and two bytes.** -/
theorem utf8ByteSize_quoteText_le (s : String) : (quoteText s).utf8ByteSize ≤ 2 + 6 * s.utf8ByteSize := by
  have hescapes (cs : List Char) : bytesOf (cs.flatMap (escapeIn '"')) ≤ 6 * bytesOf cs := by
    induction cs with
    | nil => exact Nat.le_refl _
    | cons c cs ih =>
      have hc := bytesOf_escapeIn_le '"' c
      rw [List.flatMap_cons, bytesOf_append, bytesOf_cons]
      omega
  have hs := hescapes s.toList
  rw [bytesOf_toList] at hs
  rw [utf8ByteSize_quoteText]
  omega

/-! ## the texts of errors -/

/-- how many bytes the text about a configuration takes, behind what it quotes -/
theorem utf8ByteSize_endpoint (text : String) :
    (ConfigFault.endpoint text).message.utf8ByteSize = 32 + (quoteText text).utf8ByteSize := by
  show (toString "endpoint must be host:port, got " ++ toString (quoteText text)).utf8ByteSize = _
  rw [String.utf8ByteSize_append]
  rfl

theorem utf8ByteSize_dnsServer (text : String) :
    (ConfigFault.dnsServer text).message.utf8ByteSize = 32 + (quoteText text).utf8ByteSize := by
  show (toString "DNS server " ++ toString (quoteText text) ++ toString " is not an IP address").utf8ByteSize = _
  rw [String.utf8ByteSize_append, String.utf8ByteSize_append]
  show 11 + (quoteText text).utf8ByteSize + 21 = _
  omega

theorem utf8ByteSize_mtu_le (value : UInt32) : (ConfigFault.mtu value).message.utf8ByteSize ≤ 64 := by
  have hdigits : (Nat.toDigits 10 value.toNat).length ≤ 10 :=
    Nat.toDigits_length 10 value.toNat 10 (by decide) (Nat.lt_trans value.toNat_lt (by decide))
  have hvalue : (toString value).utf8ByteSize = bytesOf (Nat.toDigits 10 value.toNat) := utf8ByteSize_ofList _
  have hbytes := bytesOf_le (Nat.toDigits 10 value.toNat)
  show (toString "MTU " ++ toString value ++ toString " outside " ++ toString mtuMin ++ toString "..="
    ++ toString mtuMax).utf8ByteSize ≤ 64
  simp only [String.utf8ByteSize_append, hvalue]
  show 4 + bytesOf _ + 9 + 3 + 3 + 4 ≤ 64
  omega

theorem utf8ByteSize_invalidConfig (reason : String) :
    (TunnelFault.invalidConfig reason).message.utf8ByteSize = 30 + reason.utf8ByteSize := by
  show (toString "Invalid tunnel configuration: " ++ toString reason).utf8ByteSize = _
  rw [String.utf8ByteSize_append]
  rfl

/-! ## frames -/

/-- the bytes of an answer, if it has a frame -/
def Answer.bytes (a : Answer) : Bytes :=
  match a.frame with
  | .ok frame => frame
  | .error _ => []

/-- an answer is short enough for a frame -/
def Answer.HasFrame (a : Answer) : Prop := ∃ frame, a.frame = .ok frame

instance (a : Answer) : Decidable a.HasFrame :=
  match h : a.frame with
  | .ok frame => isTrue ⟨frame, h⟩
  | .error _ => isFalse fun ⟨_, hf⟩ => nomatch h.symm.trans hf

theorem Answer.bytes_of_frame {a : Answer} {frame : Bytes} (h : a.frame = .ok frame) : a.bytes = frame := by
  rw [Answer.bytes, h]

theorem Answer.bytes_of_frameless {a : Answer} {e : PeerError} (h : a.frame = .error e) : a.bytes = [] := by
  rw [Answer.bytes, h]

theorem Answer.ne_nil_of_frame {a : Answer} {frame : Bytes} (h : a.frame = .ok frame) : frame ≠ [] := by
  have hne {α : Type} [Wire α] (v : α) (hv : frameOf v = .ok frame) : frame ≠ [] := by
    obtain ⟨rfl, -⟩ := frameOf_eq_ok_iff.mp hv
    rw [← List.length_pos_iff, length_frame]
    omega
  cases a with
  | quit response => exact hne response h
  | updateState state => exact hne state h
  | acknowledged => exact hne () h
  | operation response => exact hne response h
  | tunnelState state => exact hne state h

/-- the bytes of some answers, one behind the other -/
def answerBytes (answers : List Answer) : Bytes := (answers.map Answer.bytes).flatten

theorem answerBytes_concat (answers : List Answer) (a : Answer) :
    answerBytes (answers ++ [a]) = answerBytes answers ++ a.bytes := by
  rw [answerBytes, List.map_append, List.flatten_append, List.map_singleton, List.flatten_singleton]
  rfl

theorem length_encode_operation (text : String) :
    (encode (OperationResponse.mk (some text))).length = text.utf8ByteSize + 9 := by
  show (1 :: encode text).length = _
  rw [List.length_cons, length_encode_string]
  omega

theorem hasFrame_operation_iff (text : String) :
    (Answer.operation ⟨some text⟩).HasFrame ↔ text.utf8ByteSize + 9 ≤ maxPayload := by
  rw [← length_encode_operation]
  constructor
  · rintro ⟨frame, hframe⟩
    exact (frameOf_eq_ok_iff.mp hframe).2
  · exact fun hl => ⟨_, frameOf_eq_ok_iff.mpr ⟨rfl, hl⟩⟩

end TunnelControl
