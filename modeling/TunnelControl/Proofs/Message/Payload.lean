import TunnelControl.Message.Named
import TunnelControl.Proofs.Wire.Lawful

/-!
# The payloads of messages

The forms of all messages are lawful: a record is read field by field, a union by the place of the
alternative (`place`) and the form of what it holds (`content`).

* `payload_bijection`   for each type of messages, a value and a byte string are told from each other.
-/

namespace TunnelControl

open Wire Decoder

/-! ## names -/

instance : LawfulWire UpdateState := lawfulWire_ofNames UpdateState.mem_all (by decide) (by decide)
instance : LawfulWire TunnelState := lawfulWire_ofNames TunnelState.mem_all (by decide) (by decide)
instance : LawfulWire EventKind := lawfulWire_ofNames EventKind.mem_all (by decide) (by decide)
instance : LawfulWire Channel := lawfulWire_ofNames Channel.mem_all (by decide) (by decide)

/-! ## session ids -/

namespace SessionId

theorem length_bytes (id : SessionId) : id.bytes.length = 16 := by
  rw [bytes, List.length_reverse, length_littleEndian]

theorem ofBytes_bytes (id : SessionId) : ofBytes id.bytes = id := by
  have hlt : id.number.toNat < byteRange 16 := id.number.isLt
  rw [ofBytes, bytes, List.reverse_reverse, ofLittleEndian_littleEndian, Nat.mod_eq_of_lt hlt,
    BitVec.ofNat_toNat, BitVec.setWidth_eq]

theorem bytes_ofBytes {bs : Bytes} (hl : bs.length = 16) : (ofBytes bs).bytes = bs := by
  have hr : bs.reverse.length = 16 := by rw [List.length_reverse, hl]
  have hlt : ofLittleEndian bs.reverse < 2 ^ 128 := by
    have h := ofLittleEndian_lt bs.reverse
    rwa [hr] at h
  have hn : (ofBytes bs).number.toNat = ofLittleEndian bs.reverse := by
    rw [ofBytes, BitVec.toNat_ofNat, Nat.mod_eq_of_lt hlt]
  have he := littleEndian_ofLittleEndian bs.reverse
  rw [hr] at he
  rw [bytes, hn, he, List.reverse_reverse]

end SessionId

instance : LawfulWire SessionId where
  reads := by
    refine ((reads_number 8).part (S := fun _ => True) (fun _ => 16) (e := SessionId.bytes)
      (fun _ _ _ => by decide) fun n _ => ?_).congr fun _ => rfl
    by_cases hn : n = 16
    · subst hn
      -- the id is told from its bytes alone
      refine ((reads_bytes 16 .contentCut).part (e := fun _ => []) SessionId.bytes
        (fun id _ _ => id.length_bytes) fun content hl => ?_).congr fun id => List.append_nil _
      refine reads_pure (fun id => ?_) rfl
      constructor
      · rintro ⟨-, rfl⟩
        exact id.ofBytes_bytes.symm
      · rintro rfl
        exact ⟨⟨trivial, rfl⟩, SessionId.bytes_ofBytes hl⟩
    · constructor
      · intro p rest id h
        obtain ⟨content, q, -, hq⟩ := bind_eq_ok_iff.mp h
        rw [if_neg hn] at hq
        exact absurd hq (throw_ne_ok _ _ _ _)
      · rintro id rest ⟨-, h⟩
        exact absurd h.symm hn

/-! ## records -/

instance : LawfulWire TunnelConfig where
  reads :=
    (Reads.field TunnelConfig.name fun _ => .field TunnelConfig.endpoint fun _ =>
      .field TunnelConfig.dnsServers fun _ => .field TunnelConfig.mtu fun _ =>
        reads_pure (e := fun _ => []) (fun c => by cases c; simp [and_assoc]) rfl).congr
    fun c => by simp [encode]

instance : LawfulWire Progress where
  reads :=
    (Reads.field Progress.activity fun _ => .field Progress.bytesDownloaded fun _ =>
      .field Progress.bytesTotal fun _ => .field Progress.error fun _ =>
        .field Progress.complete fun _ =>
          reads_pure (e := fun _ => []) (fun p => by cases p; simp [and_assoc]) rfl).congr
    fun p => by simp [encode]

instance : LawfulWire QuitResponse where
  reads :=
    (Reads.field QuitResponse.alreadyQuit fun _ => .field QuitResponse.error fun _ =>
      reads_pure (e := fun _ => []) (fun r => by cases r; simp) rfl).congr
    fun r => by simp [encode]

instance : LawfulWire OperationResponse where
  reads :=
    (Reads.field OperationResponse.error fun _ =>
      reads_pure (e := fun _ => []) (fun r => by cases r; simp) rfl).congr
    fun r => by simp [encode]

instance : LawfulWire Hello where
  reads :=
    (Reads.field Hello.version fun _ => .field Hello.session fun _ => .field Hello.channel fun _ =>
      reads_pure (e := fun _ => []) (fun h => by cases h; simp [and_assoc]) rfl).congr
    fun h => by simp [encode]

/-! ## unions -/

/-- the place of a method among all of them -/
def Method.place : Method → Nat
  | .quit _ => 0
  | .queryUpdateState => 1
  | .triggerUpdate => 2
  | .startTunnel _ => 3
  | .stopTunnel => 4
  | .queryTunnelState => 5

/-- the form of what a method asks for -/
def Method.content : Method → Bytes
  | .quit stopTunnels => encode stopTunnels
  | .startTunnel config => encode config
  | _ => []

def Event.place : Event → Nat
  | .updateFound _ => 0
  | .updateProgress _ => 1
  | .managerStopping => 2
  | .tunnelStateChanged _ => 3

/-- the form of what an event reports -/
def Event.content : Event → Bytes
  | .updateFound state => encode state
  | .updateProgress progress => encode progress
  | .managerStopping => []
  | .tunnelStateChanged state => encode state

theorem Method.place_lt (m : Method) : m.place < 6 := by cases m <;> simp [place]

theorem Event.place_lt (e : Event) : e.place < 4 := by cases e <;> simp [place]

instance : LawfulWire Method where
  reads := by
    refine (reads_union Method.place (e := Method.content) (by decide) ?_ fun n hn => ?_).congr
      fun m => by cases m <;> rfl
    · exact Method.place_lt
    match n with
    | 0 => exact reads_map (fun m => by cases m <;> simp [Method.place]) fun _ => rfl
    | 1 => exact reads_pure (fun m => by cases m <;> simp [Method.place]) rfl
    | 2 => exact reads_pure (fun m => by cases m <;> simp [Method.place]) rfl
    | 3 => exact reads_map (fun m => by cases m <;> simp [Method.place]) fun _ => rfl
    | 4 => exact reads_pure (fun m => by cases m <;> simp [Method.place]) rfl
    | 5 => exact reads_pure (fun m => by cases m <;> simp [Method.place]) rfl

instance : LawfulWire Event where
  reads := by
    refine (reads_union Event.place (e := Event.content) (by decide) ?_ fun n hn => ?_).congr
      fun e => by cases e <;> rfl
    · exact Event.place_lt
    match n with
    | 0 => exact reads_map (fun e => by cases e <;> simp [Event.place]) fun _ => rfl
    | 1 => exact reads_map (fun e => by cases e <;> simp [Event.place]) fun _ => rfl
    | 2 => exact reads_pure (fun e => by cases e <;> simp [Event.place]) rfl
    | 3 => exact reads_map (fun e => by cases e <;> simp [Event.place]) fun _ => rfl

/-! ## all types of messages -/

namespace MessageType

theorem lawfulWire_of_mem {name : String} {t : MessageType} (ht : (name, t) ∈ named) :
    @LawfulWire t.Value t.wire := by
  simp only [named, List.mem_cons, Prod.mk.injEq, List.not_mem_nil, or_false] at ht
  obtain ⟨-, rfl⟩ | ⟨-, rfl⟩ | ⟨-, rfl⟩ | ⟨-, rfl⟩ | ⟨-, rfl⟩ | ⟨-, rfl⟩ | ⟨-, rfl⟩ | ⟨-, rfl⟩ | ⟨-, rfl⟩
    | ⟨-, rfl⟩ | ⟨-, rfl⟩ | ⟨-, rfl⟩ := ht
  all_goals
    unfold of
    infer_instance

/-- **Values and payloads of a type of messages are told from each other.**  A payload is accepted exactly if
it is the form of a value; one that is cut short or goes on behind the value is not. -/
theorem payload_bijection {name : String} {t : MessageType} (ht : (name, t) ∈ named) :
    letI := t.wire
    (∀ (v : t.Value) (p : Bytes),
      encodePayload v = .ok p ↔ decodePayload t.Value p = .ok v ∧ p.length ≤ maxPayload) ∧
    (∀ p : Bytes, (∀ v : t.Value, p ≠ encode v) → ∃ fault, decodePayload t.Value p = .error fault) ∧
    ∀ (v : t.Value) (p : Bytes), encodePayload v = .ok p →
      (∀ cut, cut <+: p → cut ≠ p → ∃ fault, decodePayload t.Value cut = .error fault) ∧
      ∀ b more, decodePayload t.Value (p ++ b :: more) = .error .trailing := by
  let := t.wire
  have := lawfulWire_of_mem ht
  refine ⟨fun v p => encodePayload_eq_ok_iff_decodePayload, fun p hp => ?_, fun v p h => ?_⟩
  · exact exists_error_of_forall_ne_ok fun v hv => hp v (eq_encode_of_decodePayload hv)
  · obtain ⟨hd, -⟩ := encodePayload_eq_ok_iff_decodePayload.mp h
    obtain ⟨rfl, hl⟩ := encodePayload_eq_ok_iff.mp h
    have hlt : (encode v).length < byteRange 8 := Nat.lt_of_le_of_lt hl (by decide)
    exact ⟨fun cut => decodePayload_error_of_prefix hd hlt, decodePayload_encode_append hlt⟩

/-- a method that holds a record with a list of texts and an optional number -/
theorem payload_bijection_startTunnel :
    ("MethodCall", of Method) ∈ named ∧
      ∀ p, encodePayload (Method.startTunnel
          { name := "office", dnsServers := ["10.0.0.53", ""], mtu := some 1420 }) = .ok p ↔
        decodePayload Method p = .ok (.startTunnel
          { name := "office", dnsServers := ["10.0.0.53", ""], mtu := some 1420 }) ∧
          p.length ≤ maxPayload :=
  have h : ("MethodCall", of Method) ∈ named := by simp [named]
  ⟨h, (payload_bijection h).1 _⟩

end MessageType

end TunnelControl
