import TunnelControl.Proofs.Message.Size

/-!
# The limit of frames

Whoever writes a frame and whoever reads it set the same limit, so that what is written is never too large to be read,
and what cannot be written leaves the stream as it was.

* `Message`             a value of some type of messages;
* `Message.LimitKept`   what the limit means to it;
* `Message.writeAll`    writes messages one behind the other, whatever becomes of each;
* `Message.ReadBack`    messages are read off a stream one behind the other, each in its type;
* `limitKept_of_known`, `readBack_writeAll`   the limit is kept, and what is written within it is read back.
-/

namespace TunnelControl

open Wire FrameReader

/-! ## streams that are cut off -/

theorem meaning_ne_tooLarge (ending : Ending) (reader : FrameReader) (n : Nat) :
    ending.meaning reader ≠ .fault (.tooLarge n) := by
  intro heq
  cases ending with
  | broken reason => cases heq
  | clean =>
    cases reader with
    | body length missing got => cases heq
    | header got =>
      cases hgot : got.isEmpty with
      | true =>
        simp only [Ending.meaning, atEnd, hgot, if_true] at heq
        cases heq
      | false =>
        simp only [Ending.meaning, atEnd, hgot, Bool.false_eq_true, if_false] at heq
        cases heq

theorem read_ne_tooLarge {α : Type} [Wire α] {r : FrameResult} {n : Nat} (h : r ≠ .fault (.tooLarge n)) :
    r.read α ≠ .error (.protocol (.frame (.tooLarge n))) := by
  intro heq
  cases r with
  | payload bytes =>
    rw [FrameResult.read] at heq
    split at heq <;> cases heq
  | fault cause =>
    cases heq
    exact h rfl
  | broken reason => cases heq
  | clean => cases heq

/-! ## messages -/

instance (t : MessageType) : Wire t.Value := t.wire

/-- a value of some type of messages -/
structure Message where
  kind : MessageType
  value : kind.Value

namespace Message

/-- the type is one of those that are sent and received -/
def Known (m : Message) : Prop := ∃ name, (name, m.kind) ∈ MessageType.named

/-- the form of the value; its length is the size of the value -/
def payload (m : Message) : Bytes := encode m.value

def framed (m : Message) : Except PeerError Bytes := frameOf m.value

def write (written : Bytes) (m : Message) : Except PeerError Unit × Bytes :=
  writeValue written m.value

/-- what reading a value of the same type makes of a frame -/
def read (m : Message) (r : FrameResult) : Except PeerError (Option m.kind.Value) :=
  r.read m.kind.Value

/-- the next value of a stream, read as one of the same type -/
def readNext (m : Message) (source : Source) : Except PeerError (Option m.kind.Value) × Source :=
  readValue m.kind.Value source

/-- what the limit means to a message -/
structure LimitKept (m : Message) : Prop where
  framed_iff : (∃ f, m.framed = .ok f) ↔ m.payload.length ≤ 65536
  /-- the header says exactly how long the payload is -/
  header : ∀ f, m.framed = .ok f →
    ∃ head, f = head ++ m.payload ∧ head.length = 4 ∧ ofLittleEndian head = m.payload.length
  accepted : ∀ f, m.framed = .ok f → ∀ pieces ending tail, pieces.flatten = f ++ tail →
    (m.readNext ⟨pieces, ending⟩).1 = .ok (some m.value) ∧ (m.readNext ⟨pieces, ending⟩).2.content = tail
  /-- nor is a part of its frame ever reported as too large -/
  neverTooLarge : ∀ f, m.framed = .ok f → ∀ cut, cut <+: f → ∀ pieces ending, pieces.flatten = cut →
    ∀ n, (m.readNext ⟨pieces, ending⟩).1 ≠ .error (.protocol (.frame (.tooLarge n)))
  refused : ∀ e, m.framed = .error e → e.kind = "Serialization" ∧ e = .serialization .tooLong ∧
    e.message = "Serialization error: the size limit has been reached"
  /-- the length of the payload is never the reason -/
  unreachable : ∀ n, m.framed ≠ .error (.protocol (.frameTooLong n))
  silent : 65536 < m.payload.length → ∀ written, m.write written = (.error (.serialization .tooLong), written)

/-- writes messages one behind the other, whatever becomes of each -/
def writeAll (written : Bytes) : List Message → List (Except PeerError Unit) × Bytes
  | [] => ([], written)
  | m :: ms =>
    let (result, written) := m.write written
    let (results, written) := writeAll written ms
    (result :: results, written)

/-- these messages are read off a stream one behind the other, each in its type, and leave that stream -/
inductive ReadBack : Source → List Message → Source → Prop
  | nil (s : Source) : ReadBack s [] s
  | cons {s s' s'' : Source} {m : Message} {ms : List Message} (h : m.readNext s = (.ok (some m.value), s'))
      (hrest : ReadBack s' ms s'') : ReadBack s (m :: ms) s''

/-- there is room for the message in a frame -/
def fits (m : Message) : Bool := m.payload.length ≤ 65536

/-! ## one message -/

theorem framed_eq_ok_iff {m : Message} {f : Bytes} : m.framed = .ok f ↔ f = frame m.payload ∧ m.payload.length ≤ 65536 :=
  frameOf_eq_ok_iff

theorem framed_eq_error_iff {m : Message} {e : PeerError} :
    m.framed = .error e ↔ 65536 < m.payload.length ∧ e = .serialization .tooLong :=
  frameOf_eq_error_iff

theorem write_of_fits {m : Message} (h : m.payload.length ≤ 65536) (written : Bytes) :
    m.write written = (.ok (), written ++ frame m.payload) := by
  have hframed : m.framed = .ok (frame m.payload) := framed_eq_ok_iff.mpr ⟨rfl, h⟩
  rw [write, writeValue, ← framed, hframed]

theorem write_of_not_fits {m : Message} (h : 65536 < m.payload.length) (written : Bytes) :
    m.write written = (.error (.serialization .tooLong), written) := by
  have hframed : m.framed = .error (.serialization .tooLong) := framed_eq_error_iff.mpr ⟨h, rfl⟩
  rw [write, writeValue, ← framed, hframed]

theorem read_payload {m : Message} (hm : m.Known) (h : m.payload.length ≤ 65536) :
    m.read (.payload m.payload) = .ok (some m.value) := by
  obtain ⟨name, hname⟩ := hm
  have := MessageType.lawfulWire_of_mem hname
  exact read_payload_encode h

theorem readNext_frame {m : Message} (hm : m.Known) (h : m.payload.length ≤ 65536) {source : Source} {tail : Bytes}
    (hs : source.content = frame m.payload ++ tail) :
    (m.readNext source).1 = .ok (some m.value) ∧ (m.readNext source).2.content = tail ∧
      (m.readNext source).2.ending = source.ending := by
  have hfirst := firstFrame_frame_append h source.ending tail
  have hresult := readValue_fst m.kind.Value source
  have hleft := content_readValue m.kind.Value source
  rw [hs, hfirst] at hresult hleft
  exact ⟨hresult.trans (read_payload hm h), hleft, ending_readValue m.kind.Value source⟩

/-- **The limit is kept.** -/
theorem limitKept_of_known {m : Message} (hm : m.Known) : m.LimitKept where
  framed_iff := ⟨fun ⟨_, hf⟩ => (framed_eq_ok_iff.mp hf).2, fun h => ⟨_, framed_eq_ok_iff.mpr ⟨rfl, h⟩⟩⟩
  header f hf := by
    obtain ⟨rfl, hl⟩ := framed_eq_ok_iff.mp hf
    refine ⟨littleEndian 4 m.payload.length, rfl, length_littleEndian 4 _, ?_⟩
    rw [ofLittleEndian_littleEndian, Nat.mod_eq_of_lt (lt_byteRange_of_le hl)]
  accepted f hf pieces ending tail hp := by
    obtain ⟨rfl, hl⟩ := framed_eq_ok_iff.mp hf
    have hread := readNext_frame hm hl (show (⟨pieces, ending⟩ : Source).content = _ from hp)
    exact ⟨hread.1, hread.2.1⟩
  neverTooLarge f hf cut hcut pieces ending hp n := by
    obtain ⟨rfl, hl⟩ := framed_eq_ok_iff.mp hf
    by_cases hwhole : cut = frame m.payload
    · have hcontent : (⟨pieces, ending⟩ : Source).content = frame m.payload ++ [] := by
        rw [List.append_nil, ← hwhole]
        exact hp
      rw [(readNext_frame hm hl hcontent).1]
      exact nofun
    · -- what is read of an unfinished frame is told by the ending of the stream
      have hunfinished := unfinished_of_prefix_frame hl hcut hwhole
      have hresult := readValue_fst m.kind.Value ⟨pieces, ending⟩
      rw [show (⟨pieces, ending⟩ : Source).content = cut from hp, firstFrame_of_unfinished hunfinished] at hresult
      rw [readNext, hresult]
      exact read_ne_tooLarge (meaning_ne_tooLarge ending _ n)
  refused e he := by
    obtain ⟨-, rfl⟩ := framed_eq_error_iff.mp he
    exact ⟨rfl, rfl, rfl⟩
  unreachable n hn := nomatch (framed_eq_error_iff.mp hn).2
  silent h := write_of_not_fits h

/-! ## messages one behind the other -/

section
variable {ms : List Message}

/-- the frames of messages -/
def frames (ms : List Message) : Bytes := ((ms.map payload).map frame).flatten

theorem frames_cons (m : Message) (ms : List Message) : frames (m :: ms) = frame m.payload ++ frames ms := rfl

/-- what comes of each write, and what is on the stream: the frames of the messages that fit -/
theorem writeAll_eq (written : Bytes) (ms : List Message) :
    writeAll written ms
      = (ms.map fun m => if m.fits then .ok () else .error (.serialization .tooLong),
          written ++ frames (ms.filter fits)) := by
  induction ms generalizing written with
  | nil =>
    show ([], written) = ([], written ++ [])
    rw [List.append_nil]
  | cons m ms ih =>
    rw [writeAll]
    by_cases hm : m.fits = true
    · rw [write_of_fits (of_decide_eq_true hm), List.map_cons, if_pos hm, List.filter_cons_of_pos hm, frames_cons]
      dsimp only
      rw [ih, List.append_assoc]
    · have hlong : 65536 < m.payload.length := Nat.not_le.mp fun hl => hm (decide_eq_true hl)
      rw [write_of_not_fits hlong, List.map_cons, if_neg hm, List.filter_cons_of_neg hm]
      dsimp only
      rw [ih]

/-- messages that fit are read back from their frames -/
theorem readBack_frames (hknown : ∀ m ∈ ms, m.Known) (hfits : ∀ m ∈ ms, m.payload.length ≤ 65536) {source : Source}
    {tail : Bytes} (hs : source.content = frames ms ++ tail) :
    ∃ left, ReadBack source ms left ∧ left.content = tail ∧ left.ending = source.ending := by
  induction ms generalizing source with
  | nil => exact ⟨source, .nil source, hs, rfl⟩
  | cons m ms ih =>
    obtain ⟨hm, hms⟩ := List.forall_mem_cons.mp hknown
    obtain ⟨hl, hls⟩ := List.forall_mem_cons.mp hfits
    rw [frames_cons, List.append_assoc] at hs
    obtain ⟨hresult, hcontent, hending⟩ := readNext_frame hm hl hs
    obtain ⟨left, hback, hleft, hends⟩ := ih hms hls hcontent
    exact ⟨left, .cons (Prod.ext hresult rfl) hback, hleft, hends.trans hending⟩

/-- and so they are through a pipe -/
theorem read_results (hknown : ∀ m ∈ ms, m.Known) (hfits : ∀ m ∈ ms, m.payload.length ≤ 65536) {capacity : Nat}
    {ending : Ending} {tail : Bytes} {moves : List Transfer.Move} {s : Transfer}
    (hs : (Transfer.ofBytes capacity ending (frames ms ++ tail)).run moves = some s) :
    (∀ (i : Nat) (m : Message) (r : FrameResult), ms[i]? = some m → s.results[i]? = some r →
        m.read r = .ok (some m.value)) ∧
      (s.Stuck → frames ms ++ tail = [] ∨ 0 < capacity → ms.length ≤ s.results.length) := by
  have hfaithful := Transfer.faithful_run (Transfer.faithful_ofBytes capacity ending _) hs
  have hall : ∀ p ∈ ms.map payload, p.length ≤ maxPayload := List.forall_mem_map.mpr hfits
  have hframes : frameResults s.ending (frames ms ++ tail)
      = (ms.map payload).map .payload ++ frameResults s.ending tail := frameResults_frames_append hall s.ending tail
  constructor
  · intro i m r hi hr
    obtain ⟨more, hmore⟩ := Transfer.isPrefix_results hfaithful
    have hlt : i < ((ms.map payload).map FrameResult.payload).length := by
      rw [List.length_map, List.length_map]
      exact (List.getElem?_eq_some_iff.mp hi).1
    have hat : (s.results ++ more)[i]? = s.results[i]? :=
      List.getElem?_append_left (List.getElem?_eq_some_iff.mp hr).1
    rw [hmore, hframes, List.getElem?_append_left hlt, List.getElem?_map, List.getElem?_map, hi, hr] at hat
    cases hat
    have hmem := List.mem_of_getElem? hi
    exact read_payload (hknown m hmem) (hfits m hmem)
  · intro hstuck hc
    rw [← show s.pipe.capacity = capacity from Transfer.capacity_run hs] at hc
    rw [Transfer.results_of_ended hfaithful (Transfer.ended_of_stuck hfaithful hstuck hc), hframes,
      List.length_append, List.length_map, List.length_map]
    exact Nat.le_add_right _ _

end

/-- **Whoever writes and whoever reads agree on the limit, and a message that is refused leaves the stream as it was.**
However many are refused, the others are read back in their order, in whatever pieces they come and through whatever
pipe. -/
theorem limit_agreed {messages : List Message} (hknown : ∀ m ∈ messages, m.Known) :
    (∀ m ∈ messages, m.LimitKept) ∧
      (writeAll [] messages).1
        = messages.map (fun m => if m.payload.length ≤ 65536 then .ok () else .error (.serialization .tooLong)) ∧
      ∀ tail ending,
        (∀ pieces : List Bytes, pieces.flatten = (writeAll [] messages).2 ++ tail →
          ∃ left, ReadBack ⟨pieces, ending⟩ (messages.filter fun m => m.payload.length ≤ 65536) left ∧
            left.content = tail ∧ left.ending = ending) ∧
        ∀ capacity moves s, (Transfer.ofBytes capacity ending ((writeAll [] messages).2 ++ tail)).run moves = some s →
          (∀ (i : Nat) (m : Message) (r : FrameResult),
            (messages.filter fun m => m.payload.length ≤ 65536)[i]? = some m → s.results[i]? = some r →
              m.read r = .ok (some m.value)) ∧
          (s.Stuck → (writeAll [] messages).2 ++ tail = [] ∨ 0 < capacity →
            (messages.filter fun m => m.payload.length ≤ 65536).length ≤ s.results.length) := by
  have hgood : ∀ m ∈ messages.filter fits, m.Known := fun m hm => hknown m (List.mem_filter.mp hm).1
  have hfits : ∀ m ∈ messages.filter fits, m.payload.length ≤ 65536 := fun m hm =>
    of_decide_eq_true (List.mem_filter.mp hm).2
  rw [writeAll_eq, List.nil_append]
  refine ⟨fun m hm => limitKept_of_known (hknown m hm), ?_, fun tail ending => ⟨fun pieces hp => ?_, ?_⟩⟩
  · simp only [fits, decide_eq_true_eq]
  · exact readBack_frames hgood hfits hp
  · exact fun capacity moves s hs => read_results hgood hfits hs

/-- a response with a text of so many letters -/
def response (letters : Nat) : Message := ⟨.of OperationResponse, ⟨some (String.ofList (List.replicate letters 'a'))⟩⟩

theorem length_payload_response (letters : Nat) : (response letters).payload.length = letters + 9 := by
  refine (length_encode_operation _).trans ?_
  rw [utf8ByteSize_ofList, bytesOf_replicate]
  show letters * 1 + 9 = letters + 9
  rw [Nat.mul_one]

/-- the longest response there is, one that is longer by a letter, and a method -/
theorem limit_agreed_of_one_too_long :
    let messages := [response 65527, response 65528, ⟨.of Method, .stopTunnel⟩]
    (∀ m ∈ messages, m.Known) ∧ (response 65527).payload.length = 65536 ∧ (response 65528).payload.length = 65537 ∧
      (writeAll [] messages).1 = [.ok (), .error (.serialization .tooLong), .ok ()] := by
  have hknown : ∀ m ∈ [response 65527, response 65528, ⟨.of Method, .stopTunnel⟩], m.Known := by
    have hresponse : ("OperationResponse", MessageType.of OperationResponse) ∈ MessageType.named := by
      simp [MessageType.named]
    have hmethod : ("MethodCall", MessageType.of Method) ∈ MessageType.named := by simp [MessageType.named]
    rw [List.forall_mem_cons, List.forall_mem_cons, List.forall_mem_singleton]
    exact ⟨⟨_, hresponse⟩, ⟨_, hresponse⟩, ⟨_, hmethod⟩⟩
  refine ⟨hknown, length_payload_response _, length_payload_response _, ?_⟩
  rw [(limit_agreed hknown).2.1, List.map_cons, List.map_cons, List.map_singleton, length_payload_response,
    length_payload_response]
  rfl

end Message

end TunnelControl
