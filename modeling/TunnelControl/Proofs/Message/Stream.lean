import TunnelControl.Connection.Values
import TunnelControl.Proofs.Message.Payload
import TunnelControl.Proofs.Wire.Transfer

/-!
# Streams of messages

The values of a stream are read as they were written, whatever the pieces in which it arrives and whatever
the pipe through which it comes.

* `readValue`, `readTimes`   reads one value, and so many of them;
* `Verdict`                  what reading makes of bytes behind which the stream ends so;
* `framing_exact`            for each type of messages, what is read is what was written, and then a `Verdict`.
-/

namespace TunnelControl

open Wire FrameReader

section
variable (α : Type) [Wire α]

/-- the next value of a stream, if there is one, and the stream behind it -/
def readValue (source : Source) : Except PeerError (Option α) × Source :=
  let (result, source) := nextFrame source
  (result.read α, source)

/-- what reading a stream `n` times gives, and the stream behind that -/
def readTimes : Nat → Source → List (Except PeerError (Option α)) × Source
  | 0, source => ([], source)
  | n + 1, source =>
    let (result, source) := readValue α source
    let (results, source) := readTimes n source
    (result :: results, source)

/-- what reading makes of bytes behind which the stream ends so, and what it leaves of them -/
structure Verdict (ending : Ending) (bs : Bytes) (result : Except PeerError (Option α)) (left : Bytes) :
    Prop where
  nothing : ending = .clean → bs = [] → result = .ok none
  headerCut : ending = .clean → 0 < bs.length → bs.length < 4 →
    ∃ e, result = .error e ∧
      e.message = s!"Protocol error: Truncated frame header ({bs.length} of 4 bytes)"
  /-- what comes behind the header makes no difference -/
  tooLarge : 4 ≤ bs.length → maxPayload < announced bs →
    (∃ e, result = .error e ∧ e.message = s!"Protocol error: Message too large: {announced bs} bytes") ∧
      left = bs.drop 4
  bodyCut : ending = .clean → 4 ≤ bs.length → announced bs ≤ maxPayload →
    bs.length < 4 + announced bs → ∃ e, result = .error e ∧
      e.message = s!"Protocol error: Truncated frame body (expected {announced bs} bytes)"
  broken (reason : String) : ending = .broken reason → Unfinished bs →
    result = .error (.io (.other reason))
  undecodable (fault : Fault) : announced bs ≤ maxPayload → 4 + announced bs ≤ bs.length →
    decodePayload α ((bs.drop 4).take (announced bs)) = .error fault →
      result = .error (.serialization fault)
  value (v : α) : announced bs ≤ maxPayload → 4 + announced bs ≤ bs.length →
    decodePayload α ((bs.drop 4).take (announced bs)) = .ok v → result = .ok (some v)
  whole : announced bs ≤ maxPayload → 4 + announced bs ≤ bs.length → left = bs.drop (4 + announced bs)

/-! ## one value -/

theorem readValue_fst (source : Source) :
    (readValue α source).1 = (source.ending.firstFrame source.content).1.read α :=
  congrArg (FrameResult.read α) (nextFrame_fst source)

theorem content_readValue (source : Source) :
    (readValue α source).2.content = (source.ending.firstFrame source.content).2 :=
  content_nextFrame source

theorem ending_readValue (source : Source) : (readValue α source).2.ending = source.ending :=
  ending_nextFrame source

/-- **The verdict on some bytes is told from them and the ending alone.** -/
theorem verdict_firstFrame (ending : Ending) (bs : Bytes) :
    Verdict α ending bs ((ending.firstFrame bs).1.read α) (ending.firstFrame bs).2 where
  nothing he hb := by
    subst he hb
    rfl
  headerCut he h0 h4 := by
    subst he
    rw [firstFrame_of_unfinished (.inl h4), holding_header h4]
    have hne : bs.isEmpty = false := by
      rw [List.isEmpty_eq_false_iff]
      exact List.length_pos_iff.mp h0
    refine ⟨.protocol (.frame (.headerCut bs.length)), ?_, rfl⟩
    simp only [Ending.meaning, atEnd, hne, Bool.false_eq_true, if_false, FrameResult.read]
  tooLarge h4 hm := by
    rw [firstFrame_of_tooLarge h4 hm]
    exact ⟨⟨.protocol (.frame (.tooLarge (announced bs))), rfl, rfl⟩, rfl⟩
  bodyCut he h4 hm hl := by
    subst he
    rw [firstFrame_of_unfinished (.inr ⟨hm, hl⟩), holding_body h4]
    exact ⟨.protocol (.frame (.bodyCut (announced bs))), rfl, rfl⟩
  broken reason he hu := by
    subst he
    rw [firstFrame_of_unfinished hu]
    rfl
  undecodable fault hm hl hd := by
    rw [firstFrame_of_whole hm hl, FrameResult.read, hd]
  value v hm hl hd := by
    rw [firstFrame_of_whole hm hl, FrameResult.read, hd]
  whole hm hl := by
    rw [firstFrame_of_whole hm hl]

end

/-! ## values that were written -/

section
variable {α : Type}

/-- the results of reading values that were written -/
def asRead (values : List α) : List (Except PeerError (Option α)) := values.map fun v => .ok (some v)

/-- the values among some results -/
def valuesRead (results : List (Except PeerError (Option α))) : List α :=
  results.filterMap fun r => r.toOption.join

theorem valuesRead_asRead (values : List α) : valuesRead (asRead values) = values := by
  rw [valuesRead, asRead, List.filterMap_map]
  exact List.filterMap_some

theorem valuesRead_append (rs rs' : List (Except PeerError (Option α))) :
    valuesRead (rs ++ rs') = valuesRead rs ++ valuesRead rs' := List.filterMap_append

theorem valuesRead_cons (v : α) (rs : List (Except PeerError (Option α))) :
    valuesRead (.ok (some v) :: rs) = v :: valuesRead rs := rfl

theorem valuesRead_of_ne {r : Except PeerError (Option α)} (h : ∀ v, r ≠ .ok (some v)) :
    valuesRead [r] = [] := by
  cases r with
  | error e => rfl
  | ok v =>
    cases v with
    | none => rfl
    | some v => exact absurd rfl (h v)

theorem valuesRead_mono {rs rs' : List (Except PeerError (Option α))} (h : rs <+: rs') :
    valuesRead rs <+: valuesRead rs' := h.filterMap _

end

section
variable {α : Type} [Wire α]

theorem frameOf_eq_ok_iff {v : α} {f : Bytes} :
    frameOf v = .ok f ↔ f = frame (encode v) ∧ (encode v).length ≤ maxPayload := by
  unfold frameOf
  cases he : encodePayload v with
  | ok p =>
    obtain ⟨rfl, hl⟩ := encodePayload_eq_ok_iff.mp he
    -- a payload that there is fits into a frame
    dsimp only
    rw [if_neg (Nat.not_lt.mpr hl)]
    constructor
    · intro h
      cases h
      exact ⟨rfl, hl⟩
    · rintro ⟨rfl, -⟩
      rfl
  | error fault =>
    constructor
    · intro h
      cases h
    · rintro ⟨-, hl⟩
      rw [encodePayload_eq_ok_iff.mpr ⟨rfl, hl⟩] at he
      cases he

/-- a value that is too long has no frame, and for no other reason than that it has no payload -/
theorem frameOf_eq_error_iff {v : α} {e : PeerError} :
    frameOf v = .error e ↔ maxPayload < (encode v).length ∧ e = .serialization .tooLong := by
  by_cases hl : (encode v).length ≤ maxPayload
  · rw [frameOf_eq_ok_iff.mpr ⟨rfl, hl⟩]
    exact ⟨nofun, fun h => absurd hl (Nat.not_le.mpr h.1)⟩
  · have hpayload : encodePayload v = .error .tooLong := if_neg hl
    rw [frameOf, hpayload]
    exact ⟨fun h => ⟨Nat.not_le.mp hl, (Except.error.inj h).symm⟩, fun h => congrArg _ h.2.symm⟩

/-- the frames of values are those of their forms, none of which is too long -/
theorem eq_map_frame_of_mapM_frameOf {values : List α} {frames : List Bytes}
    (h : values.mapM frameOf = .ok frames) :
    frames = (values.map encode).map frame ∧ ∀ p ∈ values.map encode, p.length ≤ maxPayload := by
  induction values generalizing frames with
  | nil =>
    cases h
    exact ⟨rfl, nofun⟩
  | cons v values ih =>
    rw [List.mapM_cons] at h
    cases hv : frameOf v with
    | error e =>
      rw [hv] at h
      cases h
    | ok f =>
      rw [hv] at h
      cases hvs : values.mapM frameOf with
      | error e =>
        rw [hvs] at h
        cases h
      | ok fs =>
        rw [hvs] at h
        cases h
        obtain ⟨rfl, hl⟩ := frameOf_eq_ok_iff.mp hv
        obtain ⟨rfl, hls⟩ := ih hvs
        exact ⟨rfl, List.forall_mem_cons.mpr ⟨hl, hls⟩⟩

theorem read_meaning_ne (ending : Ending) (reader : FrameReader) (v : α) :
    (ending.meaning reader).read α ≠ .ok (some v) := by
  have hne := meaning_ne_payload ending reader
  cases h : ending.meaning reader with
  | payload p => exact absurd h (hne p)
  | fault cause => exact nofun
  | broken reason => exact nofun
  | clean => exact nofun

/-- a value is read from a frame, and what follows is read behind it -/
theorem map_read_frameResults_of_value {source : Source} {v : α}
    (h : (nextFrame source).1.read α = .ok (some v)) :
    (frameResults source.ending source.content).map (FrameResult.read α)
      = .ok (some v) :: (frameResults (nextFrame source).2.ending (nextFrame source).2.content).map
          (FrameResult.read α) := by
  have hfirst := nextFrame_fst source
  have hleft := content_nextFrame source
  cases hf : (nextFrame source).1 with
  | payload payload =>
    rw [hf] at hfirst h
    have hpair : source.ending.firstFrame source.content
        = (.payload payload, (nextFrame source).2.content) := Prod.ext hfirst.symm hleft.symm
    rw [frameResults_of_payload hpair, ending_nextFrame, List.map_cons, h]
  | fault cause =>
    rw [hf] at h
    cases h
  | broken reason =>
    rw [hf] at h
    cases h
  | clean =>
    rw [hf] at h
    cases h

/-- the values of a stream are values of its frames, up to the first result that is none -/
theorem isPrefix_readValues (source : Source) :
    (readValues α source).1
      <+: valuesRead ((frameResults source.ending source.content).map (FrameResult.read α)) := by
  unfold readValues
  generalize source.content.length = fuel
  induction fuel generalizing source with
  | zero =>
    rw [readValues.go]
    cases hr : (nextFrame source).1.read α with
    | error e =>
      simp only [hr]
      exact List.nil_prefix
    | ok value =>
      simp only [hr]
      cases value with
      | none => exact List.nil_prefix
      | some v =>
        rw [map_read_frameResults_of_value hr, valuesRead_cons]
        exact List.cons_prefix_cons.mpr ⟨rfl, List.nil_prefix⟩
  | succ fuel ih =>
    rw [readValues.go]
    cases hr : (nextFrame source).1.read α with
    | error e =>
      simp only [hr]
      exact List.nil_prefix
    | ok value =>
      simp only [hr]
      cases value with
      | none => exact List.nil_prefix
      | some v =>
        rw [map_read_frameResults_of_value hr, valuesRead_cons]
        exact List.cons_prefix_cons.mpr ⟨rfl, ih _⟩

/-- between two frames that were written, all behind the ones that were read is left -/
theorem remaining_of_results {values : List α} (hl : ∀ p ∈ values.map encode, p.length ≤ maxPayload)
    {tail : Bytes} {t : Transfer}
    (h : Transfer.Faithful (((values.map encode).map frame).flatten ++ tail) t) (hr : t.reader = .start)
    (hn : t.results.length ≤ values.length) :
    t.remaining = (((values.map encode).map frame).drop t.results.length).flatten ++ tail := by
  have hpre := List.prefix_iff_eq_take.mp (Transfer.isPrefix_results h)
  have hlen : ((values.map encode).map FrameResult.payload).length = values.length := by
    rw [List.length_map, List.length_map]
  rw [frameResults_frames_append hl, List.take_append_of_le_length (by omega), ← List.map_take] at hpre
  refine Transfer.remaining_of_start h hr hpre ?_
  rw [List.map_take, ← List.append_assoc, ← List.flatten_append, List.take_append_drop]

variable [LawfulWire α]

theorem read_payload_encode {v : α} (hl : (encode v).length ≤ maxPayload) :
    (FrameResult.payload (encode v)).read α = .ok (some v) := by
  have hd := decodePayload_encode (v := v) (Nat.lt_of_le_of_lt hl (by decide))
  rw [FrameResult.read, hd]

theorem map_read_payload {values : List α} (hl : ∀ p ∈ values.map encode, p.length ≤ maxPayload) :
    ((values.map encode).map FrameResult.payload).map (FrameResult.read α) = asRead values := by
  rw [List.map_map, List.map_map, asRead]
  refine List.map_congr_left fun v hv => ?_
  exact read_payload_encode (hl _ (List.mem_map_of_mem hv))

theorem readTimes_frames {values : List α} (hl : ∀ p ∈ values.map encode, p.length ≤ maxPayload)
    {source : Source} {more : Bytes}
    (hs : source.content = ((values.map encode).map frame).flatten ++ more) :
    (readTimes α values.length source).1 = asRead values ∧
      (readTimes α values.length source).2.content = more ∧
      (readTimes α values.length source).2.ending = source.ending := by
  induction values generalizing source with
  | nil => exact ⟨rfl, hs, rfl⟩
  | cons v values ih =>
    obtain ⟨hv, hvs⟩ := List.forall_mem_cons.mp hl
    rw [List.map_cons, List.map_cons, List.flatten_cons, List.append_assoc] at hs
    have hfirst := firstFrame_frame_append hv source.ending
      (((values.map encode).map frame).flatten ++ more)
    have hresult := readValue_fst α source
    have hleft := content_readValue α source
    rw [hs, hfirst] at hresult hleft
    obtain ⟨hr, hc, he⟩ := ih hvs hleft
    refine ⟨?_, hc, he.trans (ending_readValue α source)⟩
    show (readValue α source).1 :: (readTimes α values.length (readValue α source).2).1 = _
    rw [hr, hresult, read_payload_encode hv]
    rfl

theorem readTimes_take {values : List α} (hl : ∀ p ∈ values.map encode, p.length ≤ maxPayload)
    {source : Source} {tail : Bytes}
    (hs : source.content = ((values.map encode).map frame).flatten ++ tail) {n : Nat}
    (hn : n ≤ values.length) :
    (readTimes α n source).1 = asRead (values.take n) ∧
      (readTimes α n source).2.content = (((values.map encode).map frame).drop n).flatten ++ tail := by
  have hl' : ∀ p ∈ (values.take n).map encode, p.length ≤ maxPayload := fun p hp =>
    hl p (List.map_subset encode (List.take_subset n values) hp)
  have hcut : source.content = (((values.take n).map encode).map frame).flatten
      ++ ((((values.map encode).map frame).drop n).flatten ++ tail) := by
    rw [hs, List.map_take, List.map_take, ← List.append_assoc, ← List.flatten_append,
      List.take_append_drop]
  have h := readTimes_frames hl' hcut
  rw [List.length_take_of_le hn] at h
  exact ⟨h.1, h.2.1⟩

theorem frameResults_eq_cons (ending : Ending) (bs : Bytes) :
    ∃ more, frameResults ending bs = (ending.firstFrame bs).1 :: more := by
  cases hf : ending.firstFrame bs with
  | mk result left =>
    cases result with
    | payload payload => exact ⟨_, frameResults_of_payload hf⟩
    | _ =>
      have hne : ∀ p, (ending.firstFrame bs).1 ≠ .payload p := by
        rw [hf]
        exact nofun
      have hr := frameResults_of_last hne
      rw [hf] at hr
      exact ⟨[], hr⟩

/-- what is read of written values and what lies behind them begins with the values and the next result -/
theorem map_read_frameResults {values : List α} (hl : ∀ p ∈ values.map encode, p.length ≤ maxPayload)
    (ending : Ending) (tail : Bytes) :
    ((frameResults ending (((values.map encode).map frame).flatten ++ tail)).map
        (FrameResult.read α)).take (values.length + 1)
      = asRead values ++ [(ending.firstFrame tail).1.read α] := by
  obtain ⟨more, hmore⟩ := frameResults_eq_cons ending tail
  have hlen : (asRead values).length = values.length := List.length_map _
  rw [frameResults_frames_append hl, hmore, List.map_append, map_read_payload hl, List.map_cons,
    List.append_cons, List.take_left' (by rw [List.length_append, hlen]; rfl)]

/-! ## values through a pipe -/

section
variable {capacity : Nat} {ending : Ending} {values : List α} {tail : Bytes} {moves : List Transfer.Move}
  {s : Transfer}

/-- whoever reads has read some of the values and then perhaps the next result -/
theorem isPrefix_read_of_run (hl : ∀ p ∈ values.map encode, p.length ≤ maxPayload)
    (hs : (Transfer.ofBytes capacity ending (((values.map encode).map frame).flatten ++ tail)).run moves
      = some s) :
    (s.results.map (FrameResult.read α)).take (values.length + 1)
      <+: asRead values ++ [(ending.firstFrame tail).1.read α] := by
  have hfaithful := Transfer.faithful_run (Transfer.faithful_ofBytes capacity ending _) hs
  have hpre := Transfer.isPrefix_results hfaithful
  rw [show s.ending = ending from Transfer.ending_run hs] at hpre
  rw [← map_read_frameResults hl]
  exact List.prefix_take_iff.mpr ⟨(List.take_prefix _ _).trans (hpre.map _), List.length_take_le _ _⟩

/-- when no move can be made, the values and the next result are read -/
theorem read_of_stuck (hl : ∀ p ∈ values.map encode, p.length ≤ maxPayload)
    (hs : (Transfer.ofBytes capacity ending (((values.map encode).map frame).flatten ++ tail)).run moves
      = some s)
    (hstuck : s.Stuck) (hc : ((values.map encode).map frame).flatten ++ tail = [] ∨ 0 < capacity) :
    (s.results.map (FrameResult.read α)).take (values.length + 1)
      = asRead values ++ [(ending.firstFrame tail).1.read α] := by
  have hfaithful := Transfer.faithful_run (Transfer.faithful_ofBytes capacity ending _) hs
  have hending : s.ending = ending := Transfer.ending_run hs
  have hcapacity : s.pipe.capacity = capacity := Transfer.capacity_run hs
  rw [← hcapacity] at hc
  have hended := Transfer.ended_of_stuck hfaithful hstuck hc
  rw [Transfer.results_of_ended hfaithful hended, hending, map_read_frameResults hl]

end

/-! ## a part of what was written -/

theorem isPrefix_valuesRead {values : List α} (hl : ∀ p ∈ values.map encode, p.length ≤ maxPayload)
    {cut : Bytes} (hcut : cut <+: ((values.map encode).map frame).flatten) (ending : Ending) :
    valuesRead ((frameResults ending cut).map (FrameResult.read α)) <+: values := by
  obtain ⟨n, reader, hr⟩ := frameResults_of_prefix hl hcut ending
  have hl' : ∀ p ∈ (values.take n).map encode, p.length ≤ maxPayload := fun p hp =>
    hl p ((List.map_subset encode (List.take_subset n values)) hp)
  rw [hr, ← List.map_take, List.map_append, map_read_payload hl', valuesRead_append, valuesRead_asRead,
    List.map_cons, List.map_nil, valuesRead_of_ne (read_meaning_ne ending reader), List.append_nil]
  exact List.take_prefix n values

end

/-! ## all types of messages -/

namespace MessageType

/-- **What is read of messages is what was written, in whatever pieces it comes.**  Each read takes exactly one
frame, what follows is told from the bytes behind the frames and the ending alone, and a part of the frames
holds no other values. -/
theorem framing_exact {name : String} {t : MessageType} (ht : (name, t) ∈ named) :
    letI := t.wire
    ∀ (values : List t.Value) (frames : List Bytes), values.mapM frameOf = .ok frames →
    ∀ (tail : Bytes) (ending : Ending), ∃ (next : Except PeerError (Option t.Value)) (left : Bytes),
      Verdict t.Value ending tail next left ∧
      (∀ pieces : List Bytes, pieces.flatten = frames.flatten ++ tail →
        (∀ n, n ≤ values.length →
          (readTimes t.Value n ⟨pieces, ending⟩).1 = asRead (values.take n) ∧
          (readTimes t.Value n ⟨pieces, ending⟩).2.content = (frames.drop n).flatten ++ tail) ∧
        (readValue t.Value (readTimes t.Value values.length ⟨pieces, ending⟩).2).1 = next ∧
        (readValue t.Value (readTimes t.Value values.length ⟨pieces, ending⟩).2).2.content = left) ∧
      (∀ (capacity : Nat) (moves : List Transfer.Move) (s : Transfer),
        (Transfer.ofBytes capacity ending (frames.flatten ++ tail)).run moves = some s →
        moves.length ≤ 2 * (frames.flatten ++ tail).length + 2 ∧
        (s.results.map (FrameResult.read t.Value)).take (values.length + 1)
          <+: asRead values ++ [next] ∧
        (s.reader = .start → s.results.length ≤ values.length →
          s.remaining = (frames.drop s.results.length).flatten ++ tail) ∧
        (s.Stuck → frames.flatten ++ tail = [] ∨ 0 < capacity →
          (s.results.map (FrameResult.read t.Value)).take (values.length + 1)
            = asRead values ++ [next])) ∧
      ∀ cut : Bytes, cut <+: frames.flatten →
        (∀ pieces : List Bytes, pieces.flatten = cut →
          (readValues t.Value ⟨pieces, ending⟩).1 <+: values) ∧
        ∀ (capacity : Nat) (moves : List Transfer.Move) (s : Transfer),
          (Transfer.ofBytes capacity ending cut).run moves = some s →
          valuesRead (s.results.map (FrameResult.read t.Value)) <+: values := by
  let := t.wire
  have := lawfulWire_of_mem ht
  intro values frames hframes tail ending
  obtain ⟨rfl, hl⟩ := eq_map_frame_of_mapM_frameOf hframes
  refine ⟨(ending.firstFrame tail).1.read t.Value, (ending.firstFrame tail).2,
    verdict_firstFrame t.Value ending tail, ?_, ?_, ?_⟩
  · intro pieces hp
    have hs : (⟨pieces, ending⟩ : Source).content = ((values.map encode).map frame).flatten ++ tail := hp
    refine ⟨fun n hn => readTimes_take hl hs hn, ?_⟩
    obtain ⟨-, hc, he⟩ := readTimes_frames hl hs
    rw [readValue_fst, content_readValue, hc, he]
    exact ⟨rfl, rfl⟩
  · intro capacity moves s hs
    have hfaithful := Transfer.faithful_run (Transfer.faithful_ofBytes capacity ending _) hs
    have hweight := Transfer.weight_run hs
    rw [Transfer.weight_ofBytes] at hweight
    exact ⟨by omega, isPrefix_read_of_run hl hs, fun hr hn => remaining_of_results hl hfaithful hr hn,
      read_of_stuck hl hs⟩
  · intro cut hcut
    refine ⟨fun pieces hp => ?_, fun capacity moves s hs => ?_⟩
    · refine (isPrefix_readValues ⟨pieces, ending⟩).trans ?_
      rw [show (⟨pieces, ending⟩ : Source).content = cut from hp]
      exact isPrefix_valuesRead hl hcut ending
    · have hpre := Transfer.isPrefix_results
        (Transfer.faithful_run (Transfer.faithful_ofBytes capacity ending cut) hs)
      rw [show s.ending = ending from Transfer.ending_run hs] at hpre
      exact (valuesRead_mono (hpre.map _)).trans (isPrefix_valuesRead hl hcut ending)

/-- two methods, and behind them half of a header -/
theorem framing_exact_quit :
    ("MethodCall", of Method) ∈ named ∧
      [Method.quit true, .queryTunnelState].mapM frameOf
        = .ok [[5, 0, 0, 0, 0, 0, 0, 0, 1], [4, 0, 0, 0, 5, 0, 0, 0]] ∧
      ∃ (next : Except PeerError (Option Method)) (left : Bytes),
        Verdict Method .clean [4, 0] next left ∧
        ∀ pieces : List Bytes,
          pieces.flatten = [5, 0, 0, 0, 0, 0, 0, 0, 1, 4, 0, 0, 0, 5, 0, 0, 0, 4, 0] →
          (readTimes Method 2 ⟨pieces, .clean⟩).1 = asRead [.quit true, .queryTunnelState] ∧
          (readTimes Method 2 ⟨pieces, .clean⟩).2.content = [4, 0] ∧
          (readValue Method (readTimes Method 2 ⟨pieces, .clean⟩).2).1 = next := by
  have ht : ("MethodCall", of Method) ∈ named := by simp [named]
  have hframes : [Method.quit true, .queryTunnelState].mapM frameOf
      = .ok [[5, 0, 0, 0, 0, 0, 0, 0, 1], [4, 0, 0, 0, 5, 0, 0, 0]] := rfl
  obtain ⟨next, left, hverdict, hpieces, -, -⟩ := framing_exact ht _ _ hframes [4, 0] .clean
  refine ⟨ht, hframes, next, left, hverdict, fun pieces hp => ?_⟩
  obtain ⟨hvalues, hnext, -⟩ := hpieces pieces hp
  obtain ⟨hr, hc⟩ := hvalues 2 (Nat.le_refl 2)
  exact ⟨hr, hc, hnext⟩

end MessageType

end TunnelControl
