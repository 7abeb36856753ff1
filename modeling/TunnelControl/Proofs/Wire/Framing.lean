import TunnelControl.Wire.Frame

/-!
# Frames in pieces and frames in bytes

What a reader of frames holds is told from the bytes of the unfinished frame alone, and so what it makes of a
stream depends on the bytes of the stream and on its ending, not on the pieces in which they arrive.

* `holding bs`                  the reader that has taken the bytes `bs` of an unfinished frame;
* `cutFrame bs`                 the first frame of some bytes, and the bytes behind it;
* `feed_holding`, `feedPiece_holding`   a reader that is fed does what `cutFrame` says of all its bytes;
* `nextFrame_fst`, `content_nextFrame`, `ending_nextFrame`   so does the reading of a stream;
* `frameResults ending bs`      all that is read from bytes behind which the stream ends so;
* `wholeFrames bs`              the payloads among that.
-/

namespace TunnelControl

/-- the length that the header of a frame announces -/
def announced (bs : Bytes) : Nat := ofLittleEndian (bs.take 4)

namespace FrameReader

/-- the reader that has taken these bytes of a frame -/
def holding (bs : Bytes) : FrameReader :=
  if bs.length < 4 then .header bs
  else .body (announced bs) (4 + announced bs - bs.length) (bs.drop 4).reverse

/-- neither a whole frame nor the header of one that is too large -/
def Unfinished (bs : Bytes) : Prop :=
  bs.length < 4 ∨ announced bs ≤ maxPayload ∧ bs.length < 4 + announced bs

/-- the first frame of some bytes, and the bytes behind it; of a frame that is too large the header is taken -/
def cutFrame (bs : Bytes) : Outcome × Bytes :=
  if bs.length < 4 then (.more (holding bs), [])
  else if maxPayload < announced bs then (.tooLarge (announced bs), bs.drop 4)
  else if bs.length < 4 + announced bs then (.more (holding bs), [])
  else (.payload ((bs.drop 4).take (announced bs)), bs.drop (4 + announced bs))

theorem announced_append {bs : Bytes} (h : 4 ≤ bs.length) (more : Bytes) :
    announced (bs ++ more) = announced bs := by
  rw [announced, announced, List.take_append_of_le_length h]

theorem announced_of_length_eq {bs : Bytes} (h : bs.length = 4) : announced bs = ofLittleEndian bs := by
  rw [announced, List.take_of_length_le (Nat.le_of_eq h)]

theorem holding_nil : holding [] = start := rfl

theorem unfinished_nil : Unfinished [] := .inl (by decide)

theorem holding_header {bs : Bytes} (h : bs.length < 4) : holding bs = .header bs := if_pos h

theorem holding_body {bs : Bytes} (h : 4 ≤ bs.length) :
    holding bs = .body (announced bs) (4 + announced bs - bs.length) (bs.drop 4).reverse :=
  if_neg (Nat.not_lt.mpr h)

/-- what a reader wants are the missing bytes of the header, and then those of the payload -/
theorem wanted_holding (bs : Bytes) :
    (holding bs).wanted = if bs.length < 4 then 4 - bs.length else 4 + announced bs - bs.length := by
  unfold holding
  split <;> rfl

theorem wanted_pos {bs : Bytes} (h : Unfinished bs) : 0 < (holding bs).wanted := by
  rw [wanted_holding]
  split
  · omega
  · obtain h | ⟨-, h⟩ := h
    · contradiction
    · omega

theorem cutFrame_of_unfinished {bs : Bytes} (h : Unfinished bs) :
    cutFrame bs = (.more (holding bs), []) := by
  unfold cutFrame
  by_cases hl : bs.length < 4
  · rw [if_pos hl]
  · obtain h | ⟨hm, ha⟩ := h
    · contradiction
    · rw [if_neg hl, if_neg (Nat.not_lt.mpr hm), if_pos ha]

theorem cutFrame_of_tooLarge {bs : Bytes} (h4 : 4 ≤ bs.length) (hm : maxPayload < announced bs) :
    cutFrame bs = (.tooLarge (announced bs), bs.drop 4) := by
  rw [cutFrame, if_neg (Nat.not_lt.mpr h4), if_pos hm]

theorem cutFrame_of_whole {bs : Bytes} (hm : announced bs ≤ maxPayload)
    (hl : 4 + announced bs ≤ bs.length) :
    cutFrame bs = (.payload ((bs.drop 4).take (announced bs)), bs.drop (4 + announced bs)) := by
  have h4 : ¬bs.length < 4 := by omega
  rw [cutFrame, if_neg h4, if_neg (Nat.not_lt.mpr hm), if_neg (Nat.not_lt.mpr hl)]

/-- the three things that some bytes can be -/
theorem unfinished_or_tooLarge_or_whole (bs : Bytes) :
    Unfinished bs ∨ (4 ≤ bs.length ∧ maxPayload < announced bs) ∨
      (announced bs ≤ maxPayload ∧ 4 + announced bs ≤ bs.length) := by
  unfold Unfinished
  omega

theorem unfinished_of_cutFrame {bs left : Bytes} {reader : FrameReader}
    (h : cutFrame bs = (.more reader, left)) : Unfinished bs ∧ reader = holding bs ∧ left = [] := by
  obtain hu | ⟨h4, hm⟩ | ⟨hm, hl⟩ := unfinished_or_tooLarge_or_whole bs
  · rw [cutFrame_of_unfinished hu] at h
    cases h
    exact ⟨hu, rfl, rfl⟩
  · rw [cutFrame_of_tooLarge h4 hm] at h
    cases h
  · rw [cutFrame_of_whole hm hl] at h
    cases h

/-- a reader of the header that is fed no more than it wants -/
theorem feed_header {bs piece : Bytes} (hl : bs.length + piece.length ≤ 4) :
    ((FrameReader.header bs).feed piece, []) = cutFrame (bs ++ piece) := by
  have hla : (bs ++ piece).length = bs.length + piece.length := List.length_append
  unfold feed
  simp only
  by_cases hw : (bs ++ piece).length < 4
  · rw [if_pos hw, cutFrame_of_unfinished (.inl hw), holding_header hw]
  · have hw4 : (bs ++ piece).length = 4 := by omega
    have ha := announced_of_length_eq hw4
    have hd : (bs ++ piece).drop 4 = [] := List.drop_eq_nil_of_le (Nat.le_of_eq hw4)
    rw [if_neg hw, ← ha]
    by_cases hm : maxPayload < announced (bs ++ piece)
    · rw [if_pos hm, cutFrame_of_tooLarge (Nat.le_of_eq hw4.symm) hm, hd]
    · rw [if_neg hm]
      by_cases h0 : announced (bs ++ piece) = 0
      · rw [if_pos h0, cutFrame_of_whole (by omega) (by omega), h0, hd]
        rfl
      · have hu : Unfinished (bs ++ piece) := .inr ⟨by omega, by omega⟩
        rw [if_neg h0, cutFrame_of_unfinished hu, holding_body (Nat.le_of_eq hw4.symm), hd, hw4,
          Nat.add_sub_cancel_left]
        rfl

/-- a reader of the payload that is fed no more than it wants -/
theorem feed_body {bs piece : Bytes} (h4 : 4 ≤ bs.length) (hm : announced bs ≤ maxPayload)
    (hl : bs.length + piece.length ≤ 4 + announced bs) :
    ((FrameReader.body (announced bs) (4 + announced bs - bs.length) (bs.drop 4).reverse).feed piece, [])
      = cutFrame (bs ++ piece) := by
  have hla : (bs ++ piece).length = bs.length + piece.length := List.length_append
  have ha := announced_append h4 piece
  have hd : (bs ++ piece).drop 4 = bs.drop 4 ++ piece := List.drop_append_of_le_length h4
  have hr : piece.reverseAux (bs.drop 4).reverse = ((bs ++ piece).drop 4).reverse := by
    rw [List.reverseAux_eq, hd, List.reverse_append]
  unfold feed
  simp only
  rw [hr]
  by_cases hs : piece.length < 4 + announced bs - bs.length
  · have hu : Unfinished (bs ++ piece) := .inr ⟨by omega, by omega⟩
    have hw : 4 + announced bs - bs.length - piece.length = 4 + announced bs - (bs ++ piece).length := by
      omega
    rw [if_pos hs, cutFrame_of_unfinished hu, holding_body (by omega), ha, hw]
  · have hdl : ((bs ++ piece).drop 4).length ≤ announced bs := by
      rw [List.length_drop]
      omega
    have hn : (bs ++ piece).drop (4 + announced bs) = [] := List.drop_eq_nil_of_le (by omega)
    rw [if_neg hs, cutFrame_of_whole (by omega) (by omega), ha, hn, List.reverse_reverse,
      List.take_of_length_le hdl]

/-- **A reader that is fed no more than it wants does what its bytes say.** -/
theorem feed_holding {bs piece : Bytes} (h : Unfinished bs) (hp : piece.length ≤ (holding bs).wanted) :
    ((holding bs).feed piece, []) = cutFrame (bs ++ piece) := by
  rw [wanted_holding] at hp
  by_cases hl : bs.length < 4
  · rw [if_pos hl] at hp
    rw [holding_header hl]
    exact feed_header (by omega)
  · rw [if_neg hl] at hp
    obtain h | ⟨hm, ha⟩ := h
    · contradiction
    · rw [holding_body (Nat.le_of_not_lt hl)]
      exact feed_body (Nat.le_of_not_lt hl) hm (by omega)

/-- what lies behind a frame that is complete, or too large, stays behind it -/
theorem cutFrame_append {bs left : Bytes} {o : Outcome} (h : cutFrame bs = (o, left))
    (ho : ∀ reader, o ≠ .more reader) (more : Bytes) : cutFrame (bs ++ more) = (o, left ++ more) := by
  have hla : (bs ++ more).length = bs.length + more.length := List.length_append
  obtain hu | ⟨h4, hm⟩ | ⟨hm, hl⟩ := unfinished_or_tooLarge_or_whole bs
  · rw [cutFrame_of_unfinished hu] at h
    cases h
    exact absurd rfl (ho _)
  · rw [cutFrame_of_tooLarge h4 hm] at h
    cases h
    have ha := announced_append h4 more
    rw [cutFrame_of_tooLarge (by omega) (by omega), ha, List.drop_append_of_le_length h4]
  · rw [cutFrame_of_whole hm hl] at h
    cases h
    have h4 : 4 ≤ bs.length := by omega
    have ha := announced_append h4 more
    have hd : announced bs ≤ (bs.drop 4).length := by
      rw [List.length_drop]
      omega
    rw [cutFrame_of_whole (by omega) (by omega), ha, List.drop_append_of_le_length h4,
      List.drop_append_of_le_length hl, List.take_append_of_le_length hd]

/-- a frame that ends in what is taken of a piece -/
theorem cutFrame_of_feed_take {bs piece : Bytes} {o : Outcome} (h : Unfinished bs)
    (hf : (holding bs).feed (piece.take (holding bs).wanted) = o) (ho : ∀ reader, o ≠ .more reader) :
    cutFrame (bs ++ piece) = (o, piece.drop (holding bs).wanted) := by
  have hc := feed_holding h (List.length_take_le (holding bs).wanted piece)
  rw [hf] at hc
  have ha := cutFrame_append hc.symm ho (piece.drop (holding bs).wanted)
  rwa [List.append_assoc, List.take_append_drop] at ha

theorem unfinished_of_feed_take {bs piece : Bytes} {reader : FrameReader} (h : Unfinished bs)
    (hf : (holding bs).feed (piece.take (holding bs).wanted) = .more reader) :
    Unfinished (bs ++ piece.take (holding bs).wanted) ∧
      reader = holding (bs ++ piece.take (holding bs).wanted) := by
  have hc := feed_holding h (List.length_take_le (holding bs).wanted piece)
  rw [hf] at hc
  obtain ⟨hu, hr, -⟩ := unfinished_of_cutFrame hc.symm
  exact ⟨hu, hr⟩

/-- nothing is left of a piece of which a reader wants more of the same kind -/
theorem drop_wanted_eq_nil {bs piece : Bytes} (h : Unfinished (bs ++ piece.take (holding bs).wanted))
    (hl : bs.length < 4 → (bs ++ piece.take (holding bs).wanted).length < 4) :
    piece.drop (holding bs).wanted = [] := by
  apply List.drop_eq_nil_of_le
  apply Nat.le_of_not_lt
  intro hlt
  have hla : (bs ++ piece.take (holding bs).wanted).length = bs.length + (holding bs).wanted := by
    rw [List.length_append, List.length_take_of_le (Nat.le_of_lt hlt)]
  have hw := wanted_holding bs
  by_cases h4 : bs.length < 4
  · have := hl h4
    rw [if_pos h4] at hw
    omega
  · have ha := announced_append (Nat.le_of_not_lt h4) (piece.take (holding bs).wanted)
    rw [if_neg h4] at hw
    obtain h | ⟨-, h⟩ := h <;> omega

/-- **A reader that is given a piece takes the frame off it that begins with what the reader holds.** -/
theorem feedPiece_holding {bs : Bytes} (h : Unfinished bs) (piece : Bytes) :
    (holding bs).feedPiece piece = cutFrame (bs ++ piece) := by
  unfold feedPiece
  simp only [List.splitAt_eq]
  cases ho : (holding bs).feed (piece.take (holding bs).wanted) with
  | payload payload => exact (cutFrame_of_feed_take h ho nofun).symm
  | tooLarge length => exact (cutFrame_of_feed_take h ho nofun).symm
  | more reader =>
    -- the header may be complete with the first bytes, and then the payload begins in the same piece
    obtain ⟨hu, rfl⟩ := unfinished_of_feed_take h ho
    have hleft := drop_wanted_eq_nil hu
    have hp : bs ++ piece.take (holding bs).wanted ++ piece.drop (holding bs).wanted = bs ++ piece := by
      rw [List.append_assoc, List.take_append_drop]
    rw [← hp]
    generalize bs ++ piece.take (holding bs).wanted = bs' at hu hleft
    generalize piece.drop (holding bs).wanted = left at hleft
    simp only
    cases ho' : (holding bs').feed (left.take (holding bs').wanted) with
    | payload payload => exact (cutFrame_of_feed_take hu ho' nofun).symm
    | tooLarge length => exact (cutFrame_of_feed_take hu ho' nofun).symm
    | more reader =>
      obtain ⟨hu', rfl⟩ := unfinished_of_feed_take hu ho'
      have hnil : left.drop (holding bs').wanted = [] := by
        refine drop_wanted_eq_nil hu' fun h4 => ?_
        rwa [hleft fun _ => h4, List.take_nil, List.append_nil]
      have ht : left.take (holding bs').wanted = left := by
        rw [← List.append_nil (left.take _), ← hnil, List.take_append_drop]
      rw [hnil]
      rw [ht] at hu' ⊢
      exact (cutFrame_of_unfinished hu').symm

end FrameReader

open FrameReader

/-! ## streams -/

/-- the first frame of bytes behind which the stream ends so, and the bytes behind it -/
def Ending.firstFrame (ending : Ending) (bs : Bytes) : FrameResult × Bytes :=
  match cutFrame bs with
  | (.more reader, _) => (ending.meaning reader, [])
  | (.payload payload, left) => (.payload payload, left)
  | (.tooLarge length, left) => (.fault (.tooLarge length), left)

theorem firstFrame_of_unfinished {bs : Bytes} (h : Unfinished bs) (ending : Ending) :
    ending.firstFrame bs = (ending.meaning (holding bs), []) := by
  rw [Ending.firstFrame, cutFrame_of_unfinished h]

theorem firstFrame_of_tooLarge {bs : Bytes} (h4 : 4 ≤ bs.length) (hm : maxPayload < announced bs)
    (ending : Ending) : ending.firstFrame bs = (.fault (.tooLarge (announced bs)), bs.drop 4) := by
  rw [Ending.firstFrame, cutFrame_of_tooLarge h4 hm]

theorem firstFrame_of_whole {bs : Bytes} (hm : announced bs ≤ maxPayload)
    (hl : 4 + announced bs ≤ bs.length) (ending : Ending) :
    ending.firstFrame bs = (.payload ((bs.drop 4).take (announced bs)), bs.drop (4 + announced bs)) := by
  rw [Ending.firstFrame, cutFrame_of_whole hm hl]

theorem readFrom_holding {bs : Bytes} (h : Unfinished bs) (ending : Ending) (pieces : List Bytes) :
    (readFrom ending (holding bs) pieces).1 = (ending.firstFrame (bs ++ pieces.flatten)).1 ∧
    (readFrom ending (holding bs) pieces).2.content = (ending.firstFrame (bs ++ pieces.flatten)).2 ∧
    (readFrom ending (holding bs) pieces).2.ending = ending := by
  induction pieces generalizing bs with
  | nil =>
    rw [List.flatten_nil, List.append_nil, firstFrame_of_unfinished h]
    exact ⟨rfl, rfl, rfl⟩
  | cons piece pieces ih =>
    have hf : bs ++ (piece :: pieces).flatten = bs ++ piece ++ pieces.flatten := by
      rw [List.flatten_cons, List.append_assoc]
    unfold readFrom
    rw [feedPiece_holding h, hf]
    cases hc : cutFrame (bs ++ piece) with
    | mk o left =>
      cases o with
      | more reader =>
        obtain ⟨hu, rfl, -⟩ := unfinished_of_cutFrame hc
        exact ih hu
      | payload payload =>
        rw [Ending.firstFrame, cutFrame_append hc nofun]
        exact ⟨rfl, rfl, rfl⟩
      | tooLarge length =>
        rw [Ending.firstFrame, cutFrame_append hc nofun]
        exact ⟨rfl, rfl, rfl⟩

theorem nextFrame_fst (source : Source) :
    (nextFrame source).1 = (source.ending.firstFrame source.content).1 :=
  (readFrom_holding unfinished_nil source.ending source.pieces).1

theorem content_nextFrame (source : Source) :
    (nextFrame source).2.content = (source.ending.firstFrame source.content).2 :=
  (readFrom_holding unfinished_nil source.ending source.pieces).2.1

theorem ending_nextFrame (source : Source) : (nextFrame source).2.ending = source.ending :=
  (readFrom_holding unfinished_nil source.ending source.pieces).2.2

/-! ## frames that were written -/

theorem length_frame (payload : Bytes) : (frame payload).length = 4 + payload.length := by
  rw [frame, List.length_append, length_littleEndian]

theorem lt_byteRange_of_le {n : Nat} (h : n ≤ maxPayload) : n < byteRange 4 := Nat.lt_of_le_of_lt h (by decide)

theorem announced_frame_append {payload : Bytes} (hl : payload.length < byteRange 4) (more : Bytes) :
    announced (frame payload ++ more) = payload.length := by
  rw [announced, frame, List.append_assoc, List.take_append_of_le_length (by simp),
    List.take_of_length_le (by simp), ofLittleEndian_littleEndian, Nat.mod_eq_of_lt hl]

/-- a frame that was written is the first one of the bytes that begin with it -/
theorem firstFrame_frame_append {payload : Bytes} (hl : payload.length ≤ maxPayload) (ending : Ending)
    (more : Bytes) : ending.firstFrame (frame payload ++ more) = (.payload payload, more) := by
  have ha := announced_frame_append (lt_byteRange_of_le hl) more
  have hla : (frame payload ++ more).length = 4 + payload.length + more.length := by
    rw [List.length_append, length_frame]
  have hd : (frame payload ++ more).drop 4 = payload ++ more := by
    rw [frame, List.append_assoc]
    exact List.drop_left' (length_littleEndian 4 _)
  have ht : (frame payload ++ more).drop (4 + payload.length) = more := by
    rw [← List.drop_drop, hd, List.drop_left]
  rw [firstFrame_of_whole (by omega) (by omega), ha, hd, ht, List.take_left]

/-- of a frame nothing else is read than its payload, if anything is -/
theorem eq_of_cutFrame_frame {payload p left : Bytes} (hl : payload.length < byteRange 4)
    (h : cutFrame (frame payload) = (.payload p, left)) : p = payload ∧ left = [] := by
  have ha := announced_frame_append hl []
  have hlen := length_frame payload
  rw [List.append_nil] at ha
  have hd : (frame payload).drop 4 = payload := List.drop_left' (length_littleEndian 4 _)
  obtain hu | ⟨h4, hm⟩ | ⟨hm, hw⟩ := unfinished_or_tooLarge_or_whole (frame payload)
  · rw [cutFrame_of_unfinished hu] at h
    cases h
  · rw [cutFrame_of_tooLarge h4 hm] at h
    cases h
  · rw [cutFrame_of_whole hm hw, ha, hd, ← hlen] at h
    cases h
    exact ⟨List.take_length, List.drop_length⟩

theorem cutFrame_frame {payload : Bytes} (hl : payload.length ≤ maxPayload) :
    cutFrame (frame payload) = (.payload payload, []) := by
  have ha := announced_frame_append (lt_byteRange_of_le hl) []
  rw [List.append_nil] at ha
  have hlen : (frame payload).length = 4 + announced (frame payload) := by rw [length_frame, ha]
  have hw := cutFrame_of_whole (ha.symm ▸ hl) (Nat.le_of_eq hlen.symm)
  obtain ⟨hp, hleft⟩ := eq_of_cutFrame_frame (lt_byteRange_of_le hl) hw
  rw [hw, hp, hleft]

theorem not_unfinished_frame {payload : Bytes} (hl : payload.length ≤ maxPayload) : ¬Unfinished (frame payload) := by
  intro hu
  have hc := cutFrame_of_unfinished hu
  rw [cutFrame_frame hl] at hc
  cases hc

/-- a part of a frame is none -/
theorem unfinished_of_prefix_frame {payload cut : Bytes} (hl : payload.length ≤ maxPayload)
    (hcut : cut <+: frame payload) (hne : cut ≠ frame payload) : Unfinished cut := by
  obtain ⟨more, hmore⟩ := hcut
  have hlen := congrArg List.length hmore
  rw [List.length_append, length_frame] at hlen
  have hpos : more ≠ [] := by
    rintro rfl
    rw [List.append_nil] at hmore
    exact hne hmore
  have hpos := List.length_pos_iff.mpr hpos
  by_cases h4 : cut.length < 4
  · exact .inl h4
  · have ha := announced_append (Nat.le_of_not_lt h4) more
    have hf := announced_frame_append (lt_byteRange_of_le hl) []
    rw [List.append_nil] at hf
    rw [hmore, hf] at ha
    exact .inr ⟨by omega, by omega⟩

theorem meaning_ne_payload (ending : Ending) (reader : FrameReader) (payload : Bytes) :
    ending.meaning reader ≠ .payload payload := by
  cases ending with
  | broken reason => exact nofun
  | clean =>
    unfold Ending.meaning
    simp only
    split <;> exact nofun

/-- only frames that could have been written are read -/
theorem eq_frame_append_of_firstFrame {ending : Ending} {bs payload left : Bytes}
    (h : ending.firstFrame bs = (.payload payload, left)) :
    bs = frame payload ++ left ∧ payload.length ≤ maxPayload := by
  obtain hu | ⟨h4, hm⟩ | ⟨hm, hl⟩ := unfinished_or_tooLarge_or_whole bs
  · rw [firstFrame_of_unfinished hu] at h
    exact absurd (congrArg Prod.fst h) (meaning_ne_payload _ _ _)
  · rw [firstFrame_of_tooLarge h4 hm] at h
    cases h
  · rw [firstFrame_of_whole hm hl] at h
    cases h
    have hd : ((bs.drop 4).take (announced bs)).length = announced bs := by
      rw [List.length_take, List.length_drop]
      omega
    have h4 : (bs.take 4).length = 4 := by
      rw [List.length_take]
      omega
    have hh : littleEndian 4 (announced bs) = bs.take 4 := by
      have hinv := littleEndian_ofLittleEndian (bs.take 4)
      rwa [h4] at hinv
    constructor
    · rw [frame, hd, hh, List.append_assoc, ← List.drop_drop, List.take_append_drop,
        List.take_append_drop]
    · rwa [hd]

/-! ## all frames of a stream -/

/-- what is read from bytes behind which the stream ends so: frames, and then the reason why no other follows -/
def frameResults (ending : Ending) (bs : Bytes) : List FrameResult :=
  match _h : ending.firstFrame bs with
  | (.payload payload, left) => .payload payload :: frameResults ending left
  | (result, _) => [result]
termination_by bs.length
decreasing_by
  have hb := congrArg List.length (eq_frame_append_of_firstFrame _h).1
  rw [List.length_append, length_frame] at hb
  omega

theorem frameResults_of_payload {ending : Ending} {bs payload left : Bytes}
    (h : ending.firstFrame bs = (.payload payload, left)) :
    frameResults ending bs = .payload payload :: frameResults ending left := by
  rw [frameResults]
  split
  · rename_i h'
    rw [h] at h'
    cases h'
    rfl
  · rename_i hne h'
    rw [h] at h'
    cases h'
    exact absurd rfl (hne _)

theorem frameResults_of_last {ending : Ending} {bs : Bytes}
    (h : ∀ payload, (ending.firstFrame bs).1 ≠ .payload payload) :
    frameResults ending bs = [(ending.firstFrame bs).1] := by
  rw [frameResults]
  split
  · rename_i h'
    exact absurd (congrArg Prod.fst h') (h _)
  · rename_i h'
    rw [h']

theorem frameResults_frame_append {payload : Bytes} (hl : payload.length ≤ maxPayload)
    (ending : Ending) (more : Bytes) :
    frameResults ending (frame payload ++ more) = .payload payload :: frameResults ending more :=
  frameResults_of_payload (firstFrame_frame_append hl ending more)

theorem frameResults_frames_append {payloads : List Bytes} (hl : ∀ p ∈ payloads, p.length ≤ maxPayload)
    (ending : Ending) (more : Bytes) :
    frameResults ending ((payloads.map frame).flatten ++ more)
      = payloads.map .payload ++ frameResults ending more := by
  induction payloads with
  | nil => rfl
  | cons payload payloads ih =>
    rw [List.map_cons, List.flatten_cons, List.append_assoc,
      frameResults_frame_append (hl payload List.mem_cons_self),
      ih fun p hp => hl p (List.mem_cons_of_mem _ hp)]
    rfl

theorem frameResults_of_unfinished {bs : Bytes} (h : Unfinished bs) (ending : Ending) :
    frameResults ending bs = [ending.meaning (holding bs)] := by
  have hf := firstFrame_of_unfinished h ending
  rw [frameResults_of_last, hf]
  rw [hf]
  exact meaning_ne_payload ending _

/-- **A part of some frames holds no other frames.**  Behind the whole ones among them there is nothing or an
unfinished frame. -/
theorem frameResults_of_prefix {payloads : List Bytes} (hl : ∀ p ∈ payloads, p.length ≤ maxPayload)
    {cut : Bytes} (hcut : cut <+: (payloads.map frame).flatten) (ending : Ending) :
    ∃ n reader, frameResults ending cut
      = (payloads.take n).map .payload ++ [ending.meaning reader] := by
  induction payloads generalizing cut with
  | nil =>
    obtain rfl := List.prefix_nil.mp hcut
    exact ⟨0, start, frameResults_of_unfinished unfinished_nil ending⟩
  | cons payload payloads ih =>
    rw [List.map_cons, List.flatten_cons] at hcut
    have hp := hl payload List.mem_cons_self
    by_cases hlen : (frame payload).length ≤ cut.length
    · -- the first frame is whole, so that the part goes on behind it
      obtain ⟨more, rfl⟩ := List.prefix_of_prefix_length_le (List.prefix_append _ _) hcut hlen
      have hmore := (List.prefix_append_right_inj (frame payload)).mp hcut
      obtain ⟨n, reader, hr⟩ := ih (fun p h => hl p (List.mem_cons_of_mem _ h)) hmore
      exact ⟨n + 1, reader, by rw [frameResults_frame_append hp, hr]; rfl⟩
    · have hpre := List.prefix_of_prefix_length_le hcut (List.prefix_append _ _) (by omega)
      have hu := unfinished_of_prefix_frame hp hpre (by rintro rfl; omega)
      exact ⟨0, holding cut, frameResults_of_unfinished hu ending⟩

/-! ## the whole frames of some bytes -/

def FrameResult.payload? (r : FrameResult) : Option Bytes :=
  match r with
  | .payload bs => some bs
  | _ => none

/-- the payloads of the whole frames that some bytes begin with -/
def wholeFrames (bs : Bytes) : List Bytes := (frameResults .clean bs).filterMap FrameResult.payload?

theorem payload?_meaning (ending : Ending) (reader : FrameReader) : (ending.meaning reader).payload? = none := by
  have hne := meaning_ne_payload ending reader
  cases h : ending.meaning reader with
  | payload payload => exact absurd h (hne payload)
  | fault fault => rfl
  | broken reason => rfl
  | clean => rfl

theorem filterMap_payload? (payloads : List Bytes) (ending : Ending) (reader : FrameReader) :
    (payloads.map FrameResult.payload ++ [ending.meaning reader]).filterMap FrameResult.payload? = payloads := by
  have hp : payloads.filterMap (fun p => (FrameResult.payload p).payload?) = payloads := List.filterMap_some
  rw [List.filterMap_append, List.filterMap_map, List.filterMap_cons, payload?_meaning, List.filterMap_nil,
    List.append_nil]
  exact hp

theorem wholeFrames_frames {payloads : List Bytes} (hl : ∀ p ∈ payloads, p.length ≤ maxPayload) :
    wholeFrames (payloads.map frame).flatten = payloads := by
  have hr := frameResults_frames_append hl .clean []
  rw [List.append_nil, frameResults_of_unfinished unfinished_nil] at hr
  rw [wholeFrames, hr]
  exact filterMap_payload? payloads .clean (holding [])

theorem wholeFrames_of_prefix {payloads : List Bytes} (hl : ∀ p ∈ payloads, p.length ≤ maxPayload) {cut : Bytes}
    (hcut : cut <+: (payloads.map frame).flatten) : wholeFrames cut <+: payloads := by
  obtain ⟨n, reader, hr⟩ := frameResults_of_prefix hl hcut .clean
  rw [wholeFrames, hr, filterMap_payload?]
  exact List.take_prefix n payloads

end TunnelControl
