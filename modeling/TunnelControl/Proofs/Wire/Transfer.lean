import TunnelControl.Proofs.Stream.Pipe
import TunnelControl.Proofs.Wire.Framing

/-!
# Frames through a pipe

A `Transfer` is a stream of bytes on its way through a pipe to one who reads frames.  Writer and reader take
turns in any order, and each moves as many bytes at a time as it likes: the writer no more than there is room
for, the reader no more than it wants.

* `Transfer.move t m`   the transfer after the move, if it can be made;
* `Faithful bs t`       what was read are the first frames of `bs`, and what is still to be read lies behind them;
* `faithful_move`       every move keeps to that, and `faithful_run` so does every run;
* `weight_run`          every run comes to an end;
* `ended_of_stuck`      and at its end everything is read.
-/

namespace TunnelControl

open FrameReader

/-- bytes on their way through a pipe to one who reads frames, until there are no more -/
structure Transfer where
  /-- what is not yet written -/
  unsent : Bytes
  ending : Ending
  pipe : Pipe
  reader : FrameReader := .start
  /-- what was read, in order -/
  results : List FrameResult := []
  /-- the last result was no frame, and nothing more is read -/
  ended : Bool := false
  deriving DecidableEq, Repr

namespace Transfer

inductive Move
  /-- writes some of the next `n` bytes, as many as there is room for -/
  | write (n : Nat)
  /-- ends the stream behind its last byte -/
  | close
  /-- reads some of the next `n` bytes, as many as are wanted -/
  | read (n : Nat)
  deriving DecidableEq, Repr

/-- nothing is written yet -/
def ofBytes (capacity : Nat) (ending : Ending) (bs : Bytes) : Transfer :=
  { unsent := bs, ending, pipe := .ofCapacity capacity }

/-- the bytes that are not yet read -/
def remaining (t : Transfer) : Bytes := t.pipe.content ++ t.unsent

def write (t : Transfer) (n : Nat) : Option Transfer :=
  if (t.unsent.take n).isEmpty then none
  else
    match t.pipe.write (t.unsent.take n) with
    | .wrote left pipe => some { t with unsent := left ++ t.unsent.drop n, pipe }
    | _ => none

def close (t : Transfer) : Option Transfer :=
  if t.unsent.isEmpty && t.pipe.writerOpen then some { t with pipe := t.pipe.closeWriter } else none

/-- what becomes of the reader when it has taken some bytes -/
def turn (t : Transfer) : Outcome → Transfer
  | .more reader => { t with reader }
  | .payload payload => { t with reader := .start, results := t.results ++ [.payload payload] }
  | .tooLarge length =>
    { t with results := t.results ++ [.fault (.tooLarge length)], ended := true }

def read (t : Transfer) (n : Nat) : Option Transfer :=
  if t.ended || n == 0 then none
  else
    match t.pipe.take (min n t.reader.wanted) with
    | ([], _) =>
      if t.pipe.atEnd then
        some { t with results := t.results ++ [t.ending.meaning t.reader], ended := true }
      else none
    | (piece@(_ :: _), pipe) => some ({ t with pipe }.turn (t.reader.feed piece))

def move (t : Transfer) : Move → Option Transfer
  | .write n => t.write n
  | .close => t.close
  | .read n => t.read n

def run (t : Transfer) : List Move → Option Transfer
  | [] => some t
  | m :: ms => (t.move m).bind fun t => t.run ms

/-- no move can be made -/
def Stuck (t : Transfer) : Prop := ∀ m, t.move m = none

/-! ## what a move does -/

theorem eq_of_write {t u : Transfer} {n : Nat} (h : t.write n = some u) :
    ∃ left pipe, t.unsent.take n ≠ [] ∧ t.pipe.write (t.unsent.take n) = .wrote left pipe ∧
      u = { t with unsent := left ++ t.unsent.drop n, pipe } := by
  unfold write at h
  split at h
  · cases h
  · rename_i hne
    split at h
    · rename_i left pipe hw
      cases h
      exact ⟨left, pipe, by simpa using hne, hw, rfl⟩
    · cases h

theorem eq_of_close {t u : Transfer} (h : t.close = some u) :
    t.unsent = [] ∧ t.pipe.writerOpen = true ∧ u = { t with pipe := t.pipe.closeWriter } := by
  unfold close at h
  split at h
  · rename_i hc
    cases h
    rw [Bool.and_eq_true, List.isEmpty_iff] at hc
    exact ⟨hc.1, hc.2, rfl⟩
  · cases h

theorem eq_of_read {t u : Transfer} {n : Nat} (h : t.read n = some u) :
    t.ended = false ∧ 0 < n ∧
    ((t.pipe.content.take (min n t.reader.wanted) = [] ∧ t.pipe.atEnd = true ∧
        u = { t with results := t.results ++ [t.ending.meaning t.reader], ended := true }) ∨
      ∃ piece, piece = t.pipe.content.take (min n t.reader.wanted) ∧ piece ≠ [] ∧
        u = { t with pipe := (t.pipe.take (min n t.reader.wanted)).2 }.turn (t.reader.feed piece)) := by
  unfold read at h
  split at h
  · cases h
  · rename_i hc
    simp only [Bool.or_eq_true, beq_iff_eq, not_or, Bool.not_eq_true] at hc
    have hp := t.pipe.take_fst (min n t.reader.wanted)
    refine ⟨hc.1, Nat.pos_of_ne_zero hc.2, ?_⟩
    split at h
    · rename_i ht
      rw [ht] at hp
      split at h
      · rename_i he
        cases h
        exact .inl ⟨hp.symm, he, rfl⟩
      · cases h
    · rename_i ht
      rw [ht] at hp
      cases h
      exact .inr ⟨_, hp, List.cons_ne_nil _ _, by rw [ht]⟩

theorem remaining_write {t u : Transfer} {n : Nat} (h : t.write n = some u) : u.remaining = t.remaining := by
  obtain ⟨left, pipe, -, hw, rfl⟩ := eq_of_write h
  show pipe.content ++ (left ++ t.unsent.drop n) = t.pipe.content ++ t.unsent
  rw [← List.append_assoc, Pipe.content_write hw, List.append_assoc, List.take_append_drop]

/-- what every move keeps, every run keeps -/
theorem run_keeps {P : Transfer → Prop} (hmove : ∀ {t u m}, P t → t.move m = some u → P u) {t u : Transfer}
    {ms : List Move} (h : P t) (hr : t.run ms = some u) : P u := by
  induction ms generalizing t with
  | nil =>
    cases hr
    exact h
  | cons m ms ih =>
    obtain ⟨v, hv, hu⟩ := Option.bind_eq_some_iff.mp hr
    exact ih (hmove h hv) hu

/-! ## what is read is what was written -/

/-- of the bytes `bs` the frames of `payloads` were read, and `held` of the next one -/
structure Underway (bs : Bytes) (t : Transfer) (payloads : List Bytes) (held : Bytes) : Prop where
  reader : t.reader = holding held
  unfinished : Unfinished held
  results : t.results = payloads.map .payload
  short : ∀ p ∈ payloads, p.length ≤ maxPayload
  bytes : bs = (payloads.map frame).flatten ++ (held ++ t.remaining)

/-- of the bytes `bs` the frames of `payloads` were read, and found that `last` has none at its front -/
structure Finished (bs : Bytes) (t : Transfer) (payloads : List Bytes) (last : Bytes) : Prop where
  results : t.results = payloads.map .payload ++ [(t.ending.firstFrame last).1]
  noFrame : ∀ p, (t.ending.firstFrame last).1 ≠ .payload p
  short : ∀ p ∈ payloads, p.length ≤ maxPayload
  bytes : bs = (payloads.map frame).flatten ++ last
  remaining : t.remaining = (t.ending.firstFrame last).2

/-- what was read are the first frames of `bs`, and what is still to be read lies behind them -/
structure Faithful (bs : Bytes) (t : Transfer) : Prop where
  /-- the reader stays -/
  stays : t.pipe.readerOpen = true
  /-- the writer stays until all is written -/
  written : t.pipe.writerOpen = false → t.unsent = []
  progress :
    (t.ended = false ∧ ∃ payloads held, Underway bs t payloads held) ∨
      (t.ended = true ∧ ∃ payloads last, Finished bs t payloads last)

theorem Faithful.underway {bs : Bytes} {t : Transfer} (h : Faithful bs t) (ho : t.ended = false) :
    ∃ payloads held, Underway bs t payloads held := by
  obtain ⟨-, hp⟩ | ⟨ho', -⟩ := h.progress
  · exact hp
  · rw [ho] at ho'
    cases ho'

theorem Faithful.finished {bs : Bytes} {t : Transfer} (h : Faithful bs t) (ho : t.ended = true) :
    ∃ payloads last, Finished bs t payloads last := by
  obtain ⟨ho', -⟩ | ⟨-, hp⟩ := h.progress
  · rw [ho] at ho'
    cases ho'
  · exact hp

theorem faithful_ofBytes (capacity : Nat) (ending : Ending) (bs : Bytes) :
    Faithful bs (ofBytes capacity ending bs) where
  stays := rfl
  written := nofun
  progress := .inl ⟨rfl, [], [], holding_nil.symm, unfinished_nil, rfl, nofun, rfl⟩

/-- to the reader it makes no difference how far the bytes have come -/
theorem progress_of_remaining {bs : Bytes} {t u : Transfer} (h : Faithful bs t)
    (hu : u.remaining = t.remaining) (he : u.ending = t.ending) (hr : u.reader = t.reader)
    (hs : u.results = t.results) (ho : u.ended = t.ended) :
    (u.ended = false ∧ ∃ payloads held, Underway bs u payloads held) ∨
      (u.ended = true ∧ ∃ payloads last, Finished bs u payloads last) := by
  obtain ⟨hended, payloads, held, hp⟩ | ⟨hended, payloads, last, hp⟩ := h.progress
  · exact .inl ⟨ho.trans hended, payloads, held, hr.trans hp.reader, hp.unfinished, hs.trans hp.results,
      hp.short, hu ▸ hp.bytes⟩
  · exact .inr ⟨ho.trans hended, payloads, last, he ▸ hs.trans hp.results, he ▸ hp.noFrame, hp.short,
      hp.bytes, he ▸ hu.trans hp.remaining⟩

theorem faithful_write {bs : Bytes} {t u : Transfer} {n : Nat} (h : Faithful bs t)
    (hm : t.write n = some u) : Faithful bs u := by
  have hrem := remaining_write hm
  obtain ⟨left, pipe, hne, hw, rfl⟩ := eq_of_write hm
  obtain ⟨⟨-, hwo, -⟩, -, -, hr, ho⟩ := Pipe.eq_of_write hne hw
  refine ⟨hr.trans h.stays, fun hc => ?_, progress_of_remaining h hrem rfl rfl rfl rfl⟩
  rw [show pipe.writerOpen = true from ho.trans hwo] at hc
  cases hc

theorem faithful_close {bs : Bytes} {t u : Transfer} (h : Faithful bs t) (hm : t.close = some u) :
    Faithful bs u := by
  obtain ⟨hs, -, rfl⟩ := eq_of_close hm
  exact ⟨h.stays, fun _ => hs, progress_of_remaining h rfl rfl rfl rfl rfl⟩

/-- a reader that has taken no more than it wants goes on, ends a frame or ends the stream -/
theorem progress_turn {bs held piece : Bytes} {t : Transfer} {payloads : List Bytes} (ho : t.ended = false)
    (h : Unfinished held) (hr : t.results = payloads.map .payload)
    (hshort : ∀ p ∈ payloads, p.length ≤ maxPayload) (hp : piece.length ≤ (holding held).wanted)
    (hb : bs = (payloads.map frame).flatten ++ (held ++ (piece ++ t.remaining))) :
    ((t.turn ((holding held).feed piece)).ended = false ∧
        ∃ payloads held', Underway bs (t.turn ((holding held).feed piece)) payloads held') ∨
      ((t.turn ((holding held).feed piece)).ended = true ∧
        ∃ payloads last, Finished bs (t.turn ((holding held).feed piece)) payloads last) := by
  have hc := feed_holding h hp
  rw [← List.append_assoc held] at hb
  cases ho' : (holding held).feed piece with
  | more reader =>
    rw [ho'] at hc
    obtain ⟨hu, rfl, -⟩ := unfinished_of_cutFrame hc.symm
    exact .inl ⟨ho, payloads, held ++ piece, rfl, hu, hr, hshort, hb⟩
  | payload payload =>
    rw [ho'] at hc
    have hf : t.ending.firstFrame (held ++ piece) = (.payload payload, []) := by
      rw [Ending.firstFrame, ← hc]
    obtain ⟨heq, hl⟩ := eq_frame_append_of_firstFrame hf
    rw [List.append_nil] at heq
    refine .inl ⟨ho, payloads ++ [payload], [], holding_nil.symm, unfinished_nil, ?_, ?_, ?_⟩
    · show t.results ++ _ = _
      rw [hr, List.map_append]
      rfl
    · intro p hmem
      obtain hmem | hmem := List.mem_append.mp hmem
      · exact hshort p hmem
      · rwa [List.mem_singleton.mp hmem]
    · rw [hb, heq, List.map_append, List.flatten_append, List.append_assoc]
      simp only [List.map_cons, List.map_nil, List.flatten_singleton]
      rfl
  | tooLarge length =>
    rw [ho'] at hc
    have hf : t.ending.firstFrame (held ++ piece ++ t.remaining)
        = (.fault (.tooLarge length), t.remaining) := by
      rw [Ending.firstFrame, cutFrame_append hc.symm (fun _ h => by cases h)]
      rfl
    refine .inr ⟨rfl, payloads, held ++ piece ++ t.remaining, ?_, ?_, hshort, hb, ?_⟩
    · show t.results ++ _ = _
      rw [hr]
      exact congrArg (_ ++ [·.1]) hf.symm
    · intro p
      show (t.ending.firstFrame _).1 ≠ _
      rw [hf]
      intro hpayload
      cases hpayload
    · show t.remaining = (t.ending.firstFrame _).2
      rw [hf]

theorem faithful_read {bs : Bytes} {t u : Transfer} {n : Nat} (h : Faithful bs t)
    (hm : t.read n = some u) : Faithful bs u := by
  obtain ⟨ho, hn, hcase⟩ := eq_of_read hm
  obtain ⟨payloads, held, hp⟩ := h.underway ho
  have hwant : 0 < min n t.reader.wanted := by
    have := wanted_pos hp.unfinished
    rw [hp.reader]
    omega
  obtain ⟨-, hend, rfl⟩ | ⟨piece, rfl, -, rfl⟩ := hcase
  · -- all is read, and so the next frame is decided by what is held of it
    obtain ⟨hempty, hclosed⟩ := t.pipe.atEnd_iff.mp hend
    have hrem : t.remaining = [] := by
      rw [remaining, hempty, h.written hclosed]
      rfl
    have hf : t.ending.firstFrame held = (t.ending.meaning t.reader, []) := by
      rw [firstFrame_of_unfinished hp.unfinished, hp.reader]
    have hb := hp.bytes
    rw [hrem, List.append_nil] at hb
    refine ⟨h.stays, h.written, .inr ⟨rfl, payloads, held, ?_, ?_, hp.short, hb, ?_⟩⟩
    · show t.results ++ _ = _
      rw [hp.results]
      exact congrArg (_ ++ [·.1]) hf.symm
    · intro p
      show (t.ending.firstFrame held).1 ≠ _
      rw [hf]
      exact meaning_ne_payload _ _ _
    · show t.remaining = (t.ending.firstFrame held).2
      rw [hf, hrem]
  · have hpiece : t.pipe.content.take (min n t.reader.wanted)
        ++ ({ t with pipe := (t.pipe.take (min n t.reader.wanted)).2 } : Transfer).remaining
          = t.remaining := by
      show _ ++ ((t.pipe.take _).2.content ++ t.unsent) = t.pipe.content ++ t.unsent
      rw [Pipe.content_take, ← List.append_assoc, List.take_append_drop]
    have hlen : (t.pipe.content.take (min n t.reader.wanted)).length ≤ (holding held).wanted := by
      rw [List.length_take, hp.reader]
      omega
    have hb := hp.bytes
    rw [← hpiece] at hb
    have hprog := progress_turn (t := { t with pipe := (t.pipe.take (min n t.reader.wanted)).2 }) ho
      hp.unfinished hp.results hp.short hlen hb
    rw [← hp.reader] at hprog
    refine ⟨?_, ?_, hprog⟩
    · generalize t.reader.feed _ = o
      cases o <;> exact h.stays
    · generalize t.reader.feed _ = o
      cases o <;> exact h.written

/-- **Every move keeps what is read and what is to be read at one with the bytes.** -/
theorem faithful_move {bs : Bytes} {t u : Transfer} {m : Move} (h : Faithful bs t) (hm : t.move m = some u) :
    Faithful bs u := by
  cases m with
  | write n => exact faithful_write h hm
  | close => exact faithful_close h hm
  | read n => exact faithful_read h hm

theorem faithful_run {bs : Bytes} {t u : Transfer} {ms : List Move} (h : Faithful bs t)
    (hr : t.run ms = some u) : Faithful bs u :=
  run_keeps faithful_move h hr

theorem ending_move {t u : Transfer} {m : Move} (h : t.move m = some u) : u.ending = t.ending := by
  cases m with
  | write n =>
    obtain ⟨_, _, -, -, rfl⟩ := eq_of_write h
    rfl
  | close =>
    obtain ⟨-, -, rfl⟩ := eq_of_close h
    rfl
  | read n =>
    obtain ⟨-, -, ⟨-, -, rfl⟩ | ⟨piece, -, -, rfl⟩⟩ := eq_of_read h
    · rfl
    · generalize t.reader.feed piece = o
      cases o <;> rfl

theorem ending_run {t u : Transfer} {ms : List Move} (h : t.run ms = some u) : u.ending = t.ending :=
  run_keeps (P := fun v => v.ending = t.ending) (fun hv hm => (ending_move hm).trans hv) rfl h

theorem isPrefix_results {bs : Bytes} {t : Transfer} (h : Faithful bs t) :
    t.results <+: frameResults t.ending bs := by
  obtain ⟨-, payloads, held, hp⟩ | ⟨-, payloads, last, hp⟩ := h.progress
  · rw [hp.bytes, frameResults_frames_append hp.short, hp.results]
    exact List.prefix_append _ _
  · have hall : t.results = frameResults t.ending bs := by
      rw [hp.bytes, frameResults_frames_append hp.short, frameResults_of_last hp.noFrame, hp.results]
    exact hall ▸ List.prefix_refl t.results

theorem results_of_ended {bs : Bytes} {t : Transfer} (h : Faithful bs t) (ho : t.ended = true) :
    t.results = frameResults t.ending bs := by
  obtain ⟨payloads, last, hp⟩ := h.finished ho
  rw [hp.bytes, frameResults_frames_append hp.short, frameResults_of_last hp.noFrame, hp.results]

/-- one who has read some whole frames and nothing of the next has left all that lies behind them -/
theorem remaining_of_start {bs more : Bytes} {t : Transfer} {payloads : List Bytes} (h : Faithful bs t)
    (hr : t.reader = .start) (hres : t.results = payloads.map .payload)
    (hb : bs = (payloads.map frame).flatten ++ more) : t.remaining = more := by
  obtain ⟨-, payloads', held, hp⟩ | ⟨-, payloads', last, hp⟩ := h.progress
  · have heq : payloads' = payloads :=
      (List.map_inj_right fun _ _ hpq => FrameResult.payload.inj hpq).mp (hp.results.symm.trans hres)
    have hheld : held = [] := by
      have hstart := hp.reader.symm.trans hr
      by_cases h4 : held.length < 4
      · rw [holding_header h4] at hstart
        cases hstart
        rfl
      · rw [holding_body (Nat.le_of_not_lt h4)] at hstart
        cases hstart
    have hbytes := hp.bytes
    rw [heq, hheld, hb, List.nil_append] at hbytes
    exact (List.append_cancel_left hbytes).symm
  · -- the last result is no frame, so that there is a frame in its place
    exfalso
    have hmem : (t.ending.firstFrame last).1 ∈ t.results := by
      rw [hp.results]
      exact List.mem_append_right _ List.mem_cons_self
    rw [hres] at hmem
    obtain ⟨p, -, hpay⟩ := List.mem_map.mp hmem
    exact hp.noFrame p hpay.symm

/-! ## every run ends, and at its end all is read -/

/-- every move lowers this: a byte is written once and read once, and each side ends once -/
def weight (t : Transfer) : Nat :=
  2 * t.unsent.length + t.pipe.content.length + (if t.pipe.writerOpen then 1 else 0)
    + (if t.ended then 0 else 1)

theorem weight_move {t u : Transfer} {m : Move} (h : t.move m = some u) : u.weight < t.weight := by
  cases m with
  | write n =>
    obtain ⟨left, pipe, hne, hw, rfl⟩ := eq_of_write h
    obtain ⟨⟨-, -, hroom⟩, rfl, hc, -, ho⟩ := Pipe.eq_of_write hne hw
    have hpos := List.length_pos_iff.mpr hne
    have hcut := congrArg List.length (List.take_append_drop n t.unsent)
    rw [List.length_append] at hcut
    unfold weight
    simp only [hc, ho, List.length_append, List.length_take, List.length_drop] at hpos hcut ⊢
    omega
  | close =>
    obtain ⟨-, ho, rfl⟩ := eq_of_close h
    unfold weight
    simp only [Pipe.closeWriter, ho, if_true, Bool.false_eq_true, if_false]
    exact Nat.add_lt_add_right (Nat.lt_succ_self _) _
  | read n =>
    obtain ⟨ho, -, ⟨-, -, rfl⟩ | ⟨piece, hpiece, hne, rfl⟩⟩ := eq_of_read h
    · unfold weight
      simp [ho]
    · have hpos := List.length_pos_iff.mpr hne
      rw [hpiece, List.length_take] at hpos
      have hlt : (t.pipe.take (min n t.reader.wanted)).2.content.length < t.pipe.content.length := by
        rw [Pipe.content_take, List.length_drop]
        omega
      have hle : weight { t with pipe := (t.pipe.take (min n t.reader.wanted)).2 } < t.weight :=
        Nat.add_lt_add_right (Nat.add_lt_add_right (Nat.add_lt_add_left hlt _) _) _
      refine Nat.lt_of_le_of_lt ?_ hle
      generalize t.reader.feed piece = o
      cases o with
      | more reader => exact Nat.le_refl _
      | payload payload => exact Nat.le_refl _
      | tooLarge length =>
        unfold weight turn
        simp only [if_true]
        omega

/-- no run has more moves than its first state has weight -/
theorem weight_run {t u : Transfer} {ms : List Move} (h : t.run ms = some u) :
    ms.length + u.weight ≤ t.weight := by
  induction ms generalizing t with
  | nil =>
    cases h
    show 0 + u.weight ≤ u.weight
    omega
  | cons m ms ih =>
    obtain ⟨v, hv, hu⟩ := Option.bind_eq_some_iff.mp h
    have := weight_move hv
    have := ih hu
    rw [List.length_cons]
    omega

theorem weight_ofBytes (capacity : Nat) (ending : Ending) (bs : Bytes) :
    (ofBytes capacity ending bs).weight = 2 * bs.length + 2 := rfl

theorem capacity_move {t u : Transfer} {m : Move} (h : t.move m = some u) :
    u.pipe.capacity = t.pipe.capacity := by
  cases m with
  | write n =>
    obtain ⟨left, pipe, -, hw, rfl⟩ := eq_of_write h
    exact Pipe.capacity_write hw
  | close =>
    obtain ⟨-, -, rfl⟩ := eq_of_close h
    rfl
  | read n =>
    obtain ⟨-, -, ⟨-, -, rfl⟩ | ⟨piece, -, -, rfl⟩⟩ := eq_of_read h
    · rfl
    · have hc := t.pipe.capacity_take (min n t.reader.wanted)
      generalize t.reader.feed piece = o
      cases o <;> exact hc

theorem capacity_run {t u : Transfer} {ms : List Move} (h : t.run ms = some u) :
    u.pipe.capacity = t.pipe.capacity :=
  run_keeps (P := fun v => v.pipe.capacity = t.pipe.capacity) (fun hv hm => (capacity_move hm).trans hv) rfl h

/-- a reader that waits has an empty pipe before it, whose writer goes on -/
theorem wait_of_read_eq_none {t : Transfer} (hw : 0 < t.reader.wanted) (ho : t.ended = false)
    (h : t.read 1 = none) : t.pipe.content = [] ∧ t.pipe.writerOpen = true := by
  have hn : 0 < min 1 t.reader.wanted := by omega
  have ht := t.pipe.take_eq_nil_iff hn
  unfold read at h
  rw [ho, if_neg (by decide)] at h
  split at h
  · rename_i heq
    rw [heq] at ht
    have hc := ht.mp rfl
    split at h
    · cases h
    · rename_i hend
      rw [Pipe.atEnd_iff, not_and, Bool.not_eq_false] at hend
      exact ⟨hc, hend hc⟩
  · cases h

/-- **When no move can be made, all is read.**  Only a pipe that can hold nothing keeps the bytes back. -/
theorem ended_of_stuck {bs : Bytes} {t : Transfer} (h : Faithful bs t) (hs : t.Stuck)
    (hc : bs = [] ∨ 0 < t.pipe.capacity) : t.ended = true := by
  cases ho : t.ended with
  | true => rfl
  | false =>
    exfalso
    obtain ⟨payloads, held, hp⟩ := h.underway ho
    have hwant : 0 < t.reader.wanted := by
      rw [hp.reader]
      exact wanted_pos hp.unfinished
    obtain ⟨hempty, hopen⟩ := wait_of_read_eq_none hwant ho (hs (.read 1))
    by_cases hu : t.unsent = []
    · have hclose := hs .close
      simp [move, close, hu, hopen] at hclose
    · have hroom : 0 < t.pipe.room := by
        refine t.pipe.room_pos_iff.mpr ?_
        rw [hempty]
        obtain hnil | hc := hc
        · have hlen := congrArg List.length hp.bytes
          rw [hnil, remaining, hempty] at hlen
          simp only [List.length_append, List.length_nil] at hlen
          have := List.length_pos_iff.mpr hu
          omega
        · exact hc
      obtain ⟨left, q, hw⟩ := Pipe.write_of_room h.stays hopen hroom t.unsent
      have hwrite := hs (.write t.unsent.length)
      simp [move, write, hu, hw] at hwrite

end Transfer

end TunnelControl
