import TunnelControl.Proofs.Message.Stream

/-!
# The events in some bytes

* `EventStream bs events rest`   the longest row of whole events that some bytes begin with, and what is behind it;
* `EventStream.unique`, `exists_eventStream`   there is one such row, and only one;
* `NoEvent rest`                 what is behind it: nothing, or something that is no event;
* `eventStream_of_noEvent`       events behind which there is none are all there are.
-/

namespace TunnelControl

open Wire FrameReader

/-! ## the events in some bytes -/

/-- the bytes of some events -/
def eventBytes (events : List Event) : Bytes := ((events.map encode).map frame).flatten

/-- each of these events has a frame -/
def Framed (events : List Event) : Prop := ∀ e ∈ events, (encode e).length ≤ maxPayload

/-- the bytes begin with these events, one whole frame behind the other, and with no more of them -/
structure EventStream (bs : Bytes) (events : List Event) (rest : Bytes) : Prop where
  bytes : bs = eventBytes events ++ rest
  framed : Framed events
  longest : ∀ more left, Framed more → bs = eventBytes more ++ left → more <+: events

/-- the bytes do not begin with an event -/
def NoEvent (rest : Bytes) : Prop :=
  ∀ (e : Event) (left : Bytes), (encode e).length ≤ maxPayload → rest ≠ frame (encode e) ++ left

theorem eventBytes_cons (e : Event) (events : List Event) :
    eventBytes (e :: events) = frame (encode e) ++ eventBytes events := rfl

theorem eventBytes_concat (events : List Event) (e : Event) :
    eventBytes (events ++ [e]) = eventBytes events ++ frame (encode e) := by
  rw [eventBytes, List.map_append, List.map_append, List.flatten_append, List.map_singleton, List.map_singleton,
    List.flatten_singleton]
  rfl

theorem framed_concat {events : List Event} {e : Event} (h : Framed events) (he : (encode e).length ≤ maxPayload) :
    Framed (events ++ [e]) := by
  intro x hx
  obtain hx | hx := List.mem_append.mp hx
  · exact h x hx
  · rwa [List.mem_singleton.mp hx]

/-- the first event of some bytes is told from them -/
theorem event_unique {e e' : Event} {left left' : Bytes} (he : (encode e).length ≤ maxPayload)
    (he' : (encode e').length ≤ maxPayload) (h : frame (encode e) ++ left = frame (encode e') ++ left') :
    e = e' ∧ left = left' := by
  have hfirst := firstFrame_frame_append he .clean left
  rw [h, firstFrame_frame_append he' .clean left'] at hfirst
  obtain ⟨hpayload, hleft⟩ := Prod.mk.inj hfirst
  have hdecode := decodePayload_encode (Nat.lt_of_le_of_lt he (show maxPayload < byteRange 8 by decide))
  rw [← FrameResult.payload.inj hpayload,
    decodePayload_encode (Nat.lt_of_le_of_lt he' (show maxPayload < byteRange 8 by decide))] at hdecode
  exact ⟨(Except.ok.inj hdecode).symm, hleft.symm⟩

/-- **Events behind which there is none are all there are.** -/
theorem eventStream_of_noEvent {bs rest : Bytes} {events : List Event} (hbytes : bs = eventBytes events ++ rest)
    (hframed : Framed events) (hrest : NoEvent rest) : EventStream bs events rest where
  bytes := hbytes
  framed := hframed
  longest := by
    intro more left hmore hleft
    rw [hbytes] at hleft
    clear hbytes
    induction events generalizing more with
    | nil =>
      cases more with
      | nil => exact List.prefix_refl []
      | cons e more =>
        rw [eventBytes_cons, List.append_assoc] at hleft
        exact absurd hleft (hrest e _ (hmore e List.mem_cons_self))
    | cons e events ih =>
      cases more with
      | nil => exact List.nil_prefix
      | cons e' more =>
        rw [eventBytes_cons, eventBytes_cons, List.append_assoc, List.append_assoc] at hleft
        obtain ⟨rfl, htail⟩ := event_unique (hframed e List.mem_cons_self) (hmore e' List.mem_cons_self) hleft
        exact List.cons_prefix_cons.mpr ⟨rfl, ih (fun x hx => hframed x (List.mem_cons_of_mem _ hx)) more
          (fun x hx => hmore x (List.mem_cons_of_mem _ hx)) htail⟩

theorem EventStream.unique {bs rest rest' : Bytes} {events events' : List Event} (h : EventStream bs events rest)
    (h' : EventStream bs events' rest') : events = events' ∧ rest = rest' := by
  have hle := h'.longest events rest h.framed h.bytes
  obtain rfl := hle.eq_of_length_le (h.longest events' rest' h'.framed h'.bytes).length_le
  exact ⟨rfl, List.append_cancel_left (h.bytes.symm.trans h'.bytes)⟩

/-! ## what is no event -/

theorem noEvent_of_firstFrame {rest : Bytes} (ending : Ending)
    (h : ∀ e : Event, (ending.firstFrame rest).1 ≠ .payload (encode e)) : NoEvent rest := by
  rintro e left he rfl
  exact h e (by rw [firstFrame_frame_append he])

theorem noEvent_of_unfinished {rest : Bytes} (h : Unfinished rest) : NoEvent rest := by
  refine noEvent_of_firstFrame .clean fun e => ?_
  rw [firstFrame_of_unfinished h]
  exact meaning_ne_payload .clean _ _

/-- bytes that begin with a frame which is too large do not begin with an unfinished one -/
theorem noEvent_of_tooLarge {rest left : Bytes} {length : Nat} (h : cutFrame rest = (.tooLarge length, left)) :
    NoEvent rest ∧ ¬Unfinished rest := by
  constructor
  · refine noEvent_of_firstFrame .clean fun e heq => ?_
    rw [Ending.firstFrame, h] at heq
    cases heq
  · intro hu
    rw [cutFrame_of_unfinished hu] at h
    cases h

theorem noEvent_of_undecodable {rest left payload : Bytes} {fault : Fault}
    (h : cutFrame rest = (.payload payload, left)) (hd : decodePayload Event payload = .error fault) :
    NoEvent rest ∧ ¬Unfinished rest := by
  have hfirst : Ending.clean.firstFrame rest = (.payload payload, left) := by rw [Ending.firstFrame, h]
  constructor
  · rintro e left he rfl
    rw [firstFrame_frame_append he] at hfirst
    cases hfirst
    rw [decodePayload_encode (Nat.lt_of_le_of_lt he (show maxPayload < byteRange 8 by decide))] at hd
    cases hd
  · intro hu
    rw [cutFrame_of_unfinished hu] at h
    cases h

/-- **All bytes are a stream of events.** -/
theorem exists_eventStream (bs : Bytes) : ∃ events rest, EventStream bs events rest := by
  suffices ∃ events rest, bs = eventBytes events ++ rest ∧ Framed events ∧ NoEvent rest by
    obtain ⟨events, rest, hbytes, hframed, hrest⟩ := this
    exact ⟨events, rest, eventStream_of_noEvent hbytes hframed hrest⟩
  induction hn : bs.length using Nat.strongRecOn generalizing bs with
  | ind n ih =>
    by_cases hbs : ∃ (e : Event) (left : Bytes), (encode e).length ≤ maxPayload ∧ bs = frame (encode e) ++ left
    · obtain ⟨e, left, he, rfl⟩ := hbs
      have hlt : left.length < n := by
        rw [← hn, List.length_append, length_frame]
        omega
      obtain ⟨events, rest, rfl, hframed, hrest⟩ := ih left.length hlt left rfl
      refine ⟨e :: events, rest, ?_, List.forall_mem_cons.mpr ⟨he, hframed⟩, hrest⟩
      rw [eventBytes_cons, List.append_assoc]
    · exact ⟨[], bs, rfl, nofun, fun e left he heq => hbs ⟨e, left, he, heq⟩⟩

end TunnelControl
