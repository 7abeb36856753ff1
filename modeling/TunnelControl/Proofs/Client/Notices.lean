import TunnelControl.Client.FarEnd
import TunnelControl.Proofs.Stream.Pipe

/-!
# The reading of events

* `Client.announced?`        the event that the next step of the reading dispatches;
* `Client.Noticed`           what one step of the reading may come to, and
* `noticed_of_noticeStep`    does come to;
* `waits_of_noticeStep`      who cannot read on waits for bytes.
-/

namespace TunnelControl

open FrameReader

namespace Client

/-- the event, if the next step of the reading dispatches one -/
def announced? (c : Client) : Option Event :=
  match c.notices with
  | none => none
  | some reader =>
    match c.wires.events.take reader.wanted with
    | ([], _) => none
    | (piece@(_ :: _), _) =>
      match reader.feed piece with
      | .payload payload => (decodePayload Event payload).toOption
      | _ => none

/-- some bytes of the events are taken -/
def takeEvents (c : Client) (n : Nat) : Client := c.setEvents (c.wires.events.take n).2

/-- what one step of the reading may come to, and the event that it dispatches -/
inductive Noticed (c : Client) (reader : FrameReader) : Client → Option Event → Prop
  | ended (hempty : c.wires.events.content.take reader.wanted = [])
      (hend : c.eventsBroken = true ∨ c.wires.events.writerOpen = false) : Noticed c reader c.stopReading none
  | more {next : FrameReader} (hpiece : c.wires.events.content.take reader.wanted ≠ [])
      (hfeed : reader.feed (c.wires.events.content.take reader.wanted) = .more next) :
      Noticed c reader { c.takeEvents reader.wanted with notices := some next } none
  | tooLarge {length : Nat} (hpiece : c.wires.events.content.take reader.wanted ≠ [])
      (hfeed : reader.feed (c.wires.events.content.take reader.wanted) = .tooLarge length) :
      Noticed c reader (c.takeEvents reader.wanted).stopReading none
  | undecodable {payload : Bytes} {fault : Fault} (hpiece : c.wires.events.content.take reader.wanted ≠ [])
      (hfeed : reader.feed (c.wires.events.content.take reader.wanted) = .payload payload)
      (hdecode : decodePayload Event payload = .error fault) :
      Noticed c reader (c.takeEvents reader.wanted).stopReading none
  | event {payload : Bytes} {e : Event} (hpiece : c.wires.events.content.take reader.wanted ≠ [])
      (hfeed : reader.feed (c.wires.events.content.take reader.wanted) = .payload payload)
      (hdecode : decodePayload Event payload = .ok e) :
      Noticed c reader
        { c.takeEvents reader.wanted with notices := some .start, observers := c.observers.dispatch e } (some e)

variable {c c' : Client}

theorem noticeStep_of_stopped (h : c.notices = none) : c.noticeStep = none := by
  rw [noticeStep, h]

/-- who cannot read on dispatches nothing -/
theorem announced?_of_noticeStep (h : c.noticeStep = none) : c.announced? = none := by
  unfold noticeStep at h
  unfold announced?
  cases hn : c.notices with
  | none => rfl
  | some reader =>
    simp only [hn] at h
    dsimp only
    cases ht : c.wires.events.take reader.wanted with
    | mk piece events =>
      cases piece with
      | nil => rfl
      | cons b piece =>
        rw [ht] at h
        dsimp only at h
        split at h
        · cases h
        · cases h
        · split at h <;> cases h

theorem noticed_of_noticeStep (h : c.noticeStep = some c') :
    ∃ reader, c.notices = some reader ∧ c.Noticed reader c' c.announced? := by
  unfold noticeStep at h
  unfold announced?
  cases hn : c.notices with
  | none =>
    rw [hn] at h
    cases h
  | some reader =>
    refine ⟨reader, rfl, ?_⟩
    simp only [hn] at h
    dsimp only
    have hfst := c.wires.events.take_fst reader.wanted
    have hsnd : (c.wires.events.take reader.wanted).2 = (c.takeEvents reader.wanted).wires.events := rfl
    cases ht : c.wires.events.take reader.wanted with
    | mk piece events =>
      rw [ht] at h hfst hsnd
      dsimp only at hfst hsnd
      subst hsnd
      cases piece with
      | nil =>
        dsimp only at h
        split at h
        · rename_i hend
          cases h
          rw [Bool.or_eq_true, Pipe.atEnd_iff] at hend
          exact .ended hfst.symm (hend.imp_right And.right)
        · cases h
      | cons b piece =>
        have hpiece : c.wires.events.content.take reader.wanted ≠ [] := hfst ▸ List.cons_ne_nil b piece
        dsimp only at h
        dsimp only
        rw [hfst] at h ⊢
        cases hf : reader.feed (c.wires.events.content.take reader.wanted) with
        | more next =>
          rw [hf] at h
          cases h
          exact .more hpiece hf
        | tooLarge length =>
          rw [hf] at h
          cases h
          exact .tooLarge hpiece hf
        | payload payload =>
          rw [hf] at h
          dsimp only at h ⊢
          cases hd : decodePayload Event payload with
          | error fault =>
            rw [hd] at h
            cases h
            exact .undecodable hpiece hf hd
          | ok e =>
            rw [hd] at h
            cases h
            exact .event hpiece hf hd

/-- who cannot read on waits for bytes -/
theorem waits_of_noticeStep {reader : FrameReader} (hn : c.notices = some reader) (hw : 0 < reader.wanted)
    (h : c.noticeStep = none) :
    c.wires.events.content = [] ∧ c.eventsBroken = false ∧ c.wires.events.writerOpen = true := by
  unfold noticeStep at h
  simp only [hn] at h
  have htake := c.wires.events.take_eq_nil_iff hw
  cases ht : c.wires.events.take reader.wanted with
  | mk piece events =>
    rw [ht] at h htake
    cases piece with
    | nil =>
      have hempty := htake.mp rfl
      dsimp only at h
      split at h
      · cases h
      · rename_i hend
        rw [Bool.or_eq_true, Pipe.atEnd_iff, not_or, not_and, Bool.not_eq_true, Bool.not_eq_false] at hend
        exact ⟨hempty, hend.1, hend.2 hempty⟩
    | cons b piece =>
      dsimp only at h
      split at h
      · cases h
      · cases h
      · split at h <;> cases h

end Client

end TunnelControl
