import TunnelControl.Proofs.Service.Quit
import TunnelControl.Proofs.Session.Events

/-!
# Behind the end of the registry

A hub that was drained has no members, and takes none.

* `Hub.Shut`                 a hub that was drained has no members;
* `Hub.accepts_publish_of_drained`   no session takes the frame of an event any more;
* `Ledger.written_of_drained`        nothing is written any more to the sessions that were members.
-/

namespace TunnelControl

namespace Hub

/-- a hub that was drained has no members -/
def Shut (h : Hub) : Prop := h.drained = true → h.members = []

theorem drained_act (h : Hub) {a : Action} (ha : a ≠ .drain) : (h.act a).drained = h.drained := by
  cases hk : a.keepsMembers with
  | true => exact (members_act_of_keeps hk).2
  | false =>
    cases a with
    | join handle =>
      show (h.join handle).2.drained = _
      unfold join
      split <;> rfl
    | leave id =>
      show (h.leave id).2.drained = _
      unfold leave
      split <;> rfl
    | drain => exact absurd rfl ha
    | _ => cases hk

theorem Shut.act {h : Hub} (hs : h.Shut) (a : Action) : (h.act a).Shut := by
  intro hd
  by_cases ha : a = .drain
  · subst ha
    rfl
  · have hbefore := (h.drained_act ha).symm.trans hd
    exact (shut_act hbefore (hs hbefore) a).2

/-- no session takes the frame of an event any more -/
theorem accepts_publish_of_drained {h : Hub} (hs : h.Shut) (hd : h.drained = true) (event : Event)
    (adminOnly : Bool) : h.accepts (.publish event adminOnly) = [] := by
  have haudience : h.audience adminOnly = [] := by
    rw [audience, hs hd]
    rfl
  rw [accepts]
  split
  · rfl
  · rw [haudience]
    rfl

/-- no event is for anyone any more -/
theorem publish_of_drained {h : Hub} (hs : h.Shut) (hd : h.drained = true) (event : Event) (adminOnly : Bool) :
    h.publish event adminOnly = (0, h) := publish_of_empty (hs hd) event adminOnly

/-- a member is closed as its hub is drained -/
theorem isClosed_drain {h : Hub} (hm : h.MembersSound) {handle : Nat} (hi : h.includes handle = true) :
    (h.act .drain).isClosed handle = true := by
  rcases includes_act hm hi .drain with hstays | hclosed | hgives
  · cases hstays
  · exact hclosed
  · cases hgives

end Hub

namespace Ledger

/-- **Behind a drain nothing is written any more to a session that was a member.** -/
theorem written_of_drained {deliveryTimeout : Nat} {before : List Hub.Action} (after : List Hub.Action) {handle : Nat}
    {a : Account} (ha : ((ofTimeout deliveryTimeout).run before).account? handle = some a)
    (hi : ((ofTimeout deliveryTimeout).run before).hub.includes handle = true) :
    ∃ b, ((ofTimeout deliveryTimeout).run (before ++ .drain :: after)).account? handle = some b ∧
      b.written = a.written := by
  let l := (ofTimeout deliveryTimeout).run before
  have hsound : l.Sound := sound_run (sound_ofTimeout deliveryTimeout) before
  have hdrain : l.act .drain = { l with hub := l.hub.act .drain } := act_of_silent rfl rfl
  obtain ⟨s, hs, rfl⟩ := Option.map_eq_some_iff.mp ha
  obtain ⟨t, ht, hkeeps⟩ := Hub.keeps_act hsound.members hs .drain
  have hclosed : t.closed = true := by
    have hall := Hub.isClosed_drain hsound.members hi
    rw [Hub.isClosed, ht] at hall
    exact hall
  -- the writer has not gone on by the drain itself
  have hsame : t.events = s.events := by
    have hevents := Hub.session?_closeEach handle l.hub.members l.hub
    have ht' : (l.hub.closeEach l.hub.members).session? handle = some t := ht
    rw [ht', hs] at hevents
    split at hevents
    · cases hevents
      rfl
    · cases hevents
      rfl
  have haccount : (l.act .drain).account? handle = some ⟨t, entriesOf handle l.accepted,
      (entriesOf handle l.delivered).flatten⟩ := by
    rw [hdrain, account?]
    show Option.map _ ((l.hub.act .drain).session? handle) = _
    rw [ht]
    rfl
  obtain ⟨b, hb, hleads⟩ := leads_run (l.act .drain) after handle _ haccount
  refine ⟨b, ?_, ?_⟩
  · rw [run_append]
    exact hb
  · refine (hleads.ended (.inl hclosed)).2.trans ?_
    show _ ++ t.events.content = _ ++ s.events.content
    rw [hsame]

end Ledger

end TunnelControl
