import TunnelControl.Connection.Pairing
import TunnelControl.Proofs.Message.Payload
import TunnelControl.Proofs.Wire.Framing

/-!
# Hellos, and what they lead to

* `Connection.withHello`      a connection before its hello was read;
* `Connection.hello_eq_ok_iff`   reading a hello takes its bytes and no others;
* `Half.Fits`                 a later connection is the other one of a session;
* `Pairer.Places`             what becomes of a connection, case by case;
* `Pairer.copies`             how often the pairer holds a connection.
-/

namespace TunnelControl

open Wire

/-- the bytes that a client begins with -/
def Hello.bytes (h : Hello) : Bytes := frame (encode h)

theorem Hello.length_encode (h : Hello) : (encode h).length = 32 := by
  have hlength : (encode h).length = 4 + (8 + h.session.bytes.length + 4) := by
    simp [encode, tag]
    omega
  rw [hlength, SessionId.length_bytes]

theorem content_ofBytes (bs : Bytes) : (Source.ofBytes bs).content = bs := List.append_nil bs

namespace Connection

/-- the connection before a hello was read from it -/
def withHello (c : Connection) (h : Hello) : Connection := { c with unread := h.bytes ++ c.unread }

theorem hello_withHello (c : Connection) (h : Hello) : (c.withHello h).hello = .ok (h, c) := by
  have hsmall : (encode h).length ≤ maxPayload := by rw [h.length_encode]; decide
  have hframe : (nextFrame (.ofBytes (c.withHello h).unread)).1 = .payload (encode h) ∧
      (nextFrame (.ofBytes (c.withHello h).unread)).2.content = c.unread := by
    rw [nextFrame_fst, content_nextFrame, content_ofBytes]
    show (Ending.firstFrame _ (frame (encode h) ++ c.unread)).1 = _ ∧ (Ending.firstFrame _ (frame (encode h) ++ c.unread)).2 = _
    rw [firstFrame_frame_append hsmall]
    exact ⟨rfl, rfl⟩
  unfold hello
  generalize nextFrame (.ofBytes (c.withHello h).unread) = r at hframe
  obtain ⟨result, rest⟩ := r
  obtain ⟨rfl, hcontent⟩ := hframe
  have hdecode : decodePayload Hello (encode h) = .ok h := decodePayload_encode (by rw [h.length_encode]; decide)
  simp only [hdecode, hcontent]
  rfl

theorem hello_eq_ok_iff {c rest : Connection} {h : Hello} :
    c.hello = .ok (h, rest) ↔ c = rest.withHello h := by
  refine ⟨fun hc => ?_, fun hc => hc ▸ rest.hello_withHello h⟩
  have hfst := nextFrame_fst (.ofBytes c.unread)
  have hcontent := content_nextFrame (.ofBytes c.unread)
  rw [content_ofBytes] at hfst hcontent
  unfold hello at hc
  split at hc
  · rename_i payload left hnext
    rw [hnext] at hfst hcontent
    have hframe : Ending.clean.firstFrame c.unread = (.payload payload, left.content) :=
      Prod.ext hfst.symm hcontent.symm
    obtain ⟨hunread, -⟩ := eq_frame_append_of_firstFrame hframe
    split at hc
    · rename_i hello hdecode
      cases hc
      obtain rfl := eq_encode_of_decodePayload hdecode
      exact congrArg (fun unread => { c with unread }) hunread
    · cases hc
  all_goals cases hc

end Connection

/-- a connection is the other one of a session: its hello names the other channel, and it is of the same user -/
def Half.Fits (first : Half) (channel : Channel) (c : Connection) : Prop :=
  first.connection.uid = c.uid ∧ first.channel ≠ channel

instance (first : Half) (channel : Channel) (c : Connection) : Decidable (first.Fits channel c) :=
  inferInstanceAs (Decidable (_ ∧ _))

section
variable {α : Type} (f : α → Bool)

theorem countP_concat (xs : List α) (x : α) : (xs ++ [x]).countP f = xs.countP f + (f x).toNat := by
  rw [List.countP_append, List.countP_singleton]
  cases f x <;> rfl

theorem countP_filter_add_le (keep : α → Bool) {x : α} {xs : List α} (h : x ∈ xs) (hx : keep x = false) :
    (xs.filter keep).countP f + (f x).toNat ≤ xs.countP f := by
  have hsplit := xs.countP_eq_countP_filter_add f keep
  have hout : x ∈ xs.filter (fun y => !keep y) := List.mem_filter.mpr ⟨h, by rw [hx, Bool.not_false]⟩
  have hone : (f x).toNat ≤ (xs.filter fun y => !keep y).countP f := by
    cases hcounts : f x with
    | false => exact Nat.zero_le _
    | true => exact List.countP_pos_iff.mpr ⟨x, hout, hcounts⟩
  omega

end

namespace Pairer

variable {p : Pairer}

/-- the session of two connections, of which the second says hello -/
def sessionOf (p : Pairer) (first : Half) (h : Hello) (c : Connection) : PairedSession :=
  match h.channel with
  | .requests => ⟨h.session, p.policy.grant c.uid c.gid, c, first.connection⟩
  | .events => ⟨h.session, p.policy.grant first.connection.uid first.connection.gid, first.connection, c⟩

/-- what becomes of a connection whose hello has come -/
inductive Places (p : Pairer) (h : Hello) (c : Connection) : Pairer → Prop
  | refused (hversion : h.version ≠ protocolVersion) : Places p h c p
  | waits (hversion : h.version = protocolVersion) (hfree : p.half? h.session = none) :
      Places p h c (p.await h c)
  | joins (hversion : h.version = protocolVersion) {first : Half} (hfirst : p.half? h.session = some first)
      (hfits : first.Fits h.channel c) (hopen : p.receiverOpen = true) :
      Places p h c { p.forget h.session with paired := p.paired ++ [p.sessionOf first h c] }
  | parts (hversion : h.version = protocolVersion) {first : Half} (hfirst : p.half? h.session = some first)
      (hnot : first.Fits h.channel c → p.receiverOpen = false) : Places p h c (p.forget h.session)

theorem complete_of_open (hopen : p.receiverOpen = true) (id : SessionId) (requests events : Connection) :
    (p.complete id requests events).2 =
      { p with paired := p.paired ++ [⟨id, p.policy.grant requests.uid requests.gid, requests, events⟩] } := by
  unfold complete
  rw [if_pos hopen]

theorem complete_of_closed (hclosed : p.receiverOpen = false) (id : SessionId) (requests events : Connection) :
    (p.complete id requests events).2 = p := by
  unfold complete
  rw [hclosed, if_neg Bool.false_ne_true]

/-- two connections that fit complete a session, and others come to nothing -/
theorem meet_cases (p : Pairer) (first : Half) (h : Hello) (c : Connection) :
    (first.Fits h.channel c ∧ p.receiverOpen = true ∧
      (p.meet first h c).2 = { p with paired := p.paired ++ [p.sessionOf first h c] }) ∨
    ((first.Fits h.channel c → p.receiverOpen = false) ∧ (p.meet first h c).2 = p) := by
  unfold meet sessionOf Half.Fits
  split
  · rename_i huid
    exact .inr ⟨fun hfits => absurd hfits.1 huid, rfl⟩
  · rename_i huid
    replace huid := Decidable.not_not.mp huid
    cases hfirst : first.channel <;> cases hlater : h.channel
    case requests.requests | events.events => exact .inr ⟨fun hfits => absurd rfl hfits.2, rfl⟩
    all_goals
      obtain hopen | hclosed := Bool.eq_false_or_eq_true p.receiverOpen
      · exact .inl ⟨⟨huid, nofun⟩, hopen, complete_of_open hopen ..⟩
      · exact .inr ⟨fun _ => hclosed, complete_of_closed hclosed ..⟩

theorem places_place (p : Pairer) (h : Hello) (c : Connection) : p.Places h c (p.place h c).2 := by
  unfold place
  split
  · exact .refused ‹_›
  · rename_i hversion
    replace hversion := Decidable.not_not.mp hversion
    split
    · exact .waits hversion ‹_›
    · rename_i first hfirst
      obtain ⟨hfits, hopen, hmeet⟩ | ⟨hnot, hmeet⟩ := (p.forget h.session).meet_cases first h c
      · rw [hmeet]
        exact .joins hversion hfirst hfits hopen
      · rw [hmeet]
        exact .parts hversion hfirst hnot

section
variable {h : Hello} {c : Connection} {first : Half} (hversion : h.version = protocolVersion)
include hversion

theorem place_of_free (hfree : p.half? h.session = none) : (p.place h c).2 = p.await h c := by
  unfold place
  rw [if_neg (not_not_intro hversion), hfree]

theorem place_of_fits (hfirst : p.half? h.session = some first) (hfits : first.Fits h.channel c)
    (hopen : p.receiverOpen = true) :
    (p.place h c).2 = { p.forget h.session with paired := p.paired ++ [p.sessionOf first h c] } := by
  unfold place
  rw [if_neg (not_not_intro hversion), hfirst]
  obtain ⟨-, -, hmeet⟩ | ⟨hnot, -⟩ := (p.forget h.session).meet_cases first h c
  · exact hmeet
  · exact absurd (hopen.symm.trans (hnot hfits)) nofun

theorem place_of_misfit (hfirst : p.half? h.session = some first)
    (hnot : first.Fits h.channel c → p.receiverOpen = false) : (p.place h c).2 = p.forget h.session := by
  unfold place
  rw [if_neg (not_not_intro hversion), hfirst]
  obtain ⟨hfits, hopen, -⟩ | ⟨-, hmeet⟩ := (p.forget h.session).meet_cases first h c
  · exact absurd (hopen.symm.trans (hnot hfits)) nofun
  · exact hmeet

end

/-! ## in how many places a connection is -/

/-- how often the pairer holds a connection -/
def copies (p : Pairer) (n : Nat) : Nat :=
  p.pending.countP (·.2.connection.number == n) + p.paired.countP (·.requests.number == n)
    + p.paired.countP (·.events.number == n)

theorem mem_of_half? {id : SessionId} {half : Half} (h : p.half? id = some half) : (id, half) ∈ p.pending := by
  obtain ⟨before, behind, hpending, -⟩ := List.lookup_eq_some_iff.mp h
  exact hpending ▸ List.mem_append_right _ (List.mem_cons_self ..)

theorem copies_forget_le (p : Pairer) (id : SessionId) (n : Nat) : (p.forget id).copies n ≤ p.copies n :=
  Nat.add_le_add_right (Nat.add_le_add_right (List.filter_sublist.countP_le) _) _

theorem copies_forget_add_le {id : SessionId} {first : Half} (h : p.half? id = some first) (n : Nat) :
    (p.forget id).copies n + (first.connection.number == n).toNat ≤ p.copies n := by
  have hleaves := countP_filter_add_le (·.2.connection.number == n) (·.1 != id) (mem_of_half? h) (bne_self_eq_false id)
  unfold copies forget
  dsimp only at hleaves ⊢
  omega

theorem copies_await (p : Pairer) (h : Hello) (c : Connection) (n : Nat) :
    (p.await h c).copies n = p.copies n + (c.number == n).toNat := by
  unfold copies await
  rw [countP_concat]
  dsimp only
  omega

theorem copies_concat (p : Pairer) (session : PairedSession) (n : Nat) :
    { p with paired := p.paired ++ [session] }.copies n =
      p.copies n + ((session.requests.number == n).toNat + (session.events.number == n).toNat) := by
  unfold copies
  dsimp only
  rw [countP_concat, countP_concat]
  omega

theorem numbers_sessionOf (p : Pairer) (first : Half) (h : Hello) (c : Connection) (n : Nat) :
    ((p.sessionOf first h c).requests.number == n).toNat + ((p.sessionOf first h c).events.number == n).toNat =
      (first.connection.number == n).toNat + (c.number == n).toNat := by
  unfold sessionOf
  cases h.channel with
  | requests => exact Nat.add_comm ..
  | events => rfl

/-- no connection is doubled, and none comes in but the one that says hello -/
theorem Places.copies_le {h : Hello} {c : Connection} {p' : Pairer} (hp : p.Places h c p') (n : Nat) :
    p'.copies n ≤ p.copies n + (c.number == n).toNat := by
  cases hp with
  | refused => exact Nat.le_add_right ..
  | waits => exact Nat.le_of_eq (copies_await p h c n)
  | parts => exact Nat.le_add_right_of_le (copies_forget_le ..)
  | @joins _ first hfirst =>
    have hleaves := copies_forget_add_le hfirst n
    have hboth := numbers_sessionOf p first h c n
    have hjoined := copies_concat (p.forget h.session) (p.sessionOf first h c) n
    calc _ = _ := hjoined
      _ ≤ _ := by omega

end Pairer

end TunnelControl
