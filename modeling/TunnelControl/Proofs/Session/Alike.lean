import TunnelControl.Proofs.Session.Events
import TunnelControl.Proofs.Session.Standing

/-!
# Hubs that differ in one session

* `Hub.Reaches h k`           one hub becomes the other by some actions;
* `Hub.AlikeBut u h k`        two hubs in which every session stands alike, but for one;
* `AlikeBut.act`              what happens to both keeps them so;
* `AlikeBut.act_of_untouched` so does what happens to one of them and touches no other session.
-/

namespace TunnelControl.Hub

/-! ## what stays of a session -/

/-- the id and the token of a session, which it keeps -/
def face (h : Hub) (handle : Nat) : Option (SessionId × Option Token) :=
  (h.session? handle).map fun s => (s.id, s.token)

def Reaches (h k : Hub) : Prop := ∃ as : List Action, k = as.foldl act h

theorem Reaches.refl (h : Hub) : h.Reaches h := ⟨[], rfl⟩

theorem reaches_act (h : Hub) (a : Action) : h.Reaches (h.act a) := ⟨[a], rfl⟩

theorem Reaches.trans {h k m : Hub} (hk : h.Reaches k) (km : k.Reaches m) : h.Reaches m := by
  obtain ⟨as, rfl⟩ := hk
  obtain ⟨bs, rfl⟩ := km
  exact ⟨as ++ bs, List.foldl_append.symm⟩

theorem face_act {h : Hub} (hm : h.MembersSound) {handle : Nat} {x : SessionId × Option Token}
    (hf : h.face handle = some x) (a : Action) : (h.act a).face handle = some x := by
  obtain ⟨s, hs, rfl⟩ := Option.map_eq_some_iff.mp hf
  obtain ⟨t, ht, hk⟩ := keeps_act hm hs a
  rw [face, ht, Option.map_some, hk.id, hk.token]

theorem Reaches.face {h k : Hub} (hk : h.Reaches k) (hm : h.MembersSound) {handle : Nat}
    {x : SessionId × Option Token} (hf : h.face handle = some x) : k.face handle = some x := by
  obtain ⟨as, rfl⟩ := hk
  induction as generalizing h with
  | nil => exact hf
  | cons a as ih => exact ih (membersSound_act hm a) (face_act hm hf a)

theorem Reaches.id? {h k : Hub} (hk : h.Reaches k) {handle : Nat} {id : SessionId} (hid : h.id? handle = some id) :
    k.id? handle = some id := by
  obtain ⟨as, rfl⟩ := hk
  induction as generalizing h with
  | nil => exact hid
  | cons a as ih => exact ih (id?_act a hid)

/-- a session that is not there is not there behind an action, unless it is created with it -/
theorem session?_act_of_none {h : Hub} {handle : Nat} (hs : h.session? handle = none) {a : Action}
    (ha : a.created = 0) : (h.act a).session? handle = none := by
  have hlen := length_act h a
  rw [ha, Nat.add_zero] at hlen
  rw [session?, List.getElem?_eq_none_iff] at hs ⊢
  omega

/-! ## hubs that are alike -/

structure AlikeBut (u : Nat) (h k : Hub) : Prop where
  sound : h.MembersSound
  sound' : k.MembersSound
  size : k.sessions.length = h.sessions.length
  face : k.face u = h.face u
  others : ∀ handle, handle ≠ u → k.standing handle = h.standing handle

namespace AlikeBut

variable {u : Nat} {h k : Hub}

theorem refl (hm : h.MembersSound) : h.AlikeBut u h := ⟨hm, hm, rfl, rfl, fun _ _ => rfl⟩

theorem symm (hk : h.AlikeBut u k) : k.AlikeBut u h :=
  ⟨hk.sound', hk.sound, hk.size.symm, hk.face.symm, fun handle hne => (hk.others handle hne).symm⟩

theorem session? (hk : h.AlikeBut u k) {handle : Nat} (hne : handle ≠ u) :
    k.session? handle = h.session? handle := congrArg Standing.session (hk.others handle hne)

theorem includes (hk : h.AlikeBut u k) {handle : Nat} (hne : handle ≠ u) :
    k.includes handle = h.includes handle := congrArg Standing.isMember (hk.others handle hne)

/-- what belongs to no session is told from any other one -/
theorem drained (hk : h.AlikeBut u k) : k.drained = h.drained :=
  congrArg Standing.drained (hk.others (u + 1) (Nat.succ_ne_self u))

theorem id? (hk : h.AlikeBut u k) (handle : Nat) : k.id? handle = h.id? handle := by
  by_cases hu : handle = u
  · subst hu
    have hf := congrArg (Option.map Prod.fst) hk.face
    rw [Hub.face, Hub.face, Option.map_map, Option.map_map] at hf
    exact hf
  · rw [Hub.id?, Hub.id?, hk.session? hu]

theorem isSome_session? (hk : h.AlikeBut u k) (handle : Nat) :
    (k.session? handle).isSome = (h.session? handle).isSome := by
  have hid := congrArg Option.isSome (hk.id? handle)
  rw [Hub.id?, Hub.id?, Option.isSome_map, Option.isSome_map] at hid
  exact hid

end AlikeBut

theorem join_fst (h : Hub) (handle : Nat) : (h.join handle).1 = (!h.drained && (h.session? handle).isSome) := by
  unfold join
  cases h.drained <;> cases h.session? handle <;> rfl

namespace AlikeBut

variable {u : Nat} {h k : Hub}

theorem touch? (hk : h.AlikeBut u k) {handle : Nat} (hne : handle ≠ u) (a : Action) :
    k.touch? handle a = h.touch? handle a := by
  have hstanding := hk.others handle hne
  cases a with
  | create id token capacity => rw [Hub.touch?, Hub.touch?, hk.size]
  | join target =>
    have hdisplaces : k.displaces target handle = h.displaces target handle := by
      rw [Hub.displaces, Hub.displaces, hk.drained, hk.id? handle, hk.id? target]
    simp only [Hub.touch?, hdisplaces]
  | leave id => rw [Hub.touch?, Hub.touch?, hk.id? handle]
  | publish event adminOnly => rw [Hub.touch?, Hub.touch?, hstanding]
  | write target => rw [Hub.touch?, Hub.touch?, hstanding]
  | settle => rw [Hub.touch?, Hub.touch?, hstanding]
  | _ => rfl

theorem face_act (hk : h.AlikeBut u k) (a : Action) : (k.act a).face u = (h.act a).face u := by
  cases hf : h.face u with
  | some x => rw [Hub.face_act hk.sound hf a, Hub.face_act hk.sound' (hk.face.trans hf) a]
  | none =>
    have hs : h.session? u = none := Option.map_eq_none_iff.mp hf
    have ht : k.session? u = none := Option.map_eq_none_iff.mp (hk.face.trans hf)
    by_cases ha : a.created = 0
    · rw [Hub.face, Hub.face, session?_act_of_none hs ha, session?_act_of_none ht ha]
    · cases a with
      | create id token capacity =>
        show Option.map _ ((k.create id token capacity).2.session? u)
          = Option.map _ ((h.create id token capacity).2.session? u)
        rw [session?_create, session?_create, hk.size, hs, ht]
      | _ => exact absurd rfl ha

/-- what happens to both hubs keeps them alike -/
theorem act (hk : h.AlikeBut u k) (a : Action) : (h.act a).AlikeBut u (k.act a) := by
  refine ⟨membersSound_act hk.sound a, membersSound_act hk.sound' a, ?_, hk.face_act a, ?_⟩
  · rw [length_act, length_act, hk.size]
  · intro handle hne
    rw [standing_act hk.sound', standing_act hk.sound, hk.touch? hne, hk.others handle hne]

theorem foldl_act (hk : h.AlikeBut u k) (as : List Action) : (as.foldl Hub.act h).AlikeBut u (as.foldl Hub.act k) := by
  induction as generalizing h k with
  | nil => exact hk
  | cons a as ih => exact ih (hk.act a)

/-- what touches no other session goes unnoticed -/
theorem act_of_untouched (hk : h.AlikeBut u k) {a : Action} (hc : a.created = 0)
    (hn : ∀ handle, handle ≠ u → h.touch? handle a = none) : (h.act a).AlikeBut u k := by
  refine ⟨membersSound_act hk.sound a, hk.sound', ?_, ?_, ?_⟩
  · rw [length_act, hc]
    exact hk.size
  · rw [hk.face]
    cases hf : h.face u with
    | some x => rw [Hub.face_act hk.sound hf a]
    | none => rw [Hub.face, session?_act_of_none (Option.map_eq_none_iff.mp hf) hc]; rfl
  · intro handle hne
    rw [standing_act hk.sound, hn handle hne]
    exact hk.others handle hne

end AlikeBut

end TunnelControl.Hub
