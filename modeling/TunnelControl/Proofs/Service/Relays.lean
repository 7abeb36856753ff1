import Mathlib.Data.List.Nodup
import TunnelControl.Service.Peer

/-!
# The relays of progress

A relay hands on the items of one installation, in order, up to the first that ends it.  The relays that are not over
are kept by the numbers of their installations.

* `upToFinal`                     the items that a relay is to hand on;
* `Lane`                          how far a relay has come, by what was produced and what was handed on;
* `Lane.step`, `report`, `endStream`   so it stays, whatever befalls the relay;
* `Service.Numbered`              each relay has a number of its own, and one that was given;
* `Service.relay?_adjust`         what becomes of one of them, as something befalls them all.
-/

namespace TunnelControl

/-- the items up to the first that is final -/
def upToFinal : List Progress → List Progress
  | [] => []
  | item :: items => if item.isFinal then [item] else item :: upToFinal items

theorem upToFinal_append_of_forall {items : List Progress} (h : ∀ item ∈ items, item.isFinal = false)
    (more : List Progress) : upToFinal (items ++ more) = items ++ upToFinal more := by
  induction items with
  | nil => rfl
  | cons item items ih =>
    rw [List.forall_mem_cons] at h
    rw [List.cons_append, upToFinal, h.1, if_neg Bool.false_ne_true, ih h.2, List.cons_append]

/-- without a final item they are all of them -/
theorem upToFinal_of_forall {items : List Progress} (h : ∀ item ∈ items, item.isFinal = false) :
    upToFinal items = items := by
  have hall := upToFinal_append_of_forall h []
  rwa [List.append_nil, upToFinal, List.append_nil] at hall

/-- what comes behind a final item does not count -/
theorem upToFinal_append_of_exists {items : List Progress} (h : ∃ item ∈ items, item.isFinal = true)
    (more : List Progress) : upToFinal (items ++ more) = upToFinal items := by
  induction items with
  | nil =>
    obtain ⟨item, hmem, -⟩ := h
    cases hmem
  | cons item items ih =>
    rw [List.cons_append, upToFinal, upToFinal]
    cases hf : item.isFinal with
    | true => rw [if_pos rfl, if_pos rfl]
    | false =>
      obtain ⟨last, hmem, hlast⟩ := h
      rcases List.mem_cons.mp hmem with rfl | hmem
      · cases hf.symm.trans hlast
      · rw [if_neg Bool.false_ne_true, if_neg Bool.false_ne_true, ih ⟨last, hmem, hlast⟩]

/-! ## one relay -/

/-- how far a relay has come with what was produced -/
inductive Lane : Option Relay → List Progress → List Progress → Prop
  /-- none was final so far, and what is left waits -/
  | listening (r : Relay) (produced handed : List Progress) (hr : r.listening = true)
      (hnone : ∀ item ∈ handed, item.isFinal = false) (hall : handed ++ r.stream.waiting = produced) :
      Lane (some r) produced handed
  /-- a final item was handed on, and the installation goes on by itself -/
  | deaf (r : Relay) (produced handed : List Progress) (hr : r.listening = false)
      (hfinal : ∃ item ∈ produced, item.isFinal = true) (hall : handed = upToFinal produced) :
      Lane (some r) produced handed
  | forgotten (produced handed : List Progress) (hall : handed = upToFinal produced) : Lane none produced handed

/-- a relay that is over is forgotten -/
def Relay.kept (r : Relay) : Option Relay := if r.isOver then none else some r

namespace Lane

variable {r r' : Relay} {produced handed : List Progress}

theorem isPrefix {r? : Option Relay} (h : Lane r? produced handed) : handed <+: upToFinal produced := by
  cases h with
  | listening r _ _ hr hnone hall =>
    rw [← hall, upToFinal_append_of_forall hnone]
    exact List.prefix_append _ _
  | deaf r _ _ hr hfinal hall => exact hall ▸ List.prefix_refl _
  | forgotten _ _ hall => exact hall ▸ List.prefix_refl _

theorem begin (stream : ProgressStream) : Lane (some { stream }) stream.waiting [] :=
  .listening _ _ _ rfl nofun rfl

/-- a relay that listens no more, and has handed on what it was to -/
theorem stopped (hr : r.listening = false) (hfinal : r.stream.senderOpen = true → ∃ item ∈ produced, item.isFinal = true)
    (hall : handed = upToFinal produced) : Lane r.kept produced handed := by
  rw [Relay.kept, Relay.isOver, hr]
  cases ho : r.stream.senderOpen with
  | true => exact .deaf r _ _ hr (hfinal ho) hall
  | false => exact .forgotten _ _ hall

theorem kept_of_listening (hr : r.listening = true) : r.kept = some r := by
  rw [Relay.kept, Relay.isOver, hr]
  rfl

/-- **A step of a relay hands on the next item, and stops behind a final one.** -/
theorem step {item? : Option Progress} (h : Lane (some r) produced handed) (hstep : r.step = some (item?, r')) :
    Lane r'.kept produced (handed ++ item?.toList) := by
  cases h with
  | deaf _ _ _ hr hfinal hall =>
    rw [Relay.step, hr] at hstep
    cases hstep
  | listening _ _ _ hr hnone hall =>
    rw [Relay.step, hr] at hstep
    cases hw : r.stream.waiting with
    | nil =>
      rw [hw, List.append_nil] at hall
      subst hall
      cases ho : r.stream.senderOpen with
      | true =>
        rw [hw, ho] at hstep
        cases hstep
      | false =>
        rw [hw, ho] at hstep
        cases hstep
        refine stopped rfl (fun hopen => ?_) ?_
        · cases ho.symm.trans hopen
        · rw [Option.toList_none, List.append_nil, upToFinal_of_forall hnone]
    | cons item waiting =>
      rw [hw] at hstep
      cases hstep
      rw [hw] at hall
      subst hall
      rw [Option.toList_some]
      cases hf : item.isFinal with
      | true =>
        refine stopped rfl (fun _ => ⟨item, ?_, hf⟩) ?_
        · exact List.mem_append_right _ List.mem_cons_self
        · rw [upToFinal_append_of_forall hnone, upToFinal, if_pos hf]
      | false =>
        rw [kept_of_listening rfl]
        refine .listening _ _ _ rfl ?_ ?_
        · intro other hother
          rcases List.mem_append.mp hother with hold | hnew
          · exact hnone other hold
          · rw [List.mem_singleton.mp hnew]
            exact hf
        · rw [List.append_assoc]
          rfl

/-- an item that comes to a relay that listens waits there -/
theorem report (h : Lane (some r) produced handed) (hr : r.listening = true) (item : Progress) :
    Lane (Relay.kept { r with stream := { r.stream with waiting := r.stream.waiting ++ [item] } })
      (produced ++ [item]) handed := by
  cases h with
  | deaf _ _ _ hr' hfinal hall => cases hr.symm.trans hr'
  | listening _ _ _ _ hnone hall =>
    have hkept := kept_of_listening (r := { r with stream := { r.stream with waiting := r.stream.waiting ++ [item] } }) hr
    rw [hkept]
    refine .listening _ _ _ hr hnone ?_
    rw [← hall, List.append_assoc]

/-- an item that comes too late changes nothing -/
theorem report_deaf (h : Lane (some r) produced handed) (hr : r.listening = false) (item : Progress) :
    Lane (some r) (produced ++ [item]) handed := by
  cases h with
  | listening _ _ _ hr' hnone hall => cases hr.symm.trans hr'
  | deaf _ _ _ _ hfinal hall =>
    obtain ⟨last, hmem, hlast⟩ := hfinal
    refine .deaf _ _ _ hr ⟨last, List.mem_append_left _ hmem, hlast⟩ ?_
    rw [upToFinal_append_of_exists ⟨last, hmem, hlast⟩]
    exact hall

theorem endStream (h : Lane (some r) produced handed) : Lane r.endStream.kept produced handed := by
  cases h with
  | listening _ _ _ hr hnone hall =>
    have hkept : r.endStream.kept = some r.endStream := kept_of_listening hr
    rw [hkept]
    exact .listening _ _ _ hr hnone hall
  | deaf _ _ _ hr hfinal hall => exact stopped hr nofun hall

/-- a relay that has nothing to do has handed on all that it was to -/
theorem eq_of_rest {r? : Option Relay} (h : Lane r? produced handed) (hrest : r?.bind Relay.step = none) :
    handed = upToFinal produced := by
  cases h with
  | listening r _ _ hr hnone hall =>
    rw [Option.bind_some, Relay.step, hr] at hrest
    cases hw : r.stream.waiting with
    | nil =>
      rw [hw, List.append_nil] at hall
      rw [← hall, upToFinal_of_forall hnone]
    | cons item waiting =>
      rw [hw] at hrest
      cases hrest
  | deaf r _ _ hr hfinal hall => exact hall
  | forgotten _ _ hall => exact hall

end Lane

/-! ## all relays -/

namespace Service

/-- each relay has a number of its own, which was given to it -/
structure Numbered (s : Service) : Prop where
  nodup : (s.relays.map Prod.fst).Nodup
  given : ∀ n ∈ s.relays.map Prod.fst, n < s.installs.size

/-- something befalls all relays -/
def adjust (s : Service) (f : Nat → Relay → Option Relay) : Service :=
  { s with relays := s.relays.filterMap fun p => (f p.1 p.2).map (p.1, ·) }

theorem lookup_eq_none_of_not_mem {k : Nat} {relays : List (Nat × Relay)} (hk : k ∉ relays.map Prod.fst) :
    relays.lookup k = none := by
  refine List.lookup_eq_none_iff.mpr fun p hp => bne_iff_ne.mpr ?_
  rintro rfl
  exact hk (List.mem_map.mpr ⟨p, hp, rfl⟩)

theorem lookup_filterMap (f : Nat → Relay → Option Relay) (k : Nat) {relays : List (Nat × Relay)}
    (hn : (relays.map Prod.fst).Nodup) :
    (relays.filterMap fun p => (f p.1 p.2).map (p.1, ·)).lookup k = (relays.lookup k).bind (f k) := by
  induction relays with
  | nil => rfl
  | cons p relays ih =>
    obtain ⟨n, r⟩ := p
    rw [List.map_cons, List.nodup_cons] at hn
    have hrest := ih hn.2
    rw [List.filterMap_cons, List.lookup_cons]
    by_cases hk : k = n
    · subst hk
      rw [beq_self_eq_true, Option.bind_some]
      cases hf : f k r with
      | none =>
        rw [lookup_eq_none_of_not_mem hn.1] at hrest
        exact hrest
      | some r' => simp only [Option.map_some, List.lookup_cons, beq_self_eq_true]
    · rw [beq_eq_false_iff_ne.mpr hk]
      cases hf : f n r with
      | none => exact hrest
      | some r' =>
        simp only [Option.map_some, List.lookup_cons, beq_eq_false_iff_ne.mpr hk]
        exact hrest

variable {s : Service}

theorem relay?_adjust (h : s.Numbered) (f : Nat → Relay → Option Relay) (k : Nat) :
    (s.adjust f).relay? k = (s.relay? k).bind (f k) := lookup_filterMap f k h.nodup

theorem numbered_adjust (h : s.Numbered) (f : Nat → Relay → Option Relay) : (s.adjust f).Numbered := by
  have hsub : List.Sublist ((s.relays.filterMap fun p => (f p.1 p.2).map (p.1, ·)).map Prod.fst)
      (s.relays.map Prod.fst) := by
    induction s.relays with
    | nil => exact .refl _
    | cons p relays ih =>
      rw [List.filterMap_cons]
      cases f p.1 p.2 with
      | none => exact ih.cons _
      | some r => exact ih.cons_cons _
  exact ⟨h.nodup.sublist hsub, fun n hn => h.given n (hsub.subset hn)⟩

theorem setRelay_eq_adjust (s : Service) (n : Nat) (r : Relay) :
    s.setRelay n r = s.adjust fun k old => if k = n then r.kept else some old := by
  refine congrArg (fun relays => { s with relays }) ?_
  rw [Relay.kept]
  cases r.isOver with
  | true =>
    rw [if_pos rfl, ← List.filterMap_eq_filter]
    refine List.filterMap_congr fun p _ => ?_
    by_cases hk : p.1 = n <;> simp [hk]
  | false =>
    rw [if_neg Bool.false_ne_true, ← List.filterMap_eq_map]
    refine List.filterMap_congr fun p _ => ?_
    by_cases hk : p.1 = n <;> simp [hk]

theorem relay?_setRelay (h : s.Numbered) (n : Nat) (r : Relay) (k : Nat) :
    (s.setRelay n r).relay? k = if k = n then (s.relay? n).bind fun _ => r.kept else s.relay? k := by
  rw [setRelay_eq_adjust, relay?_adjust h]
  by_cases hk : k = n
  · subst hk
    simp only [if_true]
  · simp only [if_neg hk, Option.bind_fun_some]

theorem endReports_eq_adjust (s : Service) :
    (Site.endReports { service := s }).service = s.adjust fun _ r => r.endStream.kept := by
  refine congrArg (fun relays => { s with relays }) ?_
  induction s.relays with
  | nil => rfl
  | cons p relays ih =>
    rw [List.map_cons, List.filterMap_cons, ← ih, List.filter_cons]
    simp only [Relay.kept]
    cases p.2.endStream.isOver <;> rfl

theorem relay?_eq_none_of_le (h : s.Numbered) {n : Nat} (hn : s.installs.size ≤ n) : s.relay? n = none :=
  lookup_eq_none_of_not_mem fun hmem => Nat.not_lt.mpr hn (h.given n hmem)

end Service

end TunnelControl
