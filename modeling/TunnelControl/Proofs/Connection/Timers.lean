import TunnelControl.Proofs.Connection.Reception

/-!
# Timers of connections that wait

* `Pairer.Timely`             each connection that waits has a timer of its own;
* `Pairer.Prompt`             the timers that are due have run out, as when time has been let pass;
* `Timely.lt_timeout`         then nobody has waited for the timeout;
* `timeout_le_of_expire`      who is dropped has waited for it, unless the timer was set for another one;
* `Reception.passage`         to let time pass is to wait and to let timers run out.
-/

namespace TunnelControl

open Reception (Action)

namespace Pairer

variable {p p' : Pairer} {f : Connection → Connection}

/-- the connections that wait have different ids, and each has a timer of its own -/
structure Timely (p : Pairer) : Prop where
  ids : (p.pending.map Prod.fst).Nodup
  timer : ∀ entry ∈ p.pending, (entry.1, entry.2.since + p.timeout) ∈ p.timers
  since : ∀ entry ∈ p.pending, entry.2.since ≤ p.clock

theorem Timely.forget (h : p.Timely) (id : SessionId) : (p.forget id).Timely where
  ids := h.ids.sublist (List.filter_sublist.map Prod.fst)
  timer entry he := h.timer entry (List.mem_filter.mp he).1
  since entry he := h.since entry (List.mem_filter.mp he).1

theorem Timely.await (h : p.Timely) {hello : Hello} (hfree : p.half? hello.session = none) (c : Connection) :
    (p.await hello c).Timely where
  ids := by
    have hnew : hello.session ∉ p.pending.map Prod.fst := by
      intro hmem
      obtain ⟨entry, he, heq⟩ := List.mem_map.mp hmem
      exact bne_iff_ne.mp (List.lookup_eq_none_iff.mp hfree entry he) heq.symm
    show (List.map _ (_ ++ [_])).Nodup
    rw [List.map_append]
    refine List.nodup_append.mpr ⟨h.ids, List.pairwise_singleton .., fun id hid new hmem => ?_⟩
    obtain rfl := List.mem_singleton.mp hmem
    exact fun (heq : id = hello.session) => hnew (heq ▸ hid)
  timer entry he := by
    obtain he | he := List.mem_append.mp he
    · exact List.mem_append_left _ (h.timer entry he)
    · obtain rfl := List.mem_singleton.mp he
      exact List.mem_append_right _ (List.mem_singleton_self _)
  since entry he := by
    obtain he | he := List.mem_append.mp he
    · exact h.since entry he
    · obtain rfl := List.mem_singleton.mp he
      exact Nat.le_refl _

theorem Timely.expire (h : p.Timely) (timer : SessionId × Nat) : (p.expire timer).Timely where
  ids := (h.forget timer.1).ids
  timer entry he := by
    obtain ⟨hmem, hne⟩ := List.mem_filter.mp he
    have hother : (entry.1, entry.2.since + p.timeout) ≠ timer := fun heq => bne_iff_ne.mp hne (congrArg Prod.fst heq)
    exact (List.mem_erase_of_ne hother).mpr (h.timer entry hmem)
  since := (h.forget timer.1).since

theorem Timely.touch (h : p.Timely) (f : Connection → Connection) : (p.touch f).Timely where
  ids := by
    show (List.map _ (List.map _ _)).Nodup
    rw [List.map_map]
    exact h.ids
  timer entry he := by
    obtain ⟨before, hbefore, rfl⟩ := List.mem_map.mp he
    exact h.timer before hbefore
  since entry he := by
    obtain ⟨before, hbefore, rfl⟩ := List.mem_map.mp he
    exact h.since before hbefore

theorem Places.timely {hello : Hello} {c : Connection} (h : p.Timely) (hp : p.Places hello c p') : p'.Timely := by
  cases hp with
  | refused => exact h
  | waits _ hfree => exact h.await hfree c
  | joins => exact ⟨(h.forget _).ids, (h.forget _).timer, (h.forget _).since⟩
  | parts => exact h.forget _

theorem Timely.wait (h : p.Timely) (ms : Nat) : { p with clock := p.clock + ms }.Timely where
  ids := h.ids
  timer := h.timer
  since entry he := Nat.le_add_right_of_le (h.since entry he)

/-- all timers that were due have run out -/
def Prompt (p : Pairer) : Prop := ∀ timer ∈ p.timers, p.clock < timer.2

/-- nobody waits any longer than the timeout -/
theorem Timely.lt_timeout (h : p.Timely) (hprompt : p.Prompt) {entry : SessionId × Half} (he : entry ∈ p.pending) :
    p.clock < entry.2.since + p.timeout :=
  hprompt _ (h.timer entry he)

/-- a timer that runs out drops a connection that has waited for the timeout, unless a timer is left of another connection
that had the same id -/
theorem timeout_le_of_expire {entry : SessionId × Half} {timer : SessionId × Nat} (he : entry ∈ p.pending)
    (hsole : ∀ t ∈ p.timers, t.1 = entry.1 → t.2 = entry.2.since + p.timeout) (ht : timer ∈ p.timers)
    (hdue : timer.2 ≤ p.clock) (hdropped : entry ∉ (p.expire timer).pending) :
    entry.2.since + p.timeout ≤ p.clock := by
  have hsame : timer.1 = entry.1 :=
    Decidable.byContradiction fun hne => hdropped (List.mem_filter.mpr ⟨he, bne_iff_ne.mpr (Ne.symm hne)⟩)
  rw [← hsole timer ht hsame]
  exact hdue

/-- such a timer is left when a session is complete and its id is used again, by a connection that has waited for a
second then instead of five -/
example :
    let id : SessionId := ⟨7⟩
    let requests := Hello.bytes (.new id .requests)
    let s := Reception.run {} 5000 [.arrive 0 0, .speak 0 requests false, .takeUp 0, .arrive 0 0,
      .speak 1 (Hello.bytes (.new id .events)) false, .takeUp 1, .wait 4000, .arrive 0 0, .speak 2 requests false,
      .takeUp 2, .wait 1000]
    s.pairer.pending.map (fun entry => (entry.2.connection.number, entry.2.since)) = [(2, 4000)] ∧
      (s.act (.expire (id, 5000))).pairer.pending = [] := by
  decide

theorem clock_foldl_expire (timers : List (SessionId × Nat)) (p : Pairer) :
    (timers.foldl Pairer.expire p).clock = p.clock := by
  induction timers generalizing p with
  | nil => rfl
  | cons timer timers ih => exact ih (p.expire timer)

theorem count_foldl_expire (timers : List (SessionId × Nat)) (p : Pairer) (timer : SessionId × Nat) :
    (timers.foldl Pairer.expire p).timers.count timer = p.timers.count timer - timers.count timer := by
  induction timers generalizing p with
  | nil => rfl
  | cons first timers ih =>
    refine (ih (p.expire first)).trans ?_
    show (p.timers.erase first).count timer - _ = _
    rw [List.count_erase, List.count_cons]
    omega

theorem clock_advance (p : Pairer) (ms : Nat) : (p.advance ms).clock = p.clock + ms := clock_foldl_expire ..

theorem prompt_advance (p : Pairer) (ms : Nat) : (p.advance ms).Prompt := by
  intro timer htimer
  rw [clock_advance]
  refine Nat.lt_of_not_le fun hdue => ?_
  -- a timer that is due is erased as often as it is there
  have hpos := List.count_pos_iff.mpr htimer
  have hleft : (p.advance ms).timers.count timer = p.timers.count timer - _ := count_foldl_expire ..
  have hall := List.count_filter (p := fun t => decide (t.2 ≤ p.clock + ms)) (l := p.timers) (decide_eq_true hdue)
  rw [hleft, hall, Nat.sub_self] at hpos
  exact Nat.lt_irrefl 0 hpos

end Pairer

namespace Reception

variable {s s' : Reception} {n : Nat}

-- the timers that are due stand among all of them in the same order, so none has run out before its turn
theorem foldl_expire (due : List (SessionId × Nat)) (s : Reception) (hsub : due.Sublist s.pairer.timers)
    (hdue : ∀ timer ∈ due, timer.2 ≤ s.pairer.clock) :
    (due.map Action.expire).foldl act s = { s with pairer := due.foldl Pairer.expire s.pairer } := by
  induction due generalizing s with
  | nil => rfl
  | cons timer due ih =>
    have hfirst : s.act (.expire timer) = { s with pairer := s.pairer.expire timer } :=
      if_pos ⟨hsub.subset (List.mem_cons_self ..), hdue timer (List.mem_cons_self ..)⟩
    have hrest := hsub.erase timer
    rw [List.erase_cons_head] at hrest
    rw [List.map_cons, List.foldl_cons, hfirst, List.foldl_cons]
    exact ih _ hrest fun later hlater => hdue later (List.mem_cons_of_mem _ hlater)

/-- some time passes, and the timers run out that are due then -/
def passage (s : Reception) (ms : Nat) : List Action :=
  .wait ms :: (s.pairer.timers.filter (·.2 ≤ s.pairer.clock + ms)).map .expire

theorem foldl_passage (s : Reception) (ms : Nat) :
    (s.passage ms).foldl act s = { s with pairer := s.pairer.advance ms } :=
  foldl_expire _ (s.act (.wait ms)) List.filter_sublist fun _ ht => of_decide_eq_true (List.mem_filter.mp ht).2

theorem Takes.timely (h : s.pairer.Timely) (ha : s.Takes n s') : s'.pairer.Timely := by
  cases ha with
  | idle | turnsAway => exact h
  | places _ _ hp => exact hp.timely h

theorem timely_act (h : s.pairer.Timely) (a : Action) : (s.act a).pairer.Timely := by
  cases a with
  | arrive => exact h
  | speak => exact h.touch _
  | takeUp n => exact (s.takes_takeUp n).timely h
  | giveUp n => obtain heq | heq := s.giveUp_cases n <;> rw [act, heq] <;> exact h
  | wait ms => exact h.wait ms
  | expire timer =>
    obtain heq | ⟨-, heq⟩ := s.expire_cases timer <;> rw [act, heq]
    · exact h
    · exact h.expire timer
  | dropReceiver => exact ⟨h.ids, h.timer, h.since⟩

end Reception

end TunnelControl
