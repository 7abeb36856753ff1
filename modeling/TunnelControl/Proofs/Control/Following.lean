import TunnelControl.Control.Perform
import TunnelControl.Proofs.Control.Printout

/-!
# The news of an update, up to their end

Events arrive at any times; those of an update are handed on and printed, until the final step or the deadline.  No time
passes as long as there is something to be done.

* `Following.Move`, `run`      what follows an update, behind some moves;
* `Following.arrivals`         the events that arrive in a run, with their times;
* `Following.Sound`            what has been printed, and what is on its way, in every run;
* `Following.exists_time`      time goes on, and `exists_arrivals`: events may arrive at any times;
* `Following.KeepsAccount`     what is printed, and when it ends;
* `Following.keeps_account`    it holds in every run in which no progress arrives just at the deadline.
-/

namespace TunnelControl

namespace Following

/-! ## runs -/

inductive Move
  | arrive (e : Event)
  /-- an observer hands its next event on, if it has one -/
  | handOn (observer : Nat)
  /-- the next event is printed, if there is one and nothing has ended -/
  | receive
  /-- the deadline is noticed, if it is over and nothing has ended -/
  | expire
  /-- time passes, if nothing else can be done -/
  | pass
  deriving DecidableEq

def act (f : Following) : Move → Following
  | .arrive e => f.arrive e
  | .handOn observer => (f.handOn observer).getD f
  | .receive => f.receive.getD f
  | .expire => f.expire.getD f
  | .pass => f.pass.getD f

def run (f : Following) (moves : List Move) : Following := moves.foldl act f

/-- what arrives by a move, with the time -/
def arrives (f : Following) : Move → List (Nat × Event)
  | .arrive e => [(f.now, e)]
  | _ => []

/-- the events that arrive in a run, with their times -/
def arrivals (f : Following) : List Move → List (Nat × Event)
  | [] => []
  | m :: moves => f.arrives m ++ (f.act m).arrivals moves

/-- no progress arrives just at the deadline -/
def Apart (deadline : Nat) (es : List (Nat × Event)) : Prop :=
  ∀ timed ∈ es, isProgress timed.2 = true → timed.1 ≠ deadline

instance (deadline : Nat) (es : List (Nat × Event)) : Decidable (Apart deadline es) :=
  inferInstanceAs (Decidable (∀ timed ∈ es, isProgress timed.2 = true → timed.1 ≠ deadline))

theorem run_append (f : Following) (before later : List Move) : f.run (before ++ later) = (f.run before).run later :=
  List.foldl_append

theorem arrivals_append (f : Following) (before later : List Move) :
    f.arrivals (before ++ later) = f.arrivals before ++ (f.run before).arrivals later := by
  induction before generalizing f with
  | nil => rfl
  | cons m before ih =>
    rw [List.cons_append, arrivals, arrivals, ih, List.append_assoc]
    rfl

/-! ## the observer -/

/-- the observer of progress, with what it has taken and what waits for it -/
def follower (taken waiting : List Event) : Observers where
  next := 1
  all := [{ id := 0, kind := .updateProgress, taken, queue := waiting }]

section
variable {taken waiting : List Event}

theorem observers_start (deadline : Nat) : (start deadline).observers = follower [] [] := rfl

theorem dispatch_follower (taken waiting : List Event) (e : Event) :
    (follower taken waiting).dispatch e = follower taken (waiting ++ e.progress?.toList.map .updateProgress) := by
  cases e <;> simp [Observers.dispatch, follower, Observer.wants, Observer.panicked, Event.kind, Event.progress?]

theorem nextFor?_follower (taken waiting : List Event) (id : Nat) :
    (follower taken waiting).nextFor? id = if id = 0 then waiting.head? else none := by
  cases id <;> rfl

theorem deliverTo_follower (taken : List Event) (e : Event) (waiting : List Event) :
    (follower taken (e :: waiting)).deliverTo 0 = follower (e :: taken) waiting := by
  simp [Observers.deliverTo, follower, Observer.take, Observer.panicked]

end

/-! ## what one move keeps -/

variable {deadline : Nat} {es : List (Nat × Event)} {waiting : List Event} {f : Following}

/-- what has not ended has printed some of the progress, none of it final, and has the rest on its way.  At the deadline
nothing is on its way any more. -/
structure Going (deadline : Nat) (es : List (Nat × Event)) (waiting : List Event) (f : Following) : Prop where
  now_le : f.now ≤ deadline
  printed : ∃ ps qs, f.printed = ps.map shown ∧ (∀ p ∈ ps, p.isFinal = false) ∧
    f.channel ++ waiting = qs.map .updateProgress ∧ ps ++ qs = progressBefore deadline es
  empty (h : f.now = deadline) : f.channel ++ waiting = []

structure Sound (deadline : Nat) (es : List (Nat × Event)) (waiting : List Event) (f : Following) : Prop where
  deadline_eq : f.deadline = deadline
  observers : ∃ taken, f.observers = follower taken waiting
  atEnd (h : f.ended = true) : f.printed = account deadline es ∧ IsSettled deadline f.now es
  going (h : f.ended = false) : Going deadline es waiting f

/-- with nothing on its way, all progress has been printed -/
theorem Going.all_printed (h : Going deadline es waiting f) (hnothing : f.channel ++ waiting = []) :
    f.printed = (progressBefore deadline es).map shown ∧ ∀ p ∈ progressBefore deadline es, p.isFinal = false := by
  obtain ⟨ps, qs, hprinted, hnone, hway, hall⟩ := h.printed
  obtain rfl := List.map_eq_nil_iff.mp (hway.symm.trans hnothing)
  rw [← hall, List.append_nil]
  exact ⟨hprinted, hnone⟩

theorem sound_start (deadline : Nat) : Sound deadline [] [] (start deadline) where
  deadline_eq := rfl
  observers := ⟨[], rfl⟩
  atEnd := nofun
  going := fun _ => ⟨Nat.zero_le _, ⟨[], [], rfl, nofun, rfl, rfl⟩, fun _ => rfl⟩

theorem sound_arrive (h : Sound deadline es waiting f) {e : Event} (hapart : isProgress e = true → f.now ≠ deadline) :
    Sound deadline (es ++ [(f.now, e)]) (waiting ++ e.progress?.toList.map .updateProgress) (f.arrive e) where
  deadline_eq := h.deadline_eq
  observers := by
    obtain ⟨taken, hobservers⟩ := h.observers
    exact ⟨taken, (congrArg (·.dispatch e) hobservers).trans (dispatch_follower taken waiting e)⟩
  atEnd := by
    intro hended
    obtain ⟨hprinted, hsettled⟩ := h.atEnd hended
    obtain ⟨haccount, hlater⟩ := account_concat hsettled e
    exact ⟨hprinted.trans haccount.symm, hlater⟩
  going := by
    intro hended
    obtain ⟨hnow, ⟨ps, qs, hprinted, hnone, hway, hall⟩, hempty⟩ := h.going hended
    refine ⟨hnow, ⟨ps, qs ++ e.progress?.toList, hprinted, hnone, ?_, ?_⟩, ?_⟩
    · rw [List.map_append, ← hway, List.append_assoc]
      rfl
    · -- progress that arrives now comes in time
      have hin : isProgress e = true → f.now < deadline := fun he => Nat.lt_of_le_of_ne hnow (hapart he)
      rw [progressBefore_append, progressBefore_singleton hin, ← hall, List.append_assoc]
    · intro hat
      have he : e.progress? = none := by
        have hnot : ¬isProgress e = true := fun he => hapart he hat
        rwa [isProgress_eq, Option.not_isSome_iff_eq_none] at hnot
      rw [he]
      exact (congrArg (f.channel ++ ·) (List.append_nil waiting)).trans (hempty hat)

theorem handOn_eq (hobservers : ∃ taken, f.observers = follower taken waiting) (id : Nat) :
    f.handOn id = none ∨ ∃ e rest taken, id = 0 ∧ waiting = e :: rest ∧
      f.handOn id = some { f with observers := follower taken rest, channel := f.channel ++ [e] } := by
  obtain ⟨taken, hobservers⟩ := hobservers
  unfold handOn
  rw [hobservers, nextFor?_follower]
  by_cases hid : id = 0
  · subst hid
    cases waiting with
    | nil => exact .inl rfl
    | cons e rest =>
      refine .inr ⟨e, rest, e :: taken, rfl, rfl, ?_⟩
      rw [deliverTo_follower]
      rfl
  · rw [if_neg hid]
    exact .inl rfl

theorem sound_handOn (h : Sound deadline es waiting f) (id : Nat) :
    ∃ waiting', Sound deadline es waiting' ((f.handOn id).getD f) := by
  obtain hnone | ⟨e, rest, taken, rfl, rfl, hsome⟩ := handOn_eq h.observers id
  · rw [hnone]
    exact ⟨waiting, h⟩
  · rw [hsome]
    refine ⟨rest, h.deadline_eq, ⟨taken, rfl⟩, h.atEnd, fun hended => ?_⟩
    obtain ⟨hnow, ⟨ps, qs, hprinted, hnone, hway, hall⟩, hempty⟩ := h.going hended
    have hmoved : f.channel ++ [e] ++ rest = f.channel ++ e :: rest := List.append_cons .. |>.symm
    exact ⟨hnow, ⟨ps, qs, hprinted, hnone, hmoved.trans hway, hall⟩, fun hat => hmoved.trans (hempty hat)⟩

theorem receive_eq (f : Following) :
    f.receive = none ∧ (f.ended = true ∨ f.channel = []) ∨ ∃ e channel, f.ended = false ∧ f.channel = e :: channel ∧
      f.receive = some { f with channel, printed := f.printed ++ [.event e], ended := isFinalStep e } := by
  unfold receive
  cases f.ended with
  | true => exact .inl ⟨rfl, .inl rfl⟩
  | false =>
    cases f.channel with
    | nil => exact .inl ⟨rfl, .inr rfl⟩
    | cons e channel => exact .inr ⟨e, channel, rfl, rfl, rfl⟩

theorem sound_receive (h : Sound deadline es waiting f) : Sound deadline es waiting (f.receive.getD f) := by
  obtain ⟨hnone, -⟩ | ⟨e, channel, hended, hchannel, hsome⟩ := f.receive_eq
  · rw [hnone]
    exact h
  · rw [hsome]
    obtain ⟨hnow, ⟨ps, qs, hprinted, hnone, hway, hall⟩, hempty⟩ := h.going hended
    rw [hchannel, List.cons_append] at hway hempty
    obtain ⟨p, rest, rfl, rfl, hrest⟩ := List.map_eq_cons_iff.mp hway.symm
    have hshown : f.printed ++ [shown p] = (ps ++ [p]).map shown := by
      rw [hprinted, List.map_append]
      rfl
    refine ⟨h.deadline_eq, h.observers, fun hfinal => ?_, fun hgoing => ?_⟩
    · -- the final step has come: nothing behind it is printed
      have hany : (progressBefore deadline es).any Progress.isFinal = true := by
        rw [← hall, List.any_append, List.any_cons, show p.isFinal = true from hfinal, Bool.true_or, Bool.or_true]
      refine ⟨?_, .inl hany⟩
      show f.printed ++ [shown p] = _
      rw [hshown, account, hany, ← hall, upToFinal_final hnone hfinal]
      exact (List.append_nil _).symm
    · refine ⟨hnow, ⟨ps ++ [p], rest, hshown, ?_, hrest.symm, ?_⟩, fun hat => absurd (hempty hat) (List.cons_ne_nil _ _)⟩
      · exact List.forall_mem_append.mpr ⟨hnone, List.forall_mem_singleton.mpr hgoing⟩
      · rw [← hall]
        exact List.append_cons .. |>.symm

theorem expire_eq (f : Following) :
    f.expire = none ∧ (f.ended = true ∨ f.now < f.deadline) ∨ f.ended = false ∧ f.deadline ≤ f.now ∧
      f.expire = some { f with printed := f.printed ++ [.report .timeout], ended := true } := by
  unfold expire
  cases f.ended with
  | true => exact .inl ⟨rfl, .inl rfl⟩
  | false =>
    by_cases hover : f.deadline ≤ f.now
    · exact .inr ⟨rfl, hover, if_pos (by simpa using hover)⟩
    · exact .inl ⟨if_neg (by simpa using hover), .inr (Nat.lt_of_not_le hover)⟩

theorem sound_expire (h : Sound deadline es waiting f) : Sound deadline es waiting (f.expire.getD f) := by
  obtain ⟨hnone, -⟩ | ⟨hended, hover, hsome⟩ := f.expire_eq
  · rw [hnone]
    exact h
  · rw [hsome]
    rw [h.deadline_eq] at hover
    have hgoing := h.going hended
    obtain ⟨hprinted, hnone⟩ := hgoing.all_printed (hgoing.empty (Nat.le_antisymm hgoing.now_le hover))
    refine ⟨h.deadline_eq, h.observers, fun _ => ⟨?_, .inr hover⟩, nofun⟩
    show f.printed ++ [.report .timeout] = _
    rw [account, any_isFinal_of_forall hnone, upToFinal_of_forall hnone, hprinted]
    rfl

theorem isAtRest_iff (hobservers : ∃ taken, f.observers = follower taken waiting) :
    f.isAtRest = true ↔ waiting = [] ∧ f.receive = none ∧ f.expire = none := by
  obtain ⟨taken, hobservers⟩ := hobservers
  unfold isAtRest
  rw [hobservers]
  simp [follower, and_assoc]

theorem isAtRest_of_ended {taken : List Event} (hobservers : f.observers = follower taken []) (h : f.ended = true) :
    f.isAtRest = true := by
  refine (isAtRest_iff ⟨taken, hobservers⟩).mpr ⟨rfl, ?_, ?_⟩
  · rw [receive, h]
  · rw [expire, h]
    rfl

/-- at rest nothing is on its way, and the deadline is not over yet -/
theorem Sound.atRest (h : Sound deadline es waiting f) (hrest : f.isAtRest = true) (hended : f.ended = false) :
    f.channel ++ waiting = [] ∧ f.now < deadline := by
  obtain ⟨hwaiting, hreceive, hexpire⟩ := (isAtRest_iff h.observers).mp hrest
  constructor
  · obtain ⟨-, hover | hchannel⟩ | ⟨e, channel, -, -, hsome⟩ := f.receive_eq
    · cases hover.symm.trans hended
    · rw [hchannel, hwaiting]
      rfl
    · cases hreceive.symm.trans hsome
  · obtain ⟨-, hover | hnow⟩ | ⟨-, -, hsome⟩ := f.expire_eq
    · cases hover.symm.trans hended
    · exact h.deadline_eq ▸ hnow
    · cases hexpire.symm.trans hsome

theorem sound_pass (h : Sound deadline es waiting f) : Sound deadline es waiting (f.pass.getD f) := by
  unfold pass
  by_cases hrest : f.isAtRest = true
  · rw [if_pos hrest, Option.getD_some]
    refine ⟨h.deadline_eq, h.observers, fun hended => ?_, fun hended => ?_⟩
    · obtain ⟨hprinted, hsettled⟩ := h.atEnd hended
      exact ⟨hprinted, hsettled.mono (Nat.le_succ _)⟩
    · obtain ⟨hnothing, hnow⟩ := h.atRest hrest hended
      exact ⟨hnow, (h.going hended).printed, fun _ => hnothing⟩
  · rw [if_neg hrest]
    exact h

theorem sound_act (h : Sound deadline es waiting f) {m : Move} (hapart : Apart deadline (f.arrives m)) :
    ∃ waiting', Sound deadline (es ++ f.arrives m) waiting' (f.act m) := by
  have hnothing {g : Following} (hg : ∃ waiting', Sound deadline es waiting' g) :
      ∃ waiting', Sound deadline (es ++ []) waiting' g := by
    rw [List.append_nil]
    exact hg
  cases m with
  | arrive e => exact ⟨_, sound_arrive h (hapart _ List.mem_cons_self)⟩
  | handOn observer => exact hnothing (sound_handOn h observer)
  | receive => exact hnothing ⟨waiting, sound_receive h⟩
  | expire => exact hnothing ⟨waiting, sound_expire h⟩
  | pass => exact hnothing ⟨waiting, sound_pass h⟩

theorem sound_run (h : Sound deadline es waiting f) {moves : List Move} (hapart : Apart deadline (f.arrivals moves)) :
    ∃ waiting', Sound deadline (es ++ f.arrivals moves) waiting' (f.run moves) := by
  induction moves generalizing es waiting f with
  | nil =>
    rw [arrivals, List.append_nil]
    exact ⟨waiting, h⟩
  | cons m moves ih =>
    obtain ⟨waiting', hact⟩ := sound_act h fun timed htimed => hapart timed (List.mem_append_left _ htimed)
    rw [arrivals, ← List.append_assoc]
    exact ih hact fun timed htimed => hapart timed (List.mem_append_right _ htimed)

/-! ## the order of the times -/

/-- no time passes with anything else that is done -/
theorem now_act (f : Following) {m : Move} (hm : m ≠ .pass) : (f.act m).now = f.now := by
  cases m with
  | arrive e => rfl
  | handOn observer =>
    show ((f.handOn observer).getD f).now = f.now
    unfold handOn
    cases f.observers.nextFor? observer <;> rfl
  | receive =>
    show (f.receive.getD f).now = f.now
    unfold receive
    split <;> rfl
  | expire =>
    show (f.expire.getD f).now = f.now
    unfold expire
    split <;> rfl
  | pass => exact absurd rfl hm

theorem now_le_act (f : Following) (m : Move) : f.now ≤ (f.act m).now := by
  by_cases hm : m = .pass
  · subst hm
    show f.now ≤ (f.pass.getD f).now
    unfold pass
    split
    · exact Nat.le_succ _
    · exact Nat.le_refl _
  · exact Nat.le_of_eq (now_act f hm).symm

theorem now_le_run (f : Following) (moves : List Move) : f.now ≤ (f.run moves).now := by
  induction moves generalizing f with
  | nil => exact Nat.le_refl _
  | cons m moves ih => exact Nat.le_trans (now_le_act f m) (ih (f.act m))

theorem time_of_mem_arrives {m : Move} {timed : Nat × Event} (h : timed ∈ f.arrives m) : timed.1 = f.now := by
  cases m with
  | arrive e => rw [List.mem_singleton.mp h]
  | _ => cases h

theorem now_le_of_mem_arrivals {moves : List Move} {timed : Nat × Event} (h : timed ∈ f.arrivals moves) :
    f.now ≤ timed.1 := by
  induction moves generalizing f with
  | nil => cases h
  | cons m moves ih =>
    obtain hnow | hlater := List.mem_append.mp h
    · exact Nat.le_of_eq (time_of_mem_arrives hnow).symm
    · exact Nat.le_trans (now_le_act f m) (ih hlater)

/-- events arrive in the order of their times -/
theorem pairwise_arrivals (f : Following) (moves : List Move) :
    (f.arrivals moves).Pairwise fun a b => a.1 ≤ b.1 := by
  induction moves generalizing f with
  | nil => exact .nil
  | cons m moves ih =>
    refine List.pairwise_append.mpr ⟨?_, ih (f.act m), ?_⟩
    · cases m with
      | arrive e => exact List.pairwise_singleton ..
      | _ => exact .nil
    · intro first hfirst later hlater
      rw [time_of_mem_arrives hfirst]
      exact Nat.le_trans (now_le_act f m) (now_le_of_mem_arrivals hlater)

/-! ## what can be done by itself -/

/-- what can be done when no event arrives -/
def Move.isOwn : Move → Bool
  | .arrive _ => false
  | _ => true

/-- what can be done at once -/
def Move.isQuick : Move → Bool
  | .handOn _ | .receive | .expire => true
  | _ => false

theorem isOwn_of_isQuick {m : Move} (h : m.isQuick = true) : m.isOwn = true := by
  cases m with
  | arrive e => cases h
  | _ => rfl

theorem arrivals_own (f : Following) {moves : List Move} (h : ∀ m ∈ moves, m.isOwn = true) : f.arrivals moves = [] := by
  induction moves generalizing f with
  | nil => rfl
  | cons m moves ih =>
    obtain ⟨hm, hmoves⟩ := List.forall_mem_cons.mp h
    rw [arrivals, ih (f.act m) hmoves]
    cases m with
    | arrive e => cases hm
    | _ => rfl

theorem now_run_quick (f : Following) {moves : List Move} (h : ∀ m ∈ moves, m.isQuick = true) :
    (f.run moves).now = f.now := by
  induction moves generalizing f with
  | nil => rfl
  | cons m moves ih =>
    obtain ⟨hm, hmoves⟩ := List.forall_mem_cons.mp h
    have hne : m ≠ .pass := by
      rintro rfl
      cases hm
    exact (ih (f.act m) hmoves).trans (now_act f hne)

/-- it has its one observer -/
def HasFollower (f : Following) : Prop := ∃ waiting taken, f.observers = follower taken waiting

theorem hasFollower_act (h : f.HasFollower) (m : Move) : (f.act m).HasFollower := by
  obtain ⟨waiting, taken, hobservers⟩ := h
  cases m with
  | arrive e => exact ⟨_, taken, (congrArg (·.dispatch e) hobservers).trans (dispatch_follower taken waiting e)⟩
  | handOn observer =>
    show ((f.handOn observer).getD f).HasFollower
    obtain hnone | ⟨e, rest, taken', -, -, hsome⟩ := handOn_eq ⟨taken, hobservers⟩ observer
    · rw [hnone]
      exact ⟨waiting, taken, hobservers⟩
    · rw [hsome]
      exact ⟨rest, taken', rfl⟩
  | receive =>
    show (f.receive.getD f).HasFollower
    unfold receive
    split <;> exact ⟨waiting, taken, hobservers⟩
  | expire =>
    show (f.expire.getD f).HasFollower
    unfold expire
    split <;> exact ⟨waiting, taken, hobservers⟩
  | pass =>
    show (f.pass.getD f).HasFollower
    unfold pass
    split <;> exact ⟨waiting, taken, hobservers⟩

theorem hasFollower_run (h : f.HasFollower) (moves : List Move) : (f.run moves).HasFollower := by
  induction moves generalizing f with
  | nil => exact h
  | cons m moves ih => exact ih (hasFollower_act h m)

/-! ## time goes on -/

/-- the observer hands on all that waits for it -/
theorem exists_handOn (hobservers : ∃ taken, f.observers = follower taken waiting) :
    ∃ moves, (∀ m ∈ moves, m.isQuick = true) ∧ ∃ taken, (f.run moves).observers = follower taken [] := by
  induction waiting generalizing f with
  | nil => exact ⟨[], nofun, hobservers⟩
  | cons e waiting ih =>
    obtain ⟨taken, htaken⟩ := hobservers
    have hnext : (f.act (.handOn 0)).observers = follower (e :: taken) waiting := by
      show ((f.handOn 0).getD f).observers = _
      rw [handOn, htaken, nextFor?_follower, if_pos rfl, deliverTo_follower]
      rfl
    obtain ⟨moves, hquick, hrest⟩ := ih ⟨_, hnext⟩
    exact ⟨.handOn 0 :: moves, List.forall_mem_cons.mpr ⟨rfl, hquick⟩, hrest⟩

/-- what has been handed on is printed, up to the end -/
theorem exists_receive (f : Following) :
    ∃ moves, (∀ m ∈ moves, m.isQuick = true) ∧ (f.run moves).observers = f.observers ∧ (f.run moves).receive = none := by
  generalize hchannel : f.channel = channel
  induction channel generalizing f with
  | nil =>
    obtain ⟨hnone, -⟩ | ⟨e, channel, -, hcons, -⟩ := f.receive_eq
    · exact ⟨[], nofun, rfl, hnone⟩
    · cases hcons.symm.trans hchannel
  | cons e channel ih =>
    obtain ⟨hnone, -⟩ | ⟨e', channel', -, hcons, hsome⟩ := f.receive_eq
    · exact ⟨[], nofun, rfl, hnone⟩
    · obtain ⟨rfl, rfl⟩ := List.cons_eq_cons.mp (hcons.symm.trans hchannel)
      have hact : f.act .receive = _ := congrArg (·.getD f) hsome
      obtain ⟨moves, hquick, hsame, hnone⟩ := ih (f.act .receive) (by rw [hact]; rfl)
      refine ⟨.receive :: moves, List.forall_mem_cons.mpr ⟨rfl, hquick⟩, hsame.trans ?_, hnone⟩
      rw [hact]
      rfl

/-- all is done that can be done at once -/
theorem exists_rest (h : f.HasFollower) : ∃ moves, (∀ m ∈ moves, m.isQuick = true) ∧ (f.run moves).isAtRest = true := by
  obtain ⟨waiting, hobservers⟩ := h
  obtain ⟨handOns, hfirst, taken, htaken⟩ := exists_handOn hobservers
  obtain ⟨receives, hsecond, hsame, hreceive⟩ := exists_receive (f.run handOns)
  have hquick : ∀ m ∈ handOns ++ receives, m.isQuick = true := List.forall_mem_append.mpr ⟨hfirst, hsecond⟩
  rw [← run_append] at hsame hreceive
  rw [htaken] at hsame
  obtain ⟨hexpire, -⟩ | ⟨-, -, hsome⟩ := (f.run (handOns ++ receives)).expire_eq
  · exact ⟨_, hquick, (isAtRest_iff ⟨taken, hsame⟩).mpr ⟨rfl, hreceive, hexpire⟩⟩
  · refine ⟨handOns ++ receives ++ [.expire], List.forall_mem_append.mpr ⟨hquick, by simp [Move.isQuick]⟩, ?_⟩
    have hact : f.run (handOns ++ receives ++ [.expire]) = _ :=
      (run_append ..).trans (congrArg (·.getD (f.run (handOns ++ receives))) hsome)
    rw [hact]
    exact isAtRest_of_ended hsame rfl

/-- any later time comes, with what there is to be done before -/
theorem exists_time (h : f.HasFollower) {time : Nat} (htime : f.now ≤ time) :
    ∃ moves, (∀ m ∈ moves, m.isOwn = true) ∧ (f.run moves).now = time := by
  induction htime with
  | refl => exact ⟨[], nofun, rfl⟩
  | @step time hle ih =>
    obtain ⟨before, hown, hnow⟩ := ih
    obtain ⟨quick, hquick, hrest⟩ := exists_rest (hasFollower_run h before)
    have hsame := now_run_quick (f.run before) hquick
    rw [← run_append] at hrest hsame
    refine ⟨before ++ quick ++ [.pass], ?_, ?_⟩
    · exact List.forall_mem_append.mpr ⟨List.forall_mem_append.mpr ⟨hown, fun m hm => isOwn_of_isQuick (hquick m hm)⟩,
        List.forall_mem_singleton.mpr rfl⟩
    · rw [run_append]
      show ((f.run (before ++ quick)).pass.getD _).now = time + 1
      rw [pass, if_pos hrest, ← hnow, ← hsame]
      rfl

/-- events may arrive at any times -/
theorem exists_arrivals (h : f.HasFollower) {es : List (Nat × Event)} (hsorted : es.Pairwise fun a b => a.1 ≤ b.1)
    (hlate : ∀ timed ∈ es, f.now ≤ timed.1) : ∃ moves, f.arrivals moves = es := by
  induction es generalizing f with
  | nil => exact ⟨[], rfl⟩
  | cons timed es ih =>
    obtain ⟨hfirst, hrest⟩ := List.pairwise_cons.mp hsorted
    obtain ⟨before, hown, hnow⟩ := exists_time h (hlate timed List.mem_cons_self)
    have hact := hasFollower_act (hasFollower_run h before) (.arrive timed.2)
    obtain ⟨later, hlater⟩ := ih hact hrest fun other hother => hnow ▸ hfirst other hother
    refine ⟨before ++ .arrive timed.2 :: later, ?_⟩
    rw [arrivals_append, arrivals_own f hown, arrivals, hlater, List.nil_append, arrives, hnow]
    rfl

/-- left alone, it comes to its end -/
theorem Sound.exists_end (h : Sound deadline es waiting f) :
    ∃ moves, (∀ m ∈ moves, m.isOwn = true) ∧ (f.run moves).ended = true := by
  by_cases hended : f.ended = true
  · exact ⟨[], nofun, hended⟩
  · -- it has ended when the deadline is past
    have hnow := Nat.le_succ_of_le (h.going (eq_false_of_ne_true hended)).now_le
    obtain ⟨moves, hown, htime⟩ := exists_time ⟨waiting, h.observers⟩ hnow
    have hapart : Apart deadline (f.arrivals moves) := by
      rw [arrivals_own f hown]
      exact nofun
    obtain ⟨waiting', hlater⟩ := sound_run h hapart
    refine ⟨moves, hown, ?_⟩
    by_contra hgoes
    have hle := (hlater.going (eq_false_of_ne_true hgoes)).now_le
    rw [htime] at hle
    exact Nat.not_succ_le_self deadline hle

/-! ## the whole account -/

/-- what is printed of events that have arrived at their times, and when it ends -/
structure KeepsAccount (deadline : Nat) (es : List (Nat × Event)) (f : Following) : Prop where
  /-- before the end only progress that came in time has been printed, in its order -/
  going (h : f.ended = false) : f.printed <+: (progressBefore deadline es).map shown
  /-- and all of it, when nothing is left to be done at this time -/
  complete (h : f.ended = false) (hrest : f.isAtRest = true) : f.printed = (progressBefore deadline es).map shown
  atEnd (h : f.ended = true) : f.printed = account deadline es ∧ IsSettled deadline f.now es
  inTime (h : f.ended = false) : f.now ≤ deadline
  /-- it ends at the time at which all is settled -/
  ends (hrest : f.isAtRest = true) (h : IsSettled deadline f.now es) : f.ended = true

theorem Sound.keepsAccount (h : Sound deadline es waiting f) : KeepsAccount deadline es f where
  going hended := by
    obtain ⟨ps, qs, hprinted, -, -, hall⟩ := (h.going hended).printed
    rw [hprinted, ← hall, List.map_append]
    exact List.prefix_append ..
  complete hended hrest := ((h.going hended).all_printed (h.atRest hrest hended).1).1
  atEnd := h.atEnd
  inTime hended := (h.going hended).now_le
  ends hrest hsettled := by
    by_contra hne
    have hended := eq_false_of_ne_true hne
    obtain ⟨hnothing, hnow⟩ := h.atRest hrest hended
    obtain hfinal | hover := hsettled
    · cases hfinal.symm.trans (any_isFinal_of_forall ((h.going hended).all_printed hnothing).2)
    · exact Nat.not_lt.mpr hover hnow

/-- **The progress of an update is printed as it comes, up to the final step; if none comes in time, all that came is
printed and then that the time is over.** -/
theorem keeps_account (deadline : Nat) (moves : List Move) (h : Apart deadline ((start deadline).arrivals moves)) :
    KeepsAccount deadline ((start deadline).arrivals moves) ((start deadline).run moves) ∧
      (∃ rest, (∀ m ∈ rest, m.isOwn = true) ∧ ((start deadline).run (moves ++ rest)).ended = true) ∧
      (∀ es : List (Nat × Event), es.Pairwise (fun a b => a.1 ≤ b.1) → ∃ before, (start deadline).arrivals before = es) ∧
      followed deadline ((start deadline).arrivals moves) = account deadline ((start deadline).arrivals moves) ∧
      (∀ timeoutSecs last observer arrived far,
        (ControlCommand.update timeoutSecs).conclude last observer arrived far =
          account (1000 * timeoutSecs) ((far.seenBy observer ++ arrived).map fun e => (0, e))) := by
  obtain ⟨waiting, hsound⟩ := sound_run (sound_start deadline) h
  refine ⟨hsound.keepsAccount, ?_, ?_, followed_eq_account (pairwise_arrivals ..) deadline, ?_⟩
  · obtain ⟨rest, hown, hended⟩ := hsound.exists_end
    exact ⟨rest, hown, run_append .. ▸ hended⟩
  · intro es hsorted
    exact exists_arrivals ⟨[], [], observers_start deadline⟩ hsorted fun timed _ => Nat.zero_le timed.1
  · intro timeoutSecs last observer arrived far
    refine followed_eq_account ?_ _
    rw [List.pairwise_map]
    exact List.pairwise_of_forall fun _ _ => Nat.le_refl 0

/-- an update takes a step, the tunnel runs, and the update is done a millisecond later -/
def threeEvents : List Move :=
  [.arrive (.updateProgress (.underWay "check")), .arrive (.tunnelStateChanged .running), .handOn 0, .receive, .pass,
    .arrive (.updateProgress (.failed "check" "offline")), .handOn 0, .receive]

theorem keeps_account_threeEvents :
    Apart 5 ((start 5).arrivals threeEvents) ∧
      ((start 5).run threeEvents).printed =
        [.event (.updateProgress (.underWay "check")), .event (.updateProgress (.failed "check" "offline"))] ∧
      ((start 5).run threeEvents).printed = account 5 ((start 5).arrivals threeEvents) := by
  have hapart : Apart 5 ((start 5).arrivals threeEvents) := by decide
  have hended : ((start 5).run threeEvents).ended = true := by decide
  exact ⟨hapart, by decide, ((keeps_account 5 threeEvents hapart).1.atEnd hended).1⟩

end Following

end TunnelControl
