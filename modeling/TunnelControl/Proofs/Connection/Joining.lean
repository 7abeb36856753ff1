import TunnelControl.Proofs.Connection.Timers

/-!
# The right connections join

* `Reception.Faithful`    each connection is what its client made of it, less the hello that was read;
* `Reception.Meets`       a connection says hello to one that waits for it;
* `Reception.sessions_act`   a session comes about only so;
* `Reception.right_connections_join`   the pairer joins those that belong together, and no others.
-/

namespace TunnelControl

open Reception (Action)

/-! ## connections and their clients -/

namespace Reception

variable {s s' : Reception} {n : Nat} {f : Connection → Connection}

/-- a connection is what its client has made of it -/
def Made (made : List Connection) (c : Connection) : Prop := made[c.number]? = some c

/-- a session consists of two connections of one user, that have been made for it -/
structure Joined (policy : AdminPolicy) (made : List Connection) (session : PairedSession) : Prop where
  requests : Made made (session.requests.withHello (.new session.id .requests))
  events : Made made (session.events.withHello (.new session.id .events))
  user : session.requests.uid = session.events.uid
  token : session.token = policy.grant session.requests.uid session.requests.gid

structure Faithful (s : Reception) : Prop where
  arriving : ∀ entry ∈ s.arriving, Made s.made entry.1
  waiting : ∀ entry ∈ s.pairer.pending, Made s.made (entry.2.connection.withHello (.new entry.1 entry.2.channel))
  joined : ∀ session ∈ s.pairer.paired, Joined s.pairer.policy s.made session

theorem Made.touch {made : List Connection} {c : Connection} (h : Made made c) (hf : Connection.Adds f) :
    Made (made.map f) (f c) := by
  unfold Made
  rw [hf.number, List.getElem?_map, h]
  rfl

theorem Faithful.touch (h : s.Faithful) (hf : Connection.Adds f) : (s.touch f).Faithful where
  arriving entry he := by
    obtain ⟨before, hbefore, rfl⟩ := List.mem_map.mp he
    exact (h.arriving before hbefore).touch hf
  waiting entry he := by
    obtain ⟨before, hbefore, rfl⟩ := List.mem_map.mp he
    have hmade := (h.waiting before hbefore).touch hf
    rwa [hf.withHello] at hmade
  joined session hs := by
    obtain ⟨before, hbefore, rfl⟩ := List.mem_map.mp hs
    have hjoined := h.joined before hbefore
    refine ⟨?_, ?_, ?_, ?_⟩
    · have hmade := hjoined.requests.touch hf
      rwa [hf.withHello] at hmade
    · have hmade := hjoined.events.touch hf
      rwa [hf.withHello] at hmade
    · exact (hf.uid _).trans (hjoined.user.trans (hf.uid _).symm)
    · show before.token = s.pairer.policy.grant (f before.requests).uid (f before.requests).gid
      rw [hf.uid, hf.gid]
      exact hjoined.token

theorem Made.concat {made : List Connection} {c : Connection} (h : Made made c) (new : Connection) :
    Made (made ++ [new]) c :=
  (List.getElem?_append_left (List.getElem?_eq_some_iff.mp h).1).trans h

theorem Faithful.arrive (h : s.Faithful) (uid gid : UInt32) : (s.act (.arrive uid gid)).Faithful where
  arriving entry he := by
    obtain he | he := List.mem_append.mp he
    · exact (h.arriving entry he).concat _
    · obtain rfl := List.mem_singleton.mp he
      exact List.getElem?_concat_length
  waiting entry he := (h.waiting entry he).concat _
  joined session hs :=
    have hjoined := h.joined session hs
    ⟨hjoined.requests.concat _, hjoined.events.concat _, hjoined.user, hjoined.token⟩

theorem Faithful.without (h : s.Faithful) (n : Nat) : (s.without n).Faithful where
  arriving entry he := h.arriving entry (List.mem_filter.mp he).1
  waiting := h.waiting
  joined := h.joined

theorem Faithful.forget (h : s.Faithful) (id : SessionId) : { s with pairer := s.pairer.forget id }.Faithful where
  arriving := h.arriving
  waiting entry he := h.waiting entry (List.mem_filter.mp he).1
  joined := h.joined

theorem eq_new_of_version {h : Hello} (hversion : h.version = protocolVersion) : h = .new h.session h.channel := by
  unfold Hello.new
  rw [← hversion]

/-- two connections that fit make a session of what their clients have made -/
theorem Joined.sessionOf {first : Half} {h : Hello} {c : Connection} (hfits : first.Fits h.channel c)
    {made : List Connection} (hwaits : Made made (first.connection.withHello (.new h.session first.channel)))
    (hcomes : Made made (c.withHello (.new h.session h.channel))) (p : Pairer) :
    Joined p.policy made (p.sessionOf first h c) := by
  obtain ⟨huser, hother⟩ := hfits
  unfold Pairer.sessionOf
  cases hlater : h.channel <;> cases hfirst : first.channel
  case requests.requests | events.events => exact absurd (hfirst.trans hlater.symm) hother
  all_goals rw [hfirst] at hwaits; rw [hlater] at hcomes
  · exact ⟨hcomes, hwaits, huser.symm, rfl⟩
  · exact ⟨hwaits, hcomes, huser, rfl⟩

theorem Takes.faithful (h : s.Faithful) (ha : s.Takes n s') : s'.Faithful := by
  cases ha with
  | idle => exact h
  | turnsAway => exact h.without n
  | @places c hello since p hn hc hp =>
    have hmade : Made s.made (c.withHello hello) := h.arriving _ hc
    cases hp with
    | refused => exact h.without n
    | parts => exact (h.without n).forget hello.session
    | waits hversion =>
      rw [eq_new_of_version hversion] at hmade
      refine ⟨(h.without n).arriving, fun entry he => ?_, h.joined⟩
      obtain he | he := List.mem_append.mp he
      · exact h.waiting entry he
      · obtain rfl := List.mem_singleton.mp he
        exact hmade
    | joins hversion hfirst hfits =>
      rw [eq_new_of_version hversion] at hmade
      refine ⟨(h.without n).arriving, ((h.without n).forget hello.session).waiting, fun session hs => ?_⟩
      obtain hs | hs := List.mem_append.mp hs
      · exact h.joined session hs
      · obtain rfl := List.mem_singleton.mp hs
        exact Joined.sessionOf hfits (h.waiting _ (Pairer.mem_of_half? hfirst)) hmade s.pairer

theorem Takes.settings (ha : s.Takes n s') :
    s'.pairer.policy = s.pairer.policy ∧ s'.pairer.timeout = s.pairer.timeout := by
  cases ha with
  | idle | turnsAway => exact ⟨rfl, rfl⟩
  | places _ _ hp => cases hp <;> exact ⟨rfl, rfl⟩

/-! ## runs -/

theorem faithful_act (h : s.Faithful) (a : Action) : (s.act a).Faithful := by
  cases a with
  | arrive uid gid => exact h.arrive uid gid
  | speak n bytes last => exact h.touch (Connection.adds_speak n bytes last)
  | takeUp n => exact (s.takes_takeUp n).faithful h
  | giveUp n =>
    obtain heq | heq := s.giveUp_cases n <;> rw [act, heq]
    · exact h
    · exact h.without n
  | expire timer =>
    obtain heq | ⟨-, heq⟩ := s.expire_cases timer <;> rw [act, heq]
    · exact h
    · exact ⟨h.arriving, (h.forget timer.1).waiting, h.joined⟩
  | wait | dropReceiver => exact ⟨h.arriving, h.waiting, h.joined⟩

theorem settings_act (s : Reception) (a : Action) :
    (s.act a).pairer.policy = s.pairer.policy ∧ (s.act a).pairer.timeout = s.pairer.timeout := by
  cases a with
  | takeUp n => exact (s.takes_takeUp n).settings
  | giveUp n => obtain heq | heq := s.giveUp_cases n <;> rw [act, heq] <;> exact ⟨rfl, rfl⟩
  | expire timer => obtain heq | ⟨-, heq⟩ := s.expire_cases timer <;> rw [act, heq] <;> exact ⟨rfl, rfl⟩
  | _ => exact ⟨rfl, rfl⟩

/-- what holds after any actions -/
structure Sound (policy : AdminPolicy) (timeout : Nat) (s : Reception) : Prop where
  policy : s.pairer.policy = policy
  timeout : s.pairer.timeout = timeout
  single : s.Single
  timely : s.pairer.Timely
  faithful : s.Faithful

variable {policy : AdminPolicy} {timeout : Nat}

theorem sound_act (h : Sound policy timeout s) (a : Action) : Sound policy timeout (s.act a) where
  policy := (s.settings_act a).1.trans h.policy
  timeout := (s.settings_act a).2.trans h.timeout
  single := single_act h.single a
  timely := timely_act h.timely a
  faithful := faithful_act h.faithful a

theorem sound_foldl (h : Sound policy timeout s) (actions : List Action) :
    Sound policy timeout (actions.foldl act s) := by
  induction actions generalizing s with
  | nil => exact h
  | cons a actions ih => exact ih (sound_act h a)

theorem sound_run (policy : AdminPolicy) (timeout : Nat) (actions : List Action) :
    Sound policy timeout (run policy timeout actions) := by
  have hfresh : Sound policy timeout { pairer := { policy, timeout } } :=
    ⟨rfl, rfl, fun _ => Nat.zero_le _, ⟨List.nodup_nil, nofun, nofun⟩, ⟨nofun, nofun, nofun⟩⟩
  exact sound_foldl hfresh actions

/-! ## sessions -/

/-- what tells a session from others: its id, its requests connection and its events connection -/
def key (session : PairedSession) : SessionId × Nat × Nat :=
  (session.id, session.requests.number, session.events.number)

def sessions (s : Reception) : List (SessionId × Nat × Nat) := s.pairer.paired.map key

/-- a connection has said hello, and `c` is what stands behind that -/
def Greets (s : Reception) (n : Nat) (h : Hello) (c : Connection) : Prop :=
  c.number = n ∧ ∃ since, (c.withHello h, since) ∈ s.arriving

/-- a connection has said hello to one that waits for it -/
structure Meets (s : Reception) (n : Nat) (h : Hello) (c : Connection) (first : Half) : Prop where
  greets : s.Greets n h c
  version : h.version = protocolVersion
  waits : s.pairer.half? h.session = some first

theorem Single.takeUp_eq (hs : s.Single) {h : Hello} {c : Connection} (hg : s.Greets n h c) :
    s.takeUp n = { s.without n with pairer := (s.pairer.place h c).2 } := by
  obtain ⟨hn, since, hmem⟩ := hg
  unfold takeUp
  rw [hs.find?_eq hmem hn]
  dsimp only
  rw [Connection.hello_withHello]
  dsimp only
  unfold Pairer.accept
  rw [Connection.hello_withHello]

theorem Single.copies_eq_zero (hs : s.Single) {entry : Connection × Nat} (hmem : entry ∈ s.arriving)
    (hn : entry.1.number = n) {p : Pairer} (hp : p.copies n ≤ s.pairer.copies n) :
    { s.without n with pairer := p }.copies n = 0 := by
  have hout : (entry.1.number != n) = false := bne_eq_false_iff_eq.mpr hn
  -- it stood among those that arrive, which was its one place
  have hleaves := countP_filter_add_le (·.1.number == n) (·.1.number != n) hmem hout
  have hthere : (entry.1.number == n) = true := beq_iff_eq.mpr hn
  have hone := hs.copies_le_one n
  rw [hthere, Bool.toNat_true] at hleaves
  unfold copies without at *
  dsimp only at *
  omega

theorem Single.copies_first (hs : s.Single) {h : Hello} {c : Connection} {first : Half} (hm : s.Meets n h c first) :
    { s.without n with pairer := s.pairer.forget h.session }.copies first.connection.number = 0 := by
  -- it stood among those that wait, which was its one place
  have hleaves := Pairer.copies_forget_add_le hm.waits first.connection.number
  have hwithout := (List.filter_sublist (p := (·.1.number != n)) (l := s.arriving)).countP_le
    (p := (·.1.number == first.connection.number))
  have hone := hs.copies_le_one first.connection.number
  rw [beq_self_eq_true, Bool.toNat_true] at hleaves
  unfold copies without at *
  dsimp only at *
  omega

theorem sessions_touch (hf : Connection.Adds f) (s : Reception) : (s.touch f).sessions = s.sessions := by
  show List.map key (List.map (·.touch f) s.pairer.paired) = _
  rw [List.map_map]
  refine List.map_congr_left fun session _ => ?_
  show (session.id, (f session.requests).number, (f session.events).number) = _
  rw [hf.number, hf.number]
  rfl

/-- a session comes about only where a connection meets one that it fits -/
theorem sessions_act (s : Reception) (a : Action) :
    (s.act a).sessions = s.sessions ∨
    ∃ n h c first, a = .takeUp n ∧ s.Meets n h c first ∧ first.Fits h.channel c ∧ s.pairer.receiverOpen = true ∧
      (s.act a).sessions = s.sessions ++ [key (s.pairer.sessionOf first h c)] := by
  cases a with
  | speak n bytes last => exact .inl (sessions_touch (Connection.adds_speak n bytes last) s)
  | takeUp n =>
    have htakes := s.takes_takeUp n
    show (s.takeUp n).sessions = _ ∨ ∃ m h c first, _ ∧ _ ∧ _ ∧ _ ∧ (s.takeUp n).sessions = _
    generalize s.takeUp n = s' at htakes ⊢
    cases htakes with
    | idle | turnsAway => exact .inl rfl
    | places hn hc hp =>
      cases hp with
      | joins hversion hfirst hfits hopen =>
        exact .inr ⟨n, _, _, _, rfl, ⟨⟨hn, _, hc⟩, hversion, hfirst⟩, hfits, hopen, List.map_append⟩
      | _ => exact .inl rfl
  | giveUp n => obtain heq | heq := s.giveUp_cases n <;> rw [act, heq] <;> exact .inl rfl
  | expire timer => obtain heq | ⟨-, heq⟩ := s.expire_cases timer <;> rw [act, heq] <;> exact .inl rfl
  | _ => exact .inl rfl

theorem sessions_foldl (s : Reception) (actions : List Action) : s.sessions <+: (actions.foldl act s).sessions := by
  induction actions generalizing s with
  | nil => exact List.prefix_rfl
  | cons a actions ih =>
    refine List.IsPrefix.trans ?_ (ih (s.act a))
    obtain heq | ⟨_, _, _, _, -, -, -, -, heq⟩ := s.sessions_act a
    · exact ⟨[], (List.append_nil _).trans heq.symm⟩
    · exact ⟨_, heq.symm⟩

/-- what the pairer owes to those that connect -/
structure Serves (policy : AdminPolicy) (timeout : Nat) (s : Reception) : Prop where
  /-- a connection is in one place at most, -/
  single : ∀ n, s.copies n ≤ 1
  /-- and one that has come and is in none any more has been dropped for good -/
  dropped : ∀ (later : List Action) (n), n < s.made.length → (later.foldl act s).copies n ≤ s.copies n
  /-- what has been joined stays so -/
  kept : ∀ later : List Action, s.sessions <+: (later.foldl act s).sessions
  /-- a connection that waits has sent the hello of a half, and what came behind that is unread -/
  waiting : ∀ entry ∈ s.pairer.pending, Made s.made (entry.2.connection.withHello (.new entry.1 entry.2.channel))
  /-- so have those of a session, which are of one user and get the token of the requests connection -/
  joined : ∀ session ∈ s.pairer.paired, Joined policy s.made session
  /-- one connection waits for an id at most, -/
  ids : (s.pairer.pending.map Prod.fst).Nodup
  /-- and once the timers that are due have run out, none that has waited for the timeout; -/
  prompt : s.pairer.Prompt → ∀ entry ∈ s.pairer.pending, s.pairer.clock < entry.2.since + timeout
  /-- which is so when time has been let pass -/
  passed : ∀ ms, ∀ entry ∈ (s.pairer.advance ms).pending, s.pairer.clock + ms < entry.2.since + timeout
  /-- two that fit are joined, -/
  joins : ∀ n h c first, s.Meets n h c first → first.Fits h.channel c → s.pairer.receiverOpen = true →
    (s.act (.takeUp n)).pairer =
      { s.pairer.forget h.session with paired := s.pairer.paired ++ [s.pairer.sessionOf first h c] }
  /-- and no others are -/
  only : ∀ a, (s.act a).sessions ≠ s.sessions →
    ∃ n h c first, a = .takeUp n ∧ s.Meets n h c first ∧ first.Fits h.channel c
  /-- two that do not fit are dropped, as are all when nobody takes the sessions, and the id is free -/
  parts : ∀ n h c first, s.Meets n h c first → (first.Fits h.channel c → s.pairer.receiverOpen = false) →
    (s.act (.takeUp n)).pairer = s.pairer.forget h.session ∧
    (s.act (.takeUp n)).copies n = 0 ∧ (s.act (.takeUp n)).copies first.connection.number = 0
  /-- one whose id is free waits from now on -/
  waits : ∀ n h c, s.Greets n h c → h.version = protocolVersion → s.pairer.half? h.session = none →
    (s.act (.takeUp n)).pairer = s.pairer.await h c
  /-- one that says no hello, or a wrong one, makes no difference to the others -/
  refused : ∀ n, (∀ h c, s.Greets n h c → h.version ≠ protocolVersion) → (s.act (.takeUp n)).pairer = s.pairer
  /-- nor does one that is given up, as one is that has said no hello in time -/
  silent : ∀ n, (s.act (.giveUp n)).pairer = s.pairer ∧
    ∀ c since, (c, since) ∈ s.arriving → c.number = n → c.hello = .error .noHello →
      since + timeout ≤ s.pairer.clock → (s.act (.giveUp n)).copies n = 0

/-- **The right connections join.** -/
theorem right_connections_join (policy : AdminPolicy) (timeout : Nat) (actions : List Action) :
    Serves policy timeout (run policy timeout actions) := by
  have hs := sound_run policy timeout actions
  generalize run policy timeout actions = s at hs
  exact {
    single := hs.single.copies_le_one
    dropped := fun later n hn => s.copies_foldl_le later hn
    kept := s.sessions_foldl
    waiting := hs.faithful.waiting
    joined := hs.policy ▸ hs.faithful.joined
    ids := hs.timely.ids
    prompt := fun hprompt entry he => hs.timeout ▸ hs.timely.lt_timeout hprompt he
    passed := fun ms entry he => by
      have hpassed := sound_foldl hs (s.passage ms)
      rw [foldl_passage] at hpassed
      have hlt := hpassed.timely.lt_timeout (s.pairer.prompt_advance ms) he
      rw [hpassed.timeout, s.pairer.clock_advance ms] at hlt
      exact hlt
    joins := fun n h c first hm hfits hopen => by
      show (s.takeUp n).pairer = _
      rw [hs.single.takeUp_eq hm.greets]
      exact Pairer.place_of_fits hm.version hm.waits hfits hopen
    only := fun a hne => by
      obtain heq | ⟨n, h, c, first, ha, hm, hfits, -, -⟩ := s.sessions_act a
      · exact absurd heq hne
      · exact ⟨n, h, c, first, ha, hm, hfits⟩
    parts := fun n h c first hm hnot => by
      show (s.takeUp n).pairer = _ ∧ (s.takeUp n).copies _ = 0 ∧ (s.takeUp n).copies _ = 0
      rw [hs.single.takeUp_eq hm.greets, Pairer.place_of_misfit hm.version hm.waits hnot]
      obtain ⟨hn, since, hmem⟩ := hm.greets
      exact ⟨rfl, hs.single.copies_eq_zero hmem hn (s.pairer.copies_forget_le ..), hs.single.copies_first hm⟩
    waits := fun n h c hg hversion hfree => by
      show (s.takeUp n).pairer = _
      rw [hs.single.takeUp_eq hg]
      exact Pairer.place_of_free hversion hfree
    refused := fun n hno => by
      show (s.takeUp n).pairer = _
      have htakes := s.takes_takeUp n
      generalize s.takeUp n = s' at htakes ⊢
      cases htakes with
      | idle | turnsAway => rfl
      | places hn hc hp =>
        have hversion := hno _ _ ⟨hn, _, hc⟩
        cases hp with
        | refused => rfl
        | waits h | joins h | parts h => exact absurd h hversion
    silent := fun n => by
      refine ⟨?_, fun c since hmem hn hhello hlate => ?_⟩
      · obtain heq | heq := s.giveUp_cases n
        · rw [act, heq]
        · rw [act, heq]
          rfl
      · rw [act, hs.single.giveUp_eq hmem hn hhello (hs.timeout ▸ hlate)]
        exact hs.single.copies_eq_zero hmem hn (Nat.le_refl _) }

/-- the events connection comes first, and the requests connection in two pieces -/
example :
    let id : SessionId := ⟨7⟩
    let requests := Hello.bytes (.new id .requests)
    let s := run {} 5000 [.arrive 0 5, .speak 0 (Hello.bytes (.new id .events)) false, .takeUp 0, .arrive 0 6,
      .speak 1 (requests.take 10) false, .takeUp 1, .wait 4999, .speak 1 (requests.drop 10 ++ [1, 2]) false, .takeUp 1]
    s.pairer.paired.map (fun session => (session.requests.number, session.requests.unread, session.token)) =
      [(1, [1, 2], some ⟨0, 6⟩)] := by
  decide

end Reception

end TunnelControl
