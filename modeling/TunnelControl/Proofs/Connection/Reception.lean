import TunnelControl.Proofs.Connection.Greeting

/-!
# The reception of connections

Connections come, their clients send and hang up, their hellos are read once they are there, time goes by and timers run
out; all that in any order.

* `Reception.run`         what the pairer has come to behind some actions, and what each client has done;
* `Reception.Takes`      what the task of a connection does, case by case;
* `Reception.copies`      in how many places a connection is;
* `Reception.Single`      in one at most, whatever is done.
-/

namespace TunnelControl

/-! ## what clients do -/

/-- the client of a connection sends some bytes, and nothing behind them if they are the last -/
def Connection.speak (n : Nat) (bytes : Bytes) (last : Bool) (c : Connection) : Connection :=
  if c.number = n then { c.send bytes with ended := c.ended || last } else c

/-- something that is done to the client's end of a connection -/
structure Connection.Adds (f : Connection → Connection) : Prop where
  number : ∀ c, (f c).number = c.number
  uid : ∀ c, (f c).uid = c.uid
  gid : ∀ c, (f c).gid = c.gid
  withHello : ∀ c h, f (c.withHello h) = (f c).withHello h

theorem Connection.speak_eq (n : Nat) (bytes : Bytes) (last : Bool) (c : Connection) :
    speak n bytes last c =
      { c with
        unread := c.unread ++ (if c.number = n ∧ c.ended = false then bytes else [])
        ended := c.ended || (c.number == n && last) } := by
  unfold speak send
  by_cases hn : c.number = n
  · cases c.ended <;> simp [hn]
  · simp [hn, beq_false_of_ne hn]

theorem Connection.adds_speak (n : Nat) (bytes : Bytes) (last : Bool) : Adds (speak n bytes last) where
  number c := by rw [speak_eq]
  uid c := by rw [speak_eq]
  gid c := by rw [speak_eq]
  withHello c h := by
    rw [speak_eq, speak_eq]
    unfold withHello
    rw [List.append_assoc]

def Half.touch (f : Connection → Connection) (half : Half) : Half := { half with connection := f half.connection }

def PairedSession.touch (f : Connection → Connection) (session : PairedSession) : PairedSession :=
  { session with requests := f session.requests, events := f session.events }

def Pairer.touch (f : Connection → Connection) (p : Pairer) : Pairer :=
  { p with
    pending := p.pending.map fun entry => (entry.1, entry.2.touch f)
    paired := p.paired.map (·.touch f) }

structure Reception where
  pairer : Pairer
  /-- the connections whose hello has not come, and when they came -/
  arriving : List (Connection × Nat) := []
  /-- all connections, with all that their clients have sent -/
  made : List Connection := []

namespace Reception

inductive Action
  | arrive (uid gid : UInt32)
  | speak (n : Nat) (bytes : Bytes) (last : Bool)
  /-- the task of a connection goes on if there is something for it to read -/
  | takeUp (n : Nat)
  /-- the task of a connection has waited for the hello long enough -/
  | giveUp (n : Nat)
  | wait (ms : Nat)
  /-- a timer runs out that is due -/
  | expire (timer : SessionId × Nat)
  | dropReceiver

def touch (f : Connection → Connection) (s : Reception) : Reception :=
  ⟨s.pairer.touch f, s.arriving.map fun entry => (f entry.1, entry.2), s.made.map f⟩

/-- the task of a connection is done -/
def without (s : Reception) (n : Nat) : Reception :=
  { s with arriving := s.arriving.filter (·.1.number != n) }

def takeUp (s : Reception) (n : Nat) : Reception :=
  match s.arriving.find? (·.1.number == n) with
  | none => s
  | some (c, _) =>
    match c.hello with
    | .error .noHello => s
    | _ => { s.without n with pairer := (s.pairer.accept c).2 }

def giveUp (s : Reception) (n : Nat) : Reception :=
  match s.arriving.find? (·.1.number == n) with
  | none => s
  | some (c, since) =>
    match c.hello with
    | .error .noHello => if since + s.pairer.timeout ≤ s.pairer.clock then s.without n else s
    | _ => s

def expire (s : Reception) (timer : SessionId × Nat) : Reception :=
  if timer ∈ s.pairer.timers ∧ timer.2 ≤ s.pairer.clock then { s with pairer := s.pairer.expire timer } else s

def act (s : Reception) : Action → Reception
  | .arrive uid gid =>
    let c : Connection := ⟨s.made.length, uid, gid, [], false⟩
    { s with arriving := s.arriving ++ [(c, s.pairer.clock)], made := s.made ++ [c] }
  | .speak n bytes last => s.touch (Connection.speak n bytes last)
  | .takeUp n => s.takeUp n
  | .giveUp n => s.giveUp n
  | .wait ms => { s with pairer := { s.pairer with clock := s.pairer.clock + ms } }
  | .expire timer => s.expire timer
  | .dropReceiver => { s with pairer := { s.pairer with receiverOpen := false } }

def run (policy : AdminPolicy) (timeout : Nat) (actions : List Action) : Reception :=
  actions.foldl act { pairer := { policy, timeout } }

variable {s s' : Reception} {n : Nat}

/-! ## the step of a task -/

/-- what the task of a connection does -/
inductive Takes (s : Reception) (n : Nat) : Reception → Prop
  | idle : Takes s n s
  | turnsAway : Takes s n (s.without n)
  | places {c : Connection} {h : Hello} {since : Nat} {p : Pairer} (hn : c.number = n)
      (hc : (c.withHello h, since) ∈ s.arriving) (hp : s.pairer.Places h c p) :
      Takes s n { s.without n with pairer := p }

theorem takes_takeUp (s : Reception) (n : Nat) : s.Takes n (s.takeUp n) := by
  unfold takeUp
  split
  · exact .idle
  · rename_i c since hfind
    have hmem := List.mem_of_find?_eq_some hfind
    have hfound := List.find?_some hfind
    have hn : c.number = n := beq_iff_eq.mp hfound
    split
    · exact .idle
    · cases hhello : c.hello with
      | error e =>
        rw [Pairer.accept_of_hello_error hhello]
        exact .turnsAway
      | ok r =>
        obtain ⟨h, rest⟩ := r
        obtain rfl := Connection.hello_eq_ok_iff.mp hhello
        have haccept : (s.pairer.accept (rest.withHello h)).2 = (s.pairer.place h rest).2 := by
          unfold Pairer.accept
          rw [hhello]
        rw [haccept]
        exact .places (c := rest) hn hmem (s.pairer.places_place h rest)

theorem giveUp_cases (s : Reception) (n : Nat) : s.giveUp n = s ∨ s.giveUp n = s.without n := by
  unfold giveUp
  split
  · exact .inl rfl
  · split
    · split
      · exact .inr rfl
      · exact .inl rfl
    · exact .inl rfl

theorem expire_cases (s : Reception) (timer : SessionId × Nat) :
    s.expire timer = s ∨
    (timer ∈ s.pairer.timers ∧ timer.2 ≤ s.pairer.clock) ∧
      s.expire timer = { s with pairer := s.pairer.expire timer } := by
  unfold expire
  split
  · exact .inr ⟨‹_›, rfl⟩
  · exact .inl rfl

/-! ## in how many places a connection is -/

/-- in how many places a connection is: among those that arrive, those that wait, and those of the sessions -/
def copies (s : Reception) (n : Nat) : Nat := s.arriving.countP (·.1.number == n) + s.pairer.copies n

theorem copies_touch {f : Connection → Connection} (hf : Connection.Adds f) (s : Reception) (n : Nat) :
    (s.touch f).copies n = s.copies n := by
  have hnumber (c : Connection) : ((f c).number == n) = (c.number == n) := by rw [hf.number]
  simp only [copies, Pairer.copies, touch, Pairer.touch, Half.touch, PairedSession.touch, List.countP_map,
    Function.comp_def, hnumber]

theorem copies_without_le (s : Reception) (n m : Nat) : (s.without n).copies m ≤ s.copies m :=
  Nat.add_le_add_right List.filter_sublist.countP_le _

theorem Takes.copies_le (h : s.Takes n s') (m : Nat) : s'.copies m ≤ s.copies m := by
  cases h with
  | idle => exact Nat.le_refl _
  | turnsAway => exact copies_without_le ..
  | @places c h since p hn hc hp =>
    have hplaced := hp.copies_le m
    have hout : ((c.withHello h, since).1.number != n) = false := bne_eq_false_iff_eq.mpr hn
    have hleaves := countP_filter_add_le (·.1.number == m) (·.1.number != n) hc hout
    have hnumber : (c.withHello h).number = c.number := rfl
    unfold copies without
    dsimp only at hleaves ⊢
    rw [hnumber] at hleaves
    omega

/-- how many connections come with an action -/
def Action.newcomers : Action → Nat
  | .arrive .. => 1
  | _ => 0

theorem Takes.made (h : s.Takes n s') : s'.made = s.made := by
  cases h <;> rfl

theorem length_made_act (s : Reception) (a : Action) : (s.act a).made.length = s.made.length + a.newcomers := by
  cases a with
  | arrive => exact List.length_append
  | speak => exact List.length_map ..
  | takeUp n => exact congrArg List.length (s.takes_takeUp n).made
  | giveUp n => obtain h | h := s.giveUp_cases n <;> rw [act, h] <;> rfl
  | expire timer => obtain h | ⟨-, h⟩ := s.expire_cases timer <;> rw [act, h] <;> rfl
  | wait | dropReceiver => rfl

/-- a connection is in no place that it has not come to, and a new one is in one place -/
theorem copies_act_le (s : Reception) (a : Action) (n : Nat) :
    (s.act a).copies n ≤ s.copies n + if n = s.made.length then a.newcomers else 0 := by
  cases a with
  | arrive uid gid =>
    have hcomes : (s.act (.arrive uid gid)).copies n = s.copies n + (s.made.length == n).toNat := by
      unfold copies act
      dsimp only
      rw [countP_concat]
      exact Nat.add_right_comm ..
    rw [hcomes]
    refine Nat.add_le_add_left ?_ _
    split
    · exact Bool.toNat_le _
    · rw [beq_false_of_ne (Ne.symm ‹_›)]
      exact Nat.le_refl 0
  | speak m bytes last =>
    exact Nat.le_add_right_of_le (Nat.le_of_eq (copies_touch (Connection.adds_speak m bytes last) s n))
  | takeUp m => exact Nat.le_add_right_of_le ((s.takes_takeUp m).copies_le n)
  | giveUp m =>
    refine Nat.le_add_right_of_le ?_
    obtain h | h := s.giveUp_cases m
    · exact Nat.le_of_eq (congrArg (copies · n) h)
    · exact Nat.le_trans (Nat.le_of_eq (congrArg (copies · n) h)) (s.copies_without_le m n)
  | expire timer =>
    refine Nat.le_add_right_of_le ?_
    obtain h | ⟨-, h⟩ := s.expire_cases timer
    · exact Nat.le_of_eq (congrArg (copies · n) h)
    · refine Nat.le_trans (Nat.le_of_eq (congrArg (copies · n) h)) ?_
      exact Nat.add_le_add_left (s.pairer.copies_forget_le timer.1 n) _
  | wait | dropReceiver => exact Nat.le_add_right ..

/-- each connection is in one place at most, and in none before it comes -/
def Single (s : Reception) : Prop := ∀ n, s.copies n ≤ if n < s.made.length then 1 else 0

theorem Single.copies_le_one (h : s.Single) (n : Nat) : s.copies n ≤ 1 := by
  have hone := h n
  split at hone <;> omega

theorem eq_of_countP_le_one {α : Type} {p : α → Bool} {l : List α} (h : l.countP p ≤ 1) {a b : α} (ha : a ∈ l)
    (hb : b ∈ l) (hpa : p a = true) (hpb : p b = true) : a = b := by
  have ha' : a ∈ l.filter p := List.mem_filter.mpr ⟨ha, hpa⟩
  have hb' : b ∈ l.filter p := List.mem_filter.mpr ⟨hb, hpb⟩
  rw [List.countP_eq_length_filter] at h
  match hl : l.filter p with
  | [] => rw [hl] at ha'; cases ha'
  | [x] =>
    rw [hl, List.mem_singleton] at ha' hb'
    rw [ha', hb']
  | x :: y :: rest =>
    rw [hl, List.length_cons, List.length_cons] at h
    omega

/-- a connection that arrives is the only one there with its number -/
theorem Single.find?_eq (h : s.Single) {entry : Connection × Nat} (hmem : entry ∈ s.arriving)
    (hn : entry.1.number = n) : s.arriving.find? (·.1.number == n) = some entry := by
  have hthere : (entry.1.number == n) = true := beq_iff_eq.mpr hn
  have hone : s.arriving.countP (·.1.number == n) ≤ 1 := Nat.le_trans (Nat.le_add_right ..) (h.copies_le_one n)
  cases hfind : s.arriving.find? (·.1.number == n) with
  | none => exact absurd hthere (List.find?_eq_none.mp hfind _ hmem)
  | some found =>
    have hfound := List.find?_some hfind
    rw [eq_of_countP_le_one hone (List.mem_of_find?_eq_some hfind) hmem hfound hthere]

/-- a connection whose hello is late is given up -/
theorem Single.giveUp_eq (h : s.Single) {c : Connection} {since : Nat} (hmem : (c, since) ∈ s.arriving)
    (hn : c.number = n) (hhello : c.hello = .error .noHello) (hlate : since + s.pairer.timeout ≤ s.pairer.clock) :
    s.giveUp n = s.without n := by
  rw [giveUp, h.find?_eq hmem hn]
  dsimp only
  rw [hhello]
  exact if_pos hlate

theorem Action.newcomers_le (a : Action) : a.newcomers ≤ 1 := by
  cases a with
  | arrive => exact Nat.le_refl 1
  | _ => exact Nat.zero_le 1

theorem single_act (h : s.Single) (a : Action) : (s.act a).Single := by
  intro n
  have hbefore := h n
  have hact := s.copies_act_le a n
  have hone := a.newcomers_le
  rw [length_made_act]
  split at hbefore <;> split at hact <;> split <;> omega

/-- a connection that is in no place any more stays gone -/
theorem copies_foldl_le (s : Reception) (actions : List Action) (hn : n < s.made.length) :
    (actions.foldl act s).copies n ≤ s.copies n := by
  induction actions generalizing s with
  | nil => exact Nat.le_refl _
  | cons a actions ih =>
    have hact := s.copies_act_le a n
    rw [if_neg (Nat.ne_of_lt hn), Nat.add_zero] at hact
    refine Nat.le_trans (ih (s.act a) ?_) hact
    rw [length_made_act]
    exact Nat.lt_add_right _ hn

end Reception

end TunnelControl
