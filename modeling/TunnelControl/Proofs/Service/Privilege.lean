import TunnelControl.Proofs.Service.Alike
import TunnelControl.Service.Peer
import TunnelControl.Service.Running

/-!
# Sessions without privilege

A session that is not elevated, whose id no other session has, influences nothing but itself.

* `Service.Deed`, `perform`       all that happens to a service: its actions, and what comes to it from elsewhere;
* `dispatch_of_unprivileged`      nothing comes of what the session asks for;
* `AlikeBut.serveStep_own`        what its loop does is not noticed;
* `AlikeBut.perform`              what happens to two services that differ in the session keeps them so;
* `Journal.without`               a run without all that the session does;
* `Journal.unmoved_without`       this run is the same to all others.
-/

namespace TunnelControl

namespace Service

inductive Deed
  | act (a : Action)
  /-- the scheduler of update checks sets or publishes something -/
  | schedule (a : ScheduleAct)
  /-- an installation reports some progress -/
  | report (run : Nat) (item : Progress)
  | endReports
  | takeSignal

def perform (s : Service) : Deed → Service
  | .act a => s.act a
  | .schedule a => Running.perform s a
  | .report run item => (Site.report { service := s } run item).2.service
  | .endReports => (Site.endReports { service := s }).service
  | .takeSignal => s.takeSignal.2

/-! ## what the session does -/

/-- **Whatever a session asks for that is not elevated, nothing comes of it.** -/
theorem dispatch_of_unprivileged {s : Service} {handle : Nat} (ht : s.token? handle = none) (m : Method) :
    (s.dispatch handle m).2 = s := by
  have he : s.isElevated handle = false := by
    rw [isElevated, ht]
    rfl
  cases m with
  | quit stopTunnels =>
    show (s.quit handle stopTunnels).2 = s
    rw [quit_of_denied he]
  | queryUpdateState => rfl
  | triggerUpdate =>
    show s.triggerUpdate handle = s
    simp only [triggerUpdate, ht]
  | startTunnel config =>
    show (s.startTunnel handle config).2 = s
    simp only [startTunnel, he, Bool.false_eq_true, if_false]
  | stopTunnel =>
    show (s.stopTunnel handle).2 = s
    simp only [stopTunnel, he, Bool.false_eq_true, if_false]
  | queryTunnelState => rfl

/-- the session has no token, and its id is its own -/
structure Unprivileged (s : Service) (u : Nat) : Prop where
  token : s.token? u = none
  id : ∀ handle, handle ≠ u → s.hub.id? handle = s.hub.id? u → s.hub.id? u = none

namespace AlikeBut

variable {u : Nat} {s t : Service}

theorem unprivileged (h : s.AlikeBut u t) (hu : s.Unprivileged u) : t.Unprivileged u := by
  refine ⟨(h.token? u).trans hu.token, fun handle hne => ?_⟩
  rw [h.hub.id? handle, h.hub.id? u]
  exact hu.id handle hne

theorem setLink_own (h : s.AlikeBut u t) {n : Nat} {l : Link} (hl : s.links[n]? = some l) (hu : l.session = u)
    (l' : Link) (hs : l'.session = l.session) : (s.setLink n l').AlikeBut u t := by
  have hn : n < s.links.length := (List.getElem?_eq_some_iff.mp hl).1
  refine ⟨h.hub, fun j => ?_, fun j k hk hne => ?_, ?_⟩
  · show t.links[j]?.map _ = (s.links.set n l')[j]?.map _
    rw [h.sessions j]
    by_cases hj : n = j
    · subst hj
      rw [List.getElem?_set_self hn, hl, Option.map_some, Option.map_some, hs]
    · rw [List.getElem?_set_ne hj]
  · have hk : (s.links.set n l')[j]? = some k := hk
    by_cases hj : n = j
    · subst hj
      rw [List.getElem?_set_self hn] at hk
      cases hk
      exact absurd (hs.trans hu) hne
    · rw [List.getElem?_set_ne hj] at hk
      exact h.links j k hk hne
  · exact congrArg (fun r : Service => { r with links := s.links.set n l' }) h.rest

/-- as the loop of the session ends, a session with an id of its own takes nobody along -/
theorem endLink_own (h : s.AlikeBut u t) {n : Nat} {l l' : Link} (hl : s.links[n]? = some l) (hu : l.session = u)
    (hs : l'.session = l.session) (hown : ∀ handle, handle ≠ u → s.hub.id? handle = s.hub.id? u → s.hub.id? u = none) :
    (s.endLink n l').AlikeBut u t := by
  have hset := h.setLink_own hl hu l'.hangUp hs
  simp only [Service.endLink]
  rw [show (s.setLink n l'.hangUp).hub = s.hub from rfl, hs, hu]
  cases hx : s.hub.session? u with
  | none => exact hset
  | some x =>
    have hid : s.hub.id? u = some x.id := by
      rw [Hub.id?, hx]
      rfl
    refine hset.withHub (k := t.hub) (h.hub.act_of_untouched (a := .leave x.id) rfl fun handle hne => ?_)
    rw [Hub.touch?, if_neg]
    intro hother
    cases (hown handle hne (hother.trans hid.symm)).symm.trans hid

theorem changePipes_own (h : s.AlikeBut u t) {n : Nat} {l : Link} (hl : s.links[n]? = some l) (hown : l.session = u)
    (requests responses : Pipe → Pipe) : (s.changePipes n requests responses).AlikeBut u t := by
  have hset := h.setLink_own hl hown
    { l with requests := requests l.requests, responses := responses l.responses } rfl
  have heq : s.changePipes n requests responses
      = s.setLink n { l with requests := requests l.requests, responses := responses l.responses } := by
    refine congrArg (fun links => { s with links }) (List.ext_getElem? fun j => ?_)
    have hn : n < s.links.length := (List.getElem?_eq_some_iff.mp hl).1
    refine (s.getElem?_changePipes n requests responses j).trans ?_
    by_cases hj : n = j
    · subst hj
      rw [hl, Option.map_some, if_pos rfl, List.getElem?_set_self hn]
    · rw [List.getElem?_set_ne hj]
      cases s.links[j]? with
      | none => rfl
      | some m => rw [Option.map_some, if_neg hj]
  rw [heq]
  exact hset

theorem reply_own (h : s.AlikeBut u t) (hu : s.Unprivileged u) {n : Nat} {l : Link} (hl : s.links[n]? = some l)
    (l' : Link) (hl' : l'.session = l.session) (hown : l.session = u) (payload : Bytes) : (s.reply n l' payload).AlikeBut u t := by
  unfold Service.reply
  cases decodePayload Method payload with
  | error e => exact h.endLink_own hl hown hl' hu.id
  | ok m =>
    simp only
    have hset := h.setLink_own hl hown l' hl'
    have htoken : (s.setLink n l').token? l'.session = none := by
      rw [hl', hown]
      exact hu.token
    have hlinks : (s.setLink n l').links[n]? = some l' :=
      List.getElem?_set_self (List.getElem?_eq_some_iff.mp hl).1
    rw [dispatch_of_unprivileged htoken]
    cases ((s.setLink n l').dispatch l'.session m).1.frame with
    | ok frame => exact hset.setLink_own hlinks (hl'.trans hown) _ rfl
    | error e => exact hset.endLink_own hlinks (hl'.trans hown) rfl hu.id

/-- **What the loop of an unprivileged session does is not noticed.** -/
theorem serveStep_own (h : s.AlikeBut u t) (hu : s.Unprivileged u) {n : Nat} {l : Link} (hl : s.links[n]? = some l)
    (hown : l.session = u) : ((s.serveStep n).getD s).AlikeBut u t := by
  simp only [Service.serveStep, hl]
  cases l.serving with
  | ended => exact h
  | replying left =>
    simp only
    cases l.responses.write left with
    | broken => exact h.endLink_own hl hown rfl hu.id
    | blocked => exact h
    | wrote rest responses =>
      cases rest with
      | nil => exact h.setLink_own hl hown _ rfl
      | cons b rest => exact h.setLink_own hl hown _ rfl
  | reading reader =>
    simp only
    cases l.requests.take reader.wanted with
    | mk piece requests =>
      cases piece with
      | nil =>
        simp only
        split
        · exact h.endLink_own hl hown rfl hu.id
        · exact h
      | cons b piece =>
        simp only
        cases reader.feed (b :: piece) with
        | more reader => exact h.setLink_own hl hown _ rfl
        | tooLarge length => exact h.endLink_own hl hown rfl hu.id
        | payload payload =>
          exact h.reply_own hu hl { l with requests, serving := .reading reader } rfl hown payload

theorem act (h : s.AlikeBut u t) (hu : s.Unprivileged u) (a : Action) : (s.act a).AlikeBut u (t.act a) := by
  cases a with
  | hub a => exact h.withHub (h.hub.act a.1)
  | serve handle capacity => exact h.serve handle capacity
  | loop n =>
    cases hl : s.links[n]? with
    | none =>
      have hm := h.getElem?_eq_none hl
      show ((s.serveStep n).getD s).AlikeBut u ((t.serveStep n).getD t)
      simp only [Service.serveStep, hl, hm]
      exact h
    | some l =>
      by_cases hown : l.session = u
      · obtain ⟨m, hm, hms⟩ := h.exists_link hl
        have hleft := h.serveStep_own hu hl hown
        exact (hleft.symm.serveStep_own (h.unprivileged hu) hm (hms.trans hown)).symm
      · exact h.serveStep hl hown
  | relay n => exact h.relayStep n
  | send n data => exact h.changePipes n _ _
  | endRequests n => exact h.changePipes n _ _
  | dropRequests n => exact h.changePipes n _ _
  | readAnswers n limit => exact h.changePipes n id fun p => (p.take limit).2

theorem perform (h : s.AlikeBut u t) (hu : s.Unprivileged u) (d : Deed) : (s.perform d).AlikeBut u (t.perform d) := by
  cases d with
  | act a => exact h.act hu a
  | schedule a =>
    cases a with
    | set state => exact h.withRest (f := fun s => { s with updateState := state }) fun _ _ _ => rfl
    | publish event => exact h.withHub (h.hub.act (.publish event false))
    | check => exact h
    | sleep pause => exact h
  | report run item =>
    refine h.withRest (f := fun s => s.perform (.report run item)) fun s k ls => ?_
    show (Site.report { service := { s with hub := k, links := ls } } run item).2.service
      = { (Site.report { service := s } run item).2.service with hub := k, links := ls }
    unfold Site.report
    rw [show Service.relay? { s with hub := k, links := ls } run = s.relay? run from rfl]
    cases s.relay? run with
    | none => rfl
    | some r =>
      simp only
      split <;> rfl
  | endReports => exact h.withRest (f := fun s => s.perform .endReports) fun _ _ _ => rfl
  | takeSignal => exact h.withRest (f := fun s => s.perform .takeSignal) fun _ _ _ => rfl

end AlikeBut

/-! ## what becomes of the hub -/

theorem reaches_endLink {s t : Service} (h : s.hub.Reaches t.hub) (n : Nat) (l : Link) :
    s.hub.Reaches (t.endLink n l).hub := by
  simp only [endLink]
  split
  · exact h.trans (Hub.reaches_act t.hub (.leave _))
  · exact h

theorem reaches_reply (s : Service) (n : Nat) (l : Link) (payload : Bytes) :
    s.hub.Reaches (s.reply n l payload).hub := by
  unfold reply
  cases decodePayload Method payload with
  | error e => exact reaches_endLink (.refl _) n l
  | ok m =>
    have hdispatch := (operates_dispatch (s.setLink n l) l.session m).hub
    simp only
    split
    · exact hdispatch
    · exact reaches_endLink hdispatch n l

theorem reaches_serveStep (s : Service) (n : Nat) : s.hub.Reaches ((s.serveStep n).getD s).hub := by
  simp only [serveStep]
  cases s.links[n]? with
  | none => exact .refl _
  | some l =>
    simp only
    cases l.serving with
    | ended => exact .refl _
    | replying left =>
      simp only
      cases l.responses.write left with
      | broken => exact reaches_endLink (.refl _) n l
      | blocked => exact .refl _
      | wrote rest responses => cases rest <;> exact .refl _
    | reading reader =>
      simp only
      cases l.requests.take reader.wanted with
      | mk piece requests =>
        cases piece with
        | nil =>
          simp only
          split
          · exact reaches_endLink (.refl _) n l
          · exact .refl _
        | cons b piece =>
          simp only
          cases reader.feed (b :: piece) with
          | more reader => exact .refl _
          | tooLarge length => exact reaches_endLink (.refl _) n l
          | payload payload => exact s.reaches_reply n _ payload

theorem reaches_relayStep (s : Service) (n : Nat) : s.hub.Reaches ((s.relayStep n).getD s).hub := by
  unfold relayStep
  cases (s.relay? n).bind Relay.step with
  | none => exact .refl _
  | some step =>
    obtain ⟨item, r⟩ := step
    cases item with
    | none => exact .refl _
    | some item => exact Hub.reaches_act s.hub (.publish (.updateProgress item) true)

theorem reaches_serve (s : Service) (handle capacity : Nat) : s.hub.Reaches (s.serve handle capacity).2.2.hub := by
  have hjoin : s.hub.Reaches (s.hub.join handle).2 := Hub.reaches_act s.hub (.join handle)
  unfold serve
  generalize s.hub.join handle = j at hjoin
  obtain ⟨taken, j⟩ := j
  cases taken <;> exact hjoin

/-- **Whatever happens, the hub becomes what actions on it make of it.** -/
theorem reaches_perform (s : Service) (d : Deed) : s.hub.Reaches (s.perform d).hub := by
  cases d with
  | act a =>
    cases a with
    | hub a => exact Hub.reaches_act s.hub a.1
    | serve handle capacity => exact s.reaches_serve handle capacity
    | loop n => exact s.reaches_serveStep n
    | relay n => exact s.reaches_relayStep n
    | _ => exact .refl _
  | schedule a =>
    cases a with
    | publish event => exact Hub.reaches_act s.hub (.publish event false)
    | _ => exact .refl _
  | report run item =>
    show s.hub.Reaches (Site.report { service := s } run item).2.service.hub
    unfold Site.report
    split
    · split <;> exact .refl _
    · exact .refl _
  | endReports => exact .refl _
  | takeSignal => exact .refl _

theorem Unprivileged.of_reaches {s t : Service} {u : Nat} (h : t.Unprivileged u) (hm : s.hub.MembersSound)
    (hr : s.hub.Reaches t.hub) : s.Unprivileged u := by
  constructor
  · cases hs : s.hub.session? u with
    | none => rw [token?, hs, Option.bind_none]
    | some x =>
      have hface : s.hub.face u = some (x.id, x.token) := by
        rw [Hub.face, hs]
        rfl
      obtain ⟨y, hy, heq⟩ := Option.map_eq_some_iff.mp (hr.face hm hface)
      have htoken := h.token
      rw [token?, hy, Option.bind_some] at htoken
      rw [token?, hs, Option.bind_some]
      exact (congrArg Prod.snd heq).symm.trans htoken
  · intro handle hne hid
    cases hu : s.hub.id? u with
    | none => rfl
    | some id =>
      have hu' := hr.id? hu
      have hother := hr.id? (hid.trans hu)
      cases (h.id handle hne (hother.trans hu'.symm)).symm.trans hu'

end Service

/-! ## runs -/

/-- a service, with what the clients of its sessions have read -/
structure Journal where
  service : Service
  answers : List (Nat × Bytes) := []
  events : List (Nat × Bytes) := []

namespace Service

/-- what is read of the answers to a session -/
def answersRead (s : Service) : Deed → List (Nat × Bytes)
  | .act (.readAnswers n limit) => s.links[n]?.toList.map fun l => (l.session, (l.responses.take limit).1)
  | _ => []

def eventsRead (s : Service) : Deed → List (Nat × Bytes)
  | .act (.hub a) => s.hub.delivers a.1
  | _ => []

/-- whether it is the client of a session that does it: it sends requests, ends or drops its streams, reads -/
def isDoneBy (s : Service) (u : Nat) : Deed → Bool
  | .act (.hub ⟨.receive handle _, _⟩) | .act (.hub ⟨.take handle _, _⟩) | .act (.hub ⟨.dropClient handle, _⟩) =>
    handle == u
  | .act (.send n _) | .act (.endRequests n) | .act (.dropRequests n) | .act (.readAnswers n _) =>
    s.links[n]?.any (·.session == u)
  | _ => false

end Service

namespace Journal

open Service (Deed)

def perform (j : Journal) (d : Deed) : Journal :=
  { service := j.service.perform d
    answers := j.answers ++ j.service.answersRead d
    events := j.events ++ j.service.eventsRead d }

def run (j : Journal) (ds : List Deed) : Journal := ds.foldl perform j

/-- a run without all that a session does -/
def without (u : Nat) : Service → List Deed → List Deed
  | _, [] => []
  | s, d :: ds =>
    if s.isDoneBy u d then without u (s.perform d) ds else d :: without u (s.perform d) ds

/-- the same to all but one session -/
structure SameBut (u : Nat) (j k : Journal) : Prop where
  service : j.service.AlikeBut u k.service
  answers : ∀ handle, handle ≠ u → entriesOf handle k.answers = entriesOf handle j.answers
  events : ∀ handle, handle ≠ u → entriesOf handle k.events = entriesOf handle j.events

theorem entriesOf_answersRead {u : Nat} {s t : Service} (h : s.AlikeBut u t) {handle : Nat} (hne : handle ≠ u)
    (d : Deed) : entriesOf handle (t.answersRead d) = entriesOf handle (s.answersRead d) := by
  cases d with
  | act a =>
    cases a with
    | readAnswers n limit =>
      have hread (l : Link) : entriesOf handle [(l.session, (l.responses.take limit).1)]
          = if l.session = handle then [(l.responses.take limit).1] else [] := by
        split
        · rename_i heq
          exact heq ▸ entriesOf_self l.session [(l.responses.take limit).1]
        · rename_i hother
          exact entriesOf_of_ne hother [(l.responses.take limit).1]
      show entriesOf handle (t.links[n]?.toList.map _) = entriesOf handle (s.links[n]?.toList.map _)
      cases hl : s.links[n]? with
      | none => rw [h.getElem?_eq_none hl]
      | some l =>
        obtain ⟨m, hm, hms⟩ := h.exists_link hl
        rw [hm]
        show entriesOf handle [_] = entriesOf handle [_]
        by_cases hown : l.session = u
        · rw [hread, hread, hms, if_neg fun heq => hne (heq.symm.trans hown),
            if_neg fun heq => hne (heq.symm.trans hown)]
        · cases hm.symm.trans (h.links n l hl hown)
          rfl
    | _ => rfl
  | _ => rfl

theorem entriesOf_eventsRead {u : Nat} {s t : Service} (h : s.AlikeBut u t) {handle : Nat} (hne : handle ≠ u)
    (d : Deed) : entriesOf handle (t.eventsRead d) = entriesOf handle (s.eventsRead d) := by
  cases d with
  | act a =>
    cases a with
    | hub a =>
      show entriesOf handle (t.hub.delivers a.1) = entriesOf handle (s.hub.delivers a.1)
      rw [Hub.entriesOf_delivers, Hub.entriesOf_delivers, h.hub.touch? hne, h.hub.others handle hne]
    | _ => rfl
  | _ => rfl

theorem sameBut_perform {u : Nat} {j k : Journal} (h : j.SameBut u k) (hu : j.service.Unprivileged u) (d : Deed) :
    (j.perform d).SameBut u (k.perform d) := by
  refine ⟨h.service.perform hu d, fun handle hne => ?_, fun handle hne => ?_⟩
  · show entriesOf handle (k.answers ++ _) = entriesOf handle (j.answers ++ _)
    rw [entriesOf_append, entriesOf_append, h.answers handle hne, entriesOf_answersRead h.service hne]
  · show entriesOf handle (k.events ++ _) = entriesOf handle (j.events ++ _)
    rw [entriesOf_append, entriesOf_append, h.events handle hne, entriesOf_eventsRead h.service hne]

theorem sameBut_hub_own {u : Nat} {j k : Journal} (h : j.SameBut u k)
    {a : { a : Hub.Action // a.keepsMembers = true }} (hc : a.1.created = 0)
    (hn : ∀ handle, handle ≠ u → j.service.hub.touch? handle a.1 = none) :
    (j.perform (.act (.hub a))).SameBut u k := by
  refine ⟨h.service.withHub (k := k.service.hub) (h.service.hub.act_of_untouched hc hn), fun handle hne => ?_,
    fun handle hne => ?_⟩
  · show _ = entriesOf handle (j.answers ++ [])
    rw [List.append_nil]
    exact h.answers handle hne
  · show _ = entriesOf handle (j.events ++ j.service.hub.delivers a.1)
    rw [entriesOf_append, Hub.entriesOf_delivers, hn handle hne]
    show _ = _ ++ []
    rw [List.append_nil]
    exact h.events handle hne

theorem sameBut_pipes_own {u : Nat} {j k : Journal} (h : j.SameBut u k) {n : Nat} {l : Link}
    (hl : j.service.links[n]? = some l) (hown : l.session = u) {d : Deed} (requests responses : Pipe → Pipe)
    (hd : j.service.perform d = j.service.changePipes n requests responses) (he : j.service.eventsRead d = [])
    (ha : ∀ handle, handle ≠ u → entriesOf handle (j.service.answersRead d) = []) : (j.perform d).SameBut u k := by
  refine ⟨?_, fun handle hne => ?_, fun handle hne => ?_⟩
  · show (j.service.perform d).AlikeBut u k.service
    rw [hd]
    exact h.service.changePipes_own hl hown requests responses
  · show _ = entriesOf handle (j.answers ++ j.service.answersRead d)
    rw [entriesOf_append, ha handle hne, List.append_nil]
    exact h.answers handle hne
  · show _ = entriesOf handle (j.events ++ j.service.eventsRead d)
    rw [he, List.append_nil]
    exact h.events handle hne

/-- **What the client of an unprivileged session does is not noticed by others.** -/
theorem sameBut_perform_own {u : Nat} {j k : Journal} (h : j.SameBut u k) {d : Deed}
    (hd : j.service.isDoneBy u d = true) : (j.perform d).SameBut u k := by
  have hother {target handle : Nat} (ht : (target == u) = true) (hne : handle ≠ u) : ¬target = handle :=
    fun heq => hne (heq.symm.trans (beq_iff_eq.mp ht))
  have hlink {n : Nat} (hn : j.service.links[n]?.any (·.session == u) = true) :
      ∃ l, j.service.links[n]? = some l ∧ l.session = u := by
    obtain ⟨l, hl, hs⟩ := Option.any_eq_true _ _ |>.mp hn
    exact ⟨l, hl, beq_iff_eq.mp hs⟩
  cases d with
  | act a =>
    cases a with
    | hub a =>
      obtain ⟨a, ha⟩ := a
      cases a with
      | receive target limit => exact sameBut_hub_own h rfl fun handle hne => if_neg (hother hd hne)
      | take target n => exact sameBut_hub_own h rfl fun handle hne => if_neg (hother hd hne)
      | dropClient target => exact sameBut_hub_own h rfl fun handle hne => if_neg (hother hd hne)
      | _ => cases hd
    | send n data =>
      obtain ⟨l, hl, hown⟩ := hlink hd
      exact sameBut_pipes_own h hl hown _ _ rfl rfl fun _ _ => rfl
    | endRequests n =>
      obtain ⟨l, hl, hown⟩ := hlink hd
      exact sameBut_pipes_own h hl hown _ _ rfl rfl fun _ _ => rfl
    | dropRequests n =>
      obtain ⟨l, hl, hown⟩ := hlink hd
      exact sameBut_pipes_own h hl hown _ _ rfl rfl fun _ _ => rfl
    | readAnswers n limit =>
      obtain ⟨l, hl, hown⟩ := hlink hd
      refine sameBut_pipes_own h hl hown id (fun p => (p.take limit).2) rfl rfl
        fun handle hne => ?_
      show entriesOf handle (j.service.links[n]?.toList.map _) = []
      rw [hl]
      exact entriesOf_of_ne (fun heq => hne (heq.symm.trans hown)) [(l.responses.take limit).1]
    | _ => cases hd
  | _ => cases hd

theorem reaches_run (j : Journal) (ds : List Deed) : j.service.hub.Reaches (j.run ds).service.hub := by
  induction ds generalizing j with
  | nil => exact .refl _
  | cons d ds ih => exact (j.service.reaches_perform d).trans (ih (j.perform d))

theorem sameBut_run {u : Nat} {j k : Journal} (h : j.SameBut u k) (ds : List Deed)
    (hu : (j.run ds).service.Unprivileged u) : (j.run ds).SameBut u (k.run (without u j.service ds)) := by
  induction ds generalizing j k with
  | nil => exact h
  | cons d ds ih =>
    rw [without]
    split
    · rename_i hd
      exact ih (sameBut_perform_own h hd) hu
    · have hnow := hu.of_reaches h.service.hub.sound (j.reaches_run (d :: ds))
      exact ih (sameBut_perform h hnow d) hu

/-- a service that has seen no session -/
def fresh (deliveryTimeout : Nat) (updateState : UpdateState) (tunnel : TunnelBackend) (installer : Installer) :
    Journal := { service := .fresh deliveryTimeout updateState tunnel installer }

/-- the service is as it is, and the others have read what they have read -/
structure Unmoved (u : Nat) (j k : Journal) : Prop where
  hasQuit : k.service.hasQuit = j.service.hasQuit
  signal : k.service.signal = j.service.signal
  teardowns : k.service.teardowns = j.service.teardowns
  tunnel : k.service.tunnel = j.service.tunnel
  updateState : k.service.updateState = j.service.updateState
  installer : k.service.installer = j.service.installer
  installs : k.service.installs = j.service.installs
  relays : k.service.relays = j.service.relays
  members : ∀ handle, handle ≠ u → k.service.hub.includes handle = j.service.hub.includes handle
  /-- each other session is the same, up to what its client has not yet read -/
  sessions : ∀ handle, handle ≠ u → k.service.hub.session? handle = j.service.hub.session? handle
  answers : ∀ handle, handle ≠ u → entriesOf handle k.answers = entriesOf handle j.answers
  events : ∀ handle, handle ≠ u → entriesOf handle k.events = entriesOf handle j.events

/-- **A session that is not elevated influences nothing**: without all that it does, a run in which each session has an
id of its own leaves the service as it is, and its other sessions with all that they read. -/
theorem unmoved_without (deliveryTimeout : Nat) (updateState : UpdateState) (tunnel : TunnelBackend)
    (installer : Installer) (ds : List Deed) {u : Nat}
    (hids : (((fresh deliveryTimeout updateState tunnel installer).run ds).service.hub.sessions.map Session.id).Nodup)
    (ht : ((fresh deliveryTimeout updateState tunnel installer).run ds).service.token? u = none) :
    Unmoved u ((fresh deliveryTimeout updateState tunnel installer).run ds)
      ((fresh deliveryTimeout updateState tunnel installer).run
        (without u (.fresh deliveryTimeout updateState tunnel installer) ds)) := by
  have hsound : (Service.fresh deliveryTimeout updateState tunnel installer).hub.MembersSound :=
    ⟨nofun, List.Pairwise.nil⟩
  have hsame := sameBut_run (u := u) (j := fresh deliveryTimeout updateState tunnel installer)
    ⟨.refl hsound, fun _ _ => rfl, fun _ _ => rfl⟩ ds ⟨ht, ?_⟩
  · have hrest {α : Type} (f : Service → α) (hf : ∀ s h ls, f { s with hub := h, links := ls } = f s) :=
      hsame.service.eq_of_rest f hf
    exact
      { hasQuit := hrest Service.hasQuit fun _ _ _ => rfl
        signal := hrest Service.signal fun _ _ _ => rfl
        teardowns := hrest Service.teardowns fun _ _ _ => rfl
        tunnel := hrest Service.tunnel fun _ _ _ => rfl
        updateState := hrest Service.updateState fun _ _ _ => rfl
        installer := hrest Service.installer fun _ _ _ => rfl
        installs := hrest Service.installs fun _ _ _ => rfl
        relays := hrest Service.relays fun _ _ _ => rfl
        members := fun handle hne => hsame.service.hub.includes hne
        sessions := fun handle hne => hsame.service.hub.session? hne
        answers := hsame.answers
        events := hsame.events }
  · intro handle hne hid
    cases hu : Hub.id? _ u with
    | none => rfl
    | some id =>
      have hget (n : Nat) : ((((fresh deliveryTimeout updateState tunnel installer).run ds).service.hub.sessions.map
          Session.id)[n]?) = ((fresh deliveryTimeout updateState tunnel installer).run ds).service.hub.id? n :=
        List.getElem?_map
      have hlt := (List.getElem?_eq_some_iff.mp ((hget u).trans hu)).1
      exact absurd ((List.getElem?_inj hlt hids).mp ((hget u).trans (hid.symm.trans (hget handle).symm))).symm hne

/-- a session without a token asks the service to quit, and then sends what is no request, in two pieces; the other one,
which is elevated, asks in between for the state of the update, and is answered -/
theorem unmoved_without_quit :
    ∃ ds : List Deed, ds =
        [.act (.hub ⟨.create ⟨1⟩ none 64, rfl⟩), .act (.hub ⟨.create ⟨2⟩ (some ⟨0, 0⟩) 64, rfl⟩), .act (.serve 0 64),
          .act (.serve 1 64), .act (.send 0 [5, 0, 0, 0, 0, 0, 0, 0, 1, 4, 0, 0]), .act (.loop 0), .act (.loop 0),
          .act (.send 1 [4, 0, 0, 0, 1, 0, 0, 0]), .act (.loop 1), .act (.loop 1), .act (.loop 0), .act (.loop 1),
          .act (.send 0 [0, 9, 9, 9, 9]), .act (.loop 0), .act (.loop 0), .act (.loop 0), .act (.readAnswers 1 64)] ∧
      (((fresh 500 .available (.simulated {}) .unsupported).run ds).service.hub.sessions.map Session.id).Nodup ∧
      ((fresh 500 .available (.simulated {}) .unsupported).run ds).service.token? 0 = none ∧
      Unmoved 0 ((fresh 500 .available (.simulated {}) .unsupported).run ds)
        ((fresh 500 .available (.simulated {}) .unsupported).run
          (without 0 (.fresh 500 .available (.simulated {}) .unsupported) ds)) ∧
      ((fresh 500 .available (.simulated {}) .unsupported).run ds).service.hub.isClosed 0 = true ∧
      entriesOf 1 ((fresh 500 .available (.simulated {}) .unsupported).run ds).answers = [[4, 0, 0, 0, 1, 0, 0, 0]] := by
  refine ⟨_, rfl, by decide +kernel, by decide +kernel, ?_, by decide +kernel, by decide +kernel⟩
  exact unmoved_without 500 .available (.simulated {}) .unsupported _ (by decide +kernel) (by decide +kernel)

end Journal

end TunnelControl
