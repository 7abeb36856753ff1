import TunnelControl.Proofs.Service.Drain
import TunnelControl.Proofs.Service.Moves
import TunnelControl.Proofs.Service.Relays

/-!
# The progress of updates

Sessions ask for updates, installations produce items, and relays hand them on, in any order, while all else goes on.

* `Relaying`                  a service, with what was asked for, produced and handed on, and all that was done to its hub;
* `Relaying.sound_act`        the relays keep to what was produced;
* `Relaying.published_act`    what they hand on is what is published of progress;
* `Relaying.silent_run`       behind a drain it reaches nobody;
* `Relaying.handedOf_run`     each relay comes to its end;
* `Relaying.relays_progress`  so updates are installed for those who may, and their progress is published up to its end.
-/

namespace TunnelControl

/-! ## what was asked for, produced and handed on -/

/-- the items of an installation in a log -/
def itemsOf (n : Nat) (log : List (Nat × Progress)) : List Progress := (log.filter (·.1 == n)).map Prod.snd

theorem itemsOf_append (n : Nat) (log log' : List (Nat × Progress)) :
    itemsOf n (log ++ log') = itemsOf n log ++ itemsOf n log' := by
  rw [itemsOf, List.filter_append, List.map_append]
  rfl

theorem itemsOf_self (n : Nat) (items : List Progress) : itemsOf n (items.map (n, ·)) = items := by
  have hall : (items.map (n, ·)).filter (·.1 == n) = items.map (n, ·) := by
    refine List.filter_eq_self.mpr fun p hp => ?_
    obtain ⟨item, -, rfl⟩ := List.mem_map.mp hp
    exact beq_self_eq_true n
  rw [itemsOf, hall, List.map_map]
  exact List.map_id _

/-- an installation has no items in a log of others -/
theorem itemsOf_eq_nil {n : Nat} {log : List (Nat × Progress)} (h : ∀ p ∈ log, p.1 ≠ n) : itemsOf n log = [] := by
  have hnone : log.filter (·.1 == n) = [] := List.filter_eq_nil_iff.mpr fun p hp heq => h p hp (beq_iff_eq.mp heq)
  rw [itemsOf, hnone]
  rfl

theorem itemsOf_of_ne {k n : Nat} (hne : n ≠ k) (items : List Progress) : itemsOf k (items.map (n, ·)) = [] := by
  refine itemsOf_eq_nil fun p hp => ?_
  obtain ⟨item, -, rfl⟩ := List.mem_map.mp hp
  exact hne

structure Relaying where
  service : Service
  /-- the calls for an update, each with the token of its session, if that has one -/
  calls : List (Option Token) := []
  /-- what the installations produced, with their numbers -/
  produced : List (Nat × Progress) := []
  handed : List Service.Handed := []
  /-- all that was done to the hub -/
  hubLog : List Hub.Action := []

namespace Relaying

open Service (Move Handed)

def act (r : Relaying) (m : Move) : Relaying :=
  { service := r.service.move m
    calls := r.calls ++ r.service.calls m
    produced := r.produced ++ r.service.produced m
    handed := r.handed ++ r.service.handed m
    hubLog := r.hubLog ++ r.service.hubActions m }

def run (r : Relaying) (ms : List Move) : Relaying := ms.foldl act r

def producedOf (r : Relaying) (n : Nat) : List Progress := itemsOf n r.produced

def handedOf (r : Relaying) (n : Nat) : List Progress := itemsOf n (r.handed.map fun e => (e.run, e.item))

def fresh (deliveryTimeout : Nat) (updateState : UpdateState) (tunnel : TunnelBackend) (installer : Installer) :
    Relaying := { service := .fresh deliveryTimeout updateState tunnel installer }

/-! ## installations and relays -/

/-- the installations are those that were called for, and each relay keeps to what was produced -/
structure Sound (i : Installer) (r : Relaying) : Prop where
  installs : r.service.installs.toList = r.calls.reduceOption
  installer : r.service.installer = i.after r.service.installs.size
  numbered : r.service.Numbered
  lanes : ∀ n, Lane (r.service.relay? n) (r.producedOf n) (r.handedOf n)
  producedGiven : ∀ p ∈ r.produced, p.1 < r.service.installs.size
  handedGiven : ∀ e ∈ r.handed, e.run < r.service.installs.size

variable {i : Installer} {r : Relaying} {m : Move}

theorem sound_fresh (deliveryTimeout : Nat) (updateState : UpdateState) (tunnel : TunnelBackend)
    (installer : Installer) : (fresh deliveryTimeout updateState tunnel installer).Sound installer where
  installs := rfl
  installer := rfl
  numbered := ⟨List.nodup_nil, nofun⟩
  lanes _ := .forgotten _ _ rfl
  producedGiven := nofun
  handedGiven := nofun

theorem producedOf_act (r : Relaying) (m : Move) (n : Nat) :
    (r.act m).producedOf n = r.producedOf n ++ itemsOf n (r.service.produced m) := itemsOf_append n _ _

theorem handedOf_act (r : Relaying) (m : Move) (n : Nat) :
    (r.act m).handedOf n = r.handedOf n ++ itemsOf n ((r.service.handed m).map fun e => (e.run, e.item)) := by
  rw [handedOf, act, List.map_append, itemsOf_append]
  rfl

/-- a move that starts no installation keeps to what was produced, if the relays do -/
theorem sound_relays (h : r.Sound i) (hcalls : (r.service.calls m).reduceOption = [])
    (hinstalls : (r.service.move m).installs = r.service.installs)
    (hinstaller : (r.service.move m).installer = r.service.installer) (hnumbered : (r.service.move m).Numbered)
    (hlanes : ∀ n, Lane ((r.service.move m).relay? n) ((r.act m).producedOf n) ((r.act m).handedOf n))
    (hproduced : ∀ p ∈ r.service.produced m, p.1 < r.service.installs.size)
    (hhanded : ∀ e ∈ r.service.handed m, e.run < r.service.installs.size) : (r.act m).Sound i where
  installs := by
    show (r.service.move m).installs.toList = (r.calls ++ _).reduceOption
    rw [hinstalls, List.reduceOption_append, hcalls, List.append_nil]
    exact h.installs
  installer := by
    show (r.service.move m).installer = i.after (r.service.move m).installs.size
    rw [hinstaller, hinstalls]
    exact h.installer
  numbered := hnumbered
  lanes := hlanes
  producedGiven p hp := by
    show p.1 < (r.service.move m).installs.size
    rw [hinstalls]
    rcases List.mem_append.mp hp with hold | hnew
    · exact h.producedGiven p hold
    · exact hproduced p hnew
  handedGiven e he := by
    show e.run < (r.service.move m).installs.size
    rw [hinstalls]
    rcases List.mem_append.mp he with hold | hnew
    · exact h.handedGiven e hold
    · exact hhanded e hnew

/-- a move that has nothing to do with updates -/
theorem sound_same (h : r.Sound i) (hcalls : (r.service.calls m).reduceOption = []) (hproduced : r.service.produced m = [])
    (hhanded : r.service.handed m = []) (hupdates : (r.service.move m).updates = r.service.updates) :
    (r.act m).Sound i := by
  have hinstalls : (r.service.move m).installs = r.service.installs := congrArg Prod.fst hupdates
  have hrelays : (r.service.move m).relays = r.service.relays := congrArg (fun u => u.2.2) hupdates
  refine sound_relays h hcalls hinstalls (congrArg (fun u => u.2.1) hupdates) ?_ (fun n => ?_) ?_ ?_
  · constructor
    · rw [hrelays]
      exact h.numbered.nodup
    · rw [hrelays, hinstalls]
      exact h.numbered.given
  · rw [producedOf_act, handedOf_act, hproduced, hhanded, Service.relay?, hrelays]
    show Lane _ (_ ++ []) (_ ++ [])
    rw [List.append_nil, List.append_nil]
    exact h.lanes n
  · rw [hproduced]
    exact nofun
  · rw [hhanded]
    exact nofun

/-- what a called-for installation produces at once waits for a relay of its own -/
theorem sound_begin (h : r.Sound i) {session : Nat} {token : Token} (ht : r.service.token? session = some token)
    (hcalls : r.service.calls m = [some token])
    (hproduced : r.service.produced m = r.service.firstItems [some token]) (hhanded : r.service.handed m = [])
    (hupdates : (r.service.move m).updates = (r.service.triggerUpdate session).updates) : (r.act m).Sound i := by
  let n := r.service.installs.size
  have hnone : r.service.relay? n = none := Service.relay?_eq_none_of_le h.numbered (Nat.le_refl _)
  have htrigger : (r.service.move m).updates = (r.service.installs.push token, r.service.installer.install.2,
      r.service.relays ++ [(n, { stream := r.service.installer.install.1 })]) := by
    rw [hupdates]
    simp only [Service.triggerUpdate, ht]
    rfl
  have hinstalls : (r.service.move m).installs = r.service.installs.push token := congrArg Prod.fst htrigger
  have hinstaller : (r.service.move m).installer = r.service.installer.install.2 := congrArg (fun u => u.2.1) htrigger
  have hrelays : (r.service.move m).relays = r.service.relays ++ [(n, { stream := r.service.installer.install.1 })] :=
    congrArg (fun u => u.2.2) htrigger
  have hsize : (r.service.move m).installs.size = n + 1 := by rw [hinstalls, Array.size_push]
  have hitems : r.service.produced m = r.service.installer.install.1.waiting.map (n, ·) :=
    hproduced.trans (List.append_nil _)
  refine ⟨?_, ?_, ⟨?_, fun k hk => ?_⟩, fun k => ?_, fun p hp => ?_, fun e he => ?_⟩
  · show (r.service.move m).installs.toList = (r.calls ++ r.service.calls m).reduceOption
    rw [hinstalls, hcalls, Array.toList_push, h.installs, List.reduceOption_append]
    rfl
  · show (r.service.move m).installer = i.after (r.service.move m).installs.size
    rw [hsize, hinstaller, h.installer]
    rfl
  · show ((r.service.move m).relays.map Prod.fst).Nodup
    rw [hrelays, List.map_append]
    refine List.nodup_append.mpr ⟨h.numbered.nodup, List.nodup_singleton _, fun k hk k' hk' => ?_⟩
    rw [List.mem_singleton.mp hk']
    exact Nat.ne_of_lt (h.numbered.given k hk)
  · show k < (r.service.move m).installs.size
    have hk : k ∈ (r.service.move m).relays.map Prod.fst := hk
    rw [hrelays, List.map_append] at hk
    rw [hsize]
    rcases List.mem_append.mp hk with hold | hnew
    · exact Nat.lt_succ_of_lt (h.numbered.given k hold)
    · rw [List.mem_singleton.mp hnew]
      exact Nat.lt_succ_self n
  · rw [producedOf_act, handedOf_act, hhanded, hitems]
    show Lane ((r.service.move m).relays.lookup k) _ (_ ++ [])
    rw [hrelays, List.lookup_append, List.append_nil]
    by_cases hk : n = k
    · -- nothing is told of the new installation so far
      subst hk
      have hproducedOf : r.producedOf n = [] :=
        itemsOf_eq_nil fun p hp heq => Nat.ne_of_lt (h.producedGiven p hp) heq
      have hhandedOf : r.handedOf n = [] := by
        refine itemsOf_eq_nil fun p hp heq => ?_
        obtain ⟨e, he, rfl⟩ := List.mem_map.mp hp
        exact Nat.ne_of_lt (h.handedGiven e he) heq
      have hlookup : r.service.relays.lookup n = none := hnone
      rw [hlookup, Option.none_or, List.lookup_cons, beq_self_eq_true, hproducedOf, hhandedOf, itemsOf_self]
      exact Lane.begin _
    · rw [List.lookup_cons, beq_eq_false_iff_ne.mpr (Ne.symm hk), itemsOf_of_ne hk, List.append_nil]
      show Lane ((r.service.relays.lookup k).or none) _ _
      rw [Option.or_none]
      exact h.lanes k
  · show p.1 < (r.service.move m).installs.size
    rw [hsize]
    rcases List.mem_append.mp hp with hold | hnew
    · exact Nat.lt_succ_of_lt (h.producedGiven p hold)
    · rw [hitems] at hnew
      obtain ⟨item, -, rfl⟩ := List.mem_map.mp hnew
      exact Nat.lt_succ_self n
  · show e.run < (r.service.move m).installs.size
    rw [hsize]
    rcases List.mem_append.mp he with hold | hnew
    · exact Nat.lt_succ_of_lt (h.handedGiven e hold)
    · rw [hhanded] at hnew
      cases hnew

/-- what a request comes to, at once or read by a loop -/
theorem sound_carried (h : r.Sound i) (session : Nat) (request : Option Method)
    (hcalls : r.service.calls m = r.service.callers session request)
    (hproduced : r.service.produced m = r.service.firstItems (r.service.calls m)) (hhanded : r.service.handed m = [])
    (hupdates : (r.service.move m).updates = (r.service.carried session request).updates) : (r.act m).Sound i := by
  rcases r.service.carried_cases session request with ⟨hnone, hsame⟩ | ⟨token, hone, htrigger, ht⟩
  · refine sound_same h (hcalls.symm ▸ hnone) ?_ hhanded (hupdates.trans hsame)
    rw [hproduced, Service.firstItems, hcalls, hnone]
    rfl
  · rw [hcalls, hone] at hproduced
    rw [htrigger] at hupdates
    exact sound_begin h ht (hcalls.trans hone) hproduced hhanded hupdates

/-- what is told of one relay is told of its installation alone -/
theorem sound_lane (h : r.Sound i) {n : Nat} {old : Relay} (hold : r.service.relay? n = some old)
    (new? : Option Relay) (more handed : List Progress) (hcalls : r.service.calls m = [])
    (hproduced : r.service.produced m = more.map (n, ·))
    (hhanded : (r.service.handed m).map (fun e => (e.run, e.item)) = handed.map (n, ·))
    (hinstalls : (r.service.move m).installs = r.service.installs)
    (hinstaller : (r.service.move m).installer = r.service.installer) (hnumbered : (r.service.move m).Numbered)
    (hrelay : ∀ k, (r.service.move m).relay? k = if k = n then new? else r.service.relay? k)
    (hlane : Lane new? (r.producedOf n ++ more) (r.handedOf n ++ handed)) : (r.act m).Sound i := by
  have hn : n < r.service.installs.size := by
    by_contra hle
    cases (Service.relay?_eq_none_of_le h.numbered (Nat.le_of_not_lt hle)).symm.trans hold
  refine sound_relays h (by rw [hcalls]; rfl) hinstalls hinstaller hnumbered (fun k => ?_) (fun p hp => ?_) fun e he => ?_
  · rw [hrelay, producedOf_act, handedOf_act, hproduced, hhanded]
    by_cases hk : k = n
    · subst hk
      rw [if_pos rfl, itemsOf_self, itemsOf_self]
      exact hlane
    · rw [if_neg hk, itemsOf_of_ne (Ne.symm hk), itemsOf_of_ne (Ne.symm hk), List.append_nil, List.append_nil]
      exact h.lanes k
  · rw [hproduced] at hp
    obtain ⟨item, -, rfl⟩ := List.mem_map.mp hp
    exact hn
  · have hmem : (e.run, e.item) ∈ (r.service.handed m).map fun e => (e.run, e.item) := List.mem_map.mpr ⟨e, he, rfl⟩
    rw [hhanded] at hmem
    obtain ⟨item, -, heq⟩ := List.mem_map.mp hmem
    cases heq
    exact hn

/-- something befalls one relay -/
theorem sound_setRelay (h : r.Sound i) {n : Nat} {old : Relay} (hold : r.service.relay? n = some old)
    (new : Relay) (more handed : List Progress) (hcalls : r.service.calls m = [])
    (hproduced : r.service.produced m = more.map (n, ·))
    (hhanded : (r.service.handed m).map (fun e => (e.run, e.item)) = handed.map (n, ·))
    (hupdates : (r.service.move m).updates = (r.service.setRelay n new).updates)
    (hlane : Lane new.kept (r.producedOf n ++ more) (r.handedOf n ++ handed)) : (r.act m).Sound i := by
  have hinstalls : (r.service.move m).installs = r.service.installs := congrArg Prod.fst hupdates
  have hrelays : (r.service.move m).relays = (r.service.setRelay n new).relays := congrArg (fun u => u.2.2) hupdates
  have hnumbered : (r.service.setRelay n new).Numbered := by
    rw [Service.setRelay_eq_adjust]
    exact Service.numbered_adjust h.numbered _
  refine sound_lane h hold new.kept more handed hcalls hproduced hhanded hinstalls (congrArg (fun u => u.2.1) hupdates)
    ⟨?_, ?_⟩ (fun k => ?_) hlane
  · rw [hrelays]
    exact hnumbered.nodup
  · rw [hrelays, hinstalls]
    exact hnumbered.given
  · have hlookup : (r.service.move m).relay? k = (r.service.setRelay n new).relay? k :=
      congrArg (List.lookup k) hrelays
    rw [hlookup, Service.relay?_setRelay h.numbered, hold, Option.bind_some]

theorem sound_relay (h : r.Sound i) (n : Nat) : (r.act (.relay n)).Sound i := by
  have hmove : r.service.move (.relay n) = (r.service.relayStep n).getD r.service := rfl
  have htold : r.service.handed (.relay n) = (r.service.handedOn n).map fun item => ⟨n, item, r.service.reached item⟩ :=
    rfl
  rw [Service.relayStep] at hmove
  rw [Service.handedOn] at htold
  cases hstep : (r.service.relay? n).bind Relay.step with
  | none =>
    rw [hstep] at hmove htold
    exact sound_same h rfl rfl htold (by rw [hmove]; rfl)
  | some step =>
    obtain ⟨item?, new⟩ := step
    obtain ⟨old, hold, hnew⟩ := Option.bind_eq_some_iff.mp hstep
    have hlane := h.lanes n
    rw [hold] at hlane
    rw [hstep] at hmove htold
    refine sound_setRelay h hold new [] item?.toList rfl rfl ?_ ?_ ?_
    · rw [htold, List.map_map]
      rfl
    · rw [hmove]
      cases item? <;> rfl
    · rw [List.append_nil]
      exact hlane.step hnew

theorem sound_report (h : r.Sound i) (n : Nat) (item : Progress) : (r.act (.deed ⟨.report n item, rfl⟩)).Sound i := by
  have hmove : r.service.move (.deed ⟨.report n item, rfl⟩)
      = (Site.report { service := r.service } n item).2.service := rfl
  have hproduced : r.service.produced (.deed ⟨.report n item, rfl⟩)
      = if (r.service.relay? n).any fun old => old.stream.senderOpen then [(n, item)] else [] := rfl
  rw [Site.report] at hmove
  cases hold : r.service.relay? n with
  | none =>
    simp only [hold] at hmove hproduced
    exact sound_same h rfl hproduced rfl (by rw [hmove])
  | some old =>
    have hlane := h.lanes n
    rw [hold] at hlane
    simp only [hold, Option.any_some] at hmove hproduced
    cases ho : old.stream.senderOpen with
    | false =>
      rw [ho] at hproduced
      rw [ho, Bool.and_false] at hmove
      exact sound_same h rfl hproduced rfl (by rw [hmove]; rfl)
    | true =>
      rw [ho] at hproduced
      cases hl : old.listening with
      | true =>
        rw [ho, hl, Bool.and_self, if_pos rfl] at hmove
        refine sound_setRelay h hold _ [item] [] rfl hproduced rfl (by rw [hmove]) ?_
        rw [List.append_nil]
        have hnext := hlane.report hl item
        simp only [hl, ho] at hnext
        exact hnext
      | false =>
        -- nobody listens to what comes behind a final item
        rw [hl, Bool.false_and, if_neg Bool.false_ne_true] at hmove
        refine sound_lane h hold (some old) [item] [] rfl hproduced rfl (by rw [hmove]) (by rw [hmove])
          (hmove.symm ▸ h.numbered) (fun k => ?_) ?_
        · rw [hmove]
          split
          · rename_i hk
            rw [hk, hold]
          · rfl
        · rw [List.append_nil]
          exact hlane.report_deaf hl item

theorem sound_endReport (h : r.Sound i) (n : Nat) : (r.act (.endReport n)).Sound i := by
  have hmove : r.service.move (.endReport n) = r.service.endReport n := rfl
  rw [Service.endReport] at hmove
  cases hold : r.service.relay? n with
  | none =>
    rw [hold] at hmove
    exact sound_same h rfl rfl rfl (by rw [hmove])
  | some old =>
    have hlane := h.lanes n
    rw [hold] at hlane hmove
    refine sound_setRelay h hold old.endStream [] [] rfl rfl rfl (by rw [hmove]) ?_
    rw [List.append_nil, List.append_nil]
    exact hlane.endStream

theorem sound_endReports (h : r.Sound i) : (r.act (.deed ⟨.endReports, rfl⟩)).Sound i := by
  have hmove : r.service.move (.deed ⟨.endReports, rfl⟩) = r.service.adjust fun _ old => old.endStream.kept :=
    Service.endReports_eq_adjust r.service
  refine sound_relays h rfl (by rw [hmove]; rfl) (by rw [hmove]; rfl) (hmove ▸ Service.numbered_adjust h.numbered _)
    (fun n => ?_) nofun nofun
  have hlane := h.lanes n
  rw [producedOf_act, handedOf_act, hmove, Service.relay?_adjust h.numbered]
  show Lane _ (_ ++ []) (_ ++ [])
  rw [List.append_nil, List.append_nil]
  cases hold : r.service.relay? n with
  | none =>
    rw [hold] at hlane
    exact hlane
  | some old =>
    rw [hold] at hlane
    exact hlane.endStream

/-- **The relays keep to what was produced, whatever happens.** -/
theorem sound_act (h : r.Sound i) (m : Move) : (r.act m).Sound i := by
  cases m with
  | deed d =>
    obtain ⟨d, hd⟩ := d
    cases d with
    | act a =>
      cases a with
      | loop n =>
        obtain ⟨session, request, hupdates, hcalls⟩ := r.service.updates_loop n
        exact sound_carried h session request hcalls rfl rfl hupdates
      | relay n => exact sound_relay h n
      | serve session capacity =>
        refine sound_same h rfl rfl rfl ?_
        show Service.updates (r.service.serve session capacity).2.2 = _
        unfold Service.serve
        split <;> rfl
      | _ => exact sound_same h rfl rfl rfl rfl
    | schedule a => cases a <;> exact sound_same h rfl rfl rfl rfl
    | report n item => exact sound_report h n item
    | endReports => exact sound_endReports h
    | takeSignal => exact sound_same h rfl rfl rfl rfl
  | hub a => exact sound_same h rfl rfl rfl rfl
  | operate session m => exact sound_carried h session (some m) rfl rfl rfl rfl
  | quitStage session stopTunnels stage =>
    exact sound_same h rfl rfl rfl (r.service.updates_quitStep session stopTunnels stage)
  | endReport n => exact sound_endReport h n

theorem sound_run (h : r.Sound i) (ms : List Move) : (r.run ms).Sound i := by
  induction ms generalizing r with
  | nil => exact h
  | cons m ms ih => exact ih (sound_act h m)

/-! ## what is published -/

/-- the ledger of the hub -/
def ledger (deliveryTimeout : Nat) (r : Relaying) : Ledger := (Ledger.ofTimeout deliveryTimeout).run r.hubLog

/-- all that was done to the hub is written down, and the items that were handed on are what was published of progress -/
structure Published (deliveryTimeout : Nat) (r : Relaying) : Prop where
  hub : r.service.hub = (r.ledger deliveryTimeout).hub
  progress : r.hubLog.flatMap Hub.Action.progress = r.handed.map fun e => (e.item, true)
  members : r.service.hub.MembersSound
  shut : r.service.hub.Shut
  elevated : ∀ e ∈ r.handed, ∀ handle ∈ e.reached, r.service.isElevated handle = true
  framed : ∀ e ∈ r.handed, ∀ fault, frameOf (Event.updateProgress e.item) = .error fault → e.reached = []

variable {deliveryTimeout : Nat}

theorem published_fresh (deliveryTimeout : Nat) (updateState : UpdateState) (tunnel : TunnelBackend)
    (installer : Installer) : (fresh deliveryTimeout updateState tunnel installer).Published deliveryTimeout where
  hub := rfl
  progress := rfl
  members := ⟨nofun, List.Pairwise.nil⟩
  shut := nofun
  elevated := nofun
  framed := nofun

theorem fst_mem_of_mem_acceptsEach (d : QueuedFrame) {handles : List Nat} {h : Hub} {p : Nat × Bytes}
    (hp : p ∈ h.acceptsEach d handles) : p.1 ∈ handles := by
  induction handles generalizing h with
  | nil => cases hp
  | cons handle handles ih =>
    rw [Hub.acceptsEach] at hp
    rcases List.mem_append.mp hp with hfirst | hrest
    · split at hfirst
      · rw [List.mem_singleton.mp hfirst]
        exact List.mem_cons_self
      · cases hfirst
    · exact List.mem_cons_of_mem _ (ih hrest)

/-- progress reaches nobody but elevated sessions -/
theorem isElevated_of_reached {s : Service} {item : Progress} {handle : Nat} (h : handle ∈ s.reached item) :
    s.isElevated handle = true := by
  obtain ⟨p, hp, rfl⟩ := List.mem_map.mp h
  rw [Hub.accepts] at hp
  split at hp
  · cases hp
  · have haudience := fst_mem_of_mem_acceptsEach _ hp
    have haddressed := (List.mem_filter.mp haudience).2
    rw [Hub.isAddressed, Option.any_eq_true] at haddressed
    obtain ⟨x, hx, helevated⟩ := haddressed
    rw [Service.isElevated, Service.token?, hx]
    exact helevated

theorem reached_of_unframed {s : Service} {item : Progress} {fault : PeerError}
    (h : frameOf (Event.updateProgress item) = .error fault) : s.reached item = [] := by
  rw [Service.reached, Hub.accepts, h]
  rfl

/-- what is true of the hub is true of it behind any actions, if each of them keeps it so -/
theorem hub_induction {P : Hub → Prop} {h : Hub} (hP : P h) (hact : ∀ k a, P k → P (k.act a))
    (as : List Hub.Action) : P (as.foldl Hub.act h) := by
  induction as generalizing h with
  | nil => exact hP
  | cons a as ih => exact ih (hact h a hP)

theorem isElevated_move {s : Service} (hm : s.hub.MembersSound) {handle : Nat} (he : s.isElevated handle = true)
    (m : Move) : (s.move m).isElevated handle = true := by
  have hface : ∃ x, s.hub.face handle = some x ∧ x.2.isSome = true := by
    rw [Service.isElevated, Service.token?] at he
    cases hs : s.hub.session? handle with
    | none =>
      rw [hs] at he
      cases he
    | some x =>
      rw [hs] at he
      exact ⟨(x.id, x.token), by rw [Hub.face, hs]; rfl, he⟩
  obtain ⟨x, hx, hsome⟩ := hface
  have hreaches : s.hub.Reaches (s.move m).hub := ⟨_, s.hub_move m⟩
  obtain ⟨y, hy, heq⟩ := Option.map_eq_some_iff.mp (hreaches.face hm hx)
  rw [Service.isElevated, Service.token?, hy, Option.bind_some]
  rw [← heq] at hsome
  exact hsome

theorem mem_handed {s : Service} {m : Move} {e : Handed} (he : e ∈ s.handed m) : e.reached = s.reached e.item := by
  unfold Service.handed at he
  split at he
  · obtain ⟨item, -, rfl⟩ := List.mem_map.mp he
    rfl
  · cases he

theorem published_act (h : r.Published deliveryTimeout) (m : Move) : (r.act m).Published deliveryTimeout where
  hub := by
    show (r.service.move m).hub = ((Ledger.ofTimeout deliveryTimeout).run (r.hubLog ++ r.service.hubActions m)).hub
    rw [Service.hub_move, Ledger.run_append, Ledger.hub_run _ (r.service.hubActions m), h.hub]
    rfl
  progress := by
    show (r.hubLog ++ r.service.hubActions m).flatMap Hub.Action.progress = (r.handed ++ r.service.handed m).map _
    rw [List.flatMap_append, List.map_append, h.progress, Service.progress_hubActions]
  members := by
    show (r.service.move m).hub.MembersSound
    rw [Service.hub_move]
    exact hub_induction h.members (fun k a hk => Hub.membersSound_act hk a) _
  shut := by
    show (r.service.move m).hub.Shut
    rw [Service.hub_move]
    exact hub_induction h.shut (fun k a hk => hk.act a) _
  elevated e he handle hhandle := by
    refine isElevated_move h.members ?_ m
    rcases List.mem_append.mp he with hold | hnew
    · exact h.elevated e hold handle hhandle
    · rw [mem_handed hnew] at hhandle
      exact isElevated_of_reached hhandle
  framed e he fault hfault := by
    rcases List.mem_append.mp he with hold | hnew
    · exact h.framed e hold fault hfault
    · rw [mem_handed hnew]
      exact reached_of_unframed hfault

theorem published_run (h : r.Published deliveryTimeout) (ms : List Move) : (r.run ms).Published deliveryTimeout := by
  induction ms generalizing r with
  | nil => exact h
  | cons m ms ih => exact ih (published_act h m)

/-! ## behind a quit -/

/-- once the hub is drained, relays still hand on what they have, and reach nobody -/
theorem silent_run (h : r.Published deliveryTimeout) (hd : r.service.hub.drained = true) (ms : List Move) :
    (r.run ms).service.hub.drained = true ∧ ∃ later, (r.run ms).handed = r.handed ++ later ∧
      ∀ e ∈ later, e.reached = [] := by
  induction ms generalizing r with
  | nil => exact ⟨hd, [], (List.append_nil _).symm, nofun⟩
  | cons m ms ih =>
    have hnext : (r.act m).service.hub.drained = true := by
      show (r.service.move m).hub.drained = true
      rw [Service.hub_move]
      have hshut := hub_induction (P := fun k => k.drained = true ∧ k.members = []) ⟨hd, h.shut hd⟩
        (fun k a hk => Hub.shut_act hk.1 hk.2 a) (r.service.hubActions m)
      exact hshut.1
    obtain ⟨hlast, later, hlater, hsilent⟩ := ih (published_act h m) hnext
    refine ⟨hlast, r.service.handed m ++ later, ?_, fun e he => ?_⟩
    · rw [← List.append_assoc]
      exact hlater
    · rcases List.mem_append.mp he with hnow | hthen
      · rw [mem_handed hnow, Service.reached, Hub.accepts_publish_of_drained h.shut hd]
        rfl
      · exact hsilent e hthen

/-! ## relays come to their end -/

/-- what a relay has still to do -/
def left (r : Relaying) (n : Nat) : Nat :=
  (r.service.relay? n).elim 0 fun relay => relay.stream.waiting.length + relay.listening.toNat

theorem left_act (h : r.Sound i) {n : Nat} (hgo : (r.service.relay? n).bind Relay.step ≠ none) :
    (r.act (.relay n)).left n < r.left n := by
  obtain ⟨⟨item?, new⟩, hstep⟩ := Option.ne_none_iff_exists'.mp hgo
  obtain ⟨old, hold, hnew⟩ := Option.bind_eq_some_iff.mp hstep
  have hrelay : (r.act (.relay n)).service.relay? n = new.kept := by
    show ((r.service.relayStep n).getD r.service).relay? n = _
    have hset := Service.relay?_setRelay h.numbered n new n
    rw [if_pos rfl, hold, Option.bind_some] at hset
    rw [Service.relayStep, hstep]
    cases item? with
    | none => exact hset
    | some item => exact hset
  have hless : new.stream.waiting.length + new.listening.toNat < old.stream.waiting.length + old.listening.toNat := by
    rw [Relay.step] at hnew
    cases hl : old.listening with
    | false =>
      rw [hl] at hnew
      cases hnew
    | true =>
      rw [hl] at hnew
      cases hw : old.stream.waiting with
      | nil =>
        cases ho : old.stream.senderOpen with
        | true =>
          rw [hw, ho] at hnew
          cases hnew
        | false =>
          rw [hw, ho] at hnew
          cases hnew
          rw [hw]
          exact Nat.one_pos
      | cons item waiting =>
        rw [hw] at hnew
        cases hnew
        have hle := (!item.isFinal).toNat_le
        simp only [List.length_cons, Bool.toNat_true]
        omega
  rw [left, left, hrelay, hold, Relay.kept]
  split
  · exact Nat.lt_of_le_of_lt (Nat.zero_le _) hless
  · exact hless

/-- a relay that goes on has handed on all that was produced so far, up to the end, in so many steps -/
theorem handedOf_run (h : r.Sound i) (n : Nat) :
    ∃ k, (r.run (List.replicate k (.relay n))).producedOf n = r.producedOf n ∧
      (r.run (List.replicate k (.relay n))).handedOf n = upToFinal (r.producedOf n) := by
  induction hk : r.left n using Nat.strongRecOn generalizing r with
  | ind k ih =>
    subst hk
    cases hstep : (r.service.relay? n).bind Relay.step with
    | none => exact ⟨0, rfl, (h.lanes n).eq_of_rest hstep⟩
    | some step =>
      have hless := left_act h (n := n) (by rw [hstep]; exact nofun)
      obtain ⟨k, hproduced, hhanded⟩ := ih _ hless (sound_act h (.relay n)) rfl
      have hsame : (r.act (.relay n)).producedOf n = r.producedOf n := by
        rw [producedOf_act]
        exact List.append_nil _
      rw [hsame] at hproduced hhanded
      exact ⟨k + 1, hproduced, hhanded⟩

/-! ## the whole of it -/

/-- what is true of the updates of a service at any time of a run -/
structure RelaysProgress (deliveryTimeout : Nat) (i : Installer) (r : Relaying) : Prop where
  /-- the installer is started once for each call of an elevated session, in their order, and for no other one -/
  installs : r.service.installs.toList = r.calls.reduceOption
  installer : r.service.installer = i.after r.service.installs.size
  /-- all that was done to the hub is written down -/
  hub : r.service.hub = (r.ledger deliveryTimeout).hub
  /-- the progress that was published is what relays handed on, for the elevated sessions alone -/
  published : r.hubLog.flatMap Hub.Action.progress = r.handed.map fun e => (e.item, true)
  /-- each item belongs to one of the installations -/
  runs : ∀ e ∈ r.handed, e.run < r.service.installs.size
  /-- of each installation it is what was produced, in order, up to the first item that is final -/
  upToEnd : ∀ n, r.handedOf n <+: upToFinal (r.producedOf n)
  /-- and all of that, when its relay has nothing left to do -/
  complete : ∀ n, (r.service.relay? n).bind Relay.step = none → r.handedOf n = upToFinal (r.producedOf n)
  /-- which comes to pass in so many steps of the relay -/
  completes : ∀ n, ∃ k, (r.run (List.replicate k (.relay n))).producedOf n = r.producedOf n ∧
    (r.run (List.replicate k (.relay n))).handedOf n = upToFinal (r.producedOf n)
  elevated : ∀ e ∈ r.handed, ∀ handle ∈ e.reached, r.service.isElevated handle = true
  /-- an item that has no frame reaches nobody -/
  framed : ∀ e ∈ r.handed, ∀ fault, frameOf (Event.updateProgress e.item) = .error fault → e.reached = []
  /-- nor does any event once the hub is drained -/
  silent : r.service.hub.drained = true → ∀ ms,
    (∃ later, (r.run ms).handed = r.handed ++ later ∧ ∀ e ∈ later, e.reached = []) ∧
      ∀ event adminOnly, (r.run ms).service.hub.publish event adminOnly = (0, (r.run ms).service.hub)
  /-- nothing is written behind a drain to those who were members -/
  unwritten : ∀ before after, r.hubLog = before ++ .drain :: after → ∀ handle a,
    ((Ledger.ofTimeout deliveryTimeout).run before).hub.includes handle = true →
    ((Ledger.ofTimeout deliveryTimeout).run before).account? handle = some a →
    ∃ b, (r.ledger deliveryTimeout).account? handle = some b ∧ b.written = a.written

/-- **The progress of updates is relayed up to its end and no further**, however many sessions ask for updates and
whatever the installations produce. -/
theorem relays_progress (deliveryTimeout : Nat) (updateState : UpdateState) (tunnel : TunnelBackend)
    (installer : Installer) (ms : List Move) :
    RelaysProgress deliveryTimeout installer ((fresh deliveryTimeout updateState tunnel installer).run ms) := by
  have hsound := sound_run (sound_fresh deliveryTimeout updateState tunnel installer) ms
  have hpublished := published_run (published_fresh deliveryTimeout updateState tunnel installer) ms
  exact
    { installs := hsound.installs
      installer := hsound.installer
      hub := hpublished.hub
      published := hpublished.progress
      runs := hsound.handedGiven
      upToEnd := fun n => (hsound.lanes n).isPrefix
      complete := fun n hrest => (hsound.lanes n).eq_of_rest hrest
      completes := handedOf_run hsound
      elevated := hpublished.elevated
      framed := hpublished.framed
      silent := fun hd later => by
        obtain ⟨hdrained, hsilent⟩ := silent_run hpublished hd later
        refine ⟨hsilent, fun event adminOnly => ?_⟩
        exact Hub.publish_of_drained (published_run hpublished later).shut hdrained event adminOnly
      unwritten := fun before after hlog handle a hi ha => by
        rw [ledger, hlog]
        exact Ledger.written_of_drained after ha hi }

/-- two installations for one session, none for another, and a quit before the last item of the second -/
example :
    let installer := .scripted [[{ activity := "a" }, { activity := "b", complete := true }, { activity := "c" }],
      [{ activity := "d" }]] true
    let r := (fresh 500 .available (.simulated {}) installer).run
      [.hub ⟨.create ⟨1⟩ (some ⟨0, 0⟩) 64, rfl⟩, .hub ⟨.create ⟨2⟩ none 64, rfl⟩, .hub ⟨.join 0, rfl⟩,
        .hub ⟨.join 1, rfl⟩, .operate 0 .triggerUpdate, .operate 1 .triggerUpdate, .operate 0 .triggerUpdate, .relay 0,
        .relay 1, .relay 0, .relay 0, .operate 0 (.quit false),
        .deed ⟨.report 1 { activity := "e", error := some "f" }, rfl⟩, .relay 1]
    r.handed.map (fun e => (e.run, e.item.activity, e.reached))
      = [(0, "a", [0]), (1, "d", [0]), (0, "b", [0]), (1, "e", [])] := by
  decide +kernel

end Relaying

end TunnelControl
