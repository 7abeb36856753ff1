import TunnelControl.Proofs.Service.Departure
import TunnelControl.Proofs.Tunnel.Usable

/-!
# Requests whose answer is too long

What is wrong with the configuration of a tunnel is told in a text that quotes from it, and a quoted text is longer than
the text itself.  An answer that is too long for a frame ends the loop, so that nobody hears of it.

* `Service.Overlong`           a request whose answer is too long;
* `hasFrame_dispatch_iff`      there is no other;
* `Overlong.lt_length_encode`  it is itself a long one;
* `answered_unless_overlong`   what becomes of the loop.
-/

namespace TunnelControl

open Wire
open FrameReader (holding Unfinished)

/-- how long a quotation may be in the answer that tells what is wrong with a configuration -/
def longestQuotation : Nat := 65465

/-- requests up to this length are always answered -/
def shortRequest : Nat := 10939

/-! ## the texts -/

namespace ConfigFault

/-- a text that tells what is wrong fits into an answer, unless what it quotes is too long -/
theorem hasFrame_iff (fault : ConfigFault) :
    (Answer.operation ⟨some (TunnelFault.invalidConfig fault.message).message⟩).HasFrame ↔
      ∀ text, fault = .endpoint text ∨ fault = .dnsServer text → (quoteText text).utf8ByteSize ≤ longestQuotation := by
  rw [hasFrame_operation_iff, utf8ByteSize_invalidConfig, longestQuotation, maxPayload]
  cases fault with
  | emptyName =>
    refine ⟨fun _ text heq => ?_, fun _ => by decide⟩
    obtain heq | heq := heq <;> cases heq
  | endpoint text =>
    rw [utf8ByteSize_endpoint]
    refine ⟨fun h text' heq => ?_, fun h => ?_⟩
    · obtain heq | heq := heq <;> cases heq
      omega
    · have hquote := h text (.inl rfl)
      omega
  | dnsServer text =>
    rw [utf8ByteSize_dnsServer]
    refine ⟨fun h text' heq => ?_, fun h => ?_⟩
    · obtain heq | heq := heq <;> cases heq
      omega
    · have hquote := h text (.inr rfl)
      omega
  | mtu value =>
    have hmtu := utf8ByteSize_mtu_le value
    refine ⟨fun _ text heq => ?_, fun _ => by omega⟩
    obtain heq | heq := heq <;> cases heq

end ConfigFault

/-- a fault of a configuration is one of something that it says -/
inductive TunnelConfig.HasFault (c : TunnelConfig) : ConfigFault → Prop
  | name : HasFault c .emptyName
  | endpoint : HasFault c (.endpoint c.endpoint)
  | dnsServer (server : String) (h : server ∈ c.dnsServers) : HasFault c (.dnsServer server)
  | mtu (value : UInt32) (h : c.mtu = some value) : HasFault c (.mtu value)

theorem TunnelConfig.hasFault_of_check {c : TunnelConfig} {fault : ConfigFault} (h : c.check = .error fault) :
    c.HasFault fault := by
  cases check_error_iff.mp h with
  | emptyName _ => exact .name
  | endpoint _ _ => exact .endpoint
  | dnsServer _ _ hservers _ _ => exact .dnsServer _ (hservers ▸ List.mem_append_right _ List.mem_cons_self)
  | mtu _ _ _ hvalue _ => exact .mtu _ hvalue

/-! ## the tunnel -/

namespace Tunnel

/-- a tunnel that is not under way may be started -/
def IsIdle (t : Tunnel) : Prop := t.state = .stopped ∨ t.state = .invalid ∨ t.state = .error

theorem IsIdle.answer_startPlan {t : Tunnel} (h : t.IsIdle) (config : TunnelConfig) :
    (t.startPlan config).answer = config.check.mapError fun fault => .invalidConfig fault.message := by
  unfold startPlan
  obtain hs | hs | hs := h
  all_goals
    rw [hs]
    cases config.check <;> rfl

theorem answer_startPlan_of_busy {t : Tunnel} (h : ¬t.IsIdle) (config : TunnelConfig) :
    (t.startPlan config).answer = .error (.busy t.state) := by
  unfold startPlan
  split
  · exact absurd (.inl ‹_›) h
  · exact absurd (.inr (.inl ‹_›)) h
  · exact absurd (.inr (.inr ‹_›)) h
  · rfl

theorem answer_makeMoves (answer : Except TunnelFault Unit) (t : Tunnel) (moves : List TunnelMove) :
    (makeMoves (fun _ => false) answer t moves).answer = some answer := by
  induction moves generalizing t with
  | nil => rfl
  | cons move moves ih =>
    cases move with
    | enter state => exact ih { t with state }
    | hold config => exact ih { t with config := some config }
    | release => exact ih { t with config := none }

theorem answer_start (t : Tunnel) (config : TunnelConfig) :
    (TunnelBackend.start (.simulated t) config).answer = (t.startPlan config).answer :=
  congrArg (·.getD (.ok ())) (answer_makeMoves _ _ _)

theorem answer_stop (t : Tunnel) : (TunnelBackend.stop (.simulated t)).answer = t.stopPlan.answer :=
  congrArg (·.getD (.ok ())) (answer_makeMoves _ _ _)

end Tunnel

namespace Service

/-- an elevated session asks to start a tunnel that is not under way, and what is wrong with the configuration cannot be
told -/
inductive Overlong (s : Service) (session : Nat) : Method → Prop
  | startTunnel (config : TunnelConfig) (text : String) (elevated : s.isElevated session = true)
      (t : Tunnel) (tunnel : s.tunnel = .simulated t) (idle : t.IsIdle)
      (fault : config.check = .error (.endpoint text) ∨ config.check = .error (.dnsServer text))
      (long : longestQuotation < (quoteText text).utf8ByteSize) : Overlong s session (.startTunnel config)

theorem hasFrame_denied : (operationAnswer (.error .accessDenied)).HasFrame := ⟨_, rfl⟩

theorem hasFrame_done : (operationAnswer (.ok ())).HasFrame := ⟨_, rfl⟩

theorem hasFrame_busy (state : TunnelState) : (operationAnswer (.error (.tunnel (.busy state)))).HasFrame := by
  cases state <;> exact ⟨_, rfl⟩

section
variable {s : Service} {t : Tunnel}

theorem hasFrame_startTunnel_iff (ht : s.tunnel = .simulated t) (session : Nat) (config : TunnelConfig) :
    (operationAnswer (s.startTunnel session config).1).HasFrame ↔ ¬s.Overlong session (.startTunnel config) := by
  cases he : s.isElevated session with
  | false =>
    have hanswer : (s.startTunnel session config).1 = .error .accessDenied := by
      simp only [startTunnel, he, Bool.false_eq_true, if_false]
    rw [hanswer]
    refine iff_of_true hasFrame_denied fun h => ?_
    cases h with
    | startTunnel config text elevated => cases he.symm.trans elevated
  | true =>
    have hanswer : (s.startTunnel session config).1 = (t.startPlan config).answer.mapError .tunnel := by
      simp only [startTunnel, he, if_true, settleTunnel, ht, t.answer_start]
    rw [hanswer]
    -- only a tunnel that may be started looks at the configuration
    by_cases hidle : t.IsIdle
    · rw [hidle.answer_startPlan]
      cases hc : config.check with
      | error fault =>
        refine fault.hasFrame_iff.trans ⟨fun h hlong => ?_, fun h text htext => ?_⟩
        · cases hlong with
          | startTunnel config text elevated t' tunnel idle check long =>
            have hquote := h text (check.imp (fun hf => Except.error.inj (hc.symm.trans hf))
              fun hf => Except.error.inj (hc.symm.trans hf))
            omega
        · have hcheck := htext.imp (fun hf => hc.trans (congrArg Except.error hf))
            fun hf => hc.trans (congrArg Except.error hf)
          exact Nat.le_of_not_lt fun hlong => h (.startTunnel config text he t ht hidle hcheck hlong)
      | ok done =>
        refine iff_of_true hasFrame_done fun h => ?_
        cases h with
        | startTunnel config text elevated t' tunnel idle check =>
          obtain hf | hf := check <;> cases hc.symm.trans hf
    · rw [Tunnel.answer_startPlan_of_busy hidle]
      refine iff_of_true (hasFrame_busy t.state) fun h => ?_
      cases h with
      | startTunnel config text elevated t' tunnel idle =>
        cases ht.symm.trans tunnel
        exact hidle idle

theorem hasFrame_stopTunnel (ht : s.tunnel = .simulated t) (session : Nat) :
    (operationAnswer (s.stopTunnel session).1).HasFrame := by
  unfold stopTunnel
  split
  · show (operationAnswer (s.tunnel.stop.answer.mapError .tunnel)).HasFrame
    rw [ht, t.answer_stop]
    unfold Tunnel.stopPlan
    split
    · exact hasFrame_done
    · exact hasFrame_busy .stopping
    · exact hasFrame_done
  · exact hasFrame_denied

/-- **Only what is wrong with a configuration may be too long to be told.** -/
theorem hasFrame_dispatch_iff (ht : s.tunnel = .simulated t) (session : Nat) (m : Method) :
    (s.dispatch session m).1.HasFrame ↔ ¬s.Overlong session m := by
  cases m with
  | quit stopTunnels => exact iff_of_true (s.hasFrame_quit session stopTunnels) nofun
  | queryUpdateState =>
    refine iff_of_true ?_ nofun
    show (Answer.updateState s.updateState).HasFrame
    cases s.updateState <;> exact ⟨_, rfl⟩
  | triggerUpdate => exact iff_of_true ⟨_, rfl⟩ nofun
  | startTunnel config => exact hasFrame_startTunnel_iff ht session config
  | stopTunnel => exact iff_of_true (hasFrame_stopTunnel ht session) nofun
  | queryTunnelState =>
    refine iff_of_true ?_ nofun
    show (Answer.tunnelState s.tunnel.state).HasFrame
    cases s.tunnel.state <;> exact ⟨_, rfl⟩

/-! ## the requests -/

theorem length_encode_startTunnel (config : TunnelConfig) :
    29 + (config.endpoint.utf8ByteSize + (config.dnsServers.flatMap encode).length)
      ≤ (encode (Method.startTunnel config)).length := by
  have hmtu : 1 ≤ (encode config.mtu).length := by
    cases config.mtu with
    | none => exact Nat.le_refl 1
    | some value => exact Nat.succ_le_succ (Nat.zero_le _)
  have hservers : (encode config.dnsServers).length = 8 + (config.dnsServers.flatMap encode).length := by
    show (littleEndian 8 _ ++ _).length = _
    rw [List.length_append, length_littleEndian]
  show _ ≤ (tag 3
    ++ (encode config.name ++ encode config.endpoint ++ encode config.dnsServers ++ encode config.mtu)).length
  simp only [List.length_append, length_encode_string, hservers]
  show _ ≤ 4 + _
  omega

theorem length_encode_le_flatMap {server : String} {servers : List String} (h : server ∈ servers) :
    (encode server).length ≤ (servers.flatMap encode).length := by
  obtain ⟨before, after, rfl⟩ := List.append_of_mem h
  rw [List.flatMap_append, List.flatMap_cons, List.length_append, List.length_append]
  omega

/-- the text that is quoted stands in the request -/
theorem utf8ByteSize_add_le {config : TunnelConfig} {text : String}
    (hc : config.check = .error (.endpoint text) ∨ config.check = .error (.dnsServer text)) :
    29 + text.utf8ByteSize ≤ (encode (Method.startTunnel config)).length := by
  have hlength := length_encode_startTunnel config
  obtain hf | hf := hc
  · cases TunnelConfig.hasFault_of_check hf
    omega
  · cases TunnelConfig.hasFault_of_check hf with
    | dnsServer server hserver =>
      have hpart := length_encode_le_flatMap hserver
      rw [length_encode_string] at hpart
      omega

/-- **A request that cannot be answered is itself a long one.** -/
theorem Overlong.lt_length_encode {session : Nat} {m : Method} (h : s.Overlong session m) :
    shortRequest < (encode m).length := by
  cases h with
  | startTunnel config text elevated t tunnel idle fault long =>
    have hquote := utf8ByteSize_quoteText_le text
    have hrequest := utf8ByteSize_add_le fault
    rw [longestQuotation] at long
    rw [shortRequest]
    omega

/-! ## the loop -/

theorem ends_of_overlong (ht : s.tunnel = .simulated t) {n : Nat} {l : Link} (hl : s.links[n]? = some l) {m : Method}
    (hm : s.request? n = some m) (h : s.Overlong l.session m) :
    ∃ s' l', s.serveStep n = some s' ∧ s'.links[n]? = some l' ∧ l'.responses.content = l.responses.content ∧
      l'.serving = .ended ∧ Leaves (s.dispatch l.session m).2.hub l.session s'.hub := by
  obtain ⟨s', hs'⟩ := serveStep_of_request? hm
  obtain ⟨k, hk, hturn⟩ := loopTurn_of_serveStep hs'
  cases hl.symm.trans hk
  rw [hm] at hturn
  cases hturn with
  | answers reader payload m frame hs htake hf hd ha =>
    exact absurd h ((hasFrame_dispatch_iff ht l.session m).mp ⟨frame, ha⟩)
  | unanswerable reader payload m e hs htake hf hd ha =>
    have hset (l' : Link) : ((s.dispatch l.session m).2.endLink n l').links[n]? = some l'.hangUp := by
      rw [links_endLink, links_dispatch]
      exact List.getElem?_set_self (List.getElem?_eq_some_iff.mp hl).1
    exact ⟨_, _, hs', hset _, rfl, rfl, leaves_endLink _ _ _⟩

theorem answers_of_not_overlong (ht : s.tunnel = .simulated t) {n : Nat} {l : Link} (hl : s.links[n]? = some l)
    {m : Method} (hm : s.request? n = some m) (h : ¬s.Overlong l.session m) :
    ∃ s' l' frame, s.serveStep n = some s' ∧ s'.links[n]? = some l' ∧ l'.responses.content = l.responses.content ∧
      (s.dispatch l.session m).1.frame = .ok frame ∧ l'.serving = .replying frame := by
  obtain ⟨s', hs'⟩ := serveStep_of_request? hm
  obtain ⟨k, hk, hturn⟩ := loopTurn_of_serveStep hs'
  cases hl.symm.trans hk
  rw [hm] at hturn
  cases hturn with
  | answers reader payload m frame hs htake hf hd ha =>
    have hset (l' : Link) : ((s.dispatch l.session m).2.setLink n l').links[n]? = some l' := by
      show ((s.dispatch l.session m).2.links.set n l')[n]? = some l'
      rw [links_dispatch]
      exact List.getElem?_set_self (List.getElem?_eq_some_iff.mp hl).1
    exact ⟨_, _, frame, hs', hset _, rfl, ha, rfl⟩
  | unanswerable reader payload m e hs htake hf hd ha =>
    obtain ⟨frame, hok⟩ := (hasFrame_dispatch_iff ht l.session m).mpr h
    cases hok.symm.trans ha

/-- **A request is answered, and the loop goes on, unless what is wrong with the configuration of a tunnel is too long
to be told.**  Then the loop ends without a byte of an answer; but this takes a long request. -/
theorem answered_unless_overlong (ht : s.tunnel = .simulated t) {n : Nat} {l : Link} (hl : s.links[n]? = some l)
    {m : Method} (hm : s.request? n = some m) :
    ∃ s' l', s.serveStep n = some s' ∧ s'.links[n]? = some l' ∧ l'.responses.content = l.responses.content ∧
      (l'.serving = .ended ↔ s.Overlong l.session m) ∧
      (l'.serving ≠ .ended →
        ∃ frame, (s.dispatch l.session m).1.frame = .ok frame ∧ l'.serving = .replying frame) ∧
      ((encode m).length ≤ shortRequest → l'.serving ≠ .ended) := by
  by_cases h : s.Overlong l.session m
  · obtain ⟨s', l', hs', hl', hresponses, hended, -⟩ := ends_of_overlong ht hl hm h
    exact ⟨s', l', hs', hl', hresponses, iff_of_true hended h, fun hne => absurd hended hne,
      fun hle => absurd h.lt_length_encode (Nat.not_lt.mpr hle)⟩
  · obtain ⟨s', l', frame, hs', hl', hresponses, hframe, hreplying⟩ := answers_of_not_overlong ht hl hm h
    have hgoesOn : l'.serving ≠ .ended := by
      rw [hreplying]
      exact nofun
    exact ⟨s', l', hs', hl', hresponses, iff_of_false hgoesOn h, fun _ => ⟨frame, hframe, hreplying⟩,
      fun _ => hgoesOn⟩

/-- a session that is not elevated is refused to stop the tunnel, and hears of it -/
theorem answered_unless_overlong_denied :
    ∃ s l, s = (fresh 500 .available (.simulated {}) .unsupported).run
        [.hub ⟨.create ⟨1⟩ none 64, rfl⟩, .serve 0 64, .send 0 [4, 0, 0, 0, 4, 0, 0, 0], .loop 0] ∧
      s.tunnel = .simulated {} ∧ s.links[0]? = some l ∧ s.request? 0 = some .stopTunnel ∧
      ∃ s' l', s.serveStep 0 = some s' ∧ s'.links[0]? = some l' ∧ l'.responses.content = l.responses.content ∧
        (l'.serving = .ended ↔ s.Overlong l.session .stopTunnel) ∧
        (l'.serving ≠ .ended →
          ∃ frame, (s.dispatch l.session .stopTunnel).1.frame = .ok frame ∧ l'.serving = .replying frame) ∧
        ((encode Method.stopTunnel).length ≤ shortRequest → l'.serving ≠ .ended) := by
  refine ⟨_, _, rfl, rfl, rfl, by decide +kernel, ?_⟩
  exact answered_unless_overlong (t := {}) rfl rfl (by decide +kernel)

end

/-! ## a request that is not answered -/

/-- the header of a frame that is not empty is the beginning of one -/
theorem unfinished_header {payload : Bytes} (hp : payload ≠ []) (hsize : payload.length ≤ maxPayload) :
    Unfinished ((frame payload).take 4) := by
  refine unfinished_of_prefix_frame hsize (List.take_prefix 4 _) fun heq => ?_
  have hlength := congrArg List.length heq
  have hpos := List.length_pos_iff.mpr hp
  rw [List.length_take, length_frame] at hlength
  omega

/-- a loop reads the header of a frame first -/
theorem serveStep_of_arrived {s : Service} {n : Nat} {l : Link} (hl : s.links[n]? = some l)
    (hs : l.serving = .reading .start) {payload : Bytes} (hc : l.requests.content = frame payload)
    (hp : payload ≠ []) (hsize : payload.length ≤ maxPayload) :
    s.serveStep n = some (s.setLink n { l with
      requests := (l.requests.take 4).2, serving := .reading (holding ((frame payload).take 4)) }) := by
  have hheader : ((frame payload).take 4).length = 4 := by
    rw [List.length_take, length_frame]
    omega
  have hfeed : FrameReader.start.feed ((frame payload).take 4) = .more (holding ((frame payload).take 4)) := by
    have hcut := FrameReader.feed_holding FrameReader.unfinished_nil (Nat.le_of_eq hheader)
    rw [List.nil_append, FrameReader.cutFrame_of_unfinished (unfinished_header hp hsize)] at hcut
    exact congrArg Prod.fst hcut
  have htake : l.requests.take FrameReader.start.wanted = ((frame payload).take 4, (l.requests.take 4).2) :=
    Prod.ext ((l.requests.take_fst 4).trans (by rw [hc])) rfl
  generalize (frame payload).take 4 = held at hheader hfeed htake ⊢
  cases held with
  | nil => cases hheader
  | cons b held => simp only [serveStep, hl, hs, htake, hfeed]

/-- and the rest of it next -/
theorem request?_of_header {s : Service} {n : Nat} {l : Link} (hl : s.links[n]? = some l) {held : Bytes}
    (hs : l.serving = .reading (holding held)) (hu : Unfinished held) (hheld : held.length = 4) {m : Method}
    (hc : held ++ l.requests.content = frame (encode m)) (hsize : (encode m).length ≤ maxPayload) :
    s.request? n = some m := by
  have hannounced : announced held = (encode m).length := by
    rw [← FrameReader.announced_append (Nat.le_of_eq hheld.symm) l.requests.content, hc]
    have hframe := announced_frame_append (lt_byteRange_of_le hsize) []
    rwa [List.append_nil] at hframe
  have hwanted : (holding held).wanted = l.requests.content.length := by
    have hlength := congrArg List.length hc
    rw [List.length_append, length_frame] at hlength
    rw [FrameReader.wanted_holding, if_neg (by omega)]
    omega
  have htake : (l.requests.take (holding held).wanted).1 = l.requests.content := by
    rw [l.requests.take_fst, hwanted, List.take_length]
  have hfeed : (holding held).feed l.requests.content = .payload (encode m) := by
    have hcut := FrameReader.feed_holding hu (Nat.le_of_eq hwanted.symm)
    rw [hc, cutFrame_frame hsize] at hcut
    exact congrArg Prod.fst hcut
  have hpos := FrameReader.wanted_pos hu
  have hdecode : decodePayload Method (encode m) = .ok m := decodePayload_encode (Nat.lt_of_le_of_lt hsize (by decide))
  rw [hwanted] at hpos
  simp only [request?, hl, hs, htake]
  generalize l.requests.content = content at hpos hfeed
  cases content with
  | nil => cases hpos
  | cons b content =>
    simp only [hfeed, hdecode]
    rfl

theorem request?_of_arrived {s : Service} {n : Nat} {l : Link} (hl : s.links[n]? = some l)
    (hs : l.serving = .reading .start) {m : Method} (hc : l.requests.content = frame (encode m))
    (hm : encode m ≠ []) (hsize : (encode m).length ≤ maxPayload) :
    ∃ l', s.serveStep n = some (s.setLink n l') ∧ (s.setLink n l').links[n]? = some l' ∧ l'.session = l.session ∧
      l'.responses = l.responses ∧ (s.setLink n l').request? n = some m := by
  have hset (l' : Link) : (s.setLink n l').links[n]? = some l' :=
    List.getElem?_set_self (List.getElem?_eq_some_iff.mp hl).1
  refine ⟨_, serveStep_of_arrived hl hs hc hm hsize, hset _, rfl, rfl, ?_⟩
  refine request?_of_header (hset _) rfl (unfinished_header hm hsize) ?_ ?_ hsize
  · rw [List.length_take, length_frame]
    omega
  · show (frame (encode m)).take 4 ++ (l.requests.take 4).2.content = _
    rw [Pipe.content_take, hc, List.take_append_drop]

end Service

/-- a configuration whose endpoint is nothing but quotation marks -/
def markedConfig (n : Nat) : TunnelConfig := { name := "t", endpoint := String.ofList (List.replicate n '"') }

theorem check_markedConfig (n : Nat) :
    (markedConfig n).check = .error (.endpoint (String.ofList (List.replicate n '"'))) := by
  have hname : (markedConfig n).checkName = .ok () := by
    show (if "t".toList.all isBlank then _ else _) = _
    rw [if_neg (by decide)]
  have hcut : cutAtLast ':' (List.replicate n '"') = none := by
    have hdrop : (List.replicate n '"').dropWhile (· != ':') = [] :=
      List.dropWhile_replicate.trans (if_pos (by decide))
    unfold cutAtLast
    rw [List.reverse_replicate, hdrop]
  have hendpoint : (markedConfig n).checkEndpoint = .error (.endpoint (String.ofList (List.replicate n '"'))) := by
    unfold TunnelConfig.checkEndpoint isEndpoint markedConfig
    rw [String.toList_ofList, hcut]
    rfl
  unfold TunnelConfig.check
  rw [hname, hendpoint]
  rfl

theorem utf8ByteSize_quoteText_marks (n : Nat) :
    (quoteText (String.ofList (List.replicate n '"'))).utf8ByteSize = 2 + 2 * n := by
  have hescapes : bytesOf ((List.replicate n '"').flatMap (escapeIn '"')) = 2 * n := by
    induction n with
    | zero => rfl
    | succ n ih =>
      rw [List.replicate_succ, List.flatMap_cons, bytesOf_append, ih]
      show 2 + 2 * n = _
      omega
  rw [utf8ByteSize_quoteText, String.toList_ofList, hescapes]

theorem length_encode_markedConfig (n : Nat) :
    (encode (Method.startTunnel (markedConfig n))).length = 30 + n := by
  show (tag 3 ++ (encode "t" ++ encode (String.ofList (List.replicate n '"')) ++ encode ([] : List String)
    ++ encode (none : Option UInt32))).length = _
  simp only [List.length_append, length_encode_string, utf8ByteSize_ofList, bytesOf_replicate]
  show 4 + (8 + 1 + (8 + n * 1) + 8 + 1) = _
  omega

namespace Service

/-- an elevated session asks to start a tunnel whose endpoint is 40000 quotation marks, in a frame that is short enough;
the loop ends with it, the session is told nothing and is no member any more -/
theorem unanswered_startTunnel :
    ∃ (m : Method) (s : Service), m = .startTunnel (markedConfig 40000) ∧ (encode m).length ≤ maxPayload ∧
      s = (fresh 500 .available (.simulated {}) .unsupported).run
        [.hub ⟨.create ⟨1⟩ (some ⟨0, 0⟩) 64, rfl⟩, .serve 0 65536, .send 0 (frame (encode m)), .loop 0] ∧
      s.request? 0 = some m ∧
      ∃ s' l', s.serveStep 0 = some s' ∧ s'.links[0]? = some l' ∧ l'.serving = .ended ∧ l'.responses.content = [] ∧
        s'.hub.includes 0 = false := by
  have hsize : (encode (Method.startTunnel (markedConfig 40000))).length = 40030 := length_encode_markedConfig 40000
  obtain ⟨m, hm⟩ : ∃ m, m = Method.startTunnel (markedConfig 40000) := ⟨_, rfl⟩
  rw [← hm] at hsize
  have hmax : (encode m).length ≤ maxPayload := hsize ▸ by decide
  have hne : encode m ≠ [] := fun h => by rw [h] at hsize; cases hsize
  -- the request arrives
  obtain ⟨s, hs⟩ : ∃ s, s = (fresh 500 .available (.simulated {}) .unsupported).run
      [.hub ⟨.create ⟨1⟩ (some ⟨0, 0⟩) 64, rfl⟩, .serve 0 65536, .send 0 (frame (encode m))] := ⟨_, rfl⟩
  have hsound : s.Sound := hs ▸ sound_run (sound_fresh 500 .available (.simulated {}) .unsupported) rfl
  have hroom : (frame (encode m)).length ≤ (Pipe.ofCapacity 65536).room := by
    rw [length_frame, hsize]
    decide
  obtain ⟨l, hl, hserving, hresponses, hsession, hcontent⟩ : ∃ l, s.links[0]? = some l ∧ l.serving = .reading .start ∧
      l.responses.content = [] ∧ l.session = 0 ∧ l.requests.content = frame (encode m) := by
    refine ⟨{ newLink 0 65536 with requests := afterWrite (frame (encode m)) (.ofCapacity 65536) }, ?_, rfl, rfl, rfl,
      ?_⟩
    · rw [hs]
      exact getElem?_changePipes _ 0 _ _ 0
    · rw [(Pipe.filled_afterWrite _ _).content, Pipe.accepted_of_room rfl rfl hroom]
      rfl
  obtain ⟨l', hstep, hl', hsession', hresponses', hrequest⟩ := request?_of_arrived hl hserving hcontent hne hmax
  rw [hsession] at hsession'
  -- and what is wrong with it is too long to be told
  have hoverlong : (s.setLink 0 l').Overlong l'.session m := by
    rw [hm, hsession']
    refine .startTunnel _ _ ?_ {} ?_ (.inl rfl) (.inl (check_markedConfig 40000)) ?_
    · rw [hs]
      rfl
    · rw [hs]
      rfl
    · rw [utf8ByteSize_quoteText_marks]
      decide
  have htunnel : (s.setLink 0 l').tunnel = .simulated {} := hs ▸ rfl
  obtain ⟨s', l'', hs', hl'', hresponses'', hended, hleaves⟩ := ends_of_overlong htunnel hl' hrequest hoverlong
  have hmembers := (operates_dispatch (s.setLink 0 l') l'.session m).hub.membersSound hsound.members
  have hout := includes_of_leaves hmembers hleaves
  refine ⟨m, s.setLink 0 l', hm, hmax, ?_, hrequest, s', l'', hs', hl'', hended, ?_, hsession' ▸ hout⟩
  · show _ = (Service.run _ ([_, _, _] ++ [_]))
    rw [run_concat, ← hs]
    show _ = (s.serveStep 0).getD s
    rw [hstep]
    rfl
  · rw [hresponses'', hresponses']
    exact hresponses

end Service

end TunnelControl
