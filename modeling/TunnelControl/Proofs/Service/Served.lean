import TunnelControl.Proofs.Service.Departure

/-!
# Sessions that are served

A session that was taken up is served over its connection.  The client sends what it likes, in any pieces, and reads or
does not; and anything else may happen to the service in between.

* `Docket.Settled`    all requests that were sent are answered;
* `Docket.Over`       why the loop has ended;
* `Docket.Served`     what is true of the connection and of its session at any time;
* `served_in_order`   it is, after any run.
-/

namespace TunnelControl.Docket

open Service (Deed LoopTurn)
open FrameReader (holding Unfinished)

/-- all requests that were sent are answered, and the answers are read or there to be read -/
structure Settled (d : Docket) (l : Link) : Prop where
  requests : d.requests = (splitValues (decodePayload Method) d.sent).1
  framed : ∀ a ∈ d.replies, a.HasFrame
  written : d.told ++ l.responses.content = answerBytes d.replies

/-- why a loop has ended -/
inductive Over (d : Docket) (l : Link) : Prop
  /-- what follows the requests is no request, or the client sends no more of it -/
  | requests (settled : d.Settled l)
      (cut : Unfinished (splitValues (decodePayload Method) d.sent).2 → l.requests.writerOpen = false)
  /-- the last answer has no frame -/
  | answer (before : List Answer) (last : Answer) (replies : d.replies = before ++ [last])
      (framed : ∀ a ∈ before, a.HasFrame) (frameless : ¬last.HasFrame)
      (written : d.told ++ l.responses.content = answerBytes before)
  /-- the client reads no more -/
  | gone (framed : ∀ a ∈ d.replies, a.HasFrame) (reader : l.responses.readerOpen = false)

/-- what is true of a connection and of its session at any time -/
structure Served (d : Docket) (capacity : Nat) (l : Link) : Prop where
  link : d.service.links[d.link]? = some l
  session : l.session = d.session
  /-- the requests are carried out in order, each once -/
  requests : d.requests <+: (splitValues (decodePayload Method) d.sent).1
  /-- a turn of the loop does to the service what its request comes to, and no more but to the connection, and to the
  members as it ends -/
  turn : ∀ t, d.service.serveStep d.link = some t →
    (d.service.carried d.session (d.service.request? d.link)).OwnOnly d.link l t
  typed : ∀ entry ∈ d.answered, entry.1.isAnsweredBy entry.2 = true
  framed : ∀ a ∈ d.replies.dropLast, a.HasFrame
  /-- the client is told the frames of the answers in order, and nothing else; the last may not be written yet -/
  written : ∃ left, d.told ++ (l.responses.content ++ left) = answerBytes d.replies ∧
    left <:+ (d.replies.getLast?.map Answer.bytes).getD []
  /-- the loop waits for more of a request, or for the client to read -/
  waits : l.serving ≠ .ended → d.service.serveStep d.link = none →
    d.Settled l ∧ Unfinished (splitValues (decodePayload Method) d.sent).2 ∧ l.requests.writerOpen = true ∨
      l.responses.content.length = capacity
  /-- and it does wait, or end -/
  pace : d.steps ≤ d.sent.length + (d.told.length + l.responses.content.length) + 1
  ended : l.serving = .ended → d.Over l
  /-- a loop that has ended does nothing, and what is sent then is lost -/
  deaf : l.serving = .ended → d.service.serveStep d.link = none ∧
    ∀ data, d.service.perform (.act (.send d.link data)) = d.service
  enrolled : d.Alone → d.Enrolled l
  /-- nobody else departs or is closed as the loop ends -/
  others : d.Alone → ∀ t l', d.service.serveStep d.link = some t → t.links[d.link]? = some l' → l'.serving = .ended →
    ∀ other, other ≠ d.session →
      t.hub.includes other = d.service.hub.includes other ∧ t.hub.isClosed other = d.service.hub.isClosed other

variable {d : Docket} {l : Link} {rest left : Bytes}

/-! ## what was sent -/

theorem Books.isPrefix_requests (hb : d.Books l rest left) :
    d.requests <+: (splitValues (decodePayload Method) d.sent).1 := by
  rw [hb.sent]
  exact isPrefix_splitValues hb.short rest

theorem Books.splitValues (hb : d.Books l rest left) (hr : Valueless Method rest) :
    splitValues (decodePayload Method) d.sent = (d.requests, rest) := by
  rw [hb.sent]
  exact splitValues_valueFrames hb.short hr

/-- all is answered when no request is left and all is written -/
theorem Books.settled (hb : d.Books l rest []) (hr : Valueless Method rest) (hframed : ∀ a ∈ d.replies, a.HasFrame) :
    d.Settled l where
  requests := (congrArg Prod.fst (hb.splitValues hr)).symm
  framed := hframed
  written := by
    have htold := hb.told
    rwa [List.append_nil] at htold

theorem Stage.books (hs : d.Stage l) : ∃ rest left, d.Books l rest left := by
  cases hs with
  | reading held serving unfinished books => exact ⟨_, _, books⟩
  | replying left serving begun books => exact ⟨_, _, books⟩
  | ended serving rest left books => exact ⟨rest, left, books⟩

theorem Stage.framed_dropLast (hs : d.Stage l) : ∀ a ∈ d.replies.dropLast, a.HasFrame := by
  cases hs with
  | reading held serving unfinished books framed => exact fun a ha => framed a (List.dropLast_subset _ ha)
  | replying left serving begun books framed => exact fun a ha => framed a (List.dropLast_subset _ ha)
  | ended serving rest left books verdict =>
    cases verdict with
    | requests written framed => exact fun a ha => framed a (List.dropLast_subset _ ha)
    | answer written before last replies framed =>
      rw [replies, List.dropLast_concat]
      exact framed
    | gone framed => exact fun a ha => framed a (List.dropLast_subset _ ha)

/-! ## waiting, and ending -/

theorem Stage.over_of_ended (hs : d.Stage l) (he : l.serving = .ended) : d.Over l := by
  cases hs with
  | reading held serving => cases serving.symm.trans he
  | replying left serving => cases serving.symm.trans he
  | ended serving rest left books verdict =>
    cases verdict with
    | requests written framed stop cut =>
      subst written
      refine .requests (books.settled stop framed) fun hunfinished => cut ?_
      rwa [books.splitValues stop] at hunfinished
    | answer written before last replies framed frameless =>
      subst written
      refine .answer before last replies framed frameless ?_
      have htold := books.told
      cases hlast : last.frame with
      | ok frame => exact absurd ⟨frame, hlast⟩ frameless
      | error e =>
        rwa [List.append_nil, replies, answerBytes_concat, Answer.bytes_of_frameless hlast, List.append_nil] at htold
    | gone framed reader => exact .gone framed reader

theorem Stage.deaf (hs : d.Stage l) (hl : d.service.links[d.link]? = some l) (he : l.serving = .ended) :
    d.service.serveStep d.link = none ∧ ∀ data, d.service.perform (.act (.send d.link data)) = d.service := by
  refine ⟨Service.serveStep_ended hl he, fun data => ?_⟩
  have hreader : l.requests.readerOpen = false := by
    cases hs with
    | reading held serving => cases serving.symm.trans he
    | replying left serving => cases serving.symm.trans he
    | ended serving rest left books verdict reader => exact reader
  have hlinks : (d.service.changePipes d.link (Service.afterWrite data) id).links = d.service.links := by
    refine List.ext_getElem? fun n => ?_
    rw [Service.getElem?_changePipes]
    by_cases hn : d.link = n
    · subst hn
      rw [hl, Option.map_some, if_pos rfl, Pipe.afterWrite_of_unread hreader]
      rfl
    · cases d.service.links[n]? with
      | none => rfl
      | some k => rw [Option.map_some, if_neg hn]
  exact congrArg (fun links => { d.service with links }) hlinks

theorem Stage.waits {capacity : Nat} (hs : d.Stage l) (hl : d.service.links[d.link]? = some l)
    (hc : l.responses.capacity = capacity) (he : l.serving ≠ .ended) (ht : d.service.serveStep d.link = none) :
    d.Settled l ∧ Unfinished (splitValues (decodePayload Method) d.sent).2 ∧ l.requests.writerOpen = true ∨
      l.responses.content.length = capacity := by
  unfold Service.serveStep at ht
  rw [hl] at ht
  cases hs with
  | reading held serving unfinished books framed =>
    left
    simp only [serving] at ht
    have hnil : (l.requests.take (holding held).wanted).1 = [] ∧ l.requests.atEnd = false := by
      generalize l.requests.take (holding held).wanted = taken at ht
      obtain ⟨piece, requests⟩ := taken
      cases piece with
      | nil =>
        cases hend : l.requests.atEnd with
        | true =>
          simp only [hend, if_true] at ht
          cases ht
        | false => exact ⟨rfl, rfl⟩
      | cons b piece =>
        simp only at ht
        split at ht <;> cases ht
    have hcontent := (l.requests.take_eq_nil_iff (FrameReader.wanted_pos unfinished)).mp hnil.1
    rw [hcontent, List.append_nil] at books
    have hvalueless : Valueless Method held := valueless_of_unfinished unfinished
    refine ⟨books.settled hvalueless framed, ?_, ?_⟩
    · rw [books.splitValues hvalueless]
      exact unfinished
    · refine Bool.of_not_eq_false fun hclosed => ?_
      have hend := (l.requests.atEnd_iff).mpr ⟨hcontent, hclosed⟩
      cases hend.symm.trans hnil.2
  | replying left serving begun books framed open_ =>
    right
    simp only [serving] at ht
    cases hw : l.responses.write left with
    | broken =>
      rw [hw] at ht
      cases ht
    | wrote rest responses =>
      rw [hw] at ht
      cases rest <;> cases ht
    | blocked =>
      have hfull := (l.responses.write_eq_blocked_iff left).mp hw
      rw [Pipe.isFullFor, Bool.and_eq_true, decide_eq_true_eq] at hfull
      rw [← hc, Pipe.capacity, hfull.2, Nat.zero_add]
  | ended serving => exact absurd serving he

/-! ## the whole -/

theorem served_of_sound {capacity : Nat} (hs : d.Sound capacity l) (hm : d.service.hub.MembersSound)
    (he : d.Alone → d.Enrolled l) : d.Served capacity l := by
  obtain ⟨rest, left, hbooks⟩ := hs.stage.books
  have hturn {t : Service} (ht : d.service.serveStep d.link = some t) :
      LoopTurn d.service d.link l (d.service.request? d.link) t := by
    obtain ⟨k, hk, hturn⟩ := Service.loopTurn_of_serveStep ht
    cases hs.link.symm.trans hk
    exact hturn
  exact
    { link := hs.link
      session := hs.session
      requests := hbooks.isPrefix_requests
      turn := fun t ht => hs.session ▸ (hturn ht).effect
      typed := hbooks.typed
      framed := hs.stage.framed_dropLast
      written := ⟨left, hbooks.told, hbooks.cut⟩
      waits := hs.stage.waits hs.link hs.responses
      pace := by
        have hpaced := hs.paced
        unfold Paced at hpaced
        split at hpaced <;> omega
      ended := hs.stage.over_of_ended
      deaf := hs.stage.deaf hs.link
      enrolled := he
      others := fun ha t l' ht hl' hended other hne =>
        (hturn ht).keepsOthers hm (hs.session ▸ ha.id) hl' hended (hs.session ▸ hne) }

/-- **A session is served its requests in order, each answered once, up to the first fault.**  Whatever its client sends
and reads, and whatever happens to the service meanwhile: the requests that are carried out are those that stand in
front of the first fault, the client is told the frames of what they came to, and the session departs once, as its loop
ends or before. -/
theorem served_in_order (deliveryTimeout : Nat) (updateState : UpdateState) (tunnel : TunnelBackend)
    (installer : Installer) (before : List Deed) {session capacity : Nat}
    (hserved : ((before.foldl Service.perform (.fresh deliveryTimeout updateState tunnel installer)).serve
      session capacity).1 = true) (after : List Deed) :
    ∃ l, ((opened (before.foldl Service.perform (.fresh deliveryTimeout updateState tunnel installer))
      session capacity).run after).Served capacity l := by
  have hfresh := (Service.sound_fresh deliveryTimeout updateState tunnel installer).members
  generalize hs : before.foldl Service.perform _ = s at hserved
  have hbefore : s.hub.MembersSound := hs ▸ membersSound_foldl hfresh before
  have hopened : (opened s session capacity).service.hub.MembersSound :=
    (s.reaches_serve session capacity).membersSound hbefore
  have hsound := sound_opened hserved
  obtain ⟨l, hl⟩ := sound_run hsound after
  refine ⟨l, served_of_sound hl ?_ fun ha => enrolled_run hsound (enrolled_opened hserved) hopened ha hl.link⟩
  rw [service_run]
  exact membersSound_foldl hopened after

/-- two requests at once and half of a third: both are carried out and answered, and the session departs as its stream
ends within the third, while the other session stays -/
theorem served_in_order_cut :
    ∃ (before after : List Deed) (d : Docket),
      before = [.act (.hub ⟨.create ⟨1⟩ none 64, rfl⟩), .act (.hub ⟨.create ⟨2⟩ (some ⟨0, 0⟩) 64, rfl⟩),
        .act (.serve 0 64)] ∧
      after = [.act (.send 1 [4, 0, 0, 0, 1, 0, 0, 0, 4, 0, 0, 0, 5]), .act (.loop 1), .act (.loop 1), .act (.loop 1),
        .act (.send 1 [0, 0, 0, 9, 0]), .act (.loop 1), .act (.loop 1), .act (.loop 1), .act (.loop 1),
        .act (.endRequests 1), .act (.loop 1), .act (.readAnswers 1 64)] ∧
      d = (opened (before.foldl Service.perform (.fresh 500 .available (.simulated {}) .unsupported)) 1 64).run after ∧
      ((before.foldl Service.perform (.fresh 500 .available (.simulated {}) .unsupported)).serve 1 64).1 = true ∧
      (∃ l, d.Served 64 l) ∧ d.Alone ∧ d.told = [4, 0, 0, 0, 1, 0, 0, 0, 4, 0, 0, 0, 0, 0, 0, 0] ∧
      d.departures = 1 ∧ d.service.registered = [0] := by
  refine ⟨_, _, _, rfl, rfl, rfl, by decide +kernel, ?_, ?_, by decide +kernel, by decide +kernel, by decide +kernel⟩
  · exact served_in_order 500 .available (.simulated {}) .unsupported _ (by decide +kernel) _
  · exact alone_of_nodup (by decide +kernel) (by decide +kernel) (by decide +kernel)

end TunnelControl.Docket
