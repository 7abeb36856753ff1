import TunnelControl.Proofs.Message.Payload
import TunnelControl.Proofs.Message.Size
import TunnelControl.Proofs.Service.Traffic
import TunnelControl.Proofs.Wire.Values

/-!
# The docket of a connection

A `Docket` is a service of which it is written down, for one requests connection, what its client has sent, which
requests were carried out with it and how they were answered, and what its client has been told.

* `Docket.perform`   what becomes of it, whatever happens to the service;
* `Docket.Stage`     the loop reads, or answers, or has ended, and why;
* `Docket.Sound`     what holds all along of what was sent, answered and told;
* `sound_perform`    whatever happens keeps to it.
-/

namespace TunnelControl

open Service (Deed LoopTurn)
open FrameReader (holding Unfinished)

/-! ## what is written down -/

namespace Service

/-- the request of a session that is carried out, with the answer to it -/
def answers (s : Service) (session n : Nat) : Deed → List (Method × Answer)
  | .act (.loop m) =>
    if m = n then ((s.request? n).map fun request => (request, (s.dispatch session request).1)).toList else []
  | _ => []

/-- how many steps the loop of a connection takes -/
def steps (s : Service) (n : Nat) : Deed → Nat
  | .act (.loop m) => if m = n ∧ (s.serveStep n).isSome = true then 1 else 0
  | _ => 0

/-- whether a session ceases to be a member -/
def departures (s : Service) (session : Nat) (deed : Deed) : Nat :=
  if s.hub.includes session = true ∧ (s.perform deed).hub.includes session = false then 1 else 0

end Service

/-- a service, with what went over one of its connections -/
structure Docket where
  session : Nat
  link : Nat
  service : Service
  /-- what the client has sent, as far as the connection took it -/
  sent : Bytes := []
  /-- the requests that were carried out, with the answers to them -/
  answered : List (Method × Answer) := []
  /-- what the client has read -/
  told : Bytes := []
  /-- how many steps the loop has taken -/
  steps : Nat := 0
  /-- how often the session has ceased to be a member -/
  departures : Nat := 0

namespace Docket

def perform (d : Docket) (deed : Deed) : Docket :=
  { d with
    service := d.service.perform deed
    sent := d.sent ++ d.service.sends d.link deed
    answered := d.answered ++ d.service.answers d.session d.link deed
    told := d.told ++ d.service.tells d.link deed
    steps := d.steps + d.service.steps d.link deed
    departures := d.departures + d.service.departures d.session deed }

def run (d : Docket) (deeds : List Deed) : Docket := deeds.foldl perform d

def requests (d : Docket) : List Method := d.answered.map Prod.fst

def replies (d : Docket) : List Answer := d.answered.map Prod.snd

end Docket

/-! ## what holds all along -/

namespace Docket

/-- the requests stand in what was sent, and the answers to them in what was told; of what was sent `rest` is not
taken up yet, and of the last answer `left` is not written -/
structure Books (d : Docket) (l : Link) (rest left : Bytes) : Prop where
  short : Short d.requests
  typed : ∀ entry ∈ d.answered, entry.1.isAnsweredBy entry.2 = true
  sent : d.sent = valueFrames d.requests ++ rest
  told : d.told ++ (l.responses.content ++ left) = answerBytes d.replies
  cut : left <:+ (d.replies.getLast?.map Answer.bytes).getD []

/-- why a loop has ended -/
inductive Verdict (d : Docket) (l : Link) (rest left : Bytes) : Prop
  /-- no request follows: what is left is none, or it is cut off -/
  | requests (written : left = []) (framed : ∀ a ∈ d.replies, a.HasFrame) (stop : Valueless Method rest)
    (cut : Unfinished rest → l.requests.writerOpen = false)
  /-- the last answer has no frame -/
  | answer (written : left = []) (before : List Answer) (last : Answer) (replies : d.replies = before ++ [last])
    (framed : ∀ a ∈ before, a.HasFrame) (frameless : ¬last.HasFrame)
  /-- the client reads no more -/
  | gone (framed : ∀ a ∈ d.replies, a.HasFrame) (reader : l.responses.readerOpen = false)

/-- how far a loop has come -/
inductive Stage (d : Docket) (l : Link) : Prop
  | reading (held : Bytes) (serving : l.serving = .reading (holding held)) (unfinished : Unfinished held)
    (books : d.Books l (held ++ l.requests.content) []) (framed : ∀ a ∈ d.replies, a.HasFrame)
    (open_ : l.responses.writerOpen = true)
  | replying (left : Bytes) (serving : l.serving = .replying left) (begun : left ≠ [])
    (books : d.Books l l.requests.content left) (framed : ∀ a ∈ d.replies, a.HasFrame)
    (open_ : l.responses.writerOpen = true)
  | ended (serving : l.serving = .ended) (rest left : Bytes) (books : d.Books l rest left)
    (verdict : d.Verdict l rest left) (reader : l.requests.readerOpen = false)

/-- a step takes a byte off what was sent, adds one to what is told, or is the last one -/
def Paced (d : Docket) (l : Link) : Prop :=
  d.steps + l.requests.content.length
    ≤ d.sent.length + (d.told.length + l.responses.content.length) + (if l.serving = .ended then 1 else 0)

/-- what holds of a docket all along -/
structure Sound (d : Docket) (capacity : Nat) (l : Link) : Prop where
  link : d.service.links[d.link]? = some l
  session : l.session = d.session
  requests : l.requests.capacity = capacity
  responses : l.responses.capacity = capacity
  stage : d.Stage l
  paced : d.Paced l

/-! ## what the client does -/

/-- what was written down with what the loop does not do -/
structure Beside (d d' : Docket) (l l' : Link) (more taken : Bytes) : Prop where
  answered : d'.answered = d.answered
  steps : d'.steps = d.steps
  sent : d'.sent = d.sent ++ more
  told : d'.told = d.told ++ taken
  used : l.Used l' more taken

theorem answers_eq_nil {d : Docket} {deed : Deed} (hd : deed ≠ .act (.loop d.link)) :
    d.service.answers d.session d.link deed = [] ∧ d.service.steps d.link deed = 0 := by
  cases deed with
  | act a =>
    cases a with
    | loop m =>
      have hne : m ≠ d.link := fun heq => hd (heq ▸ rfl)
      exact ⟨if_neg hne, if_neg fun h => hne h.1⟩
    | _ => exact ⟨rfl, rfl⟩
  | _ => exact ⟨rfl, rfl⟩

theorem beside_perform {d : Docket} {l : Link} (hl : d.service.links[d.link]? = some l) {deed : Deed}
    (ha : d.service.answers d.session d.link deed = []) (hs : d.service.steps d.link deed = 0) :
    Beside d (d.perform deed) l (Service.touched d.link l deed) (d.service.sends d.link deed)
      (d.service.tells d.link deed) where
  answered := (congrArg (d.answered ++ ·) ha).trans (List.append_nil _)
  steps := congrArg (d.steps + ·) hs
  sent := rfl
  told := rfl
  used := Service.used_touched hl deed

variable {d d' : Docket} {l l' : Link} {more taken : Bytes}

theorem Beside.replies (h : Beside d d' l l' more taken) : d'.replies = d.replies :=
  congrArg (List.map Prod.snd) h.answered

theorem Books.beside {rest left : Bytes} (hb : d.Books l rest left) (h : Beside d d' l l' more taken) :
    d'.Books l' (rest ++ more) left where
  short := by
    rw [Docket.requests, h.answered]
    exact hb.short
  typed := by
    rw [h.answered]
    exact hb.typed
  sent := by
    rw [h.sent, hb.sent, List.append_assoc, Docket.requests, Docket.requests, h.answered]
  told := by
    rw [h.told, h.replies, ← hb.told, ← h.used.responses.content, List.append_assoc, List.append_assoc]
  cut := by
    rw [h.replies]
    exact hb.cut

/-- what the client does changes neither how far the loop has come nor why it has ended -/
theorem Stage.beside (hs : d.Stage l) (h : Beside d d' l l' more taken) : d'.Stage l' := by
  obtain ⟨-, hserving, hrequests, hresponses⟩ := h.used
  cases hs with
  | reading held serving unfinished books framed open_ =>
    have hb := books.beside h
    rw [List.append_assoc, ← hrequests.content] at hb
    exact .reading held (hserving.trans serving) unfinished hb (h.replies ▸ framed) (hresponses.writer.trans open_)
  | replying left serving begun books framed open_ =>
    have hb := books.beside h
    rw [← hrequests.content] at hb
    exact .replying left (hserving.trans serving) begun hb (h.replies ▸ framed) (hresponses.writer.trans open_)
  | ended serving rest left books verdict reader =>
    have hb := books.beside h
    rw [hrequests.unread reader, List.append_nil] at hb
    refine .ended (hserving.trans serving) rest left hb ?_ (hrequests.reader.trans reader)
    cases verdict with
    | requests written framed stop cut =>
      exact .requests written (h.replies ▸ framed) stop fun hu => hrequests.writer (cut hu)
    | answer written before last replies framed frameless =>
      exact .answer written before last (h.replies.trans replies) framed frameless
    | gone framed reader => exact .gone (h.replies ▸ framed) (hresponses.reader reader)

theorem Paced.beside (hp : d.Paced l) (h : Beside d d' l l' more taken) : d'.Paced l' := by
  have hrequests := congrArg List.length h.used.requests.content
  have hresponses := congrArg List.length h.used.responses.content
  unfold Paced at hp ⊢
  rw [List.length_append] at hrequests hresponses
  rw [h.steps, h.used.serving, h.sent, h.told, List.length_append, List.length_append]
  omega

theorem Sound.beside {capacity : Nat} (h : d.Sound capacity l) {deed : Deed}
    (hl : (d.service.perform deed).links[d.link]? = some l') (hb : Beside d (d.perform deed) l l' more taken) :
    (d.perform deed).Sound capacity l' where
  link := hl
  session := hb.used.session.trans h.session
  requests := hb.used.requests.capacity.trans h.requests
  responses := hb.used.responses.capacity.trans h.responses
  stage := h.stage.beside hb
  paced := h.paced.beside hb

/-! ## what the loop does -/

/-- what was written down as the loop takes a turn -/
structure Turned (d d' : Docket) (request : Option Method) : Prop where
  answered : d'.answered = d.answered ++ (request.map fun m => (m, (d.service.dispatch d.session m).1)).toList
  steps : d'.steps = d.steps + 1
  sent : d'.sent = d.sent
  told : d'.told = d.told

theorem turned_perform {t : Service} (ht : d.service.serveStep d.link = some t) :
    Turned d (d.perform (.act (.loop d.link))) (d.service.request? d.link) where
  answered := congrArg (d.answered ++ ·) (if_pos rfl)
  steps := congrArg (d.steps + ·) (if_pos ⟨rfl, by rw [ht]; rfl⟩)
  sent := List.append_nil _
  told := List.append_nil _

theorem Turned.answered_none (h : Turned d d' none) : d'.answered = d.answered :=
  h.answered.trans (List.append_nil _)

theorem Turned.replies_none (h : Turned d d' none) : d'.replies = d.replies :=
  congrArg (List.map Prod.snd) h.answered_none

theorem Turned.replies_some {m : Method} (h : Turned d d' (some m)) :
    d'.replies = d.replies ++ [(d.service.dispatch d.session m).1] := by
  rw [replies, h.answered, List.map_append]
  rfl

theorem Books.turned {rest left left' : Bytes} (hb : d.Books l rest left) (h : Turned d d' none)
    (hcut : left' <:+ left) (hwritten : l'.responses.content ++ left' = l.responses.content ++ left) :
    d'.Books l' rest left' where
  short := by
    rw [Docket.requests, h.answered_none]
    exact hb.short
  typed := by
    rw [h.answered_none]
    exact hb.typed
  sent := by
    rw [h.sent, hb.sent, Docket.requests, Docket.requests, h.answered_none]
  told := by
    rw [h.told, hwritten, hb.told, Docket.replies, Docket.replies, h.answered_none]
  cut := by
    rw [h.replies_none]
    exact hcut.trans hb.cut

/-- a request is carried out, and its answer is to be written -/
theorem Books.carried {m : Method} {rest : Bytes} (hb : d.Books l (frame (Wire.encode m) ++ rest) [])
    (h : Turned d d' (some m)) (hm : (Wire.encode m).length ≤ maxPayload)
    (hwritten : l'.responses.content = l.responses.content) :
    d'.Books l' rest (d.service.dispatch d.session m).1.bytes where
  short := by
    rw [Docket.requests, h.answered, List.map_append]
    refine fun request hr => (List.mem_append.mp hr).elim (hb.short request) fun hlast => ?_
    rw [List.mem_singleton.mp hlast]
    exact hm
  typed := by
    rw [h.answered]
    refine fun entry he => (List.mem_append.mp he).elim (hb.typed entry) fun hlast => ?_
    rw [List.mem_singleton.mp hlast]
    exact d.service.isAnsweredBy_dispatch d.session m
  sent := by
    rw [h.sent, hb.sent, Docket.requests, Docket.requests, h.answered, List.map_append]
    show _ = valueFrames (_ ++ [m]) ++ rest
    rw [valueFrames_concat, List.append_assoc]
  told := by
    have htold := hb.told
    rw [List.append_nil, Docket.replies] at htold
    rw [h.told, hwritten, ← List.append_assoc, htold, Docket.replies, h.answered, List.map_append]
    show _ = answerBytes (_ ++ [(d.service.dispatch d.session m).1])
    rw [answerBytes_concat]
  cut := by
    rw [h.replies_some, List.getLast?_concat]
    exact List.suffix_refl _

theorem Paced.turned {request : Option Method} (hp : d.Paced l) (h : Turned d d' request) (hs : l.serving ≠ .ended)
    (hstep : l'.requests.content.length + l.responses.content.length + 1
      ≤ l.requests.content.length + l'.responses.content.length + (if l'.serving = .ended then 1 else 0)) :
    d'.Paced l' := by
  unfold Paced at hp ⊢
  rw [if_neg hs] at hp
  rw [h.steps, h.sent, h.told]
  omega

theorem Stage.of_reading {reader : FrameReader} (h : d.Stage l) (hs : l.serving = .reading reader) :
    ∃ held, reader = holding held ∧ Unfinished held ∧ d.Books l (held ++ l.requests.content) [] ∧
      (∀ a ∈ d.replies, a.HasFrame) ∧ l.responses.writerOpen = true := by
  cases h with
  | reading held serving unfinished books framed open_ =>
    cases serving.symm.trans hs
    exact ⟨held, rfl, unfinished, books, framed, open_⟩
  | replying left serving => cases serving.symm.trans hs
  | ended serving => cases serving.symm.trans hs

theorem Stage.of_replying {left : Bytes} (h : d.Stage l) (hs : l.serving = .replying left) :
    left ≠ [] ∧ d.Books l l.requests.content left ∧ (∀ a ∈ d.replies, a.HasFrame) ∧
      l.responses.writerOpen = true := by
  cases h with
  | reading held serving => cases serving.symm.trans hs
  | replying left serving begun books framed open_ =>
    cases serving.symm.trans hs
    exact ⟨begun, books, framed, open_⟩
  | ended serving => cases serving.symm.trans hs

/-- the reader has a whole frame with what it read -/
theorem eq_frame_of_feed {held content payload : Bytes} (hu : Unfinished held)
    (hf : (holding held).feed (content.take (holding held).wanted) = .payload payload) :
    held ++ content = frame payload ++ content.drop (holding held).wanted ∧ payload.length ≤ maxPayload ∧
      ¬Unfinished (held ++ content) := by
  have hc := FrameReader.cutFrame_of_feed_take hu hf nofun
  have hfirst : Ending.clean.firstFrame (held ++ content) = (.payload payload, content.drop (holding held).wanted) := by
    rw [Ending.firstFrame, hc]
  obtain ⟨heq, hl⟩ := eq_frame_append_of_firstFrame hfirst
  refine ⟨heq, hl, fun hunfinished => ?_⟩
  rw [FrameReader.cutFrame_of_unfinished hunfinished] at hc
  cases hc

/-- the reader has the header of a frame that is too large -/
theorem valueless_of_feed {held content : Bytes} {length : Nat} (hu : Unfinished held)
    (hf : (holding held).feed (content.take (holding held).wanted) = .tooLarge length) :
    Valueless Method (held ++ content) ∧ ¬Unfinished (held ++ content) := by
  have hc := FrameReader.cutFrame_of_feed_take hu hf nofun
  refine ⟨fun payload left v hfirst => ?_, fun hunfinished => ?_⟩
  · rw [Ending.firstFrame, hc] at hfirst
    cases hfirst
  · rw [FrameReader.cutFrame_of_unfinished hunfinished] at hc
    cases hc

/-- where the loop has come to with a turn -/
structure Lands (d d' : Docket) (l l' : Link) : Prop where
  session : l'.session = l.session
  requests : l'.requests.capacity = l.requests.capacity
  responses : l'.responses.capacity = l.responses.capacity
  stage : d'.Stage l'
  paced : d'.Paced l'

/-- some of the answer is written, or all of it -/
theorem lands_writes {left rest : Bytes} {responses : Pipe} (hs : d.Stage l) (hp : d.Paced l)
    (h : Turned d d' none) (hl : l.serving = .replying left) (hw : l.responses.write left = .wrote rest responses) :
    Lands d d' l { l with responses, serving := if rest = [] then .reading .start else .replying rest } := by
  obtain ⟨hbegun, hbooks, hframed, hopen⟩ := hs.of_replying hl
  have hcontent := Pipe.content_write hw
  have hlonger := Pipe.length_content_write hbegun hw
  have hb (serving : Serving) : d'.Books { l with responses, serving } l.requests.content rest :=
    hbooks.turned h (Pipe.isSuffix_of_write hw) hcontent
  have hframed' : ∀ a ∈ d'.replies, a.HasFrame := h.replies_none ▸ hframed
  have hopen' := (Pipe.ends_write hw).2.trans hopen
  refine ⟨rfl, rfl, Pipe.capacity_write hw, ?_, ?_⟩
  · by_cases hr : rest = []
    · subst hr
      exact .reading [] rfl FrameReader.unfinished_nil (hb _) hframed' hopen'
    · rw [if_neg hr]
      exact .replying rest rfl hr (hb _) hframed' hopen'
  · refine hp.turned h (hl.trans_ne nofun) ?_
    show l.requests.content.length + l.responses.content.length + 1
      ≤ l.requests.content.length + responses.content.length + _
    omega

theorem lands_ends {l'' : Link} {request : Option Method} {rest left : Bytes} (hp : d.Paced l)
    (h : Turned d d' request) (hl : l.serving ≠ .ended) (hsession : l''.session = l.session)
    (hcapacity : l''.requests.capacity = l.requests.capacity)
    (hcontent : l''.requests.content.length ≤ l.requests.content.length) (hresponses : l''.responses = l.responses)
    (hb : d'.Books l''.hangUp rest left) (hverdict : d'.Verdict l''.hangUp rest left) : Lands d d' l l''.hangUp := by
  have hresponses' : l''.responses.capacity = l.responses.capacity := congrArg Pipe.capacity hresponses
  refine ⟨hsession, hcapacity, hresponses', .ended rfl rest left hb hverdict rfl, hp.turned h hl ?_⟩
  show l''.requests.content.length + l.responses.content.length + 1
    ≤ l.requests.content.length + l''.responses.content.length + 1
  rw [hresponses]
  omega

theorem lands_hangUp {rest left : Bytes} (hp : d.Paced l) (h : Turned d d' none) (hl : l.serving ≠ .ended)
    (hb : d.Books l rest left) (hverdict : d'.Verdict l.hangUp rest left) : Lands d d' l l.hangUp :=
  lands_ends hp h hl rfl rfl (Nat.le_refl _) rfl (hb.turned h (List.suffix_refl _) rfl) hverdict

/-- **Wherever the loop comes to, what was sent, answered and told fits together.** -/
theorem exists_lands {t : Service} {request : Option Method} (hs : d.Stage l) (hp : d.Paced l)
    (hsession : l.session = d.session) (hturn : LoopTurn d.service d.link l request t) (h : Turned d d' request) :
    ∃ l', t.links = d.service.links.set d.link l' ∧ Lands d d' l l' := by
  cases hturn with
  | writes left rest responses hl hw hr =>
    refine ⟨_, rfl, ?_⟩
    have hlands := lands_writes hs hp h hl hw
    rwa [if_neg hr] at hlands
  | written left responses hl hw => exact ⟨_, rfl, lands_writes hs hp h hl hw⟩
  | unwritten left hl hw =>
    obtain ⟨hbegun, hbooks, hframed, hopen⟩ := hs.of_replying hl
    refine ⟨l.hangUp, d.service.links_endLink d.link l, ?_⟩
    have hreader : l.responses.readerOpen = false := Pipe.readerOpen_of_broken hw hopen
    exact lands_hangUp hp h (hl.trans_ne nofun) hbooks
      (.gone (h.replies_none ▸ hframed) hreader)
  | stops reader hl ht he =>
    obtain ⟨held, rfl, hunfinished, hbooks, hframed, -⟩ := hs.of_reading hl
    obtain ⟨hempty, hclosed⟩ := (l.requests.atEnd_iff).mp he
    refine ⟨l.hangUp, d.service.links_endLink d.link l, ?_⟩
    rw [hempty, List.append_nil] at hbooks
    exact lands_hangUp hp h (hl.trans_ne nofun) hbooks
      (.requests rfl (h.replies_none ▸ hframed) (valueless_of_unfinished hunfinished) fun _ => hclosed)
  | reads reader next hl ht hf =>
    obtain ⟨held, rfl, hunfinished, hbooks, hframed, hopen⟩ := hs.of_reading hl
    rw [Pipe.take_fst] at ht hf
    obtain ⟨hunfinished', rfl⟩ := FrameReader.unfinished_of_feed_take hunfinished hf
    refine ⟨_, rfl, rfl, l.requests.capacity_take _, rfl, ?_, ?_⟩
    · refine .reading _ rfl hunfinished' ?_ (h.replies_none ▸ hframed) hopen
      rw [Pipe.content_take, List.append_assoc, List.take_append_drop]
      exact hbooks.turned h (List.suffix_refl _) rfl
    · refine hp.turned h (hl.trans_ne nofun) ?_
      have hread := l.requests.length_content_take_lt ht
      show (l.requests.take _).2.content.length + l.responses.content.length + 1
        ≤ l.requests.content.length + l.responses.content.length + _
      omega
  | tooLarge reader length hl ht hf =>
    -- the header stays among what was not taken up, and with it all that follows
    obtain ⟨held, rfl, hunfinished, hbooks, hframed, -⟩ := hs.of_reading hl
    rw [Pipe.take_fst] at hf
    obtain ⟨hover, hwhole⟩ := valueless_of_feed hunfinished hf
    refine ⟨l.hangUp, d.service.links_endLink d.link l, ?_⟩
    exact lands_hangUp hp h (hl.trans_ne nofun) hbooks
      (.requests rfl (h.replies_none ▸ hframed) hover fun hcut => absurd hcut hwhole)
  | undecodable reader payload fault hl ht hf hd =>
    obtain ⟨held, rfl, hunfinished, hbooks, hframed, -⟩ := hs.of_reading hl
    rw [Pipe.take_fst] at ht hf
    obtain ⟨hframe, hsize, hwhole⟩ := eq_frame_of_feed hunfinished hf
    refine ⟨_, d.service.links_endLink d.link _, ?_⟩
    refine lands_ends hp h (hl.trans_ne nofun) rfl (l.requests.capacity_take _)
      (Nat.le_of_lt (l.requests.length_content_take_lt ht)) rfl (hbooks.turned h (List.suffix_refl _) rfl)
      (.requests rfl (h.replies_none ▸ hframed) ?_ fun hcut => absurd hcut hwhole)
    rw [hframe]
    exact valueless_of_undecodable hsize hd _
  | answers reader payload m frame hl ht hf hd ha =>
    obtain ⟨held, rfl, hunfinished, hbooks, hframed, hopen⟩ := hs.of_reading hl
    rw [Pipe.take_fst] at ht hf
    obtain ⟨hframe, hsize, -⟩ := eq_frame_of_feed hunfinished hf
    -- what was read is the frame of the request itself, since nothing else is decoded to it
    cases eq_encode_of_decodePayload hd
    rw [hframe] at hbooks
    have hlinks (l' : Link) : ((d.service.dispatch l.session m).2.setLink d.link l').links
        = d.service.links.set d.link l' := congrArg (·.set d.link l') (d.service.links_dispatch l.session m)
    rw [hsession] at ha
    refine ⟨_, hlinks _, rfl, l.requests.capacity_take _, rfl, ?_, ?_⟩
    · have hb : d'.Books { l with requests := (l.requests.take (holding held).wanted).2, serving := .replying frame }
          (l.requests.content.drop (holding held).wanted) _ := hbooks.carried h hsize rfl
      rw [Answer.bytes_of_frame ha] at hb
      refine .replying frame rfl (Answer.ne_nil_of_frame ha) ?_ ?_ hopen
      · rw [Pipe.content_take]
        exact hb
      · rw [h.replies_some]
        refine fun a hmem => (List.mem_append.mp hmem).elim (hframed a) fun hlast => ⟨frame, ?_⟩
        rw [List.mem_singleton.mp hlast, ha]
    · refine hp.turned h (hl.trans_ne nofun) ?_
      have hread := l.requests.length_content_take_lt ht
      show (l.requests.take _).2.content.length + l.responses.content.length + 1
        ≤ l.requests.content.length + l.responses.content.length + _
      omega
  | unanswerable reader payload m e hl ht hf hd ha =>
    obtain ⟨held, rfl, hunfinished, hbooks, hframed, -⟩ := hs.of_reading hl
    rw [Pipe.take_fst] at ht hf
    obtain ⟨hframe, hsize, -⟩ := eq_frame_of_feed hunfinished hf
    cases eq_encode_of_decodePayload hd
    rw [hframe] at hbooks
    have hlinks (l' : Link) : ((d.service.dispatch l.session m).2.endLink d.link l').links
        = d.service.links.set d.link l'.hangUp := by rw [Service.links_endLink, Service.links_dispatch]
    rw [hsession] at ha
    refine ⟨_, hlinks _, ?_⟩
    have hb : d'.Books (Link.hangUp { l with requests := (l.requests.take (holding held).wanted).2 })
        (l.requests.content.drop (holding held).wanted) _ := hbooks.carried h hsize rfl
    rw [Answer.bytes_of_frameless ha] at hb
    refine lands_ends hp h (hl.trans_ne nofun) rfl (l.requests.capacity_take _)
      (Nat.le_of_lt (l.requests.length_content_take_lt ht)) rfl hb
      (.answer rfl d.replies _ h.replies_some hframed fun ⟨frame, hok⟩ => ?_)
    rw [hok] at ha
    cases ha

/-! ## whatever happens -/

/-- **Whatever happens to the service, what was sent, answered and told over the connection fits together.** -/
theorem sound_perform {capacity : Nat} (h : d.Sound capacity l) (deed : Deed) :
    ∃ l', (d.perform deed).Sound capacity l' := by
  by_cases hd : deed = .act (.loop d.link)
  · subst hd
    cases ht : d.service.serveStep d.link with
    | none =>
      -- the loop waits: nothing is written down
      have hrequest : d.service.request? d.link = none := by
        cases hr : d.service.request? d.link with
        | none => rfl
        | some m =>
          obtain ⟨t, hsome⟩ := Service.serveStep_of_request? hr
          cases ht.symm.trans hsome
      have hanswers : d.service.answers d.session d.link (.act (.loop d.link)) = [] := by
        rw [Service.answers, if_pos rfl, hrequest]
        rfl
      have hsteps : d.service.steps d.link (.act (.loop d.link)) = 0 :=
        if_neg fun hboth => by
          rw [ht] at hboth
          cases hboth.2
      have hlink : (d.service.perform (.act (.loop d.link))).links[d.link]? = some l := by
        rw [Service.perform_loop_of_none ht]
        exact h.link
      exact ⟨l, h.beside hlink (beside_perform h.link hanswers hsteps)⟩
    | some t =>
      obtain ⟨k, hk, hturn⟩ := Service.loopTurn_of_serveStep ht
      cases h.link.symm.trans hk
      obtain ⟨l', hlinks, hlands⟩ := exists_lands h.stage h.paced h.session hturn (turned_perform ht)
      refine ⟨l', ?_, hlands.session.trans h.session, hlands.requests.trans h.requests,
        hlands.responses.trans h.responses, hlands.stage, hlands.paced⟩
      show (d.service.perform (.act (.loop d.link))).links[d.link]? = some l'
      rw [Service.perform_loop_of_some ht, hlinks]
      exact List.getElem?_set_self (List.getElem?_eq_some_iff.mp h.link).1
  · obtain ⟨hanswers, hsteps⟩ := answers_eq_nil hd
    exact ⟨_, h.beside (Service.getElem?_perform h.link hd) (beside_perform h.link hanswers hsteps)⟩

theorem sound_run {capacity : Nat} (h : d.Sound capacity l) (deeds : List Deed) :
    ∃ l', (d.run deeds).Sound capacity l' := by
  induction deeds generalizing d l with
  | nil => exact ⟨l, h⟩
  | cons deed deeds ih =>
    obtain ⟨l', h'⟩ := sound_perform h deed
    exact ih h'

/-- the docket of a session that is just taken up -/
def opened (s : Service) (session capacity : Nat) : Docket :=
  { session, link := (s.serve session capacity).2.1, service := (s.serve session capacity).2.2 }

theorem sound_opened {s : Service} {session capacity : Nat} (hserved : (s.serve session capacity).1 = true) :
    (opened s session capacity).Sound capacity (Service.newLink session capacity) := by
  rw [opened, (Service.serve_of_joined hserved).2]
  refine ⟨List.getElem?_concat_length, rfl, rfl, rfl, ?_, Nat.le_refl _⟩
  exact .reading [] rfl FrameReader.unfinished_nil ⟨nofun, nofun, rfl, rfl, List.suffix_refl _⟩ nofun rfl

end Docket

end TunnelControl
