import TunnelControl.Proofs.Service.Privilege
import TunnelControl.Proofs.Service.Turn
import TunnelControl.Proofs.Stream.Pipe

/-!
# What goes over a connection

The client of a connection writes its requests and reads its answers, and may end either.  With everything else that
happens to a service, but for the turns of its loop, a connection stays as it is.

* `Pipe.Filled`, `Pipe.Drained`   bytes are written to a pipe, or are read;
* `Service.sends`, `tells`        what the client of a connection writes, and what it reads;
* `Service.touched`               what becomes of the connection;
* `used_touched`                  the pipes hold what was written to them and was not read;
* `getElem?_perform`              nothing else becomes of it.
-/

namespace TunnelControl

open Service (Deed LoopTurn)

/-! ## pipes -/

namespace Pipe

/-- what is taken of some bytes that are written to a pipe -/
def accepted (p : Pipe) (data : Bytes) : Bytes :=
  match p.write data with
  | .wrote left _ => data.take (data.length - left.length)
  | _ => []

/-- some bytes are written to a pipe by one who may close it; if nobody reads it these are none -/
structure Filled (p q : Pipe) (more : Bytes) : Prop where
  content : q.content = p.content ++ more
  capacity : q.capacity = p.capacity
  reader : q.readerOpen = p.readerOpen
  writer : p.writerOpen = false → q.writerOpen = false
  unread : p.readerOpen = false → more = []

/-- some bytes are read of a pipe, by one who may read no more -/
structure Drained (p q : Pipe) (taken : Bytes) : Prop where
  content : taken ++ q.content = p.content
  capacity : q.capacity = p.capacity
  writer : q.writerOpen = p.writerOpen
  reader : p.readerOpen = false → q.readerOpen = false

theorem Filled.refl (p : Pipe) : p.Filled p [] := ⟨(List.append_nil _).symm, rfl, rfl, id, fun _ => rfl⟩

theorem filled_closeWriter (p : Pipe) : p.Filled p.closeWriter [] :=
  ⟨(List.append_nil _).symm, rfl, rfl, fun _ => rfl, fun _ => rfl⟩

theorem accepted_of_unread {p : Pipe} (hr : p.readerOpen = false) (data : Bytes) : p.accepted data = [] := by
  unfold accepted
  by_cases hd : data = []
  · subst hd
    rw [write_nil]
    rfl
  · rw [write_of_unread hr hd]

theorem afterWrite_of_unread {p : Pipe} (hr : p.readerOpen = false) (data : Bytes) :
    Service.afterWrite data p = p := by
  unfold Service.afterWrite
  by_cases hd : data = []
  · subst hd
    rw [write_nil]
  · rw [write_of_unread hr hd]

/-- as much is written as there is room for -/
theorem filled_afterWrite (p : Pipe) (data : Bytes) : p.Filled (Service.afterWrite data p) (p.accepted data) := by
  have hunread (hr : p.readerOpen = false) : p.accepted data = [] := accepted_of_unread hr data
  unfold Service.afterWrite accepted at *
  cases hw : p.write data with
  | broken => exact .refl p
  | blocked => exact .refl p
  | wrote left q =>
    rw [hw] at hunread
    obtain ⟨piece, rfl⟩ := isSuffix_of_write hw
    obtain ⟨hreader, hwriter⟩ := ends_write hw
    refine ⟨?_, capacity_write hw, hreader, hwriter.trans, hunread⟩
    have hcontent := content_write hw
    rw [← List.append_assoc] at hcontent
    show q.content = p.content ++ (piece ++ left).take ((piece ++ left).length - left.length)
    rw [List.length_append, Nat.add_sub_cancel, List.take_left, List.append_cancel_right hcontent]

theorem accepted_of_room {p : Pipe} (hr : p.readerOpen = true) (hw : p.writerOpen = true) {data : Bytes}
    (h : data.length ≤ p.room) : p.accepted data = data := by
  unfold accepted
  by_cases hd : data = []
  · subst hd
    rw [write_nil]
    rfl
  · have hpos := List.length_pos_iff.mpr hd
    obtain ⟨left, q, hwrite⟩ := write_of_room hr hw (Nat.lt_of_lt_of_le hpos h) data
    obtain ⟨-, hleft, -⟩ := eq_of_write hd hwrite
    rw [hwrite, hleft, List.drop_eq_nil_of_le h]
    exact List.take_length

theorem Drained.refl (p : Pipe) : p.Drained p [] := ⟨rfl, rfl, rfl, id⟩

theorem drained_closeReader (p : Pipe) : p.Drained p.closeReader [] := ⟨rfl, rfl, rfl, fun _ => rfl⟩

theorem drained_take (p : Pipe) (limit : Nat) : p.Drained (p.take limit).2 (p.take limit).1 :=
  ⟨p.take_append limit, p.capacity_take limit, rfl, id⟩

end Pipe

/-! ## the client -/

/-- some bytes are written to a connection and some are read, by its client -/
structure Link.Used (l l' : Link) (sent told : Bytes) : Prop where
  session : l'.session = l.session
  serving : l'.serving = l.serving
  requests : l.requests.Filled l'.requests sent
  responses : l.responses.Drained l'.responses told

theorem Link.Used.refl (l : Link) : l.Used l [] [] := ⟨rfl, rfl, .refl _, .refl _⟩

namespace Service

variable {s t : Service} {n : Nat} {l : Link}

/-- what the client of a connection sends -/
def sends (s : Service) (n : Nat) : Deed → Bytes
  | .act (.send m data) => if m = n then (s.links[n]?.map fun l => l.requests.accepted data).getD [] else []
  | _ => []

/-- what it is told -/
def tells (s : Service) (n : Nat) : Deed → Bytes
  | .act (.readAnswers m limit) => if m = n then (s.links[n]?.map fun l => (l.responses.take limit).1).getD [] else []
  | _ => []

/-- what becomes of a connection with all that its loop does not do -/
def touched (n : Nat) (l : Link) : Deed → Link
  | .act (.send m data) => if m = n then { l with requests := afterWrite data l.requests } else l
  | .act (.endRequests m) => if m = n then { l with requests := l.requests.closeWriter } else l
  | .act (.dropRequests m) =>
    if m = n then { l with requests := l.requests.closeWriter, responses := l.responses.closeReader } else l
  | .act (.readAnswers m limit) => if m = n then { l with responses := (l.responses.take limit).2 } else l
  | _ => l

/-- its pipes hold what the client has written, without what it has read -/
theorem used_touched (hl : s.links[n]? = some l) (deed : Deed) :
    l.Used (touched n l deed) (s.sends n deed) (s.tells n deed) := by
  cases deed with
  | act a =>
    cases a with
    | send m data =>
      simp only [touched, sends, tells, hl, Option.map_some, Option.getD_some]
      by_cases hm : m = n
      · rw [if_pos hm, if_pos hm]
        exact ⟨rfl, rfl, l.requests.filled_afterWrite data, .refl _⟩
      · rw [if_neg hm, if_neg hm]
        exact .refl l
    | endRequests m =>
      simp only [touched, sends, tells]
      split
      · exact ⟨rfl, rfl, l.requests.filled_closeWriter, .refl _⟩
      · exact .refl l
    | dropRequests m =>
      simp only [touched, sends, tells]
      split
      · exact ⟨rfl, rfl, l.requests.filled_closeWriter, l.responses.drained_closeReader⟩
      · exact .refl l
    | readAnswers m limit =>
      simp only [touched, sends, tells, hl, Option.map_some, Option.getD_some]
      by_cases hm : m = n
      · rw [if_pos hm, if_pos hm]
        exact ⟨rfl, rfl, .refl _, l.responses.drained_take limit⟩
      · rw [if_neg hm, if_neg hm]
        exact .refl l
    | _ => exact .refl l
  | _ => exact .refl l

/-! ## everything else -/

theorem links_endLink (s : Service) (n : Nat) (l : Link) : (s.endLink n l).links = s.links.set n l.hangUp := by
  unfold endLink
  simp only
  split <;> rfl

theorem OwnOnly.links (h : s.OwnOnly n l t) : ∃ l' : Link, t.links = s.links.set n l' ∧ l'.session = l.session := by
  cases h with
  | goesOn l' hs hserving => exact ⟨l', rfl, hs⟩
  | ends l' hs => exact ⟨l'.hangUp, s.links_endLink n l', hs⟩

theorem reaches_carried (s : Service) (session : Nat) (request : Option Method) :
    s.hub.Reaches (s.carried session request).hub := by
  cases request with
  | none => exact .refl _
  | some m => exact (s.operates_dispatch session m).hub

theorem serve_fst (s : Service) (session capacity : Nat) : (s.serve session capacity).1 = (s.hub.join session).1 := by
  unfold serve
  generalize s.hub.join session = joined
  obtain ⟨_ | _, _⟩ := joined <;> rfl

theorem serve_of_joined {session capacity : Nat} (hserved : (s.serve session capacity).1 = true) :
    (s.hub.join session).1 = true ∧
      (s.serve session capacity).2 =
        (s.links.length,
          { s with hub := (s.hub.join session).2, links := s.links ++ [newLink session capacity] }) := by
  unfold serve at hserved ⊢
  generalize s.hub.join session = joined at hserved ⊢
  obtain ⟨taken, hub⟩ := joined
  cases taken with
  | true => exact ⟨rfl, rfl⟩
  | false => cases hserved

theorem perform_loop_of_none (ht : s.serveStep n = none) : s.perform (.act (.loop n)) = s := by
  show (s.serveStep n).getD s = s
  rw [ht, Option.getD_none]

theorem perform_loop_of_some (ht : s.serveStep n = some t) : s.perform (.act (.loop n)) = t := by
  show (s.serveStep n).getD s = t
  rw [ht, Option.getD_some]

/-- an installation that reports touches neither the hub nor a connection -/
theorem unchanged_report (s : Service) (run : Nat) (item : Progress) :
    (s.perform (.report run item)).hub = s.hub ∧ (s.perform (.report run item)).links = s.links := by
  show (Site.report { service := s } run item).2.service.hub = s.hub ∧
    (Site.report { service := s } run item).2.service.links = s.links
  unfold Site.report
  cases s.relay? run with
  | none => exact ⟨rfl, rfl⟩
  | some r =>
    simp only
    split <;> exact ⟨rfl, rfl⟩

/-- **A connection is touched by its client and by its loop alone.** -/
theorem getElem?_perform (hl : s.links[n]? = some l) {deed : Deed} (hd : deed ≠ .act (.loop n)) :
    (s.perform deed).links[n]? = some (touched n l deed) := by
  have hpipes (m : Nat) (requests responses : Pipe → Pipe) : (s.changePipes m requests responses).links[n]?
      = some (if m = n then { l with requests := requests l.requests, responses := responses l.responses } else l) := by
    rw [getElem?_changePipes, hl, Option.map_some]
  cases deed with
  | act a =>
    cases a with
    | hub a => exact hl
    | serve handle capacity =>
      have hn := (List.getElem?_eq_some_iff.mp hl).1
      show (s.serve handle capacity).2.2.links[n]? = some l
      unfold serve
      split
      · exact (List.getElem?_append_left hn).trans hl
      · exact (List.getElem?_append_left hn).trans hl
    | loop m =>
      have hne : m ≠ n := fun heq => hd (heq ▸ rfl)
      show (s.perform (.act (.loop m))).links[n]? = some l
      cases ht : s.serveStep m with
      | none => rwa [perform_loop_of_none ht]
      | some t =>
        obtain ⟨k, -, hturn⟩ := loopTurn_of_serveStep ht
        obtain ⟨k', hlinks, -⟩ := hturn.effect.links
        rw [perform_loop_of_some ht, hlinks, links_carried, List.getElem?_set_ne hne]
        exact hl
    | relay m =>
      show (s.act (.relay m)).links[n]? = some l
      rw [(s.steady_act_relay m).2.2]
      exact hl
    | send m data => exact hpipes m _ _
    | endRequests m => exact hpipes m _ _
    | dropRequests m => exact hpipes m _ _
    | readAnswers m limit => exact hpipes m _ _
  | schedule a => cases a <;> exact hl
  | report run item =>
    rw [(s.unchanged_report run item).2]
    exact hl
  | endReports => exact hl
  | takeSignal => exact hl

end Service

end TunnelControl
