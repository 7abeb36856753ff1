import TunnelControl.Stream.Pipe

/-!
# What a write and a read do to a pipe

* `eq_of_write`, `write_of_room`   a write takes as many bytes as there is room for, if there is any;
* `take_eq_nil_iff`                nothing is taken only if nothing is there, or nothing is wanted;
* `room_pos_iff`                   there is room as long as less is unread than the pipe can hold.
-/

namespace TunnelControl.Pipe

theorem room_pos_iff (p : Pipe) : 0 < p.room ↔ p.content.length < p.capacity := by
  unfold capacity
  omega

/-- a write that takes something off its bytes takes as much as there is room for -/
theorem eq_of_write {p q : Pipe} {data left : Bytes} (hd : data ≠ []) (h : p.write data = .wrote left q) :
    (p.readerOpen = true ∧ p.writerOpen = true ∧ 0 < p.room) ∧
    left = data.drop p.room ∧ q.content = p.content ++ data.take p.room ∧
    q.readerOpen = p.readerOpen ∧ q.writerOpen = p.writerOpen := by
  unfold write at h
  rw [if_neg (by simpa using hd)] at h
  split at h
  · cases h
  · rename_i ho
    split at h
    · cases h
    · rename_i hr
      rw [List.splitAt_eq] at h
      cases h
      simp only [Bool.or_eq_true, Bool.not_eq_true', not_or, Bool.not_eq_false] at ho
      exact ⟨⟨ho.1, ho.2, Nat.pos_of_ne_zero hr⟩, rfl, Backlog.toList_add _ _, rfl, rfl⟩

theorem eq_of_write_nil {p q : Pipe} {left : Bytes} (h : p.write [] = .wrote left q) : left = [] ∧ q = p := by
  rw [write_nil] at h
  cases h
  exact ⟨rfl, rfl⟩

/-- a write opens and closes nothing -/
theorem ends_write {p q : Pipe} {data left : Bytes} (h : p.write data = .wrote left q) :
    q.readerOpen = p.readerOpen ∧ q.writerOpen = p.writerOpen := by
  by_cases hd : data = []
  · subst hd
    obtain ⟨-, rfl⟩ := eq_of_write_nil h
    exact ⟨rfl, rfl⟩
  · obtain ⟨-, -, -, hr, hw⟩ := eq_of_write hd h
    exact ⟨hr, hw⟩

theorem isSuffix_of_write {p q : Pipe} {data left : Bytes} (h : p.write data = .wrote left q) : left <:+ data := by
  by_cases hd : data = []
  · subst hd
    obtain ⟨rfl, -⟩ := eq_of_write_nil h
    exact List.suffix_refl _
  · obtain ⟨-, rfl, -⟩ := eq_of_write hd h
    exact List.drop_suffix ..

/-- what was unread stays so -/
theorem isPrefix_content_write {p q : Pipe} {data left : Bytes} (h : p.write data = .wrote left q) :
    p.content <+: q.content := by
  by_cases hd : data = []
  · subst hd
    obtain ⟨-, rfl⟩ := eq_of_write_nil h
    exact List.prefix_refl _
  · obtain ⟨-, -, hc, -, -⟩ := eq_of_write hd h
    rw [hc]
    exact List.prefix_append _ _

/-- to a closed pipe nothing is written -/
theorem content_write_of_closed {p q : Pipe} {data left : Bytes} (ho : p.writerOpen = false)
    (h : p.write data = .wrote left q) : q.content = p.content := by
  by_cases hd : data = []
  · subst hd
    obtain ⟨-, rfl⟩ := eq_of_write_nil h
    rfl
  · obtain ⟨⟨-, hw, -⟩, -⟩ := eq_of_write hd h
    rw [ho] at hw
    cases hw

theorem write_of_room {p : Pipe} (hr : p.readerOpen = true) (hw : p.writerOpen = true) (h : 0 < p.room)
    (data : Bytes) : ∃ left q, p.write data = .wrote left q := by
  unfold write
  split
  · exact ⟨_, _, rfl⟩
  · rw [hr, hw, if_neg (by decide), if_neg (Nat.ne_of_gt h)]
    exact ⟨_, _, rfl⟩

/-- bytes can go through the pipe, however few at a time -/
structure IsOpen (p : Pipe) : Prop where
  reader : p.readerOpen = true
  writer : p.writerOpen = true
  capacity : 0 < p.capacity

theorem IsOpen.take {p : Pipe} (h : p.IsOpen) (n : Nat) : (p.take n).2.IsOpen :=
  ⟨h.reader, h.writer, (p.capacity_take n).symm ▸ h.capacity⟩

theorem IsOpen.write {p q : Pipe} {data left : Bytes} (h : p.IsOpen) (hw : p.write data = .wrote left q) :
    q.IsOpen := by
  obtain ⟨hr, hwriter⟩ := ends_write hw
  exact ⟨hr.trans h.reader, hwriter.trans h.writer, (capacity_write hw).symm ▸ h.capacity⟩

theorem IsOpen.write_ne_broken {p : Pipe} (h : p.IsOpen) (data : Bytes) : p.write data ≠ .broken := by
  by_cases hr : p.room = 0
  · unfold Pipe.write
    split
    · exact nofun
    · simp only [h.reader, h.writer]
      exact nofun
  · obtain ⟨left, q, hw⟩ := write_of_room h.reader h.writer (Nat.pos_of_ne_zero hr) data
    rw [hw]
    exact nofun

/-- there is something to read behind a write, unless nothing was there and nothing was written -/
theorem content_write_ne_nil {p q : Pipe} {data left : Bytes} (h : p.content ++ data ≠ [])
    (hw : p.write data = .wrote left q) : q.content ≠ [] := by
  by_cases hd : data = []
  · subst hd
    obtain ⟨-, rfl⟩ := eq_of_write_nil hw
    rwa [List.append_nil] at h
  · obtain ⟨⟨-, -, hroom⟩, -, hc, -⟩ := eq_of_write hd hw
    rw [hc]
    intro hnil
    obtain ⟨-, hnil⟩ := List.append_eq_nil_iff.mp hnil
    obtain hzero | hnil := List.take_eq_nil_iff.mp hnil
    · omega
    · exact hd hnil

theorem IsOpen.content_ne_nil_of_blocked {p : Pipe} {data : Bytes} (h : p.IsOpen) (hw : p.write data = .blocked) :
    p.content ≠ [] := by
  have hfull := (write_eq_blocked_iff p data).mp hw
  have hcap := h.capacity
  simp only [isFullFor, Bool.and_eq_true, decide_eq_true_eq] at hfull
  rw [Pipe.capacity, hfull.2, Nat.zero_add] at hcap
  exact List.length_pos_iff.mp hcap

theorem take_eq_nil_iff (p : Pipe) {n : Nat} (hn : 0 < n) : (p.take n).1 = [] ↔ p.content = [] := by
  rw [take_fst, List.take_eq_nil_iff]
  constructor
  · rintro (rfl | h)
    · cases hn
    · exact h
  · exact .inr

theorem atEnd_iff (p : Pipe) : p.atEnd = true ↔ p.content = [] ∧ p.writerOpen = false := by
  rw [atEnd, isEmpty_eq, Bool.and_eq_true, List.isEmpty_iff, Bool.not_eq_true']

/-- a write that takes something off its bytes leaves more to read -/
theorem length_content_write {p q : Pipe} {data left : Bytes} (hd : data ≠ []) (hw : p.write data = .wrote left q) :
    p.content.length < q.content.length := by
  obtain ⟨⟨-, -, hroom⟩, -, hcontent, -, -⟩ := eq_of_write hd hw
  have hdata := List.length_pos_iff.mpr hd
  rw [hcontent, List.length_append, List.length_take]
  omega

theorem length_content_take_lt (p : Pipe) {n : Nat} (hp : p.content.take n ≠ []) :
    (p.take n).2.content.length < p.content.length := by
  have htake := List.length_pos_iff.mpr hp
  rw [List.length_take] at htake
  rw [content_take, List.length_drop]
  omega

theorem write_of_unread {p : Pipe} (hr : p.readerOpen = false) {data : Bytes} (hd : data ≠ []) :
    p.write data = .broken := by
  cases data with
  | nil => exact absurd rfl hd
  | cons b data =>
    rw [write, hr]
    rfl

/-- to write to an open pipe fails only if nobody reads it -/
theorem readerOpen_of_broken {p : Pipe} {data : Bytes} (hw : p.write data = .broken) (ho : p.writerOpen = true) :
    p.readerOpen = false := by
  unfold write at hw
  split at hw
  · cases hw
  · cases hr : p.readerOpen with
    | false => rfl
    | true =>
      rw [hr, ho] at hw
      split at hw
      · contradiction
      · split at hw <;> cases hw

end TunnelControl.Pipe
