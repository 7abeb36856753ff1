import TunnelControl.Time.Duration
import TunnelControl.Update.Schedule

/-!
# Random lengths of time

Sums and differences of durations are told by their nanoseconds: there is a sum exactly if it is below the limit, and
a difference exactly if it is not negative.  So a random length between two others is always there, although the
milliseconds between them may take more than 64 bits.

* `Duration.le_iff_total`, `eq_of_total`      durations are compared by their nanoseconds;
* `Duration.add?_eq_some_iff`, `sub?_eq_some_iff`   so are sums and differences;
* `Duration.jitter?_of_lt`                    a random length, if the ends are in order;
* `Duration.jitters_in_range`                 it lies between the ends, whole milliseconds behind the first;
* `PauseClass.jitter?_range`                  the pauses of the scheduler are such lengths.
-/

namespace TunnelControl

/-! ## seconds in 64 bits -/

theorem addSeconds?_eq_some_iff {a b c : UInt64} : addSeconds? a b = some c ↔ a.toNat + b.toNat = c.toNat := by
  unfold addSeconds?
  constructor
  · intro h
    split at h
    · rename_i hlt
      obtain rfl := Option.some.inj h
      rw [UInt64.toNat_add, Nat.mod_eq_of_lt hlt]
    · cases h
  · intro h
    have hlt : a.toNat + b.toNat < UInt64.size := h ▸ c.toNat_lt_size
    rw [if_pos hlt, Option.some.injEq, ← UInt64.toNat_inj, UInt64.toNat_add, Nat.mod_eq_of_lt hlt, h]

theorem subSeconds?_eq_some_iff {a b c : UInt64} : subSeconds? a b = some c ↔ a.toNat = c.toNat + b.toNat := by
  unfold subSeconds?
  constructor
  · intro h
    split at h
    · rename_i hle
      obtain rfl := Option.some.inj h
      rw [UInt64.toNat_sub_of_le _ _ hle, Nat.sub_add_cancel (UInt64.le_iff_toNat_le.mp hle)]
    · cases h
  · intro h
    have hle : b ≤ a := UInt64.le_iff_toNat_le.mpr (h ▸ Nat.le_add_left ..)
    rw [if_pos hle, Option.some.injEq, ← UInt64.toNat_inj, UInt64.toNat_sub_of_le _ _ hle, h, Nat.add_sub_cancel]

theorem exists_addSeconds? {a b : UInt64} (h : a.toNat + b.toNat < UInt64.size) :
    ∃ c, addSeconds? a b = some c ∧ a.toNat + b.toNat = c.toNat :=
  ⟨a + b, if_pos h, addSeconds?_eq_some_iff.mp (if_pos h)⟩

theorem exists_subSeconds? {a b : UInt64} (h : b.toNat ≤ a.toNat) :
    ∃ c, subSeconds? a b = some c ∧ a.toNat = c.toNat + b.toNat := by
  have hle : b ≤ a := UInt64.le_iff_toNat_le.mpr h
  exact ⟨a - b, if_pos hle, subSeconds?_eq_some_iff.mp (if_pos hle)⟩

namespace Duration

variable {a b d min max : Duration}

/-! ## the nanoseconds of a duration -/

theorem total_eq (d : Duration) : d.total = d.seconds.toNat * 1000000000 + d.nanos := rfl

theorem nanos_lt_second (d : Duration) : d.nanos < 1000000000 := d.nanos_lt

theorem durationLimit_eq : durationLimit = UInt64.size * 1000000000 := rfl

theorem total_lt (d : Duration) : d.total < durationLimit := by
  have hseconds : d.seconds.toNat < UInt64.size := d.seconds.toNat_lt_size
  have hnanos := d.nanos_lt_second
  rw [total_eq, durationLimit_eq]
  omega

theorem eq_of_total (h : a.total = b.total) : a = b := by
  have ha := a.nanos_lt_second
  have hb := b.nanos_lt_second
  rw [total_eq, total_eq] at h
  have hseconds : a.seconds = b.seconds := UInt64.toNat_inj.mp (by omega)
  have hnanos : a.nanos = b.nanos := by omega
  cases a
  cases b
  cases hseconds
  cases hnanos
  rfl

theorem le_iff_total : a ≤ b ↔ a.total ≤ b.total := by
  have ha := a.nanos_lt_second
  have hb := b.nanos_lt_second
  show (a.seconds < b.seconds ∨ a.seconds = b.seconds ∧ a.nanos ≤ b.nanos) ↔ _
  rw [UInt64.lt_iff_toNat_lt, ← UInt64.toNat_inj, total_eq, total_eq]
  omega

theorem wholeMillis_eq (d : Duration) : d.wholeMillis = d.total / nanosPerMilli := by
  rw [total_eq]
  show d.seconds.toNat * 1000 + d.nanos / 1000000 = (d.seconds.toNat * 1000000000 + d.nanos) / 1000000
  omega

theorem total_ofMillis (n : UInt64) : (ofMillis n).total = n.toNat * nanosPerMilli := by
  have hlt : n.toNat / 1000 < UInt64.size := Nat.lt_of_le_of_lt (Nat.div_le_self ..) n.toNat_lt_size
  rw [total_eq]
  show (UInt64.ofNat (n.toNat / 1000)).toNat * 1000000000 + n.toNat % 1000 * 1000000 = n.toNat * 1000000
  rw [UInt64.toNat_ofNat_of_lt' hlt]
  omega

theorem total_ofNanos {n : Nat} (h : n < durationLimit) : (ofNanos n).total = n := by
  rw [durationLimit_eq] at h
  rw [total_eq]
  show (UInt64.ofNat (n / 1000000000)).toNat * 1000000000 + n % 1000000000 = n
  rw [UInt64.toNat_ofNat_of_lt' (by omega)]
  omega

theorem ofNanos_total (d : Duration) : ofNanos d.total = d := eq_of_total (total_ofNanos d.total_lt)

/-! ## sums and differences -/

theorem total_of_add? (h : a.add? b = some d) : a.total + b.total = d.total := by
  obtain ⟨seconds, hseconds, h⟩ := Option.bind_eq_some_iff.mp h
  rw [addSeconds?_eq_some_iff] at hseconds
  rw [total_eq, total_eq]
  split at h
  · obtain rfl := Option.some.inj h
    show _ = seconds.toNat * 1000000000 + (a.nanos + b.nanos)
    omega
  · rename_i hcarry
    obtain ⟨carried, hcarried, h⟩ := Option.bind_eq_some_iff.mp h
    rw [addSeconds?_eq_some_iff] at hcarried
    obtain rfl := Option.some.inj h
    show _ = carried.toNat * 1000000000 + (a.nanos + b.nanos - 1000000000)
    have hone : (1 : UInt64).toNat = 1 := rfl
    have hle : 1000000000 ≤ a.nanos + b.nanos := Nat.le_of_not_lt hcarry
    omega

theorem exists_add? (h : a.total + b.total < durationLimit) : ∃ d, a.add? b = some d := by
  have ha := a.nanos_lt_second
  have hb := b.nanos_lt_second
  rw [total_eq, total_eq, durationLimit_eq] at h
  obtain ⟨seconds, hseconds, htotal⟩ := exists_addSeconds? (a := a.seconds) (b := b.seconds) (by omega)
  unfold add?
  rw [hseconds, Option.bind_eq_bind, Option.bind_some]
  split
  · exact ⟨_, rfl⟩
  · rename_i hcarry
    have hle : 1000000000 ≤ a.nanos + b.nanos := Nat.le_of_not_lt hcarry
    have hone : (1 : UInt64).toNat = 1 := rfl
    obtain ⟨carried, hcarried, -⟩ := exists_addSeconds? (a := seconds) (b := 1) (by omega)
    rw [hcarried]
    exact ⟨_, rfl⟩

/-- there is a sum exactly if it is below the limit, and then it is exact -/
theorem add?_eq_some_iff : a.add? b = some d ↔ a.total + b.total = d.total := by
  refine ⟨total_of_add?, fun h => ?_⟩
  have hlt : a.total + b.total < durationLimit := Nat.lt_of_le_of_lt (Nat.le_of_eq h) d.total_lt
  obtain ⟨e, he⟩ := exists_add? hlt
  rw [he, eq_of_total ((total_of_add? he).symm.trans h)]

theorem total_of_sub? (h : a.sub? b = some d) : a.total = d.total + b.total := by
  obtain ⟨seconds, hseconds, h⟩ := Option.bind_eq_some_iff.mp h
  rw [subSeconds?_eq_some_iff] at hseconds
  have hb := b.nanos_lt_second
  rw [total_eq, total_eq b]
  split at h
  · obtain rfl := Option.some.inj h
    show _ = seconds.toNat * 1000000000 + (a.nanos - b.nanos) + _
    omega
  · obtain ⟨borrowed, hborrowed, h⟩ := Option.bind_eq_some_iff.mp h
    rw [subSeconds?_eq_some_iff] at hborrowed
    obtain rfl := Option.some.inj h
    show _ = borrowed.toNat * 1000000000 + (a.nanos + 1000000000 - b.nanos) + _
    have hone : (1 : UInt64).toNat = 1 := rfl
    omega

theorem exists_sub? (h : b.total ≤ a.total) : ∃ d, a.sub? b = some d := by
  have ha := a.nanos_lt_second
  have hb := b.nanos_lt_second
  rw [total_eq, total_eq] at h
  obtain ⟨seconds, hseconds, htotal⟩ := exists_subSeconds? (a := a.seconds) (b := b.seconds) (by omega)
  unfold sub?
  rw [hseconds, Option.bind_eq_bind, Option.bind_some]
  split
  · exact ⟨_, rfl⟩
  · have hone : (1 : UInt64).toNat = 1 := rfl
    obtain ⟨borrowed, hborrowed, -⟩ := exists_subSeconds? (a := seconds) (b := 1) (by omega)
    rw [hborrowed]
    exact ⟨_, rfl⟩

/-- there is a difference exactly if it is not negative, and then it is exact -/
theorem sub?_eq_some_iff : a.sub? b = some d ↔ a.total = d.total + b.total := by
  refine ⟨total_of_sub?, fun h => ?_⟩
  have hle : b.total ≤ a.total := Nat.le_trans (Nat.le_add_left ..) (Nat.le_of_eq h.symm)
  obtain ⟨e, he⟩ := exists_sub? hle
  have htotal := total_of_sub? he
  have heq : e = d := eq_of_total (by omega)
  rw [he, heq]

/-! ## random lengths -/

section
variable {random : UInt64 → UInt64}

/-- what is drawn for a length between two others -/
def drawBetween (random : UInt64 → UInt64) (min max : Duration) : UInt64 :=
  random (.ofNat (jitterSpan min.total max.total))

/-- a number that is drawn counts no more milliseconds than there are between the ends, also if these do not fit into
64 bits -/
theorem drawBetween_le (hrandom : ∀ n, random n ≤ n) (min max : Duration) :
    (drawBetween random min max).toNat ≤ (max.total - min.total) / nanosPerMilli := by
  have hspan : jitterSpan min.total max.total < UInt64.size := Nat.mod_lt _ (by decide)
  calc (drawBetween random min max).toNat
      ≤ (UInt64.ofNat (jitterSpan min.total max.total)).toNat := UInt64.le_iff_toNat_le.mp (hrandom _)
    _ = jitterSpan min.total max.total := UInt64.toNat_ofNat_of_lt' hspan
    _ ≤ (max.total - min.total) / nanosPerMilli := Nat.mod_le ..

theorem jitter?_of_le (h : max ≤ min) : jitter? random min max = some min := if_pos h

/-- between two lengths in order all operations have a result -/
theorem jitter?_of_lt (hrandom : ∀ n, random n ≤ n) (h : ¬ max ≤ min) :
    ∃ d, jitter? random min max = some d ∧
      d.total = min.total + (drawBetween random min max).toNat * nanosPerMilli ∧ d.total ≤ max.total := by
  have hlt : min.total < max.total := by
    rw [le_iff_total] at h
    omega
  obtain ⟨gap, hgap⟩ := exists_sub? (Nat.le_of_lt hlt)
  have htotal : max.total = gap.total + min.total := total_of_sub? hgap
  have hspan : UInt64.ofNat gap.wholeMillis = UInt64.ofNat (jitterSpan min.total max.total) := by
    rw [jitterSpan, htotal, Nat.add_sub_cancel, wholeMillis_eq, milliLimit, UInt64.ofNat_mod_size]
  have hdrawn : (drawBetween random min max).toNat * nanosPerMilli ≤ gap.total :=
    calc (drawBetween random min max).toNat * nanosPerMilli
        ≤ (max.total - min.total) / nanosPerMilli * nanosPerMilli :=
          Nat.mul_le_mul_right _ (drawBetween_le hrandom min max)
      _ ≤ max.total - min.total := Nat.div_mul_le_self ..
      _ = gap.total := by omega
  have hmax := max.total_lt
  obtain ⟨d, hd⟩ := exists_add? (a := min) (b := ofMillis (drawBetween random min max)) (by
    rw [total_ofMillis]
    omega)
  have hsum := total_of_add? hd
  rw [total_ofMillis] at hsum
  refine ⟨d, ?_, hsum.symm, by omega⟩
  unfold jitter?
  rw [if_neg h, hgap, Option.bind_eq_bind, Option.bind_some, hspan]
  exact hd

/-- **A random length lies between the two it is drawn for**, whatever they are and whatever is drawn: no operation
on the way is without a result, and the length stands whole milliseconds behind the first. -/
theorem jitters_in_range (hrandom : ∀ n, random n ≤ n) (min max : Duration) :
    ∃ d, jitter? random min max = some d ∧
      d.total = jitter min.total max.total (drawBetween random min max).toNat ∧
      (max ≤ min → d = min) ∧
      (¬ max ≤ min → min ≤ d ∧ d ≤ max ∧
        d.total = min.total + (drawBetween random min max).toNat * nanosPerMilli) := by
  by_cases h : max ≤ min
  · refine ⟨min, jitter?_of_le h, ?_, fun _ => rfl, fun hlt => absurd h hlt⟩
    rw [jitter_of_le (le_iff_total.mp h)]
  · obtain ⟨d, hd, htotal, hle⟩ := jitter?_of_lt hrandom h
    have hlt : min.total < max.total := Nat.lt_of_not_le (mt le_iff_total.mpr h)
    refine ⟨d, hd, ?_, fun hmax => absurd hmax h, fun _ => ⟨?_, le_iff_total.mpr hle, htotal⟩⟩
    · rw [jitter_of_lt hlt, htotal]
    · rw [le_iff_total, htotal]
      exact Nat.le_add_right ..

/-- the milliseconds up to the greatest length do not fit into 64 bits, of which the largest number is drawn here -/
theorem jitters_in_range_greatest :
    (∀ n : UInt64, id n ≤ n) ∧ milliLimit < greatest.wholeMillis ∧
      ∃ d, jitter? id (ofNanos 0) greatest = some d ∧ ofNanos 0 ≤ d ∧ d ≤ greatest ∧
        d.total = (UInt64.size - 1) * nanosPerMilli := by
  have hrandom : ∀ n : UInt64, id n ≤ n := fun n => UInt64.le_refl n
  have hlt : ¬ greatest ≤ ofNanos 0 := by decide
  have hdrawn : (drawBetween id (ofNanos 0) greatest).toNat = UInt64.size - 1 := by decide
  have hnothing : (ofNanos 0).total = 0 := rfl
  obtain ⟨d, hd, -, -, hrange⟩ := jitters_in_range hrandom (ofNanos 0) greatest
  obtain ⟨hmin, hmax, htotal⟩ := hrange hlt
  rw [hdrawn, hnothing, Nat.zero_add] at htotal
  exact ⟨hrandom, by decide, d, hd, hmin, hmax, htotal⟩

end

end Duration

/-- the pauses of the scheduler are random lengths between the shortest and the longest of their class -/
theorem PauseClass.jitter?_range (p : PauseClass) {random : UInt64 → UInt64} (hrandom : ∀ n, random n ≤ n) :
    Duration.jitter? random (.ofNanos p.range.1) (.ofNanos p.range.2)
      = some (.ofNanos (p.duration (random (.ofNat (jitterSpan p.range.1 p.range.2))).toNat)) := by
  have hmin : (Duration.ofNanos p.range.1).total = p.range.1 := Duration.total_ofNanos (by cases p <;> decide)
  have hmax : (Duration.ofNanos p.range.2).total = p.range.2 := Duration.total_ofNanos (by cases p <;> decide)
  have hlt : p.range.1 < p.range.2 := by cases p <;> decide
  have horder : ¬ Duration.ofNanos p.range.2 ≤ Duration.ofNanos p.range.1 := by
    rw [Duration.le_iff_total, hmin, hmax]
    exact Nat.not_le_of_lt hlt
  obtain ⟨d, hd, htotal, -⟩ := Duration.jitter?_of_lt hrandom horder
  rw [Duration.drawBetween, hmin, hmax] at htotal
  rw [hd, PauseClass.duration, jitter_of_lt hlt, ← htotal, Duration.ofNanos_total]

end TunnelControl
