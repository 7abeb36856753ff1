import TunnelControl.Time.Jitter

/-!
# Lengths of time in seconds and nanoseconds

A `Duration` counts whole seconds in 64 bits, and the nanoseconds behind them.  Sums and differences carry from the
one to the other, and there is none where the seconds do not fit.

* `Duration.total`      the nanoseconds of all of it;
* `Duration.add?`, `Duration.sub?`   the sum and the difference, if there is one;
* `Duration.jitter?`    a length between two others, by a number drawn.
-/

namespace TunnelControl

def millisPerSecond : Nat := 1000

structure Duration where
  seconds : UInt64
  nanos : Nat
  nanos_lt : nanos < nanosPerSecond := by decide
  deriving DecidableEq, Repr

/-- the sum of two counts of seconds, if it has 64 bits -/
def addSeconds? (a b : UInt64) : Option UInt64 :=
  if a.toNat + b.toNat < UInt64.size then some (a + b) else none

def subSeconds? (a b : UInt64) : Option UInt64 := if b ≤ a then some (a - b) else none

namespace Duration

def total (d : Duration) : Nat := d.seconds.toNat * nanosPerSecond + d.nanos

/-- the whole milliseconds, which may be more than 64 bits can count, but not more than 128 -/
def wholeMillis (d : Duration) : Nat := d.seconds.toNat * millisPerSecond + d.nanos / nanosPerMilli

/-- a number of nanoseconds; seconds beyond 64 bits are left out -/
def ofNanos (n : Nat) : Duration where
  seconds := .ofNat (n / nanosPerSecond)
  nanos := n % nanosPerSecond
  nanos_lt := Nat.mod_lt _ (by decide)

theorem millis_lt (n : UInt64) : n.toNat % millisPerSecond * nanosPerMilli < nanosPerSecond :=
  Nat.mul_lt_mul_of_pos_right (Nat.mod_lt _ (by decide)) (by decide)

def ofMillis (n : UInt64) : Duration where
  seconds := .ofNat (n.toNat / millisPerSecond)
  nanos := n.toNat % millisPerSecond * nanosPerMilli
  nanos_lt := millis_lt n

/-- there is no longer one -/
def greatest : Duration := ⟨.ofNat (UInt64.size - 1), nanosPerSecond - 1, by decide⟩

instance : LE Duration := ⟨fun a b => a.seconds < b.seconds ∨ a.seconds = b.seconds ∧ a.nanos ≤ b.nanos⟩

instance (a b : Duration) : Decidable (a ≤ b) :=
  inferInstanceAs (Decidable (a.seconds < b.seconds ∨ a.seconds = b.seconds ∧ a.nanos ≤ b.nanos))

def add? (a b : Duration) : Option Duration := do
  let seconds ← addSeconds? a.seconds b.seconds
  if h : a.nanos + b.nanos < nanosPerSecond then
    return ⟨seconds, a.nanos + b.nanos, h⟩
  else
    let carried ← addSeconds? seconds 1
    return ⟨carried, a.nanos + b.nanos - nanosPerSecond, by have := a.nanos_lt; have := b.nanos_lt; omega⟩

def sub? (a b : Duration) : Option Duration := do
  let seconds ← subSeconds? a.seconds b.seconds
  if h : b.nanos ≤ a.nanos then
    return ⟨seconds, a.nanos - b.nanos, by have := a.nanos_lt; omega⟩
  else
    let borrowed ← subSeconds? seconds 1
    return ⟨borrowed, a.nanos + nanosPerSecond - b.nanos, by have := a.nanos_lt; omega⟩

/-- a length from `min` to `max`, if they are in this order; `random n` is a number drawn from `0` up to `n`, where
`n` has the last 64 bits of the milliseconds between them -/
def jitter? (random : UInt64 → UInt64) (min max : Duration) : Option Duration :=
  if max ≤ min then some min
  else do
    let gap ← max.sub? min
    min.add? (.ofMillis (random (.ofNat gap.wholeMillis)))

end Duration

end TunnelControl
