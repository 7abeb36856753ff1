/-!
# Lengths of time

Lengths of time are whole numbers of nanoseconds below `durationLimit`.  `jitter min max draw` is a length
between two others, chosen by a number that is drawn from `0` up to `jitterSpan min max`.
-/

namespace TunnelControl

def nanosPerMilli : Nat := 1000000

def nanosPerSecond : Nat := 1000000000

/-- a millisecond more than 64 bits can count, in milliseconds -/
def milliLimit : Nat := UInt64.size

/-- the lengths of time are below 2^64 seconds -/
def durationLimit : Nat := UInt64.size * 1000000000

def minutes (n : Nat) : Nat := n * 60 * 1000 * nanosPerMilli

/-- the largest number to draw: the whole milliseconds between two lengths, in 64 bits -/
def jitterSpan (min max : Nat) : Nat := (max - min) / nanosPerMilli % milliLimit

def jitter (min max draw : Nat) : Nat := if max ≤ min then min else min + draw * nanosPerMilli

theorem jitter_of_le {min max : Nat} (h : max ≤ min) (draw : Nat) : jitter min max draw = min :=
  if_pos h

theorem jitter_of_lt {min max : Nat} (h : min < max) (draw : Nat) :
    jitter min max draw = min + draw * nanosPerMilli := if_neg (Nat.not_le.mpr h)

end TunnelControl
