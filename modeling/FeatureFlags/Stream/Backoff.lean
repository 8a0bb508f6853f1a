/-!
# Backing off

How long to wait before a stream is opened again after it failed: the initial delay doubles with
every failure since the last success, up to a greatest delay.  Delays are counted in nanoseconds.

The doubling is done with a factor of 32 bits, which stays at its largest value once it would no
longer fit, and a product that is no duration counts as the greatest delay.
-/

namespace FeatureFlags

structure Backoff where
  /-- The number of failures in a row after which no further attempt is made. -/
  maxRetries : UInt32 := 10
  initialDelay : Nat := 1000000000
  maxDelay : Nat := 30000000000
  /-- The failures since the last success. -/
  attempt : UInt32 := 0
deriving DecidableEq, Repr

namespace Backoff

/-- Durations are shorter than this many nanoseconds. -/
def durationBound : Nat := Nat.pow 2 64 * 1000000000

/-- The factor by which the initial delay is multiplied after some failures. -/
def factor (attempt : UInt32) : Nat :=
  if attempt < 32 then Nat.pow 2 attempt.toNat else Nat.pow 2 32 - 1

/-- The delay after some failures. -/
def delay (backoff : Backoff) (attempt : UInt32) : Nat :=
  let product := backoff.initialDelay * factor attempt
  if product < durationBound then min product backoff.maxDelay else backoff.maxDelay

/-- The delay before the next attempt. -/
def nextDelay (backoff : Backoff) : Nat := backoff.delay backoff.attempt

def shouldRetry (backoff : Backoff) : Bool := backoff.attempt < backoff.maxRetries

/-- Counts a failure. The count that is returned stays at the largest number of 32 bits, while the
counter itself starts over. -/
def recordFailure (backoff : Backoff) : UInt32 × Backoff :=
  let count := if backoff.attempt = 0xFFFFFFFF then backoff.attempt else backoff.attempt + 1
  (count, { backoff with attempt := backoff.attempt + 1 })

/-- Counts several failures in a row; the count is that of the last one. -/
def recordFailures (backoff : Backoff) : Nat → Option UInt32 × Backoff
  | 0 => (none, backoff)
  | n + 1 =>
    let (count, next) :=
      { backoff with attempt := backoff.attempt + UInt32.ofNat n : Backoff }.recordFailure
    (some count, next)

/-- Forgets the failures. -/
def reset (backoff : Backoff) : Backoff := { backoff with attempt := 0 }

end Backoff

end FeatureFlags
