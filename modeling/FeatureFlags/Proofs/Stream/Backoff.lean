import FeatureFlags.Stream.Backoff
import Mathlib.Algebra.Group.Nat.Defs

/-!
# The budget of a backoff

A backoff that has counted `n` failures in a row is its limits with `n` failures
(`Backoff.withFailures`): a further failure makes it `n + 1`, a success makes it none, and
a retry is left as long as `n` is below the limit.

The delay grows with the number of failures and stays below its limit
(`Backoff.pauseAfter_mono`): neither the end of the doubling nor a product that is no
duration makes it fall back.  Against exact doubling only the end of the doubling shows, and
only with a limit beyond the largest factor of 32 bits (`Backoff.delay_eq_doubled_iff`); a
product that is no duration exceeds every limit anyway.
-/

namespace FeatureFlags.Backoff

variable (limits : Backoff)

/-! ## Counting -/

/-- The backoff after some failures in a row. -/
def withFailures (limits : Backoff) (failures : Nat) : Backoff :=
  { limits with attempt := .ofNat failures }

theorem withFailures_zero (hnew : limits.attempt = 0) : limits.withFailures 0 = limits := by
  have hzero : UInt32.ofNat 0 = limits.attempt := hnew.symm
  rw [withFailures, hzero]

theorem recordFailure_withFailures (failures : Nat) :
    (limits.withFailures failures).recordFailure.2 = limits.withFailures (failures + 1) := by
  rw [withFailures, withFailures, UInt32.ofNat_add]
  rfl

theorem reset_withFailures (failures : Nat) :
    (limits.withFailures failures).reset = limits.withFailures 0 := rfl

theorem nextDelay_withFailures (failures : Nat) :
    (limits.withFailures failures).nextDelay = limits.delay (.ofNat failures) := rfl

variable {limits} {failures : Nat}

/-- A counter within the limit has not wrapped around. -/
theorem attempt_withFailures (hfailures : failures ≤ limits.maxRetries.toNat) :
    (limits.withFailures failures).attempt.toNat = failures :=
  UInt32.toNat_ofNat_of_lt' (Nat.lt_of_le_of_lt hfailures limits.maxRetries.toNat_lt)

theorem shouldRetry_withFailures (hfailures : failures ≤ limits.maxRetries.toNat) :
    (limits.withFailures failures).shouldRetry = true ↔ failures < limits.maxRetries.toNat := by
  rw [shouldRetry, decide_eq_true_iff, UInt32.lt_iff_toNat_lt, attempt_withFailures hfailures]
  rfl

/-! ## Delays -/

theorem factor_mono {fewer more : UInt32} (hle : fewer ≤ more) : factor fewer ≤ factor more := by
  rw [UInt32.le_iff_toNat_le] at hle
  simp only [factor, UInt32.lt_iff_toNat_lt]
  split
  · rename_i hfewer
    split
    · exact Nat.pow_le_pow_right (by decide) hle
    · -- a power of two that fits lies below the largest factor
      have hpow : Nat.pow 2 fewer.toNat ≤ Nat.pow 2 31 :=
        Nat.pow_le_pow_right (by decide) (Nat.le_of_lt_succ hfewer)
      exact Nat.le_trans hpow (by decide)
  · rename_i hfewer
    have hmore : ¬ more.toNat < UInt32.toNat 32 := fun hmore =>
      hfewer (Nat.lt_of_le_of_lt hle hmore)
    exact Nat.le_of_eq (if_neg hmore).symm

theorem delay_le_maxDelay (limits : Backoff) (failures : UInt32) :
    limits.delay failures ≤ limits.maxDelay := by
  dsimp only [delay]
  split
  · exact Nat.min_le_right ..
  · exact Nat.le_refl _

/-- More failures never make the delay shorter. -/
theorem delay_mono (limits : Backoff) {fewer more : UInt32} (hle : fewer ≤ more) :
    limits.delay fewer ≤ limits.delay more := by
  have hproduct : limits.initialDelay * factor fewer ≤ limits.initialDelay * factor more :=
    Nat.mul_le_mul_left _ (factor_mono hle)
  by_cases hmore : limits.initialDelay * factor more < durationBound
  · have hfewer := Nat.lt_of_le_of_lt hproduct hmore
    simp only [delay, if_pos hmore, if_pos hfewer]
    omega
  · have hcapped : limits.delay more = limits.maxDelay := if_neg hmore
    rw [hcapped]
    exact limits.delay_le_maxDelay fewer

/-- The pause after the failure with a number among failures in a row, the first being number
one. -/
def pauseAfter (limits : Backoff) (number : Nat) : Nat := limits.delay (.ofNat (number - 1))

/-- **The pauses never decrease and never exceed the limit**, as long as the failures can be
counted. -/
theorem pauseAfter_mono {earlier later : Nat} (hle : earlier ≤ later)
    (hlater : later ≤ limits.maxRetries.toNat) :
    limits.pauseAfter earlier ≤ limits.pauseAfter later ∧
      limits.pauseAfter later ≤ limits.maxDelay := by
  have hcount {number : Nat} (hnumber : number ≤ limits.maxRetries.toNat) :
      (UInt32.ofNat (number - 1)).toNat = number - 1 :=
    attempt_withFailures (Nat.le_trans (Nat.sub_le number 1) hnumber)
  refine ⟨limits.delay_mono ?_, limits.delay_le_maxDelay _⟩
  rw [UInt32.le_iff_toNat_le, hcount (Nat.le_trans hle hlater), hcount hlater]
  exact Nat.sub_le_sub_right hle 1

/-! ## Exact doubling -/

/-- A product that is no duration exceeds every limit that is one. -/
theorem delay_eq_min (hmax : limits.maxDelay < durationBound) (failures : UInt32) :
    limits.delay failures = min (limits.initialDelay * factor failures) limits.maxDelay := by
  dsimp only [delay]
  split
  · rfl
  · rename_i hproduct
    have hcapped : limits.maxDelay ≤ limits.initialDelay * factor failures :=
      Nat.le_trans (Nat.le_of_lt hmax) (Nat.le_of_not_lt hproduct)
    exact (Nat.min_eq_right hcapped).symm

/-- **The delay doubles with every failure up to its limit, except where the factor no longer
fits.**  It is the initial delay, doubled with every failure, or the limit if that is less, if
and only if there have been at most 31 failures, the initial delay is zero, or the limit does not
exceed the initial delay times the largest factor of 32 bits.  Otherwise it stays at this product,
however many failures follow. -/
theorem delay_eq_doubled_iff (hmax : limits.maxDelay < durationBound) (failures : UInt32) :
    let product := limits.initialDelay * (2 ^ 32 - 1)
    (limits.delay failures = min (limits.initialDelay * 2 ^ failures.toNat) limits.maxDelay ↔
        failures < 32 ∨ limits.initialDelay = 0 ∨ limits.maxDelay ≤ product) ∧
      (32 ≤ failures → product < limits.maxDelay → limits.delay failures = product) := by
  intro product
  rw [delay_eq_min hmax]
  by_cases hfits : failures < 32
  · have hfactor : factor failures = 2 ^ failures.toNat := if_pos hfits
    refine ⟨?_, fun hlarge => absurd hfits (UInt32.not_lt.mpr hlarge)⟩
    rw [hfactor]
    exact iff_of_true rfl (Or.inl hfits)
  · have hfactor : factor failures = 2 ^ 32 - 1 := if_neg hfits
    have hlarge : 32 ≤ failures.toNat := UInt32.le_iff_toNat_le.mp (UInt32.not_lt.mp hfits)
    -- the factor stays at `2 ^ 32 - 1`, and doubling would have gone further
    have hdoubled : limits.initialDelay * 2 ^ 32 ≤ limits.initialDelay * 2 ^ failures.toNat :=
      Nat.mul_le_mul_left _ (Nat.pow_le_pow_right (by decide) hlarge)
    have hzero : limits.initialDelay = 0 → limits.initialDelay * 2 ^ failures.toNat = 0 :=
      fun hinitial => by rw [hinitial, Nat.zero_mul]
    rw [hfactor, or_iff_right hfits]
    constructor
    · omega
    · intro _ hbelow
      exact Nat.min_eq_left (Nat.le_of_lt hbelow)

/-- One nanosecond, below the greatest limit there is: it is doubled 31 times and then stays. -/
theorem delay_of_nanosecond :
    let limits : Backoff := { initialDelay := 1, maxDelay := durationBound - 1 }
    limits.maxDelay < durationBound ∧
      limits.delay 31 = min (limits.initialDelay * 2 ^ (31 : UInt32).toNat) limits.maxDelay ∧
      limits.delay 40 = limits.initialDelay * (2 ^ 32 - 1) := by
  intro limits
  have hmax : limits.maxDelay < durationBound := by decide
  refine ⟨hmax, (delay_eq_doubled_iff hmax 31).1.mpr (Or.inl (by decide)), ?_⟩
  exact (delay_eq_doubled_iff hmax 40).2 (by decide) (by decide)

/-- Doubled for the 32nd time it would be a nanosecond longer than it is. -/
theorem delay_after_32_failures :
    let limits : Backoff := { initialDelay := 1, maxDelay := durationBound - 1 }
    limits.delay 32 = 4294967295 ∧
      min (limits.initialDelay * 2 ^ (32 : UInt32).toNat) limits.maxDelay = 4294967296 := by
  decide

end FeatureFlags.Backoff
