import FeatureFlags.Proofs.Stream.Backoff
import Mathlib.Data.List.DropRight

/-!
# Counting failures

A backoff is told of failures and of successes.  Whatever it is told, it is its limits with the
failures since the last success (`Backoff.after_eq_withFailures`), by induction on the calls from
the last one: a failure adds one to them, and a reset leaves none.

The counter has 32 bits and starts over, so that it holds their number modulo `2 ^ 32`.  Up to
there it is exact.  From `2 ^ 32` failures in a row on, retries that were used up are left again,
and the failure with that number is counted as the largest number while the counter shows none
(`Backoff.counts_failures_iff`).
-/

namespace FeatureFlags.Backoff

/-! ## Calls -/

/-- What a backoff is told. -/
inductive Call
  | recordFailure
  | reset
deriving DecidableEq, Repr

/-- The backoff after a call. -/
def afterCall (backoff : Backoff) : Call → Backoff
  | .recordFailure => backoff.recordFailure.2
  | .reset => backoff.reset

/-- The backoff after some calls. -/
def after (backoff : Backoff) (calls : List Call) : Backoff := calls.foldl afterCall backoff

/-- The failures since the last reset, or since the beginning. -/
def failuresSinceReset (calls : List Call) : Nat := (calls.rtakeWhile (· = .recordFailure)).length

theorem failuresSinceReset_concat_recordFailure (calls : List Call) :
    failuresSinceReset (calls ++ [.recordFailure]) = failuresSinceReset calls + 1 := by
  rw [failuresSinceReset, List.rtakeWhile_concat_pos _ _ _ (by decide), List.length_append]
  rfl

theorem failuresSinceReset_concat_reset (calls : List Call) :
    failuresSinceReset (calls ++ [.reset]) = 0 := by
  rw [failuresSinceReset, List.rtakeWhile_concat_neg _ _ _ (by decide)]
  rfl

theorem failuresSinceReset_append_replicate (calls : List Call) (more : Nat) :
    failuresSinceReset (calls ++ List.replicate more .recordFailure) =
      failuresSinceReset calls + more := by
  induction more with
  | zero => rw [List.replicate_zero, List.append_nil, Nat.add_zero]
  | succ more ih =>
      rw [List.replicate_succ', ← List.append_assoc, failuresSinceReset_concat_recordFailure, ih]
      rfl

/-! ## The counter -/

section Counter

variable (limits : Backoff)

theorem after_concat (backoff : Backoff) (calls : List Call) (call : Call) :
    backoff.after (calls ++ [call]) = (backoff.after calls).afterCall call :=
  List.foldl_concat ..

/-- After any calls a backoff has counted the failures since the last reset. -/
theorem after_eq_withFailures (calls : List Call) :
    (limits.withFailures 0).after calls = limits.withFailures (failuresSinceReset calls) := by
  induction calls using List.reverseRecOn with
  | nil => rfl
  | append_singleton earlier call ih =>
      rw [after_concat, ih]
      cases call with
      | recordFailure =>
          rw [failuresSinceReset_concat_recordFailure]
          exact recordFailure_withFailures limits _
      | reset =>
          rw [failuresSinceReset_concat_reset]
          exact reset_withFailures limits _

/-- The counter holds the number of failures as far as 32 bits do. -/
theorem attempt_after (calls : List Call) :
    ((limits.withFailures 0).after calls).attempt.toNat = failuresSinceReset calls % 2 ^ 32 := by
  rw [after_eq_withFailures]
  exact UInt32.toNat_ofNat'

theorem shouldRetry_after_iff (calls : List Call) :
    ((limits.withFailures 0).after calls).shouldRetry = true ↔
      failuresSinceReset calls % 2 ^ 32 < limits.maxRetries.toNat := by
  rw [shouldRetry, decide_eq_true_iff, UInt32.lt_iff_toNat_lt, attempt_after,
    after_eq_withFailures]
  rfl

/-- The count that is returned is the counter, unless the counter starts over. -/
theorem recordFailure_count_iff (backoff : Backoff) :
    backoff.recordFailure.1 = backoff.recordFailure.2.attempt ↔
      backoff.attempt.toNat ≠ 2 ^ 32 - 1 := by
  have hlast : backoff.attempt = 0xFFFFFFFF ↔ backoff.attempt.toNat = 2 ^ 32 - 1 :=
    UInt32.toNat_inj.symm
  dsimp only [recordFailure]
  split
  · rename_i hfull
    rw [hfull]
    decide
  · rename_i hroom
    exact iff_of_true rfl (mt hlast.mpr hroom)

end Counter

/-! ## Rows of failures -/

theorem after_replicate (backoff : Backoff) (n : Nat) :
    backoff.after (List.replicate n .recordFailure) =
      { backoff with attempt := backoff.attempt + UInt32.ofNat n } := by
  induction n with
  | zero => exact congrArg (fun attempt => { backoff with attempt }) (UInt32.add_zero _).symm
  | succ n ih =>
      rw [List.replicate_succ', after_concat, ih, UInt32.ofNat_add, ← UInt32.add_assoc]
      rfl

/-- Counting several failures at once is counting them one by one. -/
theorem recordFailures_snd (backoff : Backoff) (n : Nat) :
    (backoff.recordFailures n).2 = backoff.after (List.replicate n .recordFailure) := by
  cases n with
  | zero => rfl
  | succ n =>
      rw [List.replicate_succ', after_concat, after_replicate]
      rfl

/-! ## Exactness -/

/-- **The counter is exact for as long as 32 bits hold it.**  Whatever a fresh backoff has been
told, a retry is left exactly when the failures since the last reset are below the limit, unless
there are `2 ^ 32` of them and the counter has come back below the limit.  A further failure is
counted as what the counter shows then, unless it makes their number a multiple of `2 ^ 32`.
Retries that are used up stay used up, whatever fails before that number is reached. -/
theorem counts_failures_iff (maxRetries : UInt32) (initialDelay maxDelay : Nat)
    (calls : List Call) :
    let fresh : Backoff := { maxRetries, initialDelay, maxDelay }
    let failures := failuresSinceReset calls
    (((fresh.after calls).shouldRetry = true ↔ failures < maxRetries.toNat) ↔
        failures < 2 ^ 32 ∨ maxRetries.toNat ≤ failures % 2 ^ 32) ∧
      ((fresh.after calls).recordFailure.1 = (fresh.after (calls ++ [.recordFailure])).attempt ↔
        ¬ 2 ^ 32 ∣ failures + 1) ∧
      (∀ more, failures + more < 2 ^ 32 → (fresh.after calls).shouldRetry = false →
        (fresh.after (calls ++ List.replicate more .recordFailure)).shouldRetry = false) := by
  intro fresh failures
  have hfresh : fresh.withFailures 0 = fresh := withFailures_zero fresh rfl
  have hretry (calls : List Call) : (fresh.after calls).shouldRetry = true ↔
      failuresSinceReset calls % 2 ^ 32 < maxRetries.toNat := by
    have hafter := shouldRetry_after_iff fresh calls
    rwa [hfresh] at hafter
  have hlimit : maxRetries.toNat < 2 ^ 32 := maxRetries.toNat_lt
  refine ⟨?_, ?_, ?_⟩
  · rw [hretry]
    omega
  · have hattempt := attempt_after fresh calls
    rw [hfresh] at hattempt
    rw [after_concat, afterCall, recordFailure_count_iff, hattempt]
    omega
  · intro more hmore hspent
    rw [← Bool.not_eq_true, hretry] at hspent ⊢
    rw [failuresSinceReset_append_replicate]
    omega

/-- With ten retries and `2 ^ 32` failures in a row a retry is left, and the last failure is not
counted as what the counter shows. -/
theorem retry_left_when_counter_starts_over :
    let fresh : Backoff := { maxRetries := 10 }
    let earlier := List.replicate (2 ^ 32 - 1) Call.recordFailure
    let calls := List.replicate (2 ^ 32) Call.recordFailure
    ¬ ((fresh.after calls).shouldRetry = true ↔
        failuresSinceReset calls < fresh.maxRetries.toNat) ∧
      (fresh.after earlier).recordFailure.1 = 4294967295 ∧ (fresh.after calls).attempt = 0 := by
  intro fresh earlier calls
  have hearlier : fresh.after earlier = { fresh with attempt := 4294967295 } :=
    (recordFailures_snd fresh (2 ^ 32 - 1)).symm.trans (by decide)
  have hcalls : fresh.after calls = fresh :=
    (recordFailures_snd fresh (2 ^ 32)).symm.trans (by decide)
  have hfailures : failuresSinceReset calls = 2 ^ 32 := by
    have hreplicate := failuresSinceReset_append_replicate [] (2 ^ 32)
    rwa [List.nil_append] at hreplicate
  rw [hearlier, hcalls, hfailures]
  exact ⟨by decide, by decide, rfl⟩

end FeatureFlags.Backoff
