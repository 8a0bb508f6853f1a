import FeatureFlags.Json
import FeatureFlags.Number.Arithmetic
import FeatureFlags.Text.Digits

/-!
# JSON numerals

A numeral without fraction and exponent stays an integer while it fits into 64 bits, except that
`-0` is the float negative zero.  Any other numeral becomes a double in two steps: its digits are
collected into a significand below `2 ^ 64`, digits that no longer fit only counting towards the
exponent, and the significand is then multiplied or divided by a power of ten, each operation
rounding once.  A result beyond the largest double is refused.
-/

namespace FeatureFlags.Json

open Number Text

/-- The parts of a numeral as written: each list holds digits only, and the whole part is not
empty. -/
structure Numeral where
  negative : Bool
  whole : List Char
  fraction : List Char
  hasFraction : Bool
  exponent : Option Int

namespace Numeral

/-- Significands stay below this bound. -/
def significandBound : Nat := Nat.pow 2 64

/-- Collects digits before the point: the significand, and the number of digits left out. -/
def collectWhole (significand : Nat) : List Char → Nat × Nat
  | [] => (significand, 0)
  | c :: rest =>
    let next := 10 * significand + (Digits.value? c).getD 0
    if next < significandBound then collectWhole next rest
    else (significand, rest.length + 1)

/-- Collects digits behind the point: the significand, and the number of digits taken. -/
def collectFraction (significand : Nat) : List Char → Nat × Nat
  | [] => (significand, 0)
  | c :: rest =>
    let next := 10 * significand + (Digits.value? c).getD 0
    if next < significandBound then
      let (result, taken) := collectFraction next rest
      (result, taken + 1)
    else (significand, 0)

/-- The largest power of ten that is multiplied in at once. -/
def largestPower : Nat := 308

/-- The double nearest to a power of ten. -/
def power (n : Nat) : Number := nearestDouble ((Nat.pow 10 n : Nat) : Rat)

/-- Scales a double by a power of ten, in steps of at most `1e308`; fails on overflow. -/
def scale? (x : Number) (exponent : Int) : Option Number :=
  if 0 ≤ exponent then
    if exponent ≤ largestPower then
      (some (Arithmetic.binary64.mul x (power exponent.toNat))).filter isFinite
    else if x.isZero then some x
    else none
  else if -exponent ≤ largestPower then
    some (Arithmetic.binary64.div x (power (-exponent).toNat))
  else if x.isZero then some x
  else scale? (Arithmetic.binary64.div x (power largestPower)) (exponent + largestPower)
termination_by exponent.natAbs
decreasing_by
  simp only [largestPower] at *
  omega

/-- The double that the digits and the exponent stand for. -/
def toFloat? (numeral : Numeral) : Option Number :=
  let (wholePart, skipped) := collectWhole 0 numeral.whole
  let (significand, taken) := collectFraction wholePart numeral.fraction
  let exponent := (skipped : Int) - (taken : Int) + numeral.exponent.getD 0
  (scale? (nearestDouble significand) exponent).map fun x =>
    if numeral.negative then x.neg else x

/-- The value of a numeral that has neither fraction nor exponent, if it is an integer of 64
bits. -/
def toInteger? (numeral : Numeral) : Option Int :=
  if numeral.hasFraction || numeral.exponent.isSome then none
  else
    match Digits.read? numeral.whole with
    | some n =>
      if numeral.negative then (if 0 < n && n ≤ Nat.pow 2 63 then some (-(n : Int)) else none)
      else if n < Nat.pow 2 64 then some n
      else none
    | none => none

/-- The tree of a numeral; none if it is beyond the range of doubles. -/
def toJson? (numeral : Numeral) : Option Json :=
  match numeral.toInteger? with
  | some n => some (integer n)
  | none => numeral.toFloat?.map float

end Numeral

end FeatureFlags.Json
