import FeatureFlags.Number.Arithmetic

/-!
# The shortest decimal of a double

`shortest q` is the decimal with the fewest significant digits that reads back as the double
`q > 0`, and of those the one nearest to `q`.  For each count of digits only the two neighbours of
`q` on the decimal grid of that count need to be tried: if any point of the grid reads back, one of
these two does.  Seventeen digits always suffice.
-/

namespace FeatureFlags.Number

/-- The decimal `significand * 10 ^ exponent`. -/
structure Decimal where
  significand : Nat
  exponent : Int
deriving DecidableEq, Repr

namespace Decimal

def toRat (d : Decimal) : Rat := (d.significand : Rat) * (10 : Rat) ^ d.exponent

/-- Moves trailing zeros of the significand into the exponent. -/
def normalize (d : Decimal) : Decimal :=
  if d.significand = 0 then ⟨0, 0⟩
  else if d.significand % 10 = 0 then normalize ⟨d.significand / 10, d.exponent + 1⟩
  else d
termination_by d.significand
decreasing_by omega

end Decimal

/-- The number of decimal digits of `n`. -/
def digitCount (n : Nat) : Nat := if n < 10 then 1 else digitCount (n / 10) + 1
termination_by n
decreasing_by omega

/-- The exponent of the largest power of ten that is at most the positive rational `q`. -/
def floorLog10 (q : Rat) : Int :=
  let estimate : Int := (digitCount q.num.natAbs : Int) - (digitCount q.den : Int)
  if (10 : Rat) ^ estimate ≤ q then estimate else estimate - 1

/-- Whether the decimal is read as the double `q`. -/
def readsBack (q : Rat) (d : Decimal) : Bool := nearestDouble d.toRat = finite q

/-- The decimal of `digits` significant digits that is read as `q`, the nearer one if there are
two. -/
def withDigits? (q : Rat) (digits : Nat) : Option Decimal :=
  let exponent := floorLog10 q - (digits - 1 : Int)
  let quotient := q / (10 : Rat) ^ exponent
  let below := quotient.floor
  let low : Decimal := ⟨below.toNat, exponent⟩
  let high : Decimal := ⟨below.toNat + 1, exponent⟩
  match readsBack q low, readsBack q high with
  | true, true =>
    let rest := quotient - below
    some (if rest < 1 / 2 then low else if 1 / 2 < rest then high
      else if below % 2 = 0 then low else high)
  | true, false => some low
  | false, true => some high
  | false, false => none

/-- The first hit among the next `budget` digit counts from `digits` on. -/
def searchDigits (q : Rat) : Nat → Nat → Option Decimal
  | 0, _ => none
  | budget + 1, digits =>
    match withDigits? q digits with
    | some decimal => some decimal
    | none => searchDigits q budget (digits + 1)

/-- The shortest decimal that is read as the double `q > 0`. -/
def shortest (q : Rat) : Decimal :=
  ((searchDigits q 17 1).getD ⟨0, 0⟩).normalize

end FeatureFlags.Number
