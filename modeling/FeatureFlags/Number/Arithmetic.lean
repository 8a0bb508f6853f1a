import FeatureFlags.Number

/-!
# Arithmetic with a choice of rounding

Every operation is done on exact rationals and its result is then rounded once.  `binary64`
rounds to the nearest double, ties to the one with an even significand, and overflows to an
infinity; `exact` does not round at all.

A double is `m * 2 ^ e` with `m < 2 ^ 53` and `e ≥ -1074`.  The spacing of doubles around a
rational is the power of two that leaves 53 binary digits before the point, but never less than
`2 ^ -1074`.
-/

namespace FeatureFlags.Number

/-- How the result of an operation is rounded. -/
inductive Arithmetic
  | exact
  | binary64
deriving DecidableEq, Repr

/-- The exponent of the largest power of two that is at most the positive rational `q`. -/
def floorLog2 (q : Rat) : Int :=
  let estimate : Int := (Nat.log2 q.num.natAbs : Int) - (Nat.log2 q.den : Int)
  if (2 : Rat) ^ estimate ≤ q then estimate else estimate - 1

/-- The distance between neighbouring doubles at the positive rational `q`. -/
def spacing (q : Rat) : Rat :=
  (2 : Rat) ^ (Max.max (floorLog2 q - 52) (-1074))

/-- The nearest integer, the even one of two that are equally near. -/
def nearestEven (q : Rat) : Int :=
  let below := q.floor
  let rest := q - below
  if rest < 1 / 2 then below
  else if 1 / 2 < rest then below + 1
  else if below % 2 = 0 then below
  else below + 1

/-- The least power of two that no finite double reaches. -/
def overflowBound : Rat := (2 : Rat) ^ (1024 : Int)

/-- The positive rational nearest to `q > 0` among the multiples of the spacing at `q`. -/
def nearestMultiple (q : Rat) : Rat :=
  (nearestEven (q / spacing q) : Rat) * spacing q

/-- The double nearest to `q`. -/
def nearestDouble (q : Rat) : Number :=
  if q = 0 then finite 0
  else
    let magnitude := nearestMultiple (if q < 0 then -q else q)
    if overflowBound ≤ magnitude then infinity (q < 0)
    else if q < 0 then (if magnitude = 0 then negativeZero else finite (-magnitude))
    else finite magnitude

namespace Arithmetic

/-- The number a result stands for after rounding. -/
def round : Arithmetic → Rat → Number
  | exact, q => finite q
  | binary64, q => nearestDouble q

/-- The sum. Zeros add up to a negative zero only if both are negative. -/
def add (arithmetic : Arithmetic) : Number → Number → Number
  | nan, _ => nan
  | _, nan => nan
  | infinity a, infinity b => if a = b then infinity a else nan
  | infinity a, _ => infinity a
  | _, infinity b => infinity b
  | negativeZero, negativeZero => negativeZero
  | x, y => arithmetic.round (x.toRat?.getD 0 + y.toRat?.getD 0)

def sub (arithmetic : Arithmetic) (x y : Number) : Number := arithmetic.add x y.neg

/-- A zero with the given sign. -/
def signedZero (negative : Bool) : Number := if negative then negativeZero else finite 0

/-- Rounds a product or quotient whose sign is known, so that zero keeps that sign. -/
def roundSigned (arithmetic : Arithmetic) (negative : Bool) (q : Rat) : Number :=
  if q = 0 then signedZero negative else arithmetic.round q

def mul (arithmetic : Arithmetic) (x y : Number) : Number :=
  let negative := x.isNegative != y.isNegative
  match x.toRat?, y.toRat? with
  | some p, some q => arithmetic.roundSigned negative (p * q)
  | _, _ => if x.isNan || y.isNan || x.isZero || y.isZero then nan else infinity negative

def div (arithmetic : Arithmetic) (x y : Number) : Number :=
  let negative := x.isNegative != y.isNegative
  match x.toRat?, y.toRat? with
  | some p, some q =>
    if q = 0 then (if p = 0 then nan else infinity negative)
    else arithmetic.roundSigned negative (p / q)
  | some _, none => if y.isNan then nan else signedZero negative
  | none, some _ => if x.isNan then nan else infinity negative
  | none, none => nan

/-- The sum of a list, added up from the left. -/
def sum (arithmetic : Arithmetic) (xs : List Number) : Number :=
  xs.foldl arithmetic.add (finite 0)

end Arithmetic

/-- The nearest integer, a half going away from zero. -/
def roundHalfAway : Number → Number
  | finite value =>
    if value < 0 then
      let magnitude := (-value + 1 / 2).floor
      if magnitude = 0 then negativeZero else finite (-magnitude)
    else finite (value + 1 / 2).floor
  | x => x

end FeatureFlags.Number
