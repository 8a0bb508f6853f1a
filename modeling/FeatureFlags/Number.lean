/-!
# Numbers

A number is an exact rational, or one of the values that floating point adds to them: negative
zero, the two infinities and "not a number".  Which rationals a program may produce is not part
of this type but of the arithmetic in use (`FeatureFlags.Number.Arithmetic`), so that the same
functions can be run on doubles and reasoned about in exact arithmetic.

Comparison treats the two zeros as equal, and nothing compares with "not a number".
-/

namespace FeatureFlags

inductive Number
  | finite (value : Rat)
  | negativeZero
  | infinity (negative : Bool)
  | nan
deriving DecidableEq, Repr

namespace Number

instance : Inhabited Number := ⟨finite 0⟩

def ofNat (n : Nat) : Number := finite n

/-- The rational a number stands for, if it stands for one. -/
def toRat? : Number → Option Rat
  | finite value => some value
  | negativeZero => some 0
  | infinity _ => none
  | nan => none

/-- The sign bit: set for negative numbers and for negative zero. -/
def isNegative : Number → Bool
  | finite value => value < 0
  | negativeZero => true
  | infinity negative => negative
  | nan => false

def isFinite (x : Number) : Bool := x.toRat?.isSome

def isNan : Number → Bool
  | nan => true
  | _ => false

def isZero (x : Number) : Bool := x.toRat? = some 0

def neg : Number → Number
  | finite value => if value = 0 then negativeZero else finite (-value)
  | negativeZero => finite 0
  | infinity negative => infinity (!negative)
  | nan => nan

def abs : Number → Number
  | finite value => finite (if value < 0 then -value else value)
  | negativeZero => finite 0
  | infinity _ => infinity false
  | nan => nan

/-- The order of two numbers; none if either is not a number. -/
def compare? : Number → Number → Option Ordering
  | nan, _ => none
  | _, nan => none
  | infinity a, infinity b =>
    some (if a = b then .eq else if a then .lt else .gt)
  | infinity a, _ => some (if a then .lt else .gt)
  | _, infinity b => some (if b then .gt else .lt)
  | x, y =>
    let p := x.toRat?.getD 0
    let q := y.toRat?.getD 0
    some (if p < q then .lt else if p = q then .eq else .gt)

/-- Equality of numbers as amounts: the two zeros are equal, and nothing equals `nan`. -/
def equals (x y : Number) : Bool := compare? x y = some .eq

def lt (x y : Number) : Bool := compare? x y = some .lt

def le (x y : Number) : Bool := compare? x y = some .lt || compare? x y = some .eq

/-- The larger of two numbers; a side that is not a number is ignored. -/
def max (x y : Number) : Number :=
  match compare? x y with
  | some .lt => y
  | some _ => x
  | none => if x.isNan then y else x

/-- The integer a number is equal to, if there is one. -/
def toInt? (x : Number) : Option Int :=
  match x.toRat? with
  | some value => if value.den = 1 then some value.num else none
  | none => none

end Number

end FeatureFlags
