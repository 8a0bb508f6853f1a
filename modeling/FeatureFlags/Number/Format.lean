import FeatureFlags.Number.Shortest
import FeatureFlags.Text.Digits

/-!
# Decimal text of numbers

A number is written with the digits of its shortest decimal, either positionally or with an
exponent.  A `Format` says which magnitudes are written positionally and whether a positional text
without a fraction ends in `.0`.  An exponent follows one digit before the point and always carries
its sign.
-/

namespace FeatureFlags.Number

/-- The choices a decimal text leaves open. -/
structure Format where
  /-- Whether a number whose first digit stands for `10 ^ n` is written positionally. -/
  positional : Int → Bool
  /-- Whether a positional text without a fraction gets `.0`. -/
  marksInteger : Bool

/-- JSON text: positional from `1e-5` up to below `1e16`, and a float is always recognisable. -/
def Format.json : Format := ⟨fun n => -5 ≤ n && n < 16, true⟩

/-- Every digit of the number, never an exponent. -/
def Format.plain : Format := ⟨fun _ => true, false⟩

open Text

/-- The digits placed around the decimal point. -/
def writePositional (marksInteger : Bool) (digits : List Char) (exponent : Int) : List Char :=
  if 0 ≤ exponent then
    digits ++ List.replicate exponent.toNat '0' ++ (if marksInteger then ['.', '0'] else [])
  else
    let places := (-exponent).toNat
    if places < digits.length then
      digits.take (digits.length - places) ++ '.' :: digits.drop (digits.length - places)
    else
      '0' :: '.' :: (List.replicate (places - digits.length) '0' ++ digits)

/-- One digit before the point, and the exponent `n` of that digit. -/
def writeScientific (digits : List Char) (n : Int) : List Char :=
  let mantissa := match digits with
    | first :: [] => [first]
    | first :: rest => first :: '.' :: rest
    | [] => []
  let sign := if n < 0 then '-' else '+'
  mantissa ++ 'e' :: sign :: Digits.write n.natAbs

/-- The text of a positive double. -/
def Format.writeMagnitude (format : Format) (q : Rat) : List Char :=
  let decimal := shortest q
  let digits := Digits.write decimal.significand
  let leading := decimal.exponent + (digits.length : Int) - 1
  if format.positional leading then
    writePositional format.marksInteger digits decimal.exponent
  else writeScientific digits leading

/-- The text of a number. -/
def Format.write (format : Format) : Number → List Char
  | finite value =>
    if value = 0 then writePositional format.marksInteger ['0'] 0
    else if value < 0 then '-' :: format.writeMagnitude (-value)
    else format.writeMagnitude value
  | negativeZero => '-' :: writePositional format.marksInteger ['0'] 0
  | infinity negative => (if negative then ['-'] else []) ++ ['i', 'n', 'f']
  | nan => ['N', 'a', 'N']

end FeatureFlags.Number
