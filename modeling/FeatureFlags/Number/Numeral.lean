import FeatureFlags.Number.Shortest
import FeatureFlags.Text.Digits

/-!
# Reading decimal numerals

`ofText?` reads a signed decimal with an optional point and an optional exponent, or one of the
words `inf`, `infinity` and `nan` in either case, to the nearest double.  At least one digit stands
before or after the point, and at least one behind the exponent mark.
-/

namespace FeatureFlags.Number

open Text

/-- The double nearest to `significand * 10 ^ exponent`.  A magnitude far outside the range of
doubles is settled from its size alone. -/
def ofDecimal (significand : Nat) (exponent : Int) : Number :=
  if significand = 0 then finite 0
  else
    let leading := exponent + (digitCount significand : Int)
    if 400 < leading then infinity false
    else if leading < -400 then finite 0
    else nearestDouble (Decimal.toRat ⟨significand, exponent⟩)

/-- The longest run of digits at the front of a text, and what follows it. -/
def takeDigits (text : List Char) : List Char × List Char :=
  (text.takeWhile Digits.isDigit, text.dropWhile Digits.isDigit)

/-- The exponent that ends a numeral: nothing at all, or a mark and a signed number. -/
def readExponent? : List Char → Option Int
  | [] => some 0
  | mark :: rest =>
    if mark = 'e' || mark = 'E' then
      match rest with
      | '-' :: digits => (Digits.read? digits).map fun n => -(n : Int)
      | '+' :: digits => (Digits.read? digits).map fun n => (n : Int)
      | digits => (Digits.read? digits).map fun n => (n : Int)
    else none

/-- An unsigned numeral. -/
def readMagnitude? (text : List Char) : Option Number :=
  let (whole, afterWhole) := takeDigits text
  let (fraction, afterFraction) := match afterWhole with
    | '.' :: rest => takeDigits rest
    | rest => ([], rest)
  let digits := whole ++ fraction
  match Digits.read? digits, readExponent? afterFraction with
  | some significand, some exponent =>
    some (ofDecimal significand (exponent - (fraction.length : Int)))
  | _, _ => none

/-- An unsigned numeral or the name of a number that has no digits. -/
def readUnsigned? (text : List Char) : Option Number :=
  let lower := text.map Char.toLower
  if lower = ['i', 'n', 'f'] || lower = ['i', 'n', 'f', 'i', 'n', 'i', 't', 'y'] then
    some (infinity false)
  else if lower = ['n', 'a', 'n'] then some nan
  else readMagnitude? text

/-- The number a text stands for. -/
def ofText? : List Char → Option Number
  | '-' :: rest => (readUnsigned? rest).map neg
  | '+' :: rest => readUnsigned? rest
  | text => readUnsigned? text

end FeatureFlags.Number
