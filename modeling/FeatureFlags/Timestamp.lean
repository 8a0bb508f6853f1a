import FeatureFlags.Text.Blank
import FeatureFlags.Text.Digits

/-!
# Timestamps

A moment in universal time, written as a date and a time of day with the suffix `Z` and as many
fractional digits as are needed, in groups of three.  Days are counted in the proleptic Gregorian
calendar; the sixtieth second of a leap second is kept as a nanosecond beyond the last second of
its minute.
-/

namespace FeatureFlags

/-- A moment: a day, counted from 1970-01-01, a second of that day, and a nanosecond, which
exceeds its second in a leap second. -/
structure Timestamp where
  day : Int
  second : Nat
  nanosecond : Nat
deriving DecidableEq, Repr

namespace Timestamp

open Text

/-! ## The calendar -/

def isLeapYear (year : Int) : Bool :=
  Int.emod year 4 = 0 && (Int.emod year 100 ≠ 0 || Int.emod year 400 = 0)

def daysInMonth (year : Int) (month : Nat) : Nat :=
  match month with
  | 2 => if isLeapYear year then 29 else 28
  | 4 => 30
  | 6 => 30
  | 9 => 30
  | 11 => 30
  | _ => 31

/-- The number of days from 1970-01-01 to a date. Years begin in March here, so that the leap day
is the last of its year. -/
def dayOfDate (year : Int) (month day : Nat) : Int :=
  let shifted := if month ≤ 2 then year - 1 else year
  let monthFromMarch : Int := ((month + 9) % 12 : Nat)
  let dayOfYear := (153 * monthFromMarch + 2) / 5 + day - 1
  365 * shifted + Int.fdiv shifted 4 - Int.fdiv shifted 100 + Int.fdiv shifted 400 + dayOfYear
    - 719468

/-- The year, month and day of the month of a day counted from 1970-01-01. -/
def dateOfDay (day : Int) : Int × Nat × Nat :=
  let fromEra := day + 719468
  let era := Int.fdiv fromEra 146097
  let dayOfEra := fromEra - era * 146097
  let yearOfEra := (dayOfEra - dayOfEra / 1460 + dayOfEra / 36524 - dayOfEra / 146096) / 365
  let dayOfYear := dayOfEra - (365 * yearOfEra + yearOfEra / 4 - yearOfEra / 100)
  let monthFromMarch := (5 * dayOfYear + 2) / 153
  let dayOfMonth := dayOfYear - (153 * monthFromMarch + 2) / 5 + 1
  let month := if monthFromMarch < 10 then monthFromMarch + 3 else monthFromMarch - 9
  let year := yearOfEra + era * 400 + (if month ≤ 2 then 1 else 0)
  (year, month.toNat, dayOfMonth.toNat)

def leastYear : Int := -262143

def greatestYear : Int := 262142

/-! ## Writing -/

def twoDigits (n : Nat) : List Char := Digits.writePadded 2 n

/-- A year of four digits, or one with its sign. -/
def writeYear (year : Int) : List Char :=
  if 0 ≤ year && year ≤ 9999 then Digits.writePadded 4 year.toNat
  else (if year < 0 then '-' else '+') :: Digits.writePadded 4 year.natAbs

/-- The fraction of a second: nothing, or three, six or nine digits. -/
def writeFraction (nanosecond : Nat) : List Char :=
  if nanosecond = 0 then []
  else if nanosecond % 1000000 = 0 then '.' :: Digits.writePadded 3 (nanosecond / 1000000)
  else if nanosecond % 1000 = 0 then '.' :: Digits.writePadded 6 (nanosecond / 1000)
  else '.' :: Digits.writePadded 9 nanosecond

/-- The text of a moment. -/
def write (t : Timestamp) : String :=
  let (year, month, day) := dateOfDay t.day
  let leap := 1000000000 ≤ t.nanosecond
  let second := t.second % 60 + (if leap then 1 else 0)
  let nanosecond := if leap then t.nanosecond - 1000000000 else t.nanosecond
  String.ofList <|
    writeYear year ++ '-' :: twoDigits month ++ '-' :: twoDigits day
      ++ 'T' :: twoDigits (t.second / 3600) ++ ':' :: twoDigits (t.second / 60 % 60)
      ++ ':' :: twoDigits second ++ writeFraction nanosecond ++ ['Z']

/-! ## Reading -/

/-- A number of at most `width` digits, blanks before it aside. -/
def takeNumber? (width : Nat) (text : List Char) : Option (Nat × List Char) :=
  let trimmed := trimStart text
  let digits := (trimmed.take width).takeWhile Digits.isDigit
  (Digits.read? digits).map (·, trimmed.drop digits.length)

/-- A year: up to four digits, or a sign and any number of digits. -/
def takeYear? (text : List Char) : Option (Int × List Char) :=
  match trimStart text with
  | '-' :: rest => takeSignedYear (-1) rest
  | '+' :: rest => takeSignedYear 1 rest
  | trimmed => (takeNumber? 4 trimmed).map fun (n, rest) => ((n : Int), rest)
where
  /-- The digits behind the sign follow it at once. -/
  takeSignedYear (sign : Int) (text : List Char) : Option (Int × List Char) :=
    let digits := text.takeWhile Digits.isDigit
    (Digits.read? digits).map fun n => (sign * n, text.drop digits.length)

/-- A given character, blanks before it aside. -/
def takeMark? (mark : Char) (text : List Char) : Option (List Char) :=
  match trimStart text with
  | c :: rest => if c = mark then some rest else none
  | [] => none

/-- The fraction of a second in nanoseconds; digits beyond the ninth do not count. -/
def takeFraction? (text : List Char) : Option (Nat × List Char) :=
  match text with
  | '.' :: rest =>
    let digits := rest.takeWhile Digits.isDigit
    let kept := digits.take 9
    (Digits.read? kept).map fun n => (n * Nat.pow 10 (9 - kept.length), rest.drop digits.length)
  | _ => some (0, text)

/-- Exactly two digits. -/
def takeTwoDigits? (text : List Char) : Option (Nat × List Char) :=
  match text with
  | a :: b :: rest => (Digits.read? [a, b]).map (·, rest)
  | _ => none

/-- The offset of a time zone in seconds: a sign, hours and minutes. -/
def takeSignedOffset? (text : List Char) : Option (Int × List Char) :=
  match text with
  | [] => none
  | sign :: rest => do
    let direction : Int ←
      if sign = '+' then some 1 else if sign = '-' || sign = '\u2212' then some (-1) else none
    let (hours, rest) ← takeTwoDigits? rest
    let (minutes, rest) ← takeTwoDigits? (rest.dropWhile fun c => c = ':' || isBlank c)
    if minutes < 60 then some (direction * (hours * 3600 + minutes * 60), rest) else none

/-- The offset that ends a timestamp: the word `UTC` or the letter `Z` in either case, or a signed
offset. -/
def takeOffset? (text : List Char) : Option (Int × List Char) :=
  match text with
  | 'Z' :: rest => some (0, rest)
  | 'z' :: rest => some (0, rest)
  | _ =>
    if (text.take 3).map Char.toLower = ['u', 't', 'c'] then some (0, text.drop 3)
    else takeSignedOffset? text

/-- A date. -/
def takeDate? (text : List Char) : Option (Int × List Char) := do
  let (year, text) ← takeYear? text
  let text ← takeMark? '-' text
  let (month, text) ← takeNumber? 2 text
  let text ← takeMark? '-' text
  let (day, text) ← takeNumber? 2 text
  if leastYear ≤ year && year ≤ greatestYear && 1 ≤ month && month ≤ 12 && 1 ≤ day &&
      day ≤ daysInMonth year month then
    some (dayOfDate year month day, text)
  else none

/-- A time of day in seconds and nanoseconds. -/
def takeTime? (text : List Char) : Option (Nat × Nat × List Char) := do
  let (hour, text) ← takeNumber? 2 text
  let text ← takeMark? ':' text
  let (minute, text) ← takeNumber? 2 text
  let text ← takeMark? ':' text
  let (second, text) ← takeNumber? 2 text
  let (nanosecond, text) ← takeFraction? text
  if hour < 24 && minute < 60 && second ≤ 60 then
    if second = 60 then some (hour * 3600 + minute * 60 + 59, nanosecond + 1000000000, text)
    else some (hour * 3600 + minute * 60 + second, nanosecond, text)
  else none

/-- The day that begins the least year, and the last day of the greatest. -/
def dayRange : Int × Int := (dayOfDate leastYear 1 1, dayOfDate greatestYear 12 31)

/-- The moment of a local time with an offset below a day. -/
def ofLocal? (day : Int) (second nanosecond : Nat) (offset : Int) : Option Timestamp :=
  let total := day * 86400 + second - offset
  let utcDay := Int.fdiv total 86400
  if offset.natAbs < 86400 && dayRange.1 ≤ utcDay && utcDay ≤ dayRange.2 then
    some ⟨utcDay, (Int.fmod total 86400).toNat, nanosecond⟩
  else none

/-- Reads a date and a time with an offset. Date and time are separated by a blank or the letter
`T` in either case; blanks may stand between all parts. -/
def ofText? (text : List Char) : Option Timestamp := do
  let (day, text) ← takeDate? text
  let text ← match text with
    | c :: rest => if c = 'T' || c = 't' || c = ' ' then some rest else none
    | [] => none
  let (second, nanosecond, text) ← takeTime? text
  let (offset, text) ← takeOffset? (trimStart text)
  if (trimStart text).isEmpty then ofLocal? day second nanosecond offset else none

end Timestamp

end FeatureFlags
