import FeatureFlags.Text.Digits

/-!
# Labels in ASCII

A label that is not ASCII is written as its ASCII characters, a hyphen if there are any, and the
other characters coded as numbers.  A number tells how far the next character and its place are
from those before, counting first through all places of the label and then through all characters.
Numbers are written to the base 36 with the last digits first, each place having a threshold below
which a digit ends the number; the thresholds adapt to the numbers written before.
-/

namespace FeatureFlags.Url.Punycode

/-- The character for a digit: letters, then decimal digits. -/
def digit (value : Nat) : Char :=
  if value < 26 then Char.ofNat (97 + value) else Char.ofNat (22 + value)

/-- The value of a digit of either case. -/
def digitValue? (c : Char) : Option Nat :=
  if 'a' ≤ c && c ≤ 'z' then some (c.toNat - 97)
  else if 'A' ≤ c && c ≤ 'Z' then some (c.toNat - 65)
  else if '0' ≤ c && c ≤ '9' then some (c.toNat - 22)
  else none

/-- The threshold of a place, counted from 36 in steps of 36. -/
def threshold (place bias : Nat) : Nat := min 26 (max 1 (place - bias))

/-- Divides a number by 35 until it is small, and counts the divisions in steps of 36. -/
def scaleDown (delta steps : Nat) : Nat × Nat :=
  if 455 < delta then scaleDown (delta / 35) (steps + 36) else (delta, steps)
termination_by delta
decreasing_by omega

/-- The bias after a number has been coded. -/
def adapt (delta count : Nat) (isFirst : Bool) : Nat :=
  let damped := if isFirst then delta / 700 else delta / 2
  let (scaled, steps) := scaleDown (damped + damped / count) 0
  steps + 36 * scaled / (scaled + 38)

/-! ## Writing -/

/-- The digits of a number. -/
def writeNumber (bias place n : Nat) : List Char :=
  let limit := threshold place bias
  if n < limit then [digit n]
  else
    digit (limit + (n - limit) % (36 - limit)) ::
      writeNumber bias (place + 36) ((n - limit) / (36 - limit))
termination_by n
decreasing_by
  have hlow : 1 ≤ threshold place bias := by unfold threshold; omega
  have hle : (n - threshold place bias) / (36 - threshold place bias) ≤ n - threshold place bias :=
    Nat.div_le_self _ _
  omega

/-- The state of writing: the digits so far, the distance from the last character written, the bias,
and the number of characters written. -/
structure Progress where
  digits : List Char
  delta : Nat
  bias : Nat
  count : Nat

/-- Passes a character while those with the number `n` are being written. -/
def pass (basic n : Nat) (progress : Progress) (c : Nat) : Progress :=
  if c < n then { progress with delta := progress.delta + 1 }
  else if c = n then
    { digits := progress.digits ++ writeNumber progress.bias 36 progress.delta
      delta := 0
      bias := adapt progress.delta (progress.count + 1) (progress.count = basic)
      count := progress.count + 1 }
  else progress

/-- Writes the characters with the given numbers, which ascend from `next` on. -/
def writeAll (label : List Nat) (basic : Nat) : List Nat → Nat → Progress → Progress
  | [], _, progress => progress
  | n :: rest, next, progress =>
    let reached :=
      { progress with delta := progress.delta + (n - next) * (progress.count + 1) }
    let passed := label.foldl (pass basic n) reached
    writeAll label basic rest (n + 1) { passed with delta := passed.delta + 1 }

/-- The ASCII form of a label. -/
def encode (label : List Nat) : List Char :=
  let basic := label.filter (· < 0x80)
  let others := ((label.filter (0x80 ≤ ·)).mergeSort).eraseDups
  let front := basic.map Char.ofNat
  front ++ (if front.isEmpty then [] else ['-'])
    ++ (writeAll label basic.length others 0x80
      { digits := [], delta := 0, bias := 72, count := basic.length }).digits

/-! ## Reading -/

/-- Reads a number, which is multiplied by a weight and added to one, and returns the text behind
it. -/
def readNumber? (bias : Nat) : Nat → Nat → Nat → List Char → Option (Nat × List Char)
  | _, _, _, [] => none
  | place, weight, sum, c :: rest =>
    match digitValue? c with
    | none => none
    | some value =>
      let limit := threshold place bias
      if value < limit then some (sum + value * weight, rest)
      else readNumber? bias (place + 36) (weight * (36 - limit)) (sum + value * weight) rest

/-- Reads characters and puts each into its place, as many as a bound allows. -/
def readAll? : Nat → Nat → Nat → Nat → List Nat → List Char → Option (List Nat)
  | _, _, _, _, label, [] => some label
  | 0, _, _, _, _, _ => none
  | fuel + 1, bias, n, place, label, text => do
    let (sum, rest) ← readNumber? bias 36 1 place text
    let count := label.length + 1
    let n := n + sum / count
    if n.isValidChar then
      readAll? fuel (adapt (sum - place) count (place = 0)) n (sum % count + 1)
        (label.insertIdx (sum % count) n) rest
    else none

/-- The label that an ASCII form stands for. -/
def decode? (text : List Char) : Option (List Nat) :=
  let digits := (text.reverse.takeWhile (· ≠ '-')).reverse
  let front := text.take (text.length - digits.length)
  readAll? text.length 72 0x80 0 (front.dropLast.map Char.toNat) digits

end FeatureFlags.Url.Punycode
