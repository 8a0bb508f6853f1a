/-!
# Decimal digits

Writing natural numbers in decimal and reading them back.  `write` gives the one spelling without
leading zeros; `read?` accepts every non-empty list of ASCII digits.
-/

namespace FeatureFlags.Text.Digits

/-- The digit for `n`, which is below ten. -/
def digit (n : Nat) : Char := Char.ofNat (48 + n)

/-- The value of an ASCII digit. -/
def value? (c : Char) : Option Nat :=
  if '0' ≤ c && c ≤ '9' then some (c.toNat - 48) else none

def isDigit (c : Char) : Bool := (value? c).isSome

/-- The decimal digits of `n`, most significant first. -/
def write (n : Nat) : List Char :=
  if n < 10 then [digit n] else write (n / 10) ++ [digit (n % 10)]
termination_by n
decreasing_by omega

/-- Appends the digits `text` to the number `n` read so far; fails at anything but a digit. -/
def readFrom? (n : Nat) : List Char → Option Nat
  | [] => some n
  | c :: rest =>
    match value? c with
    | some d => readFrom? (10 * n + d) rest
    | none => none

/-- The number that a non-empty list of digits stands for. -/
def read? (text : List Char) : Option Nat :=
  if text.isEmpty then none else readFrom? 0 text

/-- Reads a number below `bound`, which an optional `+` may precede. -/
def readSigned? (bound : Nat) (text : List Char) : Option Nat :=
  let digits := match text with
    | '+' :: rest => rest
    | _ => text
  (read? digits).filter (· < bound)

/-- The decimal text of an integer. -/
def writeInt : Int → List Char
  | .ofNat n => write n
  | .negSucc n => '-' :: write (n + 1)

/-- `write n`, filled up with zeros on the left to at least `width` digits. -/
def writePadded (width n : Nat) : List Char :=
  let digits := write n
  List.replicate (width - digits.length) '0' ++ digits

/-- The lower-case hexadecimal digit for `n`, which is below sixteen. -/
def hexDigit (n : Nat) : Char :=
  if n < 10 then Char.ofNat (48 + n) else Char.ofNat (87 + n)

/-- The value of a hexadecimal digit of either case. -/
def hexValue? (c : Char) : Option Nat :=
  if '0' ≤ c && c ≤ '9' then some (c.toNat - 48)
  else if 'a' ≤ c && c ≤ 'f' then some (c.toNat - 87)
  else if 'A' ≤ c && c ≤ 'F' then some (c.toNat - 55)
  else none

/-- The last `width` hexadecimal digits of `n`, most significant first. -/
def writeHex : Nat → Nat → List Char
  | 0, _ => []
  | width + 1, n => writeHex width (n / 16) ++ [hexDigit (n % 16)]

end FeatureFlags.Text.Digits
