import FeatureFlags.Text.Split

/-!
# The coding of character tables

A table is a text of digits and letters, in which line breaks and spaces do not count.  It stands
for a list of numbers: the values of the characters are 0 to 61, a value of at least 31 is 31 more
than a digit to the base 31 that others follow, and a smaller value is the last digit of a number.
A set of characters is coded by the lengths of the gaps and of the ranges between them in turn.
-/

namespace FeatureFlags.Unicode

/-- The value of a character of a table: decimal digits, then capital, then small letters. -/
def codeValue (c : Char) : Nat :=
  if c ≤ '9' then c.toNat - 48 else if c ≤ 'Z' then c.toNat - 55 else c.toNat - 61

/-- The numbers of a table, of which the first begins with the digits read so far. -/
def decodeFrom (begun : Nat) : List Char → List Nat
  | [] => []
  | c :: rest =>
    let value := codeValue c
    if value < 31 then (begun * 31 + value) :: decodeFrom 0 rest
    else decodeFrom (begun * 31 + (value - 31)) rest

def decodeNumbers (code : String) : List Nat := decodeFrom 0 (code.toList.filter Char.isAlphanum)

/-- The integer that a number stands for: even numbers are twice an integer that is not negative. -/
def ofZigzag (n : Nat) : Int := if n % 2 = 0 then (n / 2 : Nat) else -((n / 2 : Nat) : Int) - 1

/-- The ranges of a set behind a number, each given by the gap before it and the distance between
its ends. -/
def rangesAfter (start : Nat) : List Nat → List (Nat × Nat)
  | gap :: extent :: rest =>
    (start + gap, start + gap + extent) :: rangesAfter (start + gap + extent + 1) rest
  | _ => []

/-- The words of a text, which has a space between them. -/
def words (text : String) : List String :=
  (Text.split (· = ' ') text.toList).map String.ofList

/-- What a table has under a name; an entry may have several names. -/
def entryOf? {α : Type} (table : List (String × α)) (name : String) : Option α :=
  (table.find? fun entry => (words entry.1).contains name).map (·.2)

end FeatureFlags.Unicode
