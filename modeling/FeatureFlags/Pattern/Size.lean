import FeatureFlags.Pattern.Expression
import FeatureFlags.Unicode.CodePointRange

/-!
# The size of a pattern

A pattern is refused if the automaton that reads a text backwards, byte by byte, would take too much
room.  Each byte of a character, each branch and each repetition takes a state, and a repeated
expression is there as many times as it is repeated.

The characters of a range are the sequences of a few blocks, each of which lets every byte vary
within a range of its own.  Blocks share the states of the bytes that they have in common.
-/

namespace FeatureFlags.Pattern

open Unicode (CodePointSet)

/-- The bytes that a pattern may take. -/
def sizeLimit : Nat := 10485760

/-- The bytes that a state takes. -/
def stateSize : Nat := 32

/-! ## Blocks -/

/-- The ranges of the digits to the base 64 that a block's numbers have, the highest first. -/
abbrev Block := List (Nat × Nat)

/-- The block of the numbers whose highest digit lies in a range and is followed by any digits. -/
def fullBlock (digits : Nat) (first last : Nat) : Block :=
  (first, last) :: List.replicate digits (0, 63)

/-- The blocks of the numbers in a range, whose highest digit is followed by so many others. -/
def blocksOf : Nat → Nat → Nat → List Block
  | 0, first, last => [[(first, last)]]
  | digits + 1, first, last =>
    let unit := Nat.pow 64 (digits + 1)
    let low := first / unit
    let high := last / unit
    let within := fun digit a b => (blocksOf digits a b).map ((digit, digit) :: ·)
    if low = high then within low (first % unit) (last % unit)
    else
      let startsFull := first % unit = 0
      let endsFull := last % unit = unit - 1
      let lowest := if startsFull then low else low + 1
      let highest := if endsFull then high else high - 1
      (if startsFull then [] else within low (first % unit) (unit - 1))
        ++ (if lowest ≤ highest then [fullBlock (digits + 1) lowest highest] else [])
        ++ (if endsFull then [] else within high 0 (last % unit))

/-- The characters of equally many bytes: how many bytes follow the first, and the range of the
characters. -/
def byteLengths : List (Nat × Nat × Nat) :=
  [(0, 0, 0x7F), (1, 0x80, 0x7FF), (2, 0x800, 0xD7FF), (2, 0xE000, 0xFFFF), (3, 0x10000, 0x10FFFF)]

/-- The blocks of the characters of a range. -/
def blocksOfRange (range : Nat × Nat) : List Block :=
  byteLengths.flatMap fun (digits, first, last) =>
    let low := max first range.1
    let high := min last range.2
    if low ≤ high then blocksOf digits low high else []

/-- The length of the common front of two lists. -/
def commonLength : Block → Block → Nat
  | a :: as, b :: bs => if a = b then commonLength as bs + 1 else 0
  | _, _ => 0

/-- The number of states of blocks in ascending order: each shares the front it has in common with
the one before. -/
def stateCount : List Block → Nat
  | [] => 0
  | block :: rest => countFrom block rest + block.length
where
  countFrom (previous : Block) : List Block → Nat
    | [] => 0
    | block :: rest => block.length - commonLength previous block + countFrom block rest

/-- The bytes that a set of characters takes. -/
def setSize (characters : CodePointSet) : Nat :=
  let ranges := characters.toRanges
  if ranges.all (·.2 < 0x80) then 2 * stateSize + 8 * ranges.length
  else
    let blocks := ranges.flatMap blocksOfRange
    (stateCount blocks + 2) * stateSize + 4 * blocks.length

/-! ## Expressions -/

namespace Expression

/-- Whether an expression can only match the empty text. -/
def matchesOnlyEmpty : Expression → Bool
  | empty => true
  | set _ => false
  | place _ => true
  | seq a b => a.matchesOnlyEmpty && b.matchesOnlyEmpty
  | either a b => a.matchesOnlyEmpty && b.matchesOnlyEmpty
  | times body _ max => body.matchesOnlyEmpty || max = some 0

/-- The bytes that an expression takes. -/
def size : Expression → Nat
  | empty => stateSize
  | set (.range first last) =>
    if first = last then stateSize * String.utf8ByteSize (String.ofList [Char.ofNat first])
    else setSize (.range first last)
  | set characters => setSize characters
  | place _ => stateSize
  | seq a b => a.size + b.size
  | either a b => a.size + b.size + stateSize
  | times body min max =>
    if body.matchesOnlyEmpty then body.size + stateSize
    else
      match max with
      | some max => min * body.size + (max - min) * (body.size + 5 * stateSize / 4) + stateSize
      | none => (if min = 0 then 1 else min) * body.size + stateSize

end Expression

end FeatureFlags.Pattern
