import FeatureFlags.Unicode.CodePointSet

/-!
# Regular expressions

A regular expression says which stretches of a text it matches.  Its leaves match one character of
a set, or nothing at a place of a certain kind, such as the start of a line.
-/

namespace FeatureFlags.Pattern

open Unicode (CodePointSet)

/-- A kind of place between two characters. -/
inductive Place
  | textStart
  | textEnd
  /-- The start of a line; lines end at a line feed, or also at carriage returns. -/
  | lineStart (carriageReturns : Bool)
  | lineEnd (carriageReturns : Bool)
  /-- The start or the end of a word of the given characters. -/
  | wordBoundary (word : CodePointSet)
  | noWordBoundary (word : CodePointSet)
  | wordStart (word : CodePointSet)
  | wordEnd (word : CodePointSet)
  /-- No word character stands before. -/
  | wordStartHalf (word : CodePointSet)
  /-- No word character follows. -/
  | wordEndHalf (word : CodePointSet)
deriving DecidableEq, Repr

inductive Expression
  /-- Matches nothing, anywhere. -/
  | empty
  | set (characters : CodePointSet)
  | place (kind : Place)
  | seq (first second : Expression)
  | either (first second : Expression)
  /-- At least `min` and, if there is a `max`, at most that many matches after one another. -/
  | times (body : Expression) (min : Nat) (max : Option Nat)
deriving DecidableEq, Repr

namespace Place

/-- Whether a character that may be missing is in a set. -/
def isIn (set : CodePointSet) (c : Option Char) : Bool := c.any fun c => set.contains c.toNat

/-- Whether a place between two characters, which are missing at the ends of the text, is of a
kind. -/
def holds (before after : Option Char) : Place → Bool
  | textStart => before.isNone
  | textEnd => after.isNone
  | lineStart false => before.isNone || before = some '\n'
  | lineStart true =>
    before.isNone || before = some '\n' || (before = some '\r' && after ≠ some '\n')
  | lineEnd false => after.isNone || after = some '\n'
  | lineEnd true =>
    after.isNone || after = some '\r' || (after = some '\n' && before ≠ some '\r')
  | wordBoundary word => isIn word before != isIn word after
  | noWordBoundary word => isIn word before == isIn word after
  | wordStart word => !isIn word before && isIn word after
  | wordEnd word => isIn word before && !isIn word after
  | wordStartHalf word => !isIn word before
  | wordEndHalf word => !isIn word after

end Place

end FeatureFlags.Pattern
