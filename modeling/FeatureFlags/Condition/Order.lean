import FeatureFlags.Number.Numeral
import FeatureFlags.Text.Blank
import FeatureFlags.Value

/-!
# The order of values

Two texts that both read as numbers are ordered as numbers, other texts by their code points.  A
number and a text are ordered as numbers if the text reads as one.  Nothing else is ordered.
-/

namespace FeatureFlags.Value

/-- The number a text stands for, blanks around it aside. -/
def textNumber? (s : String) : Option Number := Number.ofText? (Text.trim s.toList)

/-- The number a value is ordered by. -/
def orderNumber? : Value → Option Number
  | number x => some x
  | string s => textNumber? s
  | _ => none

/-- The order of texts by their code points. -/
def compareText (a b : String) : Ordering :=
  if a < b then .lt else if a = b then .eq else .gt

/-- The order of two numbers that may be missing. -/
def compareNumbers? (x y : Option Number) : Option Ordering :=
  match x, y with
  | some x, some y => Number.compare? x y
  | _, _ => none

/-- Whether a value can be ordered at all. -/
def isOrdered : Value → Bool
  | number _ => true
  | string _ => true
  | _ => false

/-- The order of two values; none if they cannot be compared. -/
def compare? (a b : Value) : Option Ordering :=
  match a, b with
  | string s, string t =>
    match textNumber? s, textNumber? t with
    | some x, some y => Number.compare? x y
    | _, _ => some (compareText s t)
  | _, _ =>
    if a.isOrdered && b.isOrdered then compareNumbers? a.orderNumber? b.orderNumber? else none

end FeatureFlags.Value
