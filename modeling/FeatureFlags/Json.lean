import FeatureFlags.Dictionary
import FeatureFlags.Number

/-!
# JSON trees

A number that was written as an integer and fits into 64 bits stays an integer; every other number
is a float.  `1` and `1.0` are therefore different trees.  The members of an object form a
dictionary.
-/

namespace FeatureFlags

inductive Json
  | null
  | bool (value : Bool)
  | integer (value : Int)
  | float (value : Number)
  | string (value : String)
  | array (items : List Json)
  | object (members : List (String × Json))
deriving Inhabited

namespace Json

mutual

/-- Equality of trees, in which floats are compared as amounts. -/
def same : Json → Json → Bool
  | null, null => true
  | bool a, bool b => a = b
  | integer a, integer b => a = b
  | float a, float b => Number.equals a b
  | string a, string b => a = b
  | array a, array b => sameItems a b
  | object a, object b => sameMembers a b
  | _, _ => false

def sameItems : List Json → List Json → Bool
  | [], [] => true
  | a :: as, b :: bs => same a b && sameItems as bs
  | _, _ => false

def sameMembers : List (String × Json) → List (String × Json) → Bool
  | [], [] => true
  | (k, a) :: as, (l, b) :: bs => k = l && same a b && sameMembers as bs
  | _, _ => false

end

/-- The object with the given members; of members with one name the last counts. -/
def ofMembers (members : List (String × Json)) : Json := object (Dictionary.ofList members)

def asString? : Json → Option String
  | string value => some value
  | _ => none

def asArray? : Json → Option (List Json)
  | array items => some items
  | _ => none

def asObject? : Json → Option (Dictionary Json)
  | object members => some members
  | _ => none

def ofNat (n : Nat) : Json := integer n

/-- A float where the receiver expects one; an infinity or `nan` has no JSON form and becomes
`null`. -/
def ofNumber (x : Number) : Json := if x.isFinite then float x else null

end Json

end FeatureFlags
