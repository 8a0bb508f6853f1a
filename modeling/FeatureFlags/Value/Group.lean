import FeatureFlags.Value

/-!
# Sets of values

A set finds its members by the data they are hashed by, and among those by equality.  The data of
a number that is not integral is its sign alone, the finest that tolerant equality preserves.

A value that equals a member already in the set is not added, so that the first of several equal
values stays.
-/

namespace FeatureFlags

namespace Value

/-- One item of the data a value is hashed by. -/
inductive HashItem
  /-- The kind of a value. -/
  | kind (name : String)
  | bool (value : Bool)
  | text (value : String)
  | integer (value : Int)
  /-- The sign bit of a number that is not integral. -/
  | sign (negative : Bool)
  | length (value : Nat)
deriving DecidableEq, Repr

/-- The data of a number. -/
def numberHashData (x : Number) : List HashItem :=
  match integral? x with
  | some n => [.integer n]
  | none => [.sign x.isNegative]

mutual

/-- The data a value is hashed by, in order. -/
def hashData : Value → List HashItem
  | null => [.kind "null"]
  | unknown => [.kind "unknown"]
  | boolean b => [.kind "boolean", .bool b]
  | string s => [.kind "string", .text s]
  | number x => .kind "number" :: numberHashData x
  | array items => .kind "array" :: .length items.length :: itemsHashData items
  | object fields => .kind "object" :: .length fields.length :: fieldsHashData fields

def itemsHashData : List Value → List HashItem
  | [] => []
  | item :: rest => hashData item ++ itemsHashData rest

def fieldsHashData : List (String × Value) → List HashItem
  | [] => []
  | (name, value) :: rest => .text name :: (hashData value ++ fieldsHashData rest)

end

end Value

/-- A set of values: its members in the order in which they were added. -/
structure ValueSet where
  members : List Value
deriving Inhabited

namespace ValueSet

def empty : ValueSet := ⟨[]⟩

/-- Whether some member has the same hash data as `value` and equals it. -/
def contains (set : ValueSet) (value : Value) : Bool :=
  set.members.any fun member => member.hashData = value.hashData && member.equals value

/-- Adds a value unless an equal one is there. -/
def insert (set : ValueSet) (value : Value) : ValueSet :=
  if set.contains value then set else ⟨set.members ++ [value]⟩

def ofList (values : List Value) : ValueSet := values.foldl insert empty

def size (set : ValueSet) : Nat := set.members.length

def isEmpty (set : ValueSet) : Bool := set.members.isEmpty

/-- The set of the items of a JSON array. -/
def decode : Json.Decoder ValueSet := fun draft => (Json.Decoder.list Value.decode draft).map ofList

/-- The members as a JSON array, in the order of their texts. -/
def toJson (set : ValueSet) : Json :=
  let written := set.members.map fun member => (member.toJson.text, member.toJson)
  .array ((written.mergeSort fun a b => a.1 ≤ b.1).map (·.2))

end ValueSet

/-- Named sets of values that conditions refer to. -/
abbrev SavedGroups := Dictionary ValueSet

namespace SavedGroups

def decode : Json.Decoder SavedGroups := Json.Decoder.dictionary ValueSet.decode

def toJson (groups : SavedGroups) : Json := .object (Dictionary.mapValues ValueSet.toJson groups)

end SavedGroups

end FeatureFlags
