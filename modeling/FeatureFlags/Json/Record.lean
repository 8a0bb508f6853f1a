import FeatureFlags.Json.Draft
import FeatureFlags.Number.Arithmetic

/-!
# Decoding records

A decoder turns a draft into a value of some type or fails.  A record is given as an object whose
members are named, or as an array whose items stand in the order of the record's fields.  Members
that the record does not know are ignored whatever they hold; a field given twice, be it under two
of its names, makes the record fail, and so does an array that is too long.
-/

namespace FeatureFlags.Json

/-- Reads a value off a draft. -/
abbrev Decoder (α : Type) := Draft → Option α

namespace Decoder

variable {α β : Type}

/-- Any settled tree. -/
def json : Decoder Json := Draft.toJson?

def string : Decoder String
  | .string s => some s
  | _ => none

def bool : Decoder Bool
  | .bool b => some b
  | _ => none

/-- A number, be it written as an integer or as a float. An integer becomes the nearest double. -/
def number : Decoder Number
  | .integer n => some (Number.nearestDouble n)
  | .float x => some x
  | _ => none

/-- An integer from zero up to but not including `bound`. -/
def natBelow (bound : Nat) : Decoder Nat
  | .integer n => if 0 ≤ n && n < bound then some n.toNat else none
  | _ => none

/-- Any integer of 32 bits without sign. -/
def word32 : Decoder Nat := natBelow (Nat.pow 2 32)

/-- Any integer of 64 bits without sign. -/
def word64 : Decoder Nat := natBelow (Nat.pow 2 64)

/-- An array of any length. -/
def list (item : Decoder α) : Decoder (List α)
  | .array items => items.mapM item
  | _ => none

/-- An array of exactly two items. -/
def pair (first : Decoder α) (second : Decoder β) : Decoder (α × β)
  | .array [a, b] => do some (← first a, ← second b)
  | _ => none

/-- An object with arbitrary names; of members with one name the last counts. -/
def dictionary (value : Decoder α) : Decoder (Dictionary α)
  | .object members =>
    (members.mapM fun member => (value member.2).map (member.1, ·)).map Dictionary.ofList
  | _ => none

/-- A value or `null`. -/
def nullable (value : Decoder α) : Decoder (Option α)
  | .null => some none
  | draft => (value draft).map some

end Decoder

/-- The names of a field: the one it is written under, and others it may be read under. -/
structure FieldName where
  main : String
  aliases : List String

/-- The names of a record's fields, in the order of the array form. -/
abbrev Schema := List FieldName

def FieldName.answersTo (field : FieldName) (name : String) : Bool :=
  field.main = name || field.aliases.contains name

/-- The fields of a record that are present, under their main names. -/
abbrev Record := List (String × Draft)

/-- Adds a member to a record: ignores it if the schema does not know its name, and fails if its
field is there already. -/
def addMember? (schema : Schema) (record : Record) (member : String × Draft) : Option Record :=
  match schema.find? (·.answersTo member.1) with
  | none => some record
  | some field =>
    if (record.lookup field.main).isSome then none
    else some ((field.main, member.2) :: record)

/-- The fields of a draft that is an object or an array. -/
def Record.ofDraft? (schema : Schema) : Draft → Option Record
  | .object members => members.foldlM (addMember? schema) []
  | .array items =>
    if items.length ≤ schema.length then some ((schema.map (·.main)).zip items) else none
  | _ => none

namespace Record

variable {α : Type}

/-- A field that has to be there. -/
def required (record : Record) (name : String) (value : Decoder α) : Option α :=
  (record.lookup name).bind value

/-- A field that may be missing but, where it is given, must be a value. -/
def withDefault (record : Record) (name : String) (value : Decoder α) (default : α) : Option α :=
  match record.lookup name with
  | some draft => value draft
  | none => some default

/-- A field that may be missing or `null`. -/
def optional (record : Record) (name : String) (value : Decoder α) : Option (Option α) :=
  record.withDefault name (Decoder.nullable value) none

end Record

/-- Members that are written only if they have a value. -/
def optionalMember (name : String) (value : Option Json) : List (String × Json) :=
  match value with
  | some json => [(name, json)]
  | none => []

end FeatureFlags.Json
