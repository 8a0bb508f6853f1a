import FeatureFlags.Json

/-!
# Drafts of JSON trees

A draft is a JSON text that has been read but not yet judged.  Its objects keep every member in
the order of the text, repeated names included.  A part whose extent is clear but whose content is
not acceptable (a text that is no Unicode, a number out of range, a tree nested too deeply) is
`malformed`; it does no harm where nobody looks at it.

A draft is settled into a tree by `toJson?`, in which the last of several members of one name
counts and nothing may be malformed.
-/

namespace FeatureFlags.Json

inductive Draft
  | null
  | bool (value : Bool)
  | integer (value : Int)
  | float (value : Number)
  | string (value : String)
  | array (items : List Draft)
  | object (members : List (String × Draft))
  | malformed
deriving Inhabited

namespace Draft

mutual

/-- The draft of a settled tree. -/
def ofJson : Json → Draft
  | .null => null
  | .bool b => bool b
  | .integer n => integer n
  | .float x => float x
  | .string s => string s
  | .array items => array (ofItems items)
  | .object members => object (ofMembers members)

def ofItems : List Json → List Draft
  | [] => []
  | item :: rest => ofJson item :: ofItems rest

def ofMembers : List (String × Json) → List (String × Draft)
  | [] => []
  | (name, member) :: rest => (name, ofJson member) :: ofMembers rest

end

mutual

/-- The tree a draft settles into, unless some part of it is malformed. -/
def toJson? : Draft → Option Json
  | null => some .null
  | bool b => some (.bool b)
  | integer n => some (.integer n)
  | float x => some (.float x)
  | string s => some (.string s)
  | array items => (itemsToJson? items).map .array
  | object members => (membersToJson? members).map Json.ofMembers
  | malformed => none

def itemsToJson? : List Draft → Option (List Json)
  | [] => some []
  | item :: rest =>
    match toJson? item, itemsToJson? rest with
    | some json, some jsons => some (json :: jsons)
    | _, _ => none

def membersToJson? : List (String × Draft) → Option (List (String × Json))
  | [] => some []
  | (name, member) :: rest =>
    match toJson? member, membersToJson? rest with
    | some json, some jsons => some ((name, json) :: jsons)
    | _, _ => none

end

end Draft

end FeatureFlags.Json
