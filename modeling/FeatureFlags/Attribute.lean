import FeatureFlags.Text.Split
import FeatureFlags.Value

/-!
# Attributes and paths

A path such as `company.plan.name` leads through nested values, one segment between dots at a time.
A segment names a field of an object or the index of an item of an array; anything else, and every
path that leads nowhere, has the value `unknown`.
-/

namespace FeatureFlags

/-- What is known about a user, by name. -/
abbrev Attributes := Dictionary Value

/-- A path into nested attributes. -/
structure AttributePath where
  text : String
deriving DecidableEq, Repr

namespace AttributePath

/-- The parts of the path between its dots. -/
def segments (path : AttributePath) : List String :=
  (Text.split (· = '.') path.text.toList).map String.ofList

/-- Indices of array items stay below this bound. -/
def indexBound : Nat := Nat.pow 2 64

/-- The array index a segment stands for. -/
def index? (segment : String) : Option Nat := Text.Digits.readSigned? indexBound segment.toList

end AttributePath

namespace Value

/-- One step of a path. -/
def child (value : Value) (segment : String) : Value :=
  match value with
  | object fields => (Dictionary.get? fields segment).getD unknown
  | array items => ((AttributePath.index? segment).bind fun index => items[index]?).getD unknown
  | _ => unknown

/-- The value that the segments lead to. -/
def descend (value : Value) (segments : List String) : Value := segments.foldl child value

def lookup (value : Value) (path : AttributePath) : Value := value.descend path.segments

end Value

namespace Attributes

/-- The value of an attribute reached by a path: its first segment names the attribute. -/
def lookup (attributes : Attributes) (path : AttributePath) : Value :=
  match path.segments with
  | [] => .unknown
  | first :: rest =>
    match Dictionary.get? attributes first with
    | some value => value.descend rest
    | none => .unknown

def decode : Json.Decoder Attributes := Json.Decoder.dictionary Value.decode

end Attributes

/-- What a condition is evaluated against: a user's attributes, or a bare value. -/
inductive Subject
  | attributes (entries : Attributes)
  | value (value : Value)

/-- The value a path leads to, starting from the subject. -/
def Subject.lookup : Subject → AttributePath → Value
  | attributes entries, path => Attributes.lookup entries path
  | value v, path => v.lookup path

end FeatureFlags
