import FeatureFlags.Json.Record
import FeatureFlags.Json.Writer

/-!
# Dynamic values

User attributes, feature values and the operands of conditions.  A value is a JSON tree whose
numbers are doubles; `unknown` marks the absence of a value and is never read from JSON.

Values are compared tolerantly.  Two integral numbers are equal if they are the same integer; two
numbers with a fraction, or too large to be a 64-bit integer, are equal if they differ by at most
a small part of the larger one; an integral number never equals one that is not.
-/

namespace FeatureFlags

inductive Value
  | null
  | boolean (value : Bool)
  | string (value : String)
  | number (value : Number)
  | array (items : List Value)
  | object (fields : List (String × Value))
  /-- No value at all, such as that of a missing attribute. -/
  | unknown
deriving Inhabited

namespace Value

/-! ## Integral numbers -/

/-- Integral numbers stay below this magnitude. -/
def integralBound : Int := (Nat.pow 2 63 : Nat)

/-- The integer a number is compared and written as: it has no fraction and fits into 64 bits. -/
def integral? (x : Number) : Option Int :=
  x.toInt?.filter fun n => n.natAbs < integralBound

/-! ## Equality -/

/-- Numbers this close, relative to the larger of them, are equal. -/
def tolerance : Number := Number.nearestDouble (1 / 1000000000)

/-- Whether two numbers differ by at most `tolerance` times the larger magnitude. -/
def withinTolerance (x y : Number) : Bool :=
  let scale := Number.max x.abs y.abs
  let difference := (Number.Arithmetic.binary64.sub x y).abs
  Number.le difference (Number.Arithmetic.binary64.mul tolerance scale)

/-- Equality of numbers. -/
def numbersEqual (x y : Number) : Bool :=
  match integral? x, integral? y with
  | some m, some n => m = n
  | none, none => Number.equals x y || withinTolerance x y
  | _, _ => false

mutual

/-- Tolerant equality of values. -/
def equals : Value → Value → Bool
  | null, null => true
  | unknown, unknown => true
  | boolean a, boolean b => a = b
  | string a, string b => a = b
  | number x, number y => numbersEqual x y
  | array as, array bs => equalItems as bs
  | object as, object bs => equalFields as bs
  | _, _ => false

def equalItems : List Value → List Value → Bool
  | [], [] => true
  | a :: as, b :: bs => equals a b && equalItems as bs
  | _, _ => false

def equalFields : List (String × Value) → List (String × Value) → Bool
  | [], [] => true
  | (k, a) :: as, (l, b) :: bs => k = l && equals a b && equalFields as bs
  | _, _ => false

end

instance : BEq Value := ⟨equals⟩

/-! ## Kinds of values -/

def isNullish : Value → Bool
  | null => true
  | unknown => true
  | _ => false

def isUnknown : Value → Bool
  | unknown => true
  | _ => false

/-- Strings, numbers, booleans and null. -/
def isPrimitive : Value → Bool
  | null => true
  | boolean _ => true
  | string _ => true
  | number _ => true
  | _ => false

def asString? : Value → Option String
  | string s => some s
  | _ => none

def asNumber? : Value → Option Number
  | number x => some x
  | _ => none

def asBoolean? : Value → Option Bool
  | boolean b => some b
  | _ => none

def asArray? : Value → Option (List Value)
  | array items => some items
  | _ => none

def asObject? : Value → Option (Dictionary Value)
  | object fields => some fields
  | _ => none

/-- Whether a feature with this value counts as switched on. -/
def isTruthy : Value → Bool
  | null => false
  | unknown => false
  | boolean b => b
  | number x => !x.isZero && !x.isNan
  | string s => s ≠ ""
  | array items => !items.isEmpty
  | object fields => !fields.isEmpty

/-- The name of a value's kind, as conditions test it. -/
def typeName : Value → String
  | null => "null"
  | boolean _ => "boolean"
  | string _ => "string"
  | number _ => "number"
  | array _ => "array"
  | object _ => "object"
  | unknown => "undefined"

/-! ## Text and JSON -/

/-- The text of a number: an integral one without a fraction, any other with all its digits and
no exponent. -/
def numberText (x : Number) : String :=
  match integral? x with
  | some n => String.ofList (Text.Digits.writeInt n)
  | none => String.ofList (Number.Format.plain.write x)

/-- The text by which a user with this attribute is hashed. Values that identify nobody have the
empty text. -/
def hashText : Value → String
  | string s => s
  | number x => numberText x
  | boolean true => "true"
  | boolean false => "false"
  | _ => ""

mutual

/-- The value of a JSON tree. An integer becomes the nearest double. -/
def ofJson : Json → Value
  | .null => null
  | .bool b => boolean b
  | .integer n => number (Number.nearestDouble n)
  | .float x => number x
  | .string s => string s
  | .array items => array (ofItems items)
  | .object members => object (ofMembers members)

def ofItems : List Json → List Value
  | [] => []
  | item :: rest => ofJson item :: ofItems rest

def ofMembers : List (String × Json) → List (String × Value)
  | [] => []
  | (name, member) :: rest => (name, ofJson member) :: ofMembers rest

end

/-- The JSON form of a number: an integer where it is integral. -/
def numberJson (x : Number) : Json :=
  match integral? x with
  | some n => .integer n
  | none => Json.ofNumber x

mutual

/-- The JSON tree of a value; an absent value is `null`. -/
def toJson : Value → Json
  | null => .null
  | unknown => .null
  | boolean b => .bool b
  | string s => .string s
  | number x => numberJson x
  | array items => .array (itemsToJson items)
  | object fields => .object (fieldsToJson fields)

def itemsToJson : List Value → List Json
  | [] => []
  | item :: rest => toJson item :: itemsToJson rest

def fieldsToJson : List (String × Value) → List (String × Json)
  | [] => []
  | (name, value) :: rest => (name, toJson value) :: fieldsToJson rest

end

/-- The compact JSON text of a value, or `undefined`. -/
def display : Value → String
  | unknown => "undefined"
  | value => value.toJson.text

/-- Reads any JSON as a value. -/
def decode : Json.Decoder Value := fun draft => draft.toJson?.map ofJson

end Value

end FeatureFlags
