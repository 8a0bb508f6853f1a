import FeatureFlags.Condition
import FeatureFlags.Condition.Order

/-!
# Evaluating conditions

Evaluation never fails.  A path that leads nowhere has the value `unknown`, which equals nothing
and is in no list, and what was not understood when the condition was compiled never matches.

An empty list of alternatives matches everything, and hence its negation nothing.
-/

namespace FeatureFlags

/-! ## Operators on values -/

/-- Whether an ordering operator accepts the order of a value and its operand. -/
def OrderRelation.accepts : OrderRelation → Ordering → Bool
  | less, o => o = .lt
  | lessOrEqual, o => o = .lt || o = .eq
  | greater, o => o = .gt
  | greaterOrEqual, o => o = .gt || o = .eq

/-- Whether a padded version stands in a relation to another. -/
def VersionRelation.holds : VersionRelation → String → String → Bool
  | equal, a, b => a = b
  | different, a, b => a ≠ b
  | after, a, b => b < a
  | notBefore, a, b => ¬ a < b
  | before, a, b => a < b
  | notAfter, a, b => ¬ b < a

namespace Value

/-- Equality with an expected value, which an absent value never has. -/
def isPresentAnd (value : Value) (holds : Bool) : Bool := !value.isUnknown && holds

/-- Membership as lists and groups test it: an array belongs if one of its primitive items does,
and an absent value never does. -/
def belongs (value : Value) (contains : Value → Bool) : Bool :=
  match value with
  | unknown => false
  | array items => items.any fun item => item.isPrimitive && contains item
  | value => contains value

/-- Membership in a list of values. -/
def inList (values : List Value) (value : Value) : Bool :=
  value.belongs fun item => values.any (·.equals item)

/-- Membership in a saved group; a group that is not defined has no members. -/
def inGroup (groups : SavedGroups) (group : String) (value : Value) : Bool :=
  match Dictionary.get? groups group with
  | some members => value.belongs members.contains
  | none => false

/-- Whether the order of a value and an operand is accepted. -/
def ordered (relation : OrderRelation) (value expected : Value) : Bool :=
  match compare? value expected with
  | some order => relation.accepts order
  | none => false

/-- Whether a pattern is found in the text of a value. Only texts, numbers and booleans have
one. -/
def matchesPattern (compiled : Option Pattern) (value : Value) : Bool :=
  match compiled, value with
  | some pattern, string s => pattern.isMatch s
  | some pattern, number x => pattern.isMatch (hashText (number x))
  | some pattern, boolean b => pattern.isMatch (hashText (boolean b))
  | _, _ => false

/-- Whether a value, read as a version, stands in a relation to a padded version. -/
def hasVersion (relation : VersionRelation) (padded : String) (value : Value) : Bool :=
  match value with
  | string s => relation.holds (Version.paddedVersion s) padded
  | number x => relation.holds (Version.paddedVersion (numberText x)) padded
  | _ => false

end Value

/-! ## Conditions -/

mutual

/-- Whether a compiled condition matches a subject. -/
def Node.holds (groups : SavedGroups) : Node → Subject → Bool
  | .all nodes, subject => Node.allHold groups nodes subject
  | .any nodes, subject => nodes.isEmpty || Node.someHolds groups nodes subject
  | .none nodes, subject => !(nodes.isEmpty || Node.someHolds groups nodes subject)
  | .not node, subject => !Node.holds groups node subject
  | .field path test, subject => ValueTest.holds groups test (subject.lookup path)
  | .invalid, _ => false

def Node.allHold (groups : SavedGroups) : List Node → Subject → Bool
  | [], _ => true
  | node :: rest, subject => Node.holds groups node subject && Node.allHold groups rest subject

def Node.someHolds (groups : SavedGroups) : List Node → Subject → Bool
  | [], _ => false
  | node :: rest, subject => Node.holds groups node subject || Node.someHolds groups rest subject

/-- Whether a value passes a test. -/
def ValueTest.holds (groups : SavedGroups) : ValueTest → Value → Bool
  | .equals expected, value => value.isPresentAnd (value.equals expected)
  | .operators operators, value => Operator.allHold groups operators value

/-- Whether each test is passed by some item. -/
def ValueTest.eachHoldsSomewhere (groups : SavedGroups) : List ValueTest → List Value → Bool
  | [], _ => true
  | test :: rest, items =>
    items.any (ValueTest.holds groups test) && ValueTest.eachHoldsSomewhere groups rest items

def Operator.allHold (groups : SavedGroups) : List Operator → Value → Bool
  | [], _ => true
  | operator :: rest, value =>
    Operator.holds groups operator value && Operator.allHold groups rest value

/-- Whether a value satisfies an operator. -/
def Operator.holds (groups : SavedGroups) : Operator → Value → Bool
  | .equal expected, value => value.isPresentAnd (value.equals expected)
  | .notEqual expected, value => value.isPresentAnd (!value.equals expected)
  | .order relation expected, value => value.ordered relation expected
  | .isIn values, value => value.inList values
  | .notIn values, value => !value.inList values
  | .containsAll tests, value =>
    match value with
    | .array items => ValueTest.eachHoldsSomewhere groups tests items
    | _ => false
  | .someItem test, value =>
    match value with
    | .array items => items.any (ValueTest.holds groups test)
    | _ => false
  | .someItemMatches node, value =>
    match value with
    | .array items => items.any fun item => Node.holds groups node (.value item)
    | _ => false
  | .size test, value =>
    match value with
    | .array items =>
      ValueTest.holds groups test (.number (Number.nearestDouble (items.length : Int)))
    | _ => false
  | .exists expected, value => (!value.isNullish) == expected
  | .hasType name, value => value.typeName = name
  | .pattern _ compiled, value => value.matchesPattern compiled
  | .not test, value => !ValueTest.holds groups test value
  | .inGroup group, value => value.inGroup groups group
  | .notInGroup group, value => !value.inGroup groups group
  | .version relation padded, value => value.hasVersion relation padded
  | .unsupported _, _ => false
  | .malformed, _ => false

end

/-- Whether a condition matches a subject. -/
def Condition.holds (condition : Condition) (subject : Subject) (groups : SavedGroups) : Bool :=
  condition.root.holds groups subject

end FeatureFlags
