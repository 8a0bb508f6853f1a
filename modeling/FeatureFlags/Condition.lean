import FeatureFlags.Attribute
import FeatureFlags.Pattern
import FeatureFlags.Value.Group
import FeatureFlags.Version

/-!
# Targeting conditions

A condition is written as a JSON tree in the manner of document queries.  It is compiled once, when
it is decoded, into a `Node`; the tree is kept, so that a condition is written back as it was read
and two conditions are equal exactly if their trees are.

Nodes combine other nodes or test the value that a path leads to.  Whatever is not understood
becomes a node or an operator that never matches.
-/

namespace FeatureFlags

/-- How versions are compared. -/
inductive VersionRelation
  | equal
  | different
  | after
  | notBefore
  | before
  | notAfter
deriving DecidableEq, Repr

/-- How an ordering operator compares a value with its operand. -/
inductive OrderRelation
  | less
  | lessOrEqual
  | greater
  | greaterOrEqual
deriving DecidableEq, Repr

mutual

/-- A compiled condition. -/
inductive Node
  | all (nodes : List Node)
  | any (nodes : List Node)
  | none (nodes : List Node)
  | not (node : Node)
  | field (path : AttributePath) (test : ValueTest)
  /-- A condition that is not understood. -/
  | invalid

/-- A test of one value. -/
inductive ValueTest
  | equals (expected : Value)
  | operators (operators : List Operator)

/-- One operator of a test. -/
inductive Operator
  | equal (expected : Value)
  | notEqual (expected : Value)
  | order (relation : OrderRelation) (expected : Value)
  | isIn (values : List Value)
  | notIn (values : List Value)
  | containsAll (tests : List ValueTest)
  | someItem (test : ValueTest)
  | someItemMatches (node : Node)
  | size (test : ValueTest)
  | exists (expected : Bool)
  | hasType (name : String)
  /-- A search for a pattern; a text that is no pattern never matches. -/
  | pattern (text : String) (compiled : Option Pattern)
  | not (test : ValueTest)
  | inGroup (group : String)
  | notInGroup (group : String)
  | version (relation : VersionRelation) (padded : String)
  /-- An operator of an unknown name. -/
  | unsupported (name : String)
  /-- An operator whose operand has the wrong form. -/
  | malformed

end

/-! ## Compiling -/

namespace Condition

/-- Whether a tree is a non-empty object of operators. -/
def isOperatorObject : Json → Bool
  | .object members =>
    !members.isEmpty && members.all fun member => member.1.toList.head? = some '$'
  | _ => false

/-- An operator whose operand has to be a text. -/
def withText (operand : Json) (operator : String → Operator) : Operator :=
  match operand with
  | .string s => operator s
  | _ => .malformed

/-- An operator whose operand has to be a list of values. -/
def withValues (operand : Json) (operator : List Value → Operator) : Operator :=
  match operand with
  | .array items => operator (Value.ofItems items)
  | _ => .malformed

/-- An operator that compares versions. -/
def versionOperator (relation : VersionRelation) (operand : Json) : Operator :=
  withText operand fun s => .version relation (Version.paddedVersion s)

/-- The operators whose operand holds neither tests nor conditions. -/
def simpleOperator (name : String) (operand : Json) : Operator :=
  match name with
  | "$eq" => .equal (Value.ofJson operand)
  | "$ne" => .notEqual (Value.ofJson operand)
  | "$lt" => .order .less (Value.ofJson operand)
  | "$lte" => .order .lessOrEqual (Value.ofJson operand)
  | "$gt" => .order .greater (Value.ofJson operand)
  | "$gte" => .order .greaterOrEqual (Value.ofJson operand)
  | "$in" => withValues operand .isIn
  | "$nin" => withValues operand .notIn
  | "$exists" => .exists (Value.ofJson operand).isTruthy
  | "$type" => withText operand .hasType
  | "$regex" => withText operand fun s => .pattern s (Pattern.ofText? s)
  | "$inGroup" => withText operand .inGroup
  | "$notInGroup" => withText operand .notInGroup
  | "$veq" => versionOperator .equal operand
  | "$vne" => versionOperator .different operand
  | "$vgt" => versionOperator .after operand
  | "$vgte" => versionOperator .notBefore operand
  | "$vlt" => versionOperator .before operand
  | "$vlte" => versionOperator .notAfter operand
  | _ => .unsupported name

/-- The node that stands for the clauses of an object: a single clause stands for itself. -/
def conjunction : List Node → Node
  | [node] => node
  | nodes => .all nodes

mutual

/-- Compiles a condition. -/
def compile : Json → Node
  | .object members => conjunction (compileClauses members)
  | _ => .invalid

/-- Compiles the members of a condition, each on its own. -/
def compileClauses : List (String × Json) → List Node
  | [] => []
  | (name, operand) :: rest => compileClause name operand :: compileClauses rest

/-- Compiles one member of a condition. -/
def compileClause (name : String) (operand : Json) : Node :=
  match name, operand with
  | "$and", .array items => .all (compileList items)
  | "$and", _ => .invalid
  | "$or", .array items => .any (compileList items)
  | "$or", _ => .invalid
  | "$nor", .array items => .none (compileList items)
  | "$nor", _ => .invalid
  | "$not", operand => .not (compile operand)
  | path, operand => .field ⟨path⟩ (compileTest operand)

def compileList : List Json → List Node
  | [] => []
  | item :: rest => compile item :: compileList rest

/-- Compiles what a value is tested for: operators, or a value to be equal to. -/
def compileTest : Json → ValueTest
  | .object members =>
    if isOperatorObject (.object members) then .operators (compileOperators members)
    else .equals (Value.ofJson (.object members))
  | json => .equals (Value.ofJson json)

def compileOperators : List (String × Json) → List Operator
  | [] => []
  | (name, operand) :: rest => compileOperator name operand :: compileOperators rest

/-- Compiles one operator. -/
def compileOperator (name : String) (operand : Json) : Operator :=
  match name, operand with
  | "$all", .array items => .containsAll (compileTests items)
  | "$all", _ => .malformed
  | "$elemMatch", operand =>
    if isOperatorObject operand then .someItem (compileTest operand)
    else .someItemMatches (compile operand)
  | "$size", operand => .size (compileTest operand)
  | "$not", operand => .not (compileTest operand)
  | name, operand => simpleOperator name operand

def compileTests : List Json → List ValueTest
  | [] => []
  | item :: rest => compileTest item :: compileTests rest

end

end Condition

/-- A condition: the tree it was read from, and what the tree compiles to. -/
structure Condition where
  source : Json
  root : Node

namespace Condition

def ofJson (source : Json) : Condition := ⟨source, compile source⟩

def toJson (condition : Condition) : Json := condition.source

/-- Equality of the trees that two conditions were read from. -/
def same (a b : Condition) : Bool := a.source.same b.source

/-- Any JSON is a condition. -/
def decode : Json.Decoder Condition := fun draft => draft.toJson?.map ofJson

end Condition

end FeatureFlags
