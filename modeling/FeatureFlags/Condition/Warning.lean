import FeatureFlags.Condition

/-!
# What a condition does not understand

An operator of an unknown name and a text that is no pattern are worth a warning each time they
occur.  The warnings are read off the compiled condition, in the order of its parts.
-/

namespace FeatureFlags

inductive Condition.Warning
  | unsupportedOperator (name : String)
  | invalidPattern (text : String)
deriving DecidableEq, Repr

namespace Condition.Warning

def message : Warning → String
  | unsupportedOperator _ => "unsupported condition operator"
  | invalidPattern _ => "invalid regex in condition"

/-- The part of the condition a warning is about. -/
def subject : Warning → String
  | unsupportedOperator name => name
  | invalidPattern text => text

end Condition.Warning

open Condition (Warning)

mutual

/-- The warnings about a compiled condition. -/
def Node.warnings : Node → List Warning
  | .all nodes => Node.listWarnings nodes
  | .any nodes => Node.listWarnings nodes
  | .none nodes => Node.listWarnings nodes
  | .not node => Node.warnings node
  | .field _ test => ValueTest.warnings test
  | .invalid => []

def Node.listWarnings : List Node → List Warning
  | [] => []
  | node :: rest => Node.warnings node ++ Node.listWarnings rest

def ValueTest.warnings : ValueTest → List Warning
  | .equals _ => []
  | .operators operators => Operator.listWarnings operators

def ValueTest.listWarnings : List ValueTest → List Warning
  | [] => []
  | test :: rest => ValueTest.warnings test ++ ValueTest.listWarnings rest

def Operator.listWarnings : List Operator → List Warning
  | [] => []
  | operator :: rest => Operator.warnings operator ++ Operator.listWarnings rest

def Operator.warnings : Operator → List Warning
  | .containsAll tests => ValueTest.listWarnings tests
  | .someItem test => ValueTest.warnings test
  | .someItemMatches node => Node.warnings node
  | .size test => ValueTest.warnings test
  | .not test => ValueTest.warnings test
  | .pattern text none => [.invalidPattern text]
  | .unsupported name => [.unsupportedOperator name]
  | _ => []

end

/-- The warnings about a condition. -/
def Condition.warnings (condition : Condition) : List Warning := condition.root.warnings

end FeatureFlags
