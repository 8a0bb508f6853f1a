import FeatureFlags.Condition.Evaluation

/-!
# Lists of conditions

Conditions are compiled and evaluated by recursion on trees whose branches are
lists.  Each recursion along a list is a map followed by a conjunction or a
disjunction, and the shortcut for a single clause changes nothing
(`conjunction_holds`).  A clause whose name does not combine conditions tests what a
path leads to (`compileClause_of_isPath`).  An operator that takes no tests is compiled
without recursion (`compileOperator_of_isSimple`).
-/

namespace FeatureFlags

/-! ## Compiling -/

namespace Condition

theorem compileClauses_eq_map (members : List (String × Json)) :
    compileClauses members = members.map fun member => compileClause member.1 member.2 := by
  induction members with
  | nil => rw [compileClauses, List.map_nil]
  | cons member rest ih =>
      obtain ⟨name, operand⟩ := member
      rw [compileClauses, ih, List.map_cons]

theorem compileList_eq_map (items : List Json) : compileList items = items.map compile := by
  induction items with
  | nil => rw [compileList, List.map_nil]
  | cons item rest ih => rw [compileList, ih, List.map_cons]

theorem compileOperators_eq_map (members : List (String × Json)) :
    compileOperators members = members.map fun member => compileOperator member.1 member.2 := by
  induction members with
  | nil => rw [compileOperators, List.map_nil]
  | cons member rest ih =>
      obtain ⟨name, operand⟩ := member
      rw [compileOperators, ih, List.map_cons]

theorem compileTests_eq_map (items : List Json) : compileTests items = items.map compileTest := by
  induction items with
  | nil => rw [compileTests, List.map_nil]
  | cons item rest ih => rw [compileTests, ih, List.map_cons]

/-- Whether the name of a clause is a path, and no way of combining conditions. -/
def isPath (name : String) : Bool := name ∉ ["$and", "$or", "$nor", "$not"]

/-- The condition with a single clause. -/
def ofClause (name : String) (operand : Json) : Condition := ofJson (.object [(name, operand)])

theorem root_ofClause (name : String) (operand : Json) :
    (ofClause name operand).root = compileClause name operand := by
  rw [ofClause, ofJson, compile, compileClauses, compileClauses, conjunction]

theorem compileClause_of_isPath {path : String} (hpath : isPath path = true) (test : Json) :
    compileClause path test = .field ⟨path⟩ (compileTest test) := by
  simp only [isPath, List.mem_cons, List.not_mem_nil, or_false, not_or, decide_eq_true_eq] at hpath
  rw [compileClause] <;> simp only [hpath, false_implies, implies_true]

/-- Whether the operand of an operator holds neither tests nor conditions. -/
def isSimple (name : String) : Bool := name ∉ ["$all", "$elemMatch", "$size", "$not"]

theorem compileOperator_of_isSimple {name : String} (hsimple : isSimple name = true)
    (operand : Json) : compileOperator name operand = simpleOperator name operand := by
  simp only [isSimple, List.mem_cons, List.not_mem_nil, or_false, not_or, decide_eq_true_eq]
    at hsimple
  rw [compileOperator] <;> simp only [hsimple, false_implies, implies_true]

/-- A clause with a text compares it with what a path leads to. -/
theorem ofClause_string (path : String) (hpath : isPath path = true) (text : String) :
    ofClause path (.string text) =
      ⟨.object [(path, .string text)], .field ⟨path⟩ (.equals (.string text))⟩ := by
  rw [ofClause, ofJson, compile, compileClauses, compileClauses, compileClause_of_isPath hpath,
    compileTest]
  · rfl
  · intro _ hobject
    cases hobject

end Condition

/-! ## Evaluating -/

section Lists

variable (groups : SavedGroups)

theorem Node.allHold_eq (nodes : List Node) (subject : Subject) :
    Node.allHold groups nodes subject = (nodes.map (Node.holds groups · subject)).and := by
  induction nodes with
  | nil => rw [Node.allHold]; rfl
  | cons node rest ih => rw [Node.allHold, ih]; rfl

theorem Node.someHolds_eq (nodes : List Node) (subject : Subject) :
    Node.someHolds groups nodes subject = (nodes.map (Node.holds groups · subject)).or := by
  induction nodes with
  | nil => rw [Node.someHolds]; rfl
  | cons node rest ih => rw [Node.someHolds, ih]; rfl

theorem Operator.allHold_eq (operators : List Operator) (value : Value) :
    Operator.allHold groups operators value =
      (operators.map (Operator.holds groups · value)).and := by
  induction operators with
  | nil => rw [Operator.allHold]; rfl
  | cons operator rest ih => rw [Operator.allHold, ih]; rfl

theorem ValueTest.eachHoldsSomewhere_eq (tests : List ValueTest) (items : List Value) :
    ValueTest.eachHoldsSomewhere groups tests items =
      (tests.map fun test => items.any (ValueTest.holds groups test)).and := by
  induction tests with
  | nil => rw [ValueTest.eachHoldsSomewhere]; rfl
  | cons test rest ih => rw [ValueTest.eachHoldsSomewhere, ih]; rfl

/-- A single clause may stand for itself. -/
theorem Condition.conjunction_holds (nodes : List Node) (subject : Subject) :
    (Condition.conjunction nodes).holds groups subject =
      (nodes.map (Node.holds groups · subject)).and := by
  unfold Condition.conjunction
  split
  · simp [List.and]
  · rw [Node.holds, Node.allHold_eq]

end Lists

end FeatureFlags
