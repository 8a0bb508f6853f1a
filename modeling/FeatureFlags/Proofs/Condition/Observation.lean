import FeatureFlags.Proofs.Condition.Clauses
import FeatureFlags.Proofs.Condition.Watched

/-!
# Evaluations observed in turn

Each way of combining conditions, and each operator that holds tests or conditions, evaluates its
parts one way or another, and apart from fields tells nothing of its own.  By induction on nodes,
tests and operators together, all of them are passive (`Node.passive`), and what they answer is
whether they hold (`Node.answer_watched`).

The calls of a combination are those of its parts in turn, up to and including the one that decides
(`Condition.ObservedInTurn`).  Tests tell of fields only where they look into the items of an array
(`ValueTest.calls_of_asArray?`).
-/

namespace FeatureFlags

open Condition (Observer Watched)

variable (groups : SavedGroups)

/-! ## Parts of conditions -/

def Node.watched (node : Node) (source : AttributeSource) : Watched :=
  fun _ observer => node.observe observer groups source

def ValueTest.watched (test : ValueTest) (value : Value) : Watched :=
  fun _ observer => test.observe observer groups value

def Operator.watched (operator : Operator) (value : Value) : Watched :=
  fun _ observer => operator.observe observer groups value

section Lists

variable {σ : Type} (observer : Observer σ)

theorem Node.observeAll_eq_allM (nodes : List Node) (source : AttributeSource) :
    Node.observeAll observer groups nodes source =
      nodes.allM fun node => node.observe observer groups source := by
  induction nodes with
  | nil => rw [observeAll]; rfl
  | cons node rest ih =>
      rw [observeAll, ih, allM_cons]

theorem Node.observeSome_eq_anyM (nodes : List Node) (source : AttributeSource) :
    Node.observeSome observer groups nodes source =
      nodes.anyM fun node => node.observe observer groups source := by
  induction nodes with
  | nil => rw [observeSome]; rfl
  | cons node rest ih =>
      rw [observeSome, ih, anyM_cons]

theorem Operator.observeAll_eq_allM (operators : List Operator) (value : Value) :
    Operator.observeAll observer groups operators value =
      operators.allM fun operator => operator.observe observer groups value := by
  induction operators with
  | nil => rw [observeAll]; rfl
  | cons operator rest ih =>
      rw [observeAll, ih, allM_cons]

theorem ValueTest.observeEachSomewhere_eq_allM (tests : List ValueTest) (items : List Value) :
    ValueTest.observeEachSomewhere observer groups tests items =
      tests.allM fun test => items.anyM fun item => test.observe observer groups item := by
  induction tests with
  | nil => rw [observeEachSomewhere]; rfl
  | cons test rest ih =>
      rw [observeEachSomewhere, ih, allM_cons]

end Lists

section Parts

open Condition.Watched

variable {groups}

theorem Node.watched_all (nodes : List Node) (source : AttributeSource) :
    (Node.all nodes).watched groups source = allOf nodes (·.watched groups source) := by
  funext σ observer
  rw [watched, observe, observeAll_eq_allM]
  rfl

theorem Node.watched_any (nodes : List Node) (source : AttributeSource) :
    (Node.any nodes).watched groups source = anyOrEmpty nodes (·.watched groups source) := by
  funext σ observer
  rw [watched, observe, observeSome_eq_anyM, anyOrEmpty]
  cases nodes.isEmpty <;> rfl

theorem Node.watched_none (nodes : List Node) (source : AttributeSource) :
    (Node.none nodes).watched groups source =
      (anyOrEmpty nodes (·.watched groups source)).negated := by
  rw [← watched_any]
  funext σ observer
  rw [watched, negated, watched, observe, observe]

theorem Node.watched_not (node : Node) (source : AttributeSource) :
    (Node.not node).watched groups source = (node.watched groups source).negated := rfl

theorem Node.watched_field (path : AttributePath) (test : ValueTest) (source : AttributeSource) :
    (Node.field path test).watched groups source =
      (test.watched groups (source path)).told path := rfl

theorem ValueTest.watched_operators (operators : List Operator) (value : Value) :
    (ValueTest.operators operators).watched groups value =
      allOf operators (·.watched groups value) := by
  funext σ observer
  rw [watched, observe, Operator.observeAll_eq_allM]
  rfl

/-- The operators that look into arrays do so item by item. -/
def onItems (value : Value) (run : List Value → Watched) : Watched :=
  match value with
  | .array items => run items
  | _ => silent false

theorem Operator.watched_containsAll (tests : List ValueTest) (value : Value) :
    (Operator.containsAll tests).watched groups value =
      onItems value fun items => allOf tests fun test => anyOf items (test.watched groups) := by
  funext σ observer
  cases value with
  | array items =>
      rw [watched, observe, ValueTest.observeEachSomewhere_eq_allM]
      rfl
  | _ => rfl

theorem Operator.watched_someItem (test : ValueTest) (value : Value) :
    (Operator.someItem test).watched groups value =
      onItems value fun items => anyOf items (test.watched groups) := by
  funext σ observer
  cases value <;> rfl

theorem Operator.watched_someItemMatches (node : Node) (value : Value) :
    (Operator.someItemMatches node).watched groups value =
      onItems value fun items => anyOf items fun item => node.watched groups item.lookup := by
  funext σ observer
  cases value <;> rfl

theorem Operator.watched_size (test : ValueTest) (value : Value) :
    (Operator.size test).watched groups value =
      onItems value fun items =>
        test.watched groups (.number (Number.nearestDouble (items.length : Int))) := by
  funext σ observer
  cases value <;> rfl

theorem Operator.watched_not (test : ValueTest) (value : Value) :
    (Operator.not test).watched groups value = (test.watched groups value).negated := rfl

theorem passive_onItems {value : Value} {run : List Value → Watched}
    (h : ∀ items, (run items).Passive) : (onItems value run).Passive := by
  cases value with
  | array items => exact h items
  | _ => exact (reports_silent false).passive

end Parts

/-! ## Passive observation -/

section Passive

open Condition.Watched

mutual

theorem Node.passive : ∀ (node : Node) (source : AttributeSource),
    (node.watched groups source).Passive
  | .all nodes, source => by
      rw [Node.watched_all]
      exact (reports_allOf fun node _ => node.passive source).passive
  | .any nodes, source => by
      rw [Node.watched_any]
      exact (reports_anyOrEmpty fun node _ => node.passive source).passive
  | .none nodes, source => by
      rw [Node.watched_none]
      exact (reports_anyOrEmpty fun node _ => node.passive source).negated.passive
  | .not node, source => (node.passive source).negated.passive
  | .field path test, source => ((test.passive (source path)).told path).passive
  | .invalid, _ => (reports_silent false).passive

theorem ValueTest.passive : ∀ (test : ValueTest) (value : Value),
    (test.watched groups value).Passive
  | .equals _, _ => (reports_silent _).passive
  | .operators operators, value => by
      rw [ValueTest.watched_operators]
      exact (reports_allOf fun operator _ => operator.passive value).passive

theorem Operator.passive (operator : Operator) (value : Value) :
    (operator.watched groups value).Passive := by
  cases operator with
  | containsAll tests =>
      rw [Operator.watched_containsAll]
      exact passive_onItems fun items => (reports_allOf fun test _ =>
        (reports_anyOf fun item _ => test.passive item).passive).passive
  | someItem test =>
      rw [Operator.watched_someItem]
      exact passive_onItems fun items => (reports_anyOf fun item _ => test.passive item).passive
  | someItemMatches node =>
      rw [Operator.watched_someItemMatches]
      exact passive_onItems fun items =>
        (reports_anyOf fun item _ => node.passive item.lookup).passive
  | size test =>
      rw [Operator.watched_size]
      exact passive_onItems fun items => test.passive _
  | not test => exact ((test.passive value).negated).passive
  | _ => exact (reports_silent _).passive

end

end Passive

/-! ## Answers -/

section Answers

open Condition.Watched

variable {groups}

theorem all_eq_and_map {α : Type} {items : List α} {f g : α → Bool}
    (h : ∀ item ∈ items, f item = g item) : items.all f = (items.map g).and := by
  rw [← List.map_congr_left h, List.and, List.all_map]
  rfl

theorem any_eq_or_map {α : Type} {items : List α} {f g : α → Bool}
    (h : ∀ item ∈ items, f item = g item) : items.any f = (items.map g).or := by
  rw [← List.map_congr_left h, List.or, List.any_map]
  rfl

variable (groups)

mutual

theorem Node.answer_watched : ∀ (node : Node) (subject : Subject),
    (node.watched groups subject.lookup).answer = node.holds groups subject
  | .all nodes, subject => by
      rw [Node.watched_all, (reports_allOf fun node _ => node.passive groups _).answer_eq,
        Node.holds, Node.allHold_eq, all_eq_and_map fun node _ => node.answer_watched subject]
  | .any nodes, subject => by
      rw [Node.watched_any, (reports_anyOrEmpty fun node _ => node.passive groups _).answer_eq,
        Node.holds, Node.someHolds_eq, any_eq_or_map fun node _ => node.answer_watched subject]
  | .none nodes, subject => by
      rw [Node.watched_none,
        (reports_anyOrEmpty fun node _ => node.passive groups _).negated.answer_eq, Node.holds,
        Node.someHolds_eq, any_eq_or_map fun node _ => node.answer_watched subject]
  | .not node, subject => by
      rw [Node.watched_not, (node.passive groups _).negated.answer_eq, Node.holds,
        node.answer_watched subject]
  | .field path test, subject => by
      rw [Node.watched_field, ((test.passive groups _).told path).answer_eq, Node.holds,
        test.answer_watched]
  | .invalid, _ => by rw [Node.holds]; rfl

theorem ValueTest.answer_watched : ∀ (test : ValueTest) (value : Value),
    (test.watched groups value).answer = test.holds groups value
  | .equals _, _ => by rw [ValueTest.holds]; rfl
  | .operators operators, value => by
      rw [ValueTest.watched_operators,
        (reports_allOf fun operator _ => operator.passive groups value).answer_eq,
        ValueTest.holds, Operator.allHold_eq,
        all_eq_and_map fun operator _ => operator.answer_watched value]

theorem Operator.answer_watched (operator : Operator) (value : Value) :
    (operator.watched groups value).answer = operator.holds groups value := by
  cases operator with
  | containsAll tests =>
      rw [Operator.watched_containsAll]
      cases value with
      | array items =>
          -- every test is asked about the items until one of them meets it
          have htests := fun test (_ : test ∈ tests) =>
            (reports_anyOf fun item (_ : item ∈ items) => test.passive groups item)
          show (allOf tests fun test => anyOf items (test.watched groups)).answer = _
          rw [(reports_allOf fun test htest => (htests test htest).passive).answer_eq,
            Operator.holds, ValueTest.eachHoldsSomewhere_eq]
          refine all_eq_and_map fun test htest => ?_
          rw [(htests test htest).answer_eq]
          exact List.any_congr rfl test.answer_watched
      | _ => rfl
  | someItem test =>
      rw [Operator.watched_someItem]
      cases value with
      | array items =>
          show (anyOf items (test.watched groups)).answer = _
          rw [(reports_anyOf fun item _ => test.passive groups item).answer_eq, Operator.holds]
          exact List.any_congr rfl test.answer_watched
      | _ => rfl
  | someItemMatches node =>
      rw [Operator.watched_someItemMatches]
      cases value with
      | array items =>
          show (anyOf items fun item => node.watched groups item.lookup).answer = _
          rw [(reports_anyOf fun item _ => node.passive groups _).answer_eq, Operator.holds]
          exact List.any_congr rfl fun item => node.answer_watched (.value item)
      | _ => rfl
  | size test =>
      rw [Operator.watched_size]
      cases value with
      | array items => exact test.answer_watched _
      | _ => rfl
  | not test =>
      rw [Operator.watched_not, (test.passive groups value).negated.answer_eq, Operator.holds,
        test.answer_watched]
  | _ => rfl

end

end Answers

/-! ## Calls -/

section Calls

open Condition.Watched

/-- What is told while a value is tested. -/
def ValueTest.calls (test : ValueTest) (value : Value) : List FieldCall :=
  (test.watched groups value).calls

def Operator.calls (operator : Operator) (value : Value) : List FieldCall :=
  (operator.watched groups value).calls

mutual

/-- Fields stand in items, so that nothing is told of a value that has none. -/
theorem ValueTest.calls_of_asArray? {value : Value} (hvalue : value.asArray? = none) :
    ∀ test : ValueTest, test.calls groups value = []
  | .equals _ => rfl
  | .operators operators => by
      rw [ValueTest.calls, ValueTest.watched_operators,
        (reports_allOf fun operator _ => operator.passive groups value).calls_eq,
        List.flatMap_eq_nil_iff]
      intro operator hoperator
      have hmem : operator ∈ operators := List.mem_of_mem_take hoperator
      exact operator.calls_of_asArray? hvalue

theorem Operator.calls_of_asArray? {value : Value} (hvalue : value.asArray? = none)
    (operator : Operator) : operator.calls groups value = [] := by
  have hitems (run : List Value → Watched) : (onItems value run).calls = [] := by
    cases value <;> first | rfl | cases hvalue
  cases operator with
  | containsAll tests => rw [Operator.calls, Operator.watched_containsAll, hitems]
  | someItem test => rw [Operator.calls, Operator.watched_someItem, hitems]
  | someItemMatches node => rw [Operator.calls, Operator.watched_someItemMatches, hitems]
  | size test => rw [Operator.calls, Operator.watched_size, hitems]
  | not test =>
      rw [Operator.calls, Operator.watched_not, (test.passive groups value).negated.calls_eq]
      exact test.calls_of_asArray? hvalue
  | _ => rfl

end

namespace Condition

/-- What is told while a condition is evaluated. -/
def calls (condition : Condition) (source : AttributeSource) (groups : SavedGroups) :
    List FieldCall :=
  (condition.root.watched groups source).calls

variable {groups} {source : AttributeSource}

theorem run_observe (condition : Condition) {σ : Type} (observer : Observer σ) (state : σ) :
    (condition.observe observer source groups).run state =
      (condition.evaluate source groups, observer.follow (condition.calls source groups) state) :=
  condition.root.passive groups source σ observer state

theorem evaluate_lookup (condition : Condition) (subject : Subject) :
    condition.evaluate subject.lookup groups = condition.holds subject groups :=
  condition.root.answer_watched groups subject

theorem calls_conjunction (nodes : List Node) :
    ((conjunction nodes).watched groups source).calls =
      (upTo (fun node => !(node.watched groups source).answer) nodes).flatMap
        fun node => (node.watched groups source).calls := by
  unfold conjunction
  split
  · rename_i node
    rw [upTo_cons, upTo_nil, ite_self, List.flatMap_singleton]
  · rw [Node.watched_all]
    exact (reports_allOf fun node _ => node.passive groups source).calls_eq

theorem calls_object (members : List (String × Json)) :
    (ofJson (.object members)).calls source groups =
      (upTo (fun member => !(ofClause member.1 member.2).evaluate source groups) members).flatMap
        fun member => (ofClause member.1 member.2).calls source groups := by
  show ((compile (.object members)).watched groups source).calls = _
  rw [compile, calls_conjunction, compileClauses_eq_map, upTo_map, List.flatMap_map]
  simp only [calls, evaluate, observe, root_ofClause]
  rfl

theorem calls_and (items : List Json) :
    (ofClause "$and" (.array items)).calls source groups =
      (upTo (fun item => !(ofJson item).evaluate source groups) items).flatMap
        fun item => (ofJson item).calls source groups := by
  rw [calls, root_ofClause, compileClause, Node.watched_all, compileList_eq_map,
    (reports_allOf fun node _ => node.passive groups source).calls_eq, upTo_map, List.flatMap_map]
  rfl

theorem calls_or (items : List Json) :
    (ofClause "$or" (.array items)).calls source groups =
      (upTo (fun item => (ofJson item).evaluate source groups) items).flatMap
        fun item => (ofJson item).calls source groups := by
  rw [calls, root_ofClause, compileClause, Node.watched_any, compileList_eq_map,
    (reports_anyOrEmpty fun node _ => node.passive groups source).calls_eq, upTo_map,
    List.flatMap_map]
  rfl

theorem calls_nor (items : List Json) :
    (ofClause "$nor" (.array items)).calls source groups =
      (ofClause "$or" (.array items)).calls source groups := by
  rw [calls, calls, root_ofClause, root_ofClause, compileClause, compileClause, Node.watched_none,
    ← Node.watched_any, (Node.passive groups _ source).negated.calls_eq]

theorem calls_not (operand : Json) :
    (ofClause "$not" operand).calls source groups = (ofJson operand).calls source groups := by
  rw [calls, root_ofClause, compileClause, Node.watched_not,
    ((compile operand).passive groups source).negated.calls_eq]
  rfl

theorem calls_of_isPath {path : String} (hpath : isPath path = true) (test : Json) :
    (ofClause path test).calls source groups =
      (compileTest test).calls groups (source ⟨path⟩) ++
        [⟨⟨path⟩, (ofClause path test).evaluate source groups⟩] := by
  have htold := ((compileTest test).passive groups (source ⟨path⟩)).told ⟨path⟩
  have hroot : (ofClause path test).root = .field ⟨path⟩ (compileTest test) :=
    (root_ofClause path test).trans (compileClause_of_isPath hpath test)
  have hevaluate : (ofClause path test).evaluate source groups =
      ((compileTest test).watched groups (source ⟨path⟩)).answer := by
    rw [evaluate, observe, hroot]
    exact htold.answer_eq
  rw [calls, hroot, Node.watched_field, htold.calls_eq, hevaluate]
  rfl

theorem calls_operators (members : List (String × Json))
    (hoperators : isOperatorObject (.object members) = true) (value : Value) :
    (compileTest (.object members)).calls groups value =
      (upTo (fun member => !(compileOperator member.1 member.2).holds groups value) members).flatMap
        fun member => (compileOperator member.1 member.2).calls groups value := by
  rw [compileTest, if_pos hoperators, ValueTest.calls, ValueTest.watched_operators,
    compileOperators_eq_map,
    (reports_allOf fun operator _ => operator.passive groups value).calls_eq, upTo_map,
    List.flatMap_map]
  simp only [Operator.answer_watched]
  rfl

/-- Items are tested up to the first that passes. -/
theorem reports_items (test : ValueTest) (items : List Value) :
    (anyOf items (test.watched groups)).Reports (items.any (test.holds groups))
      ((upTo (test.holds groups) items).flatMap (test.calls groups)) := by
  have hreports := reports_anyOf fun item (_ : item ∈ items) => test.passive groups item
  simp only [ValueTest.answer_watched] at hreports
  exact hreports

theorem calls_elemMatch_test {operand : Json} (hoperators : isOperatorObject operand = true)
    (items : List Value) :
    (compileOperator "$elemMatch" operand).calls groups (.array items) =
      (upTo ((compileTest operand).holds groups) items).flatMap
        ((compileTest operand).calls groups) := by
  rw [compileOperator, if_pos hoperators, Operator.calls, Operator.watched_someItem]
  exact (reports_items (compileTest operand) items).calls_eq

theorem calls_elemMatch_condition {operand : Json} (hcondition : isOperatorObject operand = false)
    (items : List Value) :
    (compileOperator "$elemMatch" operand).calls groups (.array items) =
      (upTo (fun item => (ofJson operand).evaluate item.lookup groups) items).flatMap
        fun item => (ofJson operand).calls item.lookup groups := by
  rw [compileOperator, if_neg (Bool.eq_false_iff.mp hcondition), Operator.calls,
    Operator.watched_someItemMatches]
  show (anyOf items fun item => (compile operand).watched groups item.lookup).calls = _
  rw [(reports_anyOf fun item _ => (compile operand).passive groups item.lookup).calls_eq]
  rfl

theorem calls_containsAll (tests : List Json) (items : List Value) :
    (compileOperator "$all" (.array tests)).calls groups (.array items) =
      (upTo (fun test => !items.any ((compileTest test).holds groups)) tests).flatMap fun test =>
        (upTo ((compileTest test).holds groups) items).flatMap
          ((compileTest test).calls groups) := by
  rw [compileOperator, Operator.calls, Operator.watched_containsAll, compileTests_eq_map]
  show (allOf (tests.map compileTest) fun test => anyOf items (test.watched groups)).calls = _
  rw [(reports_allOf fun test _ => (reports_items test items).passive).calls_eq, upTo_map,
    List.flatMap_map]
  simp only [(reports_items _ items).answer_eq, (reports_items _ items).calls_eq]
  rfl

theorem calls_operator_not (operand : Json) (value : Value) :
    (compileOperator "$not" operand).calls groups value =
      (compileTest operand).calls groups value := by
  rw [compileOperator, Operator.calls, Operator.watched_not,
    ((compileTest operand).passive groups value).negated.calls_eq]
  rfl

/-- The number of items has no items. -/
theorem calls_size (operand : Json) (value : Value) :
    (compileOperator "$size" operand).calls groups value = [] := by
  rw [compileOperator]
  cases value with
  | array items => exact (compileTest operand).calls_of_asArray? groups rfl
  | _ => exact Operator.calls_of_asArray? groups rfl _

theorem calls_of_isSimple {name : String} (hsimple : isSimple name = true) (operand : Json)
    (value : Value) : (compileOperator name operand).calls groups value = [] := by
  rw [compileOperator_of_isSimple hsimple]
  unfold simpleOperator versionOperator withText withValues
  repeat' split
  all_goals rfl

/-- Evaluations go through their parts in turn, and observers look on.  What decides is the last to
be evaluated. -/
structure ObservedInTurn (groups : SavedGroups) : Prop where
  /-- Whoever observes is told the same calls, and changes nothing about the answer. -/
  passive : ∀ (condition : Condition) (source : AttributeSource) (σ : Type)
    (observer : Observer σ) (state : σ),
    (condition.observe observer source groups).run state =
      (condition.evaluate source groups, observer.follow (condition.calls source groups) state)
  holds : ∀ (condition : Condition) (subject : Subject),
    condition.evaluate subject.lookup groups = condition.holds subject groups
  /-- The members of an object are evaluated up to the first that fails. -/
  object : ∀ (members : List (String × Json)) (source : AttributeSource),
    (ofJson (.object members)).calls source groups =
      (upTo (fun member => !(ofClause member.1 member.2).evaluate source groups) members).flatMap
        fun member => (ofClause member.1 member.2).calls source groups
  and : ∀ (items : List Json) (source : AttributeSource),
    (ofClause "$and" (.array items)).calls source groups =
      (upTo (fun item => !(ofJson item).evaluate source groups) items).flatMap
        fun item => (ofJson item).calls source groups
  /-- Alternatives are evaluated up to the first that matches. -/
  or : ∀ (items : List Json) (source : AttributeSource),
    (ofClause "$or" (.array items)).calls source groups =
      (upTo (fun item => (ofJson item).evaluate source groups) items).flatMap
        fun item => (ofJson item).calls source groups
  nor : ∀ (items : List Json) (source : AttributeSource),
    (ofClause "$nor" (.array items)).calls source groups =
      (upTo (fun item => (ofJson item).evaluate source groups) items).flatMap
        fun item => (ofJson item).calls source groups
  not : ∀ (operand : Json) (source : AttributeSource),
    (ofClause "$not" operand).calls source groups = (ofJson operand).calls source groups
  /-- The calls inside of a test come before the call of the field that is tested. -/
  field : ∀ (path : String) (test : Json) (source : AttributeSource), isPath path = true →
    (ofClause path test).calls source groups =
      (compileTest test).calls groups (source ⟨path⟩) ++
        [⟨⟨path⟩, (ofClause path test).evaluate source groups⟩]
  /-- The operators of a test are applied up to the first that fails. -/
  operators : ∀ (members : List (String × Json)) (value : Value),
    isOperatorObject (.object members) = true →
    (compileTest (.object members)).calls groups value =
      (upTo (fun member => !(compileOperator member.1 member.2).holds groups value) members).flatMap
        fun member => (compileOperator member.1 member.2).calls groups value
  /-- Items are looked at up to the first that passes the test of an `$elemMatch`. -/
  elemMatch_test : ∀ (operand : Json) (items : List Value), isOperatorObject operand = true →
    (compileOperator "$elemMatch" operand).calls groups (.array items) =
      (upTo ((compileTest operand).holds groups) items).flatMap
        ((compileTest operand).calls groups)
  /-- Items are looked at up to the first that matches the condition of an `$elemMatch`. -/
  elemMatch_condition : ∀ (operand : Json) (items : List Value),
    isOperatorObject operand = false →
    (compileOperator "$elemMatch" operand).calls groups (.array items) =
      (upTo (fun item => (ofJson operand).evaluate item.lookup groups) items).flatMap
        fun item => (ofJson operand).calls item.lookup groups
  /-- Tests are gone through up to the first that no item passes, each up to an item that does. -/
  containsAll : ∀ (tests : List Json) (items : List Value),
    (compileOperator "$all" (.array tests)).calls groups (.array items) =
      (upTo (fun test => !items.any ((compileTest test).holds groups)) tests).flatMap fun test =>
        (upTo ((compileTest test).holds groups) items).flatMap
          ((compileTest test).calls groups)
  operator_not : ∀ (operand : Json) (value : Value),
    (compileOperator "$not" operand).calls groups value =
      (compileTest operand).calls groups value
  /-- Other operators tell nothing, and no operator does where there are no items. -/
  silent : ∀ (name : String) (operand : Json) (value : Value),
    isSimple name = true ∨ name = "$size" ∨ value.asArray? = none →
    (compileOperator name operand).calls groups value = []

theorem observed_in_turn (groups : SavedGroups) : ObservedInTurn groups where
  passive condition _ _ := condition.run_observe
  holds := evaluate_lookup
  object members _ := calls_object members
  and items _ := calls_and items
  or items _ := calls_or items
  nor items _ := (calls_nor items).trans (calls_or items)
  not operand _ := calls_not operand
  field _ test _ hpath := calls_of_isPath hpath test
  operators members value hoperators := calls_operators members hoperators value
  elemMatch_test _ items hoperators := calls_elemMatch_test hoperators items
  elemMatch_condition _ items hcondition := calls_elemMatch_condition hcondition items
  containsAll := calls_containsAll
  operator_not := calls_operator_not
  silent name operand value := by
    rintro (hsimple | rfl | hvalue)
    · exact calls_of_isSimple hsimple operand value
    · exact calls_size operand value
    · exact Operator.calls_of_asArray? groups hvalue _

/-- The last cart is not looked at any more, and the carts are told after what is in them. -/
example :
    let condition := ofJson (.object
      [("carts", .object [("$elemMatch", .object [("item", .string "book")])]), ("age", .null)])
    let cart (item : String) : Value := .object [("item", .string item)]
    let user : Attributes := [("carts", .array [cart "pen", cart "book", cart "ink"])]
    condition.calls user.lookup [] =
      [⟨⟨"item"⟩, false⟩, ⟨⟨"item"⟩, true⟩, ⟨⟨"carts"⟩, true⟩, ⟨⟨"age"⟩, false⟩] := by
  cbv

end Condition

end Calls

end FeatureFlags
