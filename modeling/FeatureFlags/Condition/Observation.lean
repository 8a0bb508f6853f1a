import FeatureFlags.Condition.Evaluation

/-!
# Observing an evaluation

An observer is told of every field that an evaluation has tested: of its path, and of whether it
passed the test.  Fields that stand inside the test of another field are tested, and told, before
it.

Parts that cannot change the outcome any more are not evaluated, so that nothing is told of their
fields.
-/

namespace FeatureFlags

/-- Where a condition finds values: attributes, a value, or whatever else has paths. -/
abbrev AttributeSource := AttributePath → Value

/-- Watches evaluations, with a state of its own. -/
structure Condition.Observer (σ : Type) where
  /-- Takes note that the field at a path has been tested. -/
  onField : AttributePath → Bool → σ → σ

/-- The observer that takes no note. -/
def Condition.Observer.idle : Condition.Observer Unit := ⟨fun _ _ state => state⟩

mutual

/-- Evaluates a compiled condition before an observer. -/
def Node.observe {σ : Type} (observer : Condition.Observer σ) (groups : SavedGroups) :
    Node → AttributeSource → StateM σ Bool
  | .all nodes, source => Node.observeAll observer groups nodes source
  | .any nodes, source => pure nodes.isEmpty <||> Node.observeSome observer groups nodes source
  | .none nodes, source =>
    not <$> (pure nodes.isEmpty <||> Node.observeSome observer groups nodes source)
  | .not node, source => not <$> Node.observe observer groups node source
  | .field path test, source => do
    let matched ← ValueTest.observe observer groups test (source path)
    modify (observer.onField path matched)
    return matched
  | .invalid, _ => return false

def Node.observeAll {σ : Type} (observer : Condition.Observer σ) (groups : SavedGroups) :
    List Node → AttributeSource → StateM σ Bool
  | [], _ => return true
  | node :: rest, source =>
    Node.observe observer groups node source <&&> Node.observeAll observer groups rest source

def Node.observeSome {σ : Type} (observer : Condition.Observer σ) (groups : SavedGroups) :
    List Node → AttributeSource → StateM σ Bool
  | [], _ => return false
  | node :: rest, source =>
    Node.observe observer groups node source <||> Node.observeSome observer groups rest source

/-- Tests a value before an observer. -/
def ValueTest.observe {σ : Type} (observer : Condition.Observer σ) (groups : SavedGroups) :
    ValueTest → Value → StateM σ Bool
  | .equals expected, value => return value.isPresentAnd (value.equals expected)
  | .operators operators, value => Operator.observeAll observer groups operators value

/-- Looks for an item for each test, before an observer. -/
def ValueTest.observeEachSomewhere {σ : Type} (observer : Condition.Observer σ)
    (groups : SavedGroups) : List ValueTest → List Value → StateM σ Bool
  | [], _ => return true
  | test :: rest, items =>
    items.anyM (ValueTest.observe observer groups test) <&&>
      ValueTest.observeEachSomewhere observer groups rest items

def Operator.observeAll {σ : Type} (observer : Condition.Observer σ) (groups : SavedGroups) :
    List Operator → Value → StateM σ Bool
  | [], _ => return true
  | operator :: rest, value =>
    Operator.observe observer groups operator value <&&>
      Operator.observeAll observer groups rest value

/-- Applies an operator before an observer. Operators that hold neither tests nor conditions tell
nothing. -/
def Operator.observe {σ : Type} (observer : Condition.Observer σ) (groups : SavedGroups) :
    Operator → Value → StateM σ Bool
  | .containsAll tests, value =>
    match value with
    | .array items => ValueTest.observeEachSomewhere observer groups tests items
    | _ => return false
  | .someItem test, value =>
    match value with
    | .array items => items.anyM (ValueTest.observe observer groups test)
    | _ => return false
  | .someItemMatches node, value =>
    match value with
    | .array items => items.anyM fun item => Node.observe observer groups node item.lookup
    | _ => return false
  | .size test, value =>
    match value with
    | .array items =>
      ValueTest.observe observer groups test
        (.number (Number.nearestDouble (items.length : Int)))
    | _ => return false
  | .not test, value => not <$> ValueTest.observe observer groups test value
  | operator, value => return operator.holds groups value

end

namespace Condition

/-- Evaluates a condition before an observer. -/
def observe {σ : Type} (condition : Condition) (observer : Observer σ) (source : AttributeSource)
    (groups : SavedGroups) : StateM σ Bool :=
  condition.root.observe observer groups source

/-- Whether a condition matches what a source says. -/
def evaluate (condition : Condition) (source : AttributeSource) (groups : SavedGroups) : Bool :=
  ((condition.observe .idle source groups).run ()).run.1

end Condition

end FeatureFlags
