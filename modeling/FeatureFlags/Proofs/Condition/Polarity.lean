import FeatureFlags.Proofs.Condition.Clauses
import Mathlib.Algebra.Ring.Parity
import Mathlib.Data.Bool.Basic
import Mathlib.Logic.Relation

/-!
# Parts that are not understood

What a condition does not understand never matches.  Whether this makes the whole condition
stricter or laxer depends on how many negations the part stands under: `$not` and `$nor`
turn the direction around, and everything else keeps it, the quantifiers over lists and
over the items of arrays included (`Directed`).

`Node.Degrades` says that one part of a condition is no longer understood, and counts the
negations above it.  The induction is on this relation, and its cases are the ways down
from a condition to the part.  Below a condition that negates nothing every part stands
under zero negations, so such a condition fails closed however many of its parts are not
understood.
-/

namespace FeatureFlags

/-! ## Losing a part -/

mutual

/-- The second condition is the first one after a part of it, which stands under so many
negations, has been replaced by one that is not understood. -/
inductive Node.Degrades : Nat → Node → Node → Prop
  | here (node : Node) : Node.Degrades 0 node .invalid
  | all {n : Nat} {node degraded : Node} (before after : List Node)
      (h : Node.Degrades n node degraded) :
      Node.Degrades n (.all (before ++ node :: after)) (.all (before ++ degraded :: after))
  | any {n : Nat} {node degraded : Node} (before after : List Node)
      (h : Node.Degrades n node degraded) :
      Node.Degrades n (.any (before ++ node :: after)) (.any (before ++ degraded :: after))
  | none {n : Nat} {node degraded : Node} (before after : List Node)
      (h : Node.Degrades n node degraded) :
      Node.Degrades (n + 1) (.none (before ++ node :: after)) (.none (before ++ degraded :: after))
  | not {n : Nat} {node degraded : Node} (h : Node.Degrades n node degraded) :
      Node.Degrades (n + 1) (.not node) (.not degraded)
  | field {n : Nat} {test degraded : ValueTest} (path : AttributePath)
      (h : ValueTest.Degrades n test degraded) :
      Node.Degrades n (.field path test) (.field path degraded)

/-- One operator of a test has lost a part. -/
inductive ValueTest.Degrades : Nat → ValueTest → ValueTest → Prop
  | operators {n : Nat} {operator degraded : Operator} (before after : List Operator)
      (h : Operator.Degrades n operator degraded) :
      ValueTest.Degrades n (.operators (before ++ operator :: after))
        (.operators (before ++ degraded :: after))

/-- An operator is not understood any more, by its name or by its operand, or what it
contains has lost a part. -/
inductive Operator.Degrades : Nat → Operator → Operator → Prop
  | unsupported (operator : Operator) (name : String) :
      Operator.Degrades 0 operator (.unsupported name)
  | malformed (operator : Operator) : Operator.Degrades 0 operator .malformed
  | containsAll {n : Nat} {test degraded : ValueTest} (before after : List ValueTest)
      (h : ValueTest.Degrades n test degraded) :
      Operator.Degrades n (.containsAll (before ++ test :: after))
        (.containsAll (before ++ degraded :: after))
  | someItem {n : Nat} {test degraded : ValueTest} (h : ValueTest.Degrades n test degraded) :
      Operator.Degrades n (.someItem test) (.someItem degraded)
  | someItemMatches {n : Nat} {node degraded : Node} (h : Node.Degrades n node degraded) :
      Operator.Degrades n (.someItemMatches node) (.someItemMatches degraded)
  | size {n : Nat} {test degraded : ValueTest} (h : ValueTest.Degrades n test degraded) :
      Operator.Degrades n (.size test) (.size degraded)
  | not {n : Nat} {test degraded : ValueTest} (h : ValueTest.Degrades n test degraded) :
      Operator.Degrades (n + 1) (.not test) (.not degraded)

end

/-! ## Directions -/

/-- Under an even number of negations an answer can only be lost, under an odd number it
can only be won. -/
def Directed (negations : Nat) (answer degraded : Bool) : Prop :=
  (Even negations → degraded ≤ answer) ∧ (Odd negations → answer ≤ degraded)

namespace Directed

variable {n : Nat} {answer degraded : Bool}

theorem zero_false (answer : Bool) : Directed 0 answer false :=
  ⟨fun _ => Bool.false_le answer, fun hodd => absurd hodd (by decide)⟩

theorem refl (answer : Bool) : Directed n answer answer := ⟨fun _ => le_rfl, fun _ => le_rfl⟩

theorem map {f : Bool → Bool} (hf : ∀ a b : Bool, a ≤ b → f a ≤ f b)
    (h : Directed n answer degraded) : Directed n (f answer) (f degraded) :=
  ⟨fun heven => hf _ _ (h.1 heven), fun hodd => hf _ _ (h.2 hodd)⟩

theorem not (h : Directed n answer degraded) : Directed (n + 1) (!answer) (!degraded) := by
  have hreverse {a b : Bool} (hle : a ≤ b) : (!b) ≤ !a := by
    revert a b
    decide
  refine ⟨fun heven => hreverse (h.2 ?_), fun hodd => hreverse (h.1 ?_)⟩
  · exact Nat.not_even_iff_odd.mp (Nat.even_add_one.mp heven)
  · exact Nat.not_odd_iff_even.mp (Nat.odd_add_one.mp hodd)

theorem and_around (left right : Bool) (h : Directed n answer degraded) :
    Directed n (left && (answer && right)) (left && (degraded && right)) := by
  refine map (f := fun b => left && (b && right)) (fun a b hle => ?_) h
  revert a b left right
  decide

theorem or_around (left right : Bool) (h : Directed n answer degraded) :
    Directed n (left || (answer || right)) (left || (degraded || right)) := by
  refine map (f := fun b => left || (b || right)) (fun a b hle => ?_) h
  revert a b left right
  decide

/-- Looking for an item that passes keeps the direction. -/
theorem any {α : Type} {passes passesDegraded : α → Bool} (items : List α)
    (h : ∀ item, Directed n (passes item) (passesDegraded item)) :
    Directed n (items.any passes) (items.any passesDegraded) := by
  have hmonotone {p q : α → Bool} (hle : ∀ item, p item ≤ q item) : items.any p ≤ items.any q := by
    rw [Bool.le_iff_imp, List.any_eq_true, List.any_eq_true]
    rintro ⟨item, hmem, hpasses⟩
    exact ⟨item, hmem, Bool.le_iff_imp.mp (hle item) hpasses⟩
  exact ⟨fun heven => hmonotone fun item => (h item).1 heven,
    fun hodd => hmonotone fun item => (h item).2 hodd⟩

end Directed

/-! ## What is not understood, and lists around it -/

section Around

variable (groups : SavedGroups)

theorem Node.holds_invalid (subject : Subject) : Node.invalid.holds groups subject = false :=
  rfl

theorem Operator.holds_unsupported (name : String) (value : Value) :
    (Operator.unsupported name).holds groups value = false :=
  rfl

theorem Operator.holds_malformed (value : Value) :
    Operator.malformed.holds groups value = false :=
  rfl

theorem Node.allHold_around (before after : List Node) (node : Node) (subject : Subject) :
    Node.allHold groups (before ++ node :: after) subject =
      (Node.allHold groups before subject &&
        (node.holds groups subject && Node.allHold groups after subject)) := by
  simp [Node.allHold_eq, List.and]

theorem Node.someHolds_around (before after : List Node) (node : Node) (subject : Subject) :
    ((before ++ node :: after).isEmpty || Node.someHolds groups (before ++ node :: after) subject) =
      (Node.someHolds groups before subject ||
        (node.holds groups subject || Node.someHolds groups after subject)) := by
  simp [Node.someHolds_eq, List.or]

theorem Operator.allHold_around (before after : List Operator) (operator : Operator)
    (value : Value) :
    Operator.allHold groups (before ++ operator :: after) value =
      (Operator.allHold groups before value &&
        (operator.holds groups value && Operator.allHold groups after value)) := by
  simp [Operator.allHold_eq, List.and]

theorem ValueTest.eachHoldsSomewhere_around (before after : List ValueTest) (test : ValueTest)
    (items : List Value) :
    ValueTest.eachHoldsSomewhere groups (before ++ test :: after) items =
      (ValueTest.eachHoldsSomewhere groups before items &&
        (items.any (ValueTest.holds groups test) &&
          ValueTest.eachHoldsSomewhere groups after items)) := by
  simp [ValueTest.eachHoldsSomewhere_eq, List.and]

end Around

/-! ## The direction of a loss -/

section Loss

variable (groups : SavedGroups)

mutual

theorem Node.Degrades.directed {n : Nat} {node degraded : Node} (h : Node.Degrades n node degraded)
    (subject : Subject) :
    Directed n (node.holds groups subject) (degraded.holds groups subject) := by
  match h with
  | .here node =>
      -- an invalid node holds of nobody, the least there is
      rw [Node.holds_invalid]
      exact Directed.zero_false _
  | .all before after h =>
      rw [Node.holds, Node.holds, Node.allHold_around, Node.allHold_around]
      exact (h.directed subject).and_around _ _
  | .any before after h =>
      rw [Node.holds, Node.holds, Node.someHolds_around, Node.someHolds_around]
      exact (h.directed subject).or_around _ _
  | .none before after h =>
      rw [Node.holds, Node.holds, Node.someHolds_around, Node.someHolds_around]
      -- the negation turns the direction around, and the index counts one level more
      exact ((h.directed subject).or_around _ _).not
  | .not h =>
      rw [Node.holds, Node.holds]
      exact (h.directed subject).not
  | .field path h =>
      rw [Node.holds, Node.holds]
      exact h.directed (subject.lookup path)

theorem ValueTest.Degrades.directed {n : Nat} {test degraded : ValueTest}
    (h : ValueTest.Degrades n test degraded) (value : Value) :
    Directed n (test.holds groups value) (degraded.holds groups value) := by
  match h with
  | .operators before after h =>
      rw [ValueTest.holds, ValueTest.holds, Operator.allHold_around, Operator.allHold_around]
      exact (h.directed value).and_around _ _

theorem Operator.Degrades.directed {n : Nat} {operator degraded : Operator}
    (h : Operator.Degrades n operator degraded) (value : Value) :
    Directed n (operator.holds groups value) (degraded.holds groups value) := by
  -- Operators on items hold of arrays only, so these split on the value as well.
  match h with
  | .unsupported operator name =>
      rw [Operator.holds_unsupported]
      exact Directed.zero_false _
  | .malformed operator =>
      rw [Operator.holds_malformed]
      exact Directed.zero_false _
  | .containsAll before after h =>
      cases value with
      | array items =>
          rw [Operator.holds, Operator.holds, ValueTest.eachHoldsSomewhere_around,
            ValueTest.eachHoldsSomewhere_around]
          exact (Directed.any items fun item => h.directed item).and_around _ _
      | _ =>
          simp only [Operator.holds]
          exact Directed.refl false
  | .someItem h =>
      cases value with
      | array items =>
          rw [Operator.holds, Operator.holds]
          exact Directed.any items fun item => h.directed item
      | _ =>
          simp only [Operator.holds]
          exact Directed.refl false
  | .someItemMatches h =>
      cases value with
      | array items =>
          rw [Operator.holds, Operator.holds]
          exact Directed.any items fun item => h.directed (.value item)
      | _ =>
          simp only [Operator.holds]
          exact Directed.refl false
  | .size h =>
      cases value with
      | array items =>
          rw [Operator.holds, Operator.holds]
          exact h.directed _
      | _ =>
          simp only [Operator.holds]
          exact Directed.refl false
  | .not h =>
      rw [Operator.holds, Operator.holds]
      exact (h.directed value).not

end

end Loss

/-! ## Conditions without negations -/

mutual

/-- Whether a compiled condition negates nothing. -/
def Node.isPositive : Node → Bool
  | .all nodes => Node.allPositive nodes
  | .any nodes => Node.allPositive nodes
  | .none _ => false
  | .not _ => false
  | .field _ test => ValueTest.isPositive test
  | .invalid => true

def Node.allPositive : List Node → Bool
  | [] => true
  | node :: rest => Node.isPositive node && Node.allPositive rest

def ValueTest.isPositive : ValueTest → Bool
  | .equals _ => true
  | .operators operators => Operator.allPositive operators

def ValueTest.allPositive : List ValueTest → Bool
  | [] => true
  | test :: rest => ValueTest.isPositive test && ValueTest.allPositive rest

def Operator.allPositive : List Operator → Bool
  | [] => true
  | operator :: rest => Operator.isPositive operator && Operator.allPositive rest

/-- Operators that are their own negation, such as `$nin`, contain nothing that could be
lost. -/
def Operator.isPositive : Operator → Bool
  | .containsAll tests => ValueTest.allPositive tests
  | .someItem test => ValueTest.isPositive test
  | .someItemMatches node => Node.isPositive node
  | .size test => ValueTest.isPositive test
  | .not _ => false
  | _ => true

end

section Positive

theorem Node.allPositive_eq_all (nodes : List Node) :
    Node.allPositive nodes = nodes.all Node.isPositive := by
  induction nodes with
  | nil => rfl
  | cons node rest ih => rw [Node.allPositive, ih, List.all_cons]

theorem ValueTest.allPositive_eq_all (tests : List ValueTest) :
    ValueTest.allPositive tests = tests.all ValueTest.isPositive := by
  induction tests with
  | nil => rfl
  | cons test rest ih => rw [ValueTest.allPositive, ih, List.all_cons]

theorem Operator.allPositive_eq_all (operators : List Operator) :
    Operator.allPositive operators = operators.all Operator.isPositive := by
  induction operators with
  | nil => rfl
  | cons operator rest ih => rw [Operator.allPositive, ih, List.all_cons]

/-- A list around a part that stays positive stays positive, and the part is so itself. -/
theorem all_around {α : Type} {p : α → Bool} {before after : List α} {part : α}
    (h : (before ++ part :: after).all p = true) :
    p part = true ∧ ∀ other, p other = true → (before ++ other :: after).all p = true := by
  simp only [List.all_append, List.all_cons, Bool.and_eq_true] at h ⊢
  exact ⟨h.2.1, fun other hother => ⟨h.1, hother, h.2.2⟩⟩

mutual

/-- Below a condition that negates nothing parts stand under no negation, and it negates
nothing without them either. -/
theorem Node.Degrades.positive {n : Nat} {node degraded : Node} (h : Node.Degrades n node degraded)
    (hpositive : node.isPositive = true) : n = 0 ∧ degraded.isPositive = true := by
  match h with
  | .here node => exact ⟨rfl, rfl⟩
  | .all before after h =>
      rw [Node.isPositive, Node.allPositive_eq_all] at hpositive ⊢
      obtain ⟨hpart, hothers⟩ := all_around hpositive
      exact (h.positive hpart).imp id (hothers _)
  | .any before after h =>
      rw [Node.isPositive, Node.allPositive_eq_all] at hpositive ⊢
      obtain ⟨hpart, hothers⟩ := all_around hpositive
      exact (h.positive hpart).imp id (hothers _)
  | .none before after h => cases hpositive
  | .not h => cases hpositive
  | .field path h =>
      rw [Node.isPositive] at hpositive ⊢
      exact h.positive hpositive

theorem ValueTest.Degrades.positive {n : Nat} {test degraded : ValueTest}
    (h : ValueTest.Degrades n test degraded) (hpositive : test.isPositive = true) :
    n = 0 ∧ degraded.isPositive = true := by
  match h with
  | .operators before after h =>
      rw [ValueTest.isPositive, Operator.allPositive_eq_all] at hpositive ⊢
      obtain ⟨hpart, hothers⟩ := all_around hpositive
      exact (h.positive hpart).imp id (hothers _)

theorem Operator.Degrades.positive {n : Nat} {operator degraded : Operator}
    (h : Operator.Degrades n operator degraded) (hpositive : operator.isPositive = true) :
    n = 0 ∧ degraded.isPositive = true := by
  match h with
  | .unsupported operator name => exact ⟨rfl, rfl⟩
  | .malformed operator => exact ⟨rfl, rfl⟩
  | .containsAll before after h =>
      rw [Operator.isPositive, ValueTest.allPositive_eq_all] at hpositive ⊢
      obtain ⟨hpart, hothers⟩ := all_around hpositive
      exact (h.positive hpart).imp id (hothers _)
  | .someItem h =>
      rw [Operator.isPositive] at hpositive ⊢
      exact h.positive hpositive
  | .someItemMatches h =>
      rw [Operator.isPositive] at hpositive ⊢
      exact h.positive hpositive
  | .size h =>
      rw [Operator.isPositive] at hpositive ⊢
      exact h.positive hpositive
  | .not h => cases hpositive

end

/-- Any number of parts have been lost, one after another. -/
def Node.DegradesRepeatedly : Node → Node → Prop :=
  Relation.ReflTransGen fun node degraded => ∃ n, Node.Degrades n node degraded

/-- **A condition that negates nothing fails closed.** -/
theorem Node.holds_of_degradesRepeatedly (groups : SavedGroups) (subject : Subject)
    {node degraded : Node} (hpositive : node.isPositive = true)
    (hlost : node.DegradesRepeatedly degraded) (hholds : degraded.holds groups subject = true) :
    node.holds groups subject = true := by
  induction hlost using Relation.ReflTransGen.head_induction_on with
  | refl => exact hholds
  | head hstep _ ih =>
      obtain ⟨n, hstep⟩ := hstep
      obtain ⟨rfl, hstill⟩ := hstep.positive hpositive
      exact Bool.le_iff_imp.mp ((hstep.directed groups subject).1 Even.zero) (ih hstill)

end Positive

/-! ## Whole conditions -/

namespace Condition

/-- A condition of which only this is still understood. -/
def withRoot (condition : Condition) (root : Node) : Condition := { condition with root }

/-- **A part that is not understood can only be missed in one direction.**  When a part of a
condition under an even number of negations is not understood any more, the condition never
begins to match; under an odd number it never ceases to.  A condition that negates nothing
does not begin to match however many of its parts are not understood. -/
theorem polarity (condition : Condition) (subject : Subject) (groups : SavedGroups) :
    (∀ n degraded, condition.root.Degrades n degraded →
      (Even n → (condition.withRoot degraded).holds subject groups = true →
        condition.holds subject groups = true) ∧
      (Odd n → condition.holds subject groups = true →
        (condition.withRoot degraded).holds subject groups = true)) ∧
    (condition.root.isPositive = true → ∀ degraded, condition.root.DegradesRepeatedly degraded →
      (condition.withRoot degraded).holds subject groups = true →
        condition.holds subject groups = true) := by
  refine ⟨fun n degraded h => ?_, fun hpositive degraded hlost => ?_⟩
  · have hdirected := h.directed groups subject
    exact ⟨fun heven => Bool.le_iff_imp.mp (hdirected.1 heven),
      fun hodd => Bool.le_iff_imp.mp (hdirected.2 hodd)⟩
  · exact condition.root.holds_of_degradesRepeatedly groups subject hpositive hlost

/-- A user of the `pro` plan is let through by an alternative, once by itself and once under
`$nor` twice, when the other alternative is not understood any more.  Under a single
`$nor` a match survives the loss. -/
theorem polarity_of_alternatives :
    let user : Subject := .attributes [("plan", .string "pro")]
    let alternatives := [Json.object [("country", .string "DE")], .object [("plan", .string "pro")]]
    let nested := ofJson (.object [("$nor", .array [.object [("$nor", .array alternatives)]])])
    let either := ofJson (.object [("$or", .array alternatives)])
    let plan : Node := .field ⟨"plan"⟩ (.equals (.string "pro"))
    nested.root.Degrades 2 (.none [.none [.invalid, plan]]) ∧
      (nested.withRoot (.none [.none [.invalid, plan]])).holds user [] = true ∧
      nested.holds user [] = true ∧
      nested.root.Degrades 1 (.none [.invalid]) ∧
      (nested.withRoot (.none [.invalid])).holds user [] = true ∧
      either.root.isPositive = true ∧ either.root.DegradesRepeatedly (.any [.invalid, plan]) ∧
      (either.withRoot (.any [.invalid, plan])).holds user [] = true ∧
      either.holds user [] = true := by
  intro user alternatives nested either plan
  let country : Node := .field ⟨"country"⟩ (.equals (.string "DE"))
  have hnestedRoot : nested.root = .none [.none [country, plan]] := by
    simp [nested, alternatives, country, plan, ofJson, compile, compileClauses, compileClause,
      compileList, conjunction, compileTest, Value.ofJson]
  have heitherRoot : either.root = .any [country, plan] := by
    simp [either, alternatives, country, plan, ofJson, compile, compileClauses, compileClause,
      compileList, conjunction, compileTest, Value.ofJson]
  -- what is lost is the first alternative, or for `honce` the whole inner `$nor`
  have hpart : country.Degrades 0 .invalid := .here country
  have htwice : nested.root.Degrades 2 (.none [.none [.invalid, plan]]) :=
    hnestedRoot ▸ .none [] [] (.none [] [plan] hpart)
  have honce : nested.root.Degrades 1 (.none [.invalid]) :=
    hnestedRoot ▸ .none [] [] (.here _)
  have heither : either.root.DegradesRepeatedly (.any [.invalid, plan]) :=
    heitherRoot ▸ .single ⟨0, .any [] [plan] hpart⟩
  have hpositive : either.root.isPositive = true := heitherRoot ▸ rfl
  have hmatches : (nested.withRoot (.none [.none [.invalid, plan]])).holds user [] = true := by
    decide +kernel
  have hmatchesEither : (either.withRoot (.any [.invalid, plan])).holds user [] = true := by
    decide +kernel
  obtain ⟨hnested, -⟩ := polarity nested user []
  obtain ⟨-, hcloses⟩ := polarity either user []
  have hholds := (hnested 2 _ htwice).1 (by decide) hmatches
  refine ⟨htwice, hmatches, hholds, honce, (hnested 1 _ honce).2 (by decide) hholds, ?_⟩
  exact ⟨hpositive, heither, hmatchesEither, hcloses hpositive _ heither hmatchesEither⟩

end Condition

end FeatureFlags
