import FeatureFlags.Proofs.Condition.Clauses
import FeatureFlags.Proofs.Number.Order
import FeatureFlags.Proofs.Value.Tolerance
import Mathlib.Data.String.Basic
import Mathlib.Order.Compare

/-!
# The ordering operators

An ordering operator knows of a value and its operand only how they compare.  So the four
operators are consistent with each other if comparing is: turning a pair of values around
turns their order around (`Value.compare?_swap`).  The pair decides how it is compared,
as numbers or as texts, and it decides this in the same way from either side.

What the operators find is then read off the order (`between_eq`): of the four either none
holds, or two of them do, which say the same as one of "before", "after" and "level".

Being equal is decided in another way than being level: numbers are equal within a tolerance
and ordered by their exact amounts, and a text that stands for "not a number" is equal to
itself without being comparable with itself.  Otherwise equal values are level
(`Value.compare?_of_equals`).
-/

namespace FeatureFlags

/-! ## Turning a comparison around -/

namespace Value

theorem compareText_eq_cmp (s t : String) : compareText s t = cmp s t := by
  unfold compareText cmp cmpUsing
  rcases lt_trichotomy s t with h | rfl | h
  · simp [h]
  · simp
  · simp [h, h.ne', h.not_gt]

theorem compareText_swap (s t : String) : compareText t s = (compareText s t).swap := by
  rw [compareText_eq_cmp, compareText_eq_cmp, cmp_swap]

theorem compareNumbers?_swap (x y : Option Number) :
    compareNumbers? y x = (compareNumbers? x y).map Ordering.swap := by
  cases x with
  | none => cases y <;> rfl
  | some x =>
      cases y with
      | none => rfl
      | some y => exact Number.compare?_swap x y

/-- What is neither a text nor a number is not compared with anything. -/
theorem compare?_of_not_isOrdered {a : Value} (h : a.isOrdered = false) (b : Value) :
    a.compare? b = none ∧ b.compare? a = none := by
  cases a with
  | string s => cases h
  | number x => cases h
  | _ => cases b <;> exact ⟨rfl, rfl⟩

theorem compareTexts?_swap (s t : String) :
    (string t).compare? (string s) = ((string s).compare? (string t)).map Ordering.swap := by
  rw [compare?, compare?]
  -- Both texts have to stand for numbers, or they are compared as texts.
  cases textNumber? s <;> cases textNumber? t
  case some.some x y => exact Number.compare?_swap x y
  all_goals exact congrArg some (compareText_swap s t)

/-- **From the other side two values compare the other way round.** -/
theorem compare?_swap (a b : Value) : b.compare? a = (a.compare? b).map Ordering.swap := by
  cases a with
  | string s =>
      cases b with
      | string t => exact compareTexts?_swap s t
      | number y => exact compareNumbers?_swap (textNumber? s) (some y)
      | _ => rfl
  | number x =>
      cases b with
      | string t => exact compareNumbers?_swap (some x) (textNumber? t)
      | number y => exact compareNumbers?_swap (some x) (some y)
      | _ => rfl
  | _ => cases b <;> rfl

end Value

/-! ## The four operators -/

namespace OrderRelation

def all : List OrderRelation := [less, lessOrEqual, greater, greaterOrEqual]

/-- The name of the operator. -/
def name : OrderRelation → String
  | less => "$lt"
  | lessOrEqual => "$lte"
  | greater => "$gt"
  | greaterOrEqual => "$gte"

/-- The relation seen from the other side. -/
def converse : OrderRelation → OrderRelation
  | less => greater
  | lessOrEqual => greaterOrEqual
  | greater => less
  | greaterOrEqual => lessOrEqual

theorem accepts_converse (relation : OrderRelation) (order : Ordering) :
    relation.converse.accepts order.swap = relation.accepts order := by
  cases relation <;> cases order <;> rfl

theorem ordered_converse (relation : OrderRelation) (a b : Value) :
    b.ordered relation.converse a = a.ordered relation b := by
  rw [Value.ordered, Value.ordered, Value.compare?_swap a b]
  cases a.compare? b with
  | none => rfl
  | some order => exact relation.accepts_converse order

/-- What an ordering operator is compiled to. -/
theorem compileOperator_name (relation : OrderRelation) (operand : Json) :
    Condition.compileOperator relation.name operand = .order relation (Value.ofJson operand) := by
  cases relation <;> exact Condition.compileOperator_of_isSimple (by decide) operand

/-- The relations that the ordering operators find between a value and an operand. -/
def between (groups : SavedGroups) (value operand : Value) : List OrderRelation :=
  all.filter fun relation => (Operator.order relation operand).holds groups value

/-- The relations that go with an order. -/
def ofOrder? : Option Ordering → List OrderRelation
  | none => []
  | some .lt => [less, lessOrEqual]
  | some .eq => [lessOrEqual, greaterOrEqual]
  | some .gt => [greater, greaterOrEqual]

theorem holds_order (groups : SavedGroups) (relation : OrderRelation) (operand value : Value) :
    (Operator.order relation operand).holds groups value = value.ordered relation operand :=
  rfl

/-- The operators find no more and no less than the order of the two values. -/
theorem between_eq (groups : SavedGroups) (value operand : Value) :
    between groups value operand = ofOrder? (value.compare? operand) := by
  simp only [between, holds_order, Value.ordered]
  rcases value.compare? operand with _ | (_ | _ | _) <;> rfl

/-- The names of the kinds of values that are not ordered. -/
def unorderedKinds : List String := ["undefined", "null", "boolean", "array", "object"]

theorem isOrdered_eq_false_iff {value : Value} :
    value.isOrdered = false ↔ value.typeName ∈ unorderedKinds := by
  cases value <;> simp [Value.isOrdered, Value.typeName, unorderedKinds]

/-- **The ordering operators are consistent with each other.**  Turned around, two values
compare the other way, so that an operator holds of them as its converse does of the
turned pair.  Of the four operators either none holds, or two that belong together; none
holds where one side is neither a text nor a number. -/
theorem between_consistent (groups : SavedGroups) :
    (∀ a b : Value,
      b.compare? a = (a.compare? b).map Ordering.swap ∧
      (∀ relation : OrderRelation, (Operator.order relation b).holds groups a =
        (Operator.order relation.converse a).holds groups b) ∧
      between groups a b ∈
        [[], [less, lessOrEqual], [greater, greaterOrEqual], [lessOrEqual, greaterOrEqual]] ∧
      (a.typeName ∈ unorderedKinds ∨ b.typeName ∈ unorderedKinds → between groups a b = [])) ∧
    ∀ (relation : OrderRelation) (p q : Json),
      (Condition.compileOperator relation.name q).holds groups (Value.ofJson p) =
        (Condition.compileOperator relation.converse.name p).holds groups (Value.ofJson q) := by
  refine ⟨fun a b => ⟨Value.compare?_swap a b, fun relation => ?_, ?_, fun hkinds => ?_⟩,
    fun relation p q => ?_⟩
  · rw [holds_order, holds_order, ordered_converse]
  · rw [between_eq]
    rcases a.compare? b with _ | (_ | _ | _) <;> decide
  · have hnone : a.compare? b = none := by
      rcases hkinds with ha | hb
      · exact (Value.compare?_of_not_isOrdered (isOrdered_eq_false_iff.mpr ha) b).1
      · exact (Value.compare?_of_not_isOrdered (isOrdered_eq_false_iff.mpr hb) a).2
    rw [between_eq, hnone]
    rfl
  · rw [compileOperator_name, compileOperator_name, holds_order, holds_order, ordered_converse]

/-- A text that stands for a number comes after a smaller number, and nothing compares with
`null`. -/
theorem between_consistent_of_mixed :
    between [] (.string " 10 ") (.number (.finite 9)) = [greater, greaterOrEqual] ∧
      (Operator.order less (.string " 10 ")).holds [] (.number (.finite 9)) = true ∧
      Value.null.typeName ∈ unorderedKinds ∧ between [] .null (.string "nan") = [] := by
  obtain ⟨hvalues, -⟩ := between_consistent []
  have hafter : between [] (.string " 10 ") (.number (.finite 9)) = [greater, greaterOrEqual] := by
    decide +kernel
  obtain ⟨-, hconverse, -, -⟩ := hvalues (.string " 10 ") (.number (.finite 9))
  have hgreater :
      (Operator.order greater (.number (.finite 9))).holds [] (.string " 10 ") = true := by
    decide +kernel
  obtain ⟨-, -, -, hnone⟩ := hvalues .null (.string "nan")
  refine ⟨hafter, ?_, by decide, hnone (Or.inl (by decide))⟩
  exact (hconverse greater).symm.trans hgreater

/-! ## Values that are equal -/

end OrderRelation

namespace Value

/-- A text that stands for "not a number". -/
def isNanText : Value → Bool
  | string s => textNumber? s = some .nan
  | _ => false

/-- Numbers of different amounts. -/
def differsInAmount : Value → Value → Bool
  | number x, number y => !Number.equals x y
  | _, _ => false

theorem ne_nan_of_withinTolerance {x y : Number} (h : withinTolerance x y = true) :
    x ≠ .nan ∧ y ≠ .nan := by
  obtain ⟨distance, -, hdistance, -, -⟩ := Number.le_iff.mp h
  constructor
  · rintro rfl
    cases hdistance
  · rintro rfl
    cases x <;> cases hdistance

/-- Texts that are equal are one text, and numbers of the same amount compare as equal. -/
theorem compare?_of_equals {a b : Value} (hordered : a.isOrdered = true)
    (hequal : a.equals b = true) (htext : a.isNanText = false)
    (hamount : a.differsInAmount b = false) : a.compare? b = some .eq := by
  cases a with
  | string s =>
      cases b with
      | string t =>
          obtain rfl : s = t := by simpa [equals] using hequal
          rw [compare?]
          cases hread : textNumber? s with
          | none => exact congrArg some ((compareText_eq_cmp s s).trans (cmp_self_eq_eq s))
          | some x =>
              -- a text that reads as NaN is the one text that does not compare equal to itself
              have hx : x ≠ .nan := by
                rintro rfl
                simp [isNanText, hread] at htext
              exact Number.compare?_self hx
      | _ => cases hequal
  | number x =>
      cases b with
      | number y =>
          have hsame : Number.equals x y = true := by simpa [differsInAmount] using hamount
          exact of_decide_eq_true hsame
      | _ => cases hequal
  | _ => cases hordered

theorem compare?_of_isNanText {a b : Value} (htext : a.isNanText = true)
    (hequal : a.equals b = true) : a.compare? b = none := by
  cases a with
  | string s =>
      cases b with
      | string t =>
          obtain rfl : s = t := by simpa [equals] using hequal
          have hread : textNumber? s = some .nan := of_decide_eq_true htext
          rw [compare?, hread]
          rfl
      | _ => cases hequal
  | _ => cases htext

/-- Numbers that are equal though they differ are told apart by their exact amounts. -/
theorem compare?_of_drift {x y : Number} (hequal : numbersEqual x y = true)
    (hdiffer : Number.equals x y = false) :
    integral? x = none ∧ integral? y = none ∧
      Number.compare? x y = some (if Number.lt x y then .lt else .gt) := by
  obtain ⟨hx, hy⟩ := (equals_of_numbersEqual hequal).resolve_left (by simp [hdiffer])
  refine ⟨hx, hy, ?_⟩
  have hnear : withinTolerance x y = true := by
    simpa [numbersEqual, hx, hy, hdiffer] using hequal
  obtain ⟨hxNan, hyNan⟩ := ne_nan_of_withinTolerance hnear
  unfold Number.equals at hdiffer
  unfold Number.lt
  rcases horder : Number.compare? x y with _ | (_ | _ | _)
  · exact absurd (Number.compare?_eq_none_iff.mp horder) (not_or.mpr ⟨hxNan, hyNan⟩)
  · simp
  · simp [horder] at hdiffer
  · simp

end Value

namespace OrderRelation

theorem compileOperator_equal (operand : Json) :
    Condition.compileOperator "$eq" operand = .equal (Value.ofJson operand) :=
  Condition.compileOperator_of_isSimple (by decide) operand

theorem holds_equal_iff {groups : SavedGroups} {value operand : Value} :
    (Operator.equal operand).holds groups value = true ↔
      value.isUnknown = false ∧ value.equals operand = true := by
  have hholds : (Operator.equal operand).holds groups value =
      value.isPresentAnd (value.equals operand) := rfl
  rw [hholds, Value.isPresentAnd, Bool.and_eq_true, Bool.not_eq_true']

/-- **Equal values are level.**  An operand that a text or a number is equal to is neither
before nor after it, but for two exceptions.  A text that stands for "not a number" is equal
to itself and compares with nothing.  Numbers with fractions that are close enough to be
equal are still compared by their exact amounts. -/
theorem between_of_equal (groups : SavedGroups) {value : Value} {operand : Json}
    (hordered : value.isOrdered = true)
    (hequal : (Condition.compileOperator "$eq" operand).holds groups value = true) :
    let found := all.filter fun relation =>
      (Condition.compileOperator relation.name operand).holds groups value
    (value.isNanText = false → value.differsInAmount (Value.ofJson operand) = false →
      found = [lessOrEqual, greaterOrEqual]) ∧
    (value.isNanText = true → found = []) ∧
    ∀ x y, value = .number x → Value.ofJson operand = .number y → Number.equals x y = false →
      Value.integral? x = none ∧ Value.integral? y = none ∧
        found = if Number.lt x y then [less, lessOrEqual] else [greater, greaterOrEqual] := by
  intro found
  have hfound : found = ofOrder? (value.compare? (Value.ofJson operand)) := by
    simp only [found, compileOperator_name]
    exact between_eq groups value (Value.ofJson operand)
  rw [compileOperator_equal, holds_equal_iff] at hequal
  obtain ⟨-, hvalue⟩ := hequal
  rw [hfound]
  refine ⟨fun htext hamount => ?_, fun htext => ?_, fun x y hx hy hdiffer => ?_⟩
  · rw [Value.compare?_of_equals hordered hvalue htext hamount]
    rfl
  · rw [Value.compare?_of_isNanText htext hvalue]
    rfl
  · rw [hx, hy] at hvalue ⊢
    obtain ⟨hxFraction, hyFraction, horder⟩ := Value.compare?_of_drift hvalue hdiffer
    refine ⟨hxFraction, hyFraction, ?_⟩
    rw [show (Value.number x).compare? (.number y) = Number.compare? x y from rfl, horder]
    split <;> rfl

/-- A text with blanks around a number is equal to itself only, and level with it. -/
theorem between_of_equal_padded :
    let padded := Value.string " 10 "
    padded.isOrdered = true ∧
      (Condition.compileOperator "$eq" (.string " 10 ")).holds [] padded = true ∧
      all.filter (fun relation =>
        (Condition.compileOperator relation.name (.string " 10 ")).holds [] padded) =
          [lessOrEqual, greaterOrEqual] := by
  intro padded
  have hequal : (Condition.compileOperator "$eq" (.string " 10 ")).holds [] padded = true := by
    rw [compileOperator_equal, holds_equal_iff]
    decide
  have hordered : padded.isOrdered = true := rfl
  obtain ⟨hlevel, -, -⟩ := between_of_equal [] hordered hequal
  exact ⟨hordered, hequal, hlevel (by decide +kernel) (by decide)⟩

/-- A number just above another one equals it, but is not at most as large; and a text that
stands for "not a number" equals itself, but is not at most as large either. -/
theorem equal_and_not_level :
    let above := Value.number (Number.nearestDouble (15000000001 / 10000000000))
    let bound := Json.float (.finite (3 / 2))
    let word := Json.string "nan"
    let holds (name : String) (operand : Json) (value : Value) :=
      (Condition.compileOperator name operand).holds [] value
    holds "$eq" bound above = true ∧ holds lessOrEqual.name bound above = false ∧
      holds greater.name bound above = true ∧
      holds "$eq" word (.string "nan") = true ∧
      holds lessOrEqual.name word (.string "nan") = false := by
  intro above bound word holds
  simp only [holds, compileOperator_equal, compileOperator_name]
  decide +kernel

end OrderRelation

end FeatureFlags
