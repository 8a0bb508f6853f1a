import FeatureFlags.Proofs.Condition.Clauses

/-!
# Reading conditions directly

A condition is compiled before it is evaluated.  Here the tree is read as it stands:
`meets` recurses over the JSON and never mentions a node, a test or an operator of
the compiled form.  Compiling and then evaluating is the same thing
(`compile_holds`), by induction on the tree with one case for each kind of clause
and operator.
-/

namespace FeatureFlags.Condition

/-! ## The reading -/

/-- An operand that has to be a text; nothing satisfies an operator with another one. -/
def onText (operand : Json) (holds : String → Bool) : Bool :=
  match operand with
  | .string s => holds s
  | _ => false

/-- An operand that has to be a list; nothing satisfies an operator with another one. -/
def onValues (operand : Json) (holds : List Value → Bool) : Bool :=
  match operand with
  | .array items => holds (Value.ofItems items)
  | _ => false

/-- Whether a value satisfies an operator whose operand holds neither tests nor
conditions. -/
def satisfiesSimple (groups : SavedGroups) (name : String) (operand : Json) (value : Value) :
    Bool :=
  match name with
  | "$eq" => value.isPresentAnd (value.equals (Value.ofJson operand))
  | "$ne" => value.isPresentAnd (!value.equals (Value.ofJson operand))
  | "$lt" => value.ordered .less (Value.ofJson operand)
  | "$lte" => value.ordered .lessOrEqual (Value.ofJson operand)
  | "$gt" => value.ordered .greater (Value.ofJson operand)
  | "$gte" => value.ordered .greaterOrEqual (Value.ofJson operand)
  | "$in" => onValues operand fun values => value.inList values
  | "$nin" => onValues operand fun values => !value.inList values
  | "$exists" => (!value.isNullish) == (Value.ofJson operand).isTruthy
  | "$type" => onText operand fun s => value.typeName = s
  | "$regex" => onText operand fun s => value.matchesPattern (Pattern.ofText? s)
  | "$inGroup" => onText operand fun s => value.inGroup groups s
  | "$notInGroup" => onText operand fun s => !value.inGroup groups s
  | "$veq" => onText operand fun s => value.hasVersion .equal (Version.paddedVersion s)
  | "$vne" => onText operand fun s => value.hasVersion .different (Version.paddedVersion s)
  | "$vgt" => onText operand fun s => value.hasVersion .after (Version.paddedVersion s)
  | "$vgte" => onText operand fun s => value.hasVersion .notBefore (Version.paddedVersion s)
  | "$vlt" => onText operand fun s => value.hasVersion .before (Version.paddedVersion s)
  | "$vlte" => onText operand fun s => value.hasVersion .notAfter (Version.paddedVersion s)
  | _ => false

theorem sizeOf_operand_lt {members : List (String × Json)} {member : String × Json}
    (hmember : member ∈ members) : sizeOf member.2 < sizeOf (Json.object members) := by
  have hlt := List.sizeOf_lt_of_mem hmember
  obtain ⟨name, operand⟩ := member
  simp only [Prod.mk.sizeOf_spec, Json.object.sizeOf_spec] at hlt ⊢
  omega

theorem sizeOf_item_lt {items : List Json} {item : Json} (hitem : item ∈ items) :
    sizeOf item < sizeOf (Json.array items) := by
  have hlt := List.sizeOf_lt_of_mem hitem
  simp only [Json.array.sizeOf_spec]
  omega

mutual

/-- Whether a subject meets a condition: all of its clauses.  Only objects are
conditions. -/
def meets (groups : SavedGroups) (source : Json) (subject : Subject) : Bool :=
  match source with
  | .object members =>
    (members.map fun member => meetsClause groups member.1 member.2 subject).and
  | _ => false
termination_by (sizeOf source, 0)
decreasing_by exact Prod.Lex.left _ _ (sizeOf_operand_lt ‹_›)

/-- Whether a subject meets one clause: a combination of conditions, or a test of the
value that a path leads to. -/
def meetsClause (groups : SavedGroups) (name : String) (operand : Json) (subject : Subject) :
    Bool :=
  match name, operand with
  | "$and", .array items => (items.map fun item => meets groups item subject).and
  | "$and", _ => false
  | "$or", .array items => items.isEmpty || (items.map fun item => meets groups item subject).or
  | "$or", _ => false
  | "$nor", .array items =>
    !(items.isEmpty || (items.map fun item => meets groups item subject).or)
  | "$nor", _ => false
  | "$not", operand => !meets groups operand subject
  | path, operand => passes groups operand (subject.lookup ⟨path⟩)
termination_by (sizeOf operand, 1)

/-- Whether a value passes a test: all operators of an object of operators, or equality
with anything else. -/
def passes (groups : SavedGroups) (test : Json) (value : Value) : Bool :=
  match test with
  | .object members =>
    if isOperatorObject (.object members) then
      (members.map fun member => satisfies groups member.1 member.2 value).and
    else value.isPresentAnd (value.equals (Value.ofJson (.object members)))
  | json => value.isPresentAnd (value.equals (Value.ofJson json))
termination_by (sizeOf test, 0)
decreasing_by exact Prod.Lex.left _ _ (sizeOf_operand_lt ‹_›)

/-- Whether a value satisfies an operator. -/
def satisfies (groups : SavedGroups) (name : String) (operand : Json) (value : Value) : Bool :=
  match name, operand with
  | "$all", .array tests =>
    match value with
    | .array items => (tests.map fun test => items.any fun item => passes groups test item).and
    | _ => false
  | "$all", _ => false
  | "$elemMatch", operand =>
    match value with
    | .array items =>
      if isOperatorObject operand then items.any fun item => passes groups operand item
      else items.any fun item => meets groups operand (.value item)
    | _ => false
  | "$size", operand =>
    match value with
    | .array items => passes groups operand (.number (Number.nearestDouble (items.length : Int)))
    | _ => false
  | "$not", operand => !passes groups operand value
  | name, operand => satisfiesSimple groups name operand value
termination_by (sizeOf operand, 1)

end

/-! ## Compiling and evaluating is reading -/

section Compiled

variable (groups : SavedGroups)

theorem withText_holds (operand : Json) (operator : String → Operator) (value : Value) :
    (withText operand operator).holds groups value =
      onText operand fun s => (operator s).holds groups value := by
  cases operand <;> simp only [withText, onText, Operator.holds]

theorem withValues_holds (operand : Json) (operator : List Value → Operator) (value : Value) :
    (withValues operand operator).holds groups value =
      onValues operand fun values => (operator values).holds groups value := by
  cases operand <;> simp only [withValues, onValues, Operator.holds]

theorem simpleOperator_holds (name : String) (operand : Json) (value : Value) :
    (simpleOperator name operand).holds groups value =
      satisfiesSimple groups name operand value := by
  unfold simpleOperator satisfiesSimple versionOperator
  split <;> simp only [withText_holds, withValues_holds, Operator.holds]

mutual

/-- Evaluating a compiled condition reads its tree. -/
theorem compile_holds (source : Json) (subject : Subject) :
    (compile source).holds groups subject = meets groups source subject := by
  match source with
  | .object members =>
      have hclauses : ∀ member ∈ members,
          (compileClause member.1 member.2).holds groups subject =
            meetsClause groups member.1 member.2 subject :=
        fun member hmember => compileClause_holds member.1 member.2 subject
      rw [compile, conjunction_holds, compileClauses_eq_map, List.map_map, meets]
      exact congrArg List.and (List.map_congr_left hclauses)
  | .null | .bool _ | .integer _ | .float _ | .string _ | .array _ =>
      simp only [compile, meets, Node.holds]
termination_by (sizeOf source, 0)
decreasing_by exact Prod.Lex.left _ _ (sizeOf_operand_lt hmember)

theorem compileClause_holds (name : String) (operand : Json) (subject : Subject) :
    (compileClause name operand).holds groups subject =
      meetsClause groups name operand subject := by
  have hitems : ∀ items, operand = .array items →
      (compileList items).map (Node.holds groups · subject) =
        items.map fun item => meets groups item subject := by
    intro items hoperand
    rw [compileList_eq_map, List.map_map]
    exact List.map_congr_left fun item hitem => compile_holds item subject
  have hempty : ∀ items, (compileList items).isEmpty = items.isEmpty := by
    intro items
    rw [compileList_eq_map, List.isEmpty_map]
  -- The clauses in the order of `compileClause`: each combination with a list and without one.
  unfold compileClause
  split
  · rw [Node.holds, Node.allHold_eq, hitems _ rfl, meetsClause]
  · rw [Node.holds, meetsClause]
    assumption
  · rw [Node.holds, Node.someHolds_eq, hitems _ rfl, hempty, meetsClause]
  · rw [Node.holds, meetsClause]
    assumption
  · rw [Node.holds, Node.someHolds_eq, hitems _ rfl, hempty, meetsClause]
  · rw [Node.holds, meetsClause]
    assumption
  · rw [Node.holds, compile_holds operand subject, meetsClause]
  · rw [Node.holds, compileTest_holds operand, meetsClause] <;> assumption
termination_by (sizeOf operand, 1)
decreasing_by
  · subst hoperand
    exact Prod.Lex.left _ _ (sizeOf_item_lt hitem)
  · exact Prod.Lex.right _ Nat.zero_lt_one
  · exact Prod.Lex.right _ Nat.zero_lt_one

theorem compileTest_holds (test : Json) (value : Value) :
    (compileTest test).holds groups value = passes groups test value := by
  match test with
  | .object members =>
      have hoperators : ∀ member ∈ members,
          (compileOperator member.1 member.2).holds groups value =
            satisfies groups member.1 member.2 value :=
        fun member hmember => compileOperator_holds member.1 member.2 value
      rw [compileTest, passes]
      split
      · rw [ValueTest.holds, Operator.allHold_eq, compileOperators_eq_map, List.map_map]
        exact congrArg List.and (List.map_congr_left hoperators)
      · rw [ValueTest.holds]
  | .null | .bool _ | .integer _ | .float _ | .string _ | .array _ =>
      simp only [compileTest, passes, ValueTest.holds]
termination_by (sizeOf test, 0)
decreasing_by exact Prod.Lex.left _ _ (sizeOf_operand_lt hmember)

theorem compileOperator_holds (name : String) (operand : Json) (value : Value) :
    (compileOperator name operand).holds groups value =
      satisfies groups name operand value := by
  have htests : ∀ tests, operand = .array tests → ∀ items : List Value,
      ((compileTests tests).map fun test => items.any (ValueTest.holds groups test)) =
        tests.map fun test => items.any fun item => passes groups test item := by
    intro tests hoperand items
    rw [compileTests_eq_map, List.map_map]
    refine List.map_congr_left fun test htest => ?_
    exact congrArg items.any (funext fun item => compileTest_holds test item)
  -- Operators on items are satisfied by arrays only, so these split on the value as well.
  unfold compileOperator
  split
  · cases value with
    | array items =>
        rw [Operator.holds, ValueTest.eachHoldsSomewhere_eq, htests _ rfl, satisfies]
    | _ => simp only [Operator.holds, satisfies]
  · rw [Operator.holds, satisfies]
    assumption
  · cases value with
    | array items =>
        rw [satisfies]
        split
        · exact congrArg items.any (funext fun item => compileTest_holds operand item)
        · exact congrArg items.any (funext fun item => compile_holds operand (.value item))
    | _ => split <;> simp only [Operator.holds, satisfies]
  · cases value with
    | array items => rw [Operator.holds, satisfies, compileTest_holds operand]
    | _ => simp only [Operator.holds, satisfies]
  · rw [Operator.holds, compileTest_holds operand, satisfies]
  · rw [simpleOperator_holds, satisfies] <;> assumption
termination_by (sizeOf operand, 1)
decreasing_by
  · subst hoperand
    exact Prod.Lex.left _ _ (sizeOf_item_lt htest)
  all_goals exact Prod.Lex.right _ Nat.zero_lt_one

end

end Compiled

/-! ## Negation -/

/-- The condition that a path leads to a value which satisfies one operator. -/
def ofOperator (path name : String) (operand : Json) : Condition :=
  ofClause path (.object [(name, operand)])

section Negation

variable {groups : SavedGroups} {subject : Subject} {path : String}

theorem ofClause_holds (hpath : isPath path = true) (test : Json) :
    (ofClause path test).holds subject groups = passes groups test (subject.lookup ⟨path⟩) := by
  have hclause : meetsClause groups path test subject =
      passes groups test (subject.lookup ⟨path⟩) := by
    simp only [isPath, List.mem_cons, List.not_mem_nil, or_false, not_or, decide_eq_true_eq]
      at hpath
    rw [meetsClause] <;> simp only [hpath, false_implies, implies_true]
  show (compile (.object [(path, test)])).holds groups subject = _
  rw [compile_holds, meets, List.map_cons, List.map_nil, hclause]
  exact Bool.and_true _

theorem ofOperator_holds (hpath : isPath path = true) {name : String}
    (hname : name.toList.head? = some '$') (operand : Json) :
    (ofOperator path name operand).holds subject groups =
      satisfies groups name operand (subject.lookup ⟨path⟩) := by
  have hoperators : isOperatorObject (.object [(name, operand)]) = true := by
    simp [isOperatorObject, hname]
  rw [ofOperator, ofClause_holds hpath, passes, if_pos hoperators, List.map_cons, List.map_nil]
  exact Bool.and_true _

theorem simpleOperator_reading (hpath : isPath path = true) {name : String}
    (hname : name.toList.head? = some '$')
    (hsimple : name ∉ ["$all", "$elemMatch", "$size", "$not"]) (operand : Json) :
    (ofOperator path name operand).holds subject groups =
      satisfiesSimple groups name operand (subject.lookup ⟨path⟩) := by
  simp only [List.mem_cons, List.not_mem_nil, or_false, not_or] at hsimple
  rw [ofOperator_holds hpath hname, satisfies] <;>
    simp only [hsimple, false_implies, implies_true]

theorem onValues_of_asArray?_eq_none {operand : Json} (hoperand : operand.asArray? = none)
    (holds : List Value → Bool) : onValues operand holds = false := by
  cases operand with
  | array items => cases hoperand
  | _ => rfl

theorem onText_of_asString?_eq_none {operand : Json} (hoperand : operand.asString? = none)
    (holds : String → Bool) : onText operand holds = false := by
  cases operand with
  | string s => cases hoperand
  | _ => rfl

end Negation

/-- **Conditions are read as they are written.**  Compiling a tree and evaluating the
result is reading the tree directly, whatever the tree, the subject and the groups.
In particular, at every path, `$not` negates any test; `$nin` negates `$in` and
`$notInGroup` negates `$inGroup` on operands of the right form, and none of the four
is satisfied on others. -/
theorem holds_eq_meets (groups : SavedGroups) (subject : Subject) :
    (∀ source, (ofJson source).holds subject groups = meets groups source subject) ∧
      ∀ path, isPath path = true →
        (∀ test, (ofOperator path "$not" test).holds subject groups =
          !(ofClause path test).holds subject groups) ∧
        (∀ items, (ofOperator path "$nin" (.array items)).holds subject groups =
          !(ofOperator path "$in" (.array items)).holds subject groups) ∧
        (∀ group, (ofOperator path "$notInGroup" (.string group)).holds subject groups =
          !(ofOperator path "$inGroup" (.string group)).holds subject groups) ∧
        (∀ operand, operand.asArray? = none →
          (ofOperator path "$in" operand).holds subject groups = false ∧
            (ofOperator path "$nin" operand).holds subject groups = false) ∧
        ∀ operand, operand.asString? = none →
          (ofOperator path "$inGroup" operand).holds subject groups = false ∧
            (ofOperator path "$notInGroup" operand).holds subject groups = false := by
  refine ⟨fun source => compile_holds groups source subject, fun path hpath => ?_⟩
  refine ⟨fun test => ?_, fun items => ?_, fun group => ?_, fun operand hoperand => ?_,
    fun operand hoperand => ?_⟩
  · rw [ofOperator_holds hpath rfl, ofClause_holds hpath, satisfies]
  · rw [simpleOperator_reading hpath rfl (by decide), simpleOperator_reading hpath rfl (by decide)]
    rfl
  · rw [simpleOperator_reading hpath rfl (by decide), simpleOperator_reading hpath rfl (by decide)]
    rfl
  · rw [simpleOperator_reading hpath rfl (by decide), simpleOperator_reading hpath rfl (by decide)]
    simp only [satisfiesSimple, onValues_of_asArray?_eq_none hoperand, and_self]
  · rw [simpleOperator_reading hpath rfl (by decide), simpleOperator_reading hpath rfl (by decide)]
    simp only [satisfiesSimple, onText_of_asString?_eq_none hoperand, and_self]

/-- A user without a country is in no list of countries, hence not in any, and an operand
that is no list is satisfied by neither operator. -/
theorem holds_eq_meets_of_unknown :
    let user : Subject := .attributes [("id", .string "user1")]
    let countries : Json := .array [.string "DE"]
    (ofOperator "country" "$nin" countries).holds user [] =
        !(ofOperator "country" "$in" countries).holds user [] ∧
      (ofOperator "country" "$nin" (.string "DE")).holds user [] = false := by
  intro user countries
  obtain ⟨-, hnegation⟩ := holds_eq_meets [] user
  obtain ⟨-, hlists, -, hmalformed, -⟩ := hnegation "country" (by decide)
  exact ⟨hlists [.string "DE"], (hmalformed (.string "DE") rfl).2⟩

end FeatureFlags.Condition
