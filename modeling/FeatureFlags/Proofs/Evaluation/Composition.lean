import FeatureFlags.Proofs.Evaluation.Rules

/-!
# Rules one after another

A rule that is passed over is not free of effects: its experiment may have read the sticky store,
and may have written to it although the user is passed through.  What comes after a rule is tried
on the store that the rule leaves, and only if the rule does not apply.  `Evaluation.orElse` is
that connection, and it is associative (`Evaluation.orElse_assoc`): whether the rules of a list are
tried one by one, or its first part before the rest, comes to the same.

A feature has a default value at the end of its rules, which is no rule and comes with a source of
its own.  So the source of a result tells whether a rule has applied, and a feature may be cut
between any two of its rules (`evaluateFeature_append`).
-/

namespace FeatureFlags

/-! ## Trying one thing after another -/

namespace Evaluation

variable {α : Type}

/-- Goes on with something else, on the store that is left, if there is no result yet. -/
def orElse (first : Evaluation (Option α)) (next : Persistence → Evaluation (Option α)) :
    Evaluation (Option α) :=
  match first.result with
  | some _ => first
  | none =>
    let later := next first.store
    ⟨later.result, first.exclusions ++ later.exclusions, later.store⟩

variable {first : Evaluation (Option α)} {next : Persistence → Evaluation (Option α)}

theorem orElse_of_some {result : α} (h : first.result = some result) :
    first.orElse next = first := by
  simp only [orElse, h]

theorem orElse_of_none (h : first.result = none) :
    first.orElse next =
      ⟨(next first.store).result, first.exclusions ++ (next first.store).exclusions,
        (next first.store).store⟩ := by
  simp only [orElse, h]

theorem orElse_mk_some (result : α) (exclusions : List (String × Exclusion)) (store : Persistence)
    (next : Persistence → Evaluation (Option α)) :
    (⟨some result, exclusions, store⟩ : Evaluation (Option α)).orElse next =
      ⟨some result, exclusions, store⟩ := rfl

theorem orElse_mk_none (exclusions : List (String × Exclusion)) (store : Persistence)
    (next : Persistence → Evaluation (Option α)) :
    (⟨none, exclusions, store⟩ : Evaluation (Option α)).orElse next =
      ⟨(next store).result, exclusions ++ (next store).exclusions, (next store).store⟩ := rfl

theorem orElse_assoc (first : Evaluation (Option α))
    (next last : Persistence → Evaluation (Option α)) :
    (first.orElse next).orElse last = first.orElse fun store => (next store).orElse last := by
  cases hfirst : first.result with
  | some result => rw [orElse_of_some hfirst, orElse_of_some hfirst, orElse_of_some hfirst]
  | none =>
      rw [orElse_of_none hfirst, orElse_of_none hfirst]
      cases hnext : (next first.store).result with
      | some result => rw [orElse_of_some hnext, orElse_of_some rfl, hnext]
      | none =>
          rw [orElse_of_none hnext, orElse_of_none rfl]
          simp only [List.append_assoc]

end Evaluation

/-! ## Rules -/

section Rules

variable (context : Context) (featureKey : String)

theorem evaluateRules_cons (rule : FeatureRule) (rest : List FeatureRule) (store : Persistence) :
    evaluateRules context featureKey (rule :: rest) store =
      (evaluateRule context featureKey rule store).orElse
        (evaluateRules context featureKey rest) := by
  cases hrule : (evaluateRule context featureKey rule store).result with
  | some result => simp only [evaluateRules, hrule, Evaluation.orElse_of_some hrule]
  | none => simp only [evaluateRules, hrule, Evaluation.orElse_of_none hrule]

/-- **Rules compose in order.** -/
theorem evaluateRules_append (rules more : List FeatureRule) (store : Persistence) :
    evaluateRules context featureKey (rules ++ more) store =
      (evaluateRules context featureKey rules store).orElse
        (evaluateRules context featureKey more) := by
  induction rules generalizing store with
  | nil => rfl
  | cons rule rest ih =>
      rw [List.cons_append, evaluateRules_cons, evaluateRules_cons, Evaluation.orElse_assoc]
      exact congrArg _ (funext ih)

end Rules

/-! ## Features -/

section Features

variable {context : Context} {featureKey : String} {rules : List FeatureRule}
  {store : Persistence} {result : FeatureResult}

/-- No rule names the default value as its source. -/
theorem FeatureRule.Applies.source_ne_defaultValue {rule : FeatureRule}
    (h : rule.Applies context featureKey store result) : result.source ≠ .defaultValue := by
  cases h <;> exact nofun

theorem source_evaluateRules_ne_defaultValue
    (h : (evaluateRules context featureKey rules store).result = some result) :
    result.source ≠ .defaultValue := by
  obtain ⟨_, _, _, _, -, -, happlies⟩ := evaluateRules_eq_some_iff.mp h
  exact happlies.source_ne_defaultValue

/-- The context with a feature under a key, in place of what may be there. -/
def Context.defining (context : Context) (key : String) (feature : Feature) : Context :=
  { context with features := Dictionary.insert key feature context.features }

/-- Rules do not look at features. -/
theorem evaluateRules_defining (context : Context) (key : String) (feature : Feature)
    (rules : List FeatureRule) (store : Persistence) :
    evaluateRules (context.defining key feature) featureKey rules store =
      evaluateRules context featureKey rules store := by
  induction rules generalizing store with
  | nil => rfl
  | cons rule rest ih =>
      rw [evaluateRules_cons, evaluateRules_cons, funext ih]
      rfl

theorem evaluateFeature_defining (context : Context) (key : String) (feature : Feature)
    (store : Persistence) :
    evaluateFeature (context.defining key feature) key store =
      feature.evaluate context key store := by
  have hfeature : Dictionary.get? (context.defining key feature).features key = some feature :=
    (Dictionary.get?_insert ..).trans (if_pos rfl)
  simp only [evaluateFeature, hfeature, Feature.evaluate, evaluateRules_defining]

/-- **A feature may be cut between its rules.**  A feature with some rules and then more rules gives
what it gives with the former alone, in its result, its exclusions and the store that it leaves,
unless that is the default value.  Then it gives what it gives with the latter alone on the store
that is left by the former. -/
theorem evaluateFeature_append (context : Context) (key : String) (defaultValue : Value)
    (rules more : List FeatureRule) (store : Persistence) :
    let first := evaluateFeature (context.defining key ⟨defaultValue, rules⟩) key store
    let second := evaluateFeature (context.defining key ⟨defaultValue, more⟩) key first.store
    evaluateFeature (context.defining key ⟨defaultValue, rules ++ more⟩) key store =
      if first.result.source = .defaultValue then
        ⟨second.result, first.exclusions ++ second.exclusions, second.store⟩
      else first := by
  intro first second
  simp only [first, second, evaluateFeature_defining, Feature.evaluate, evaluateRules_append]
  cases hrules : (evaluateRules context key rules store).result with
  | some result =>
      have hsource := source_evaluateRules_ne_defaultValue hrules
      rw [Evaluation.orElse_of_some hrules, hrules, Option.getD_some, if_neg hsource]
  | none =>
      rw [Evaluation.orElse_of_none hrules, Option.getD_none]
      exact (if_pos rfl).symm

/-- The user is passed through the first experiment, and what it has written decides the second
one, whose weights would have given the other variation. -/
example :
    let context : Context :=
      { apiKey := "", hostUrl := "", attributes := [("id", .string "user1")], sticky := some {} }
    let letters := { FeatureRule.blank with
      key := some "t1", variations := some [.string "A", .string "B"] }
    let passing := { letters with details := [⟨none, none, true⟩] }
    let tilted := { letters with weights := some [.finite (1 / 10), .finite (9 / 10)] }
    let variation := fun rules => ((evaluateFeature (context.defining "f" ⟨.null, rules⟩) "f"
      {}).result.experimentResult.map (·.variationId))
    variation [passing] = none ∧ variation [tilted] = some 1 ∧
      variation ([passing] ++ [tilted]) = some 0 := by
  decide +kernel

end Features

end FeatureFlags
