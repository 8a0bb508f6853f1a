import FeatureFlags.Assignment

/-!
# Evaluating features

The rules of a feature are tried in order.  A rule does not apply if a filter keeps the user out,
its condition does not match, its rollout does not reach the user, or its experiment excludes the
user or assigns a variation that is only passed through.  The first rule that applies determines
the value; if none does, it is the default value.

A rule that does not apply may still have run an experiment, whose sticky assignment later rules
see.
-/

namespace FeatureFlags

/-- Whether the filters and the condition of a rule let the user through. -/
def FeatureRule.admits (context : Context) (rule : FeatureRule) : Bool :=
  if isFilteredOut context.arithmetic rule.filters context.attributes then false
  else
    match rule.condition with
    | some condition => condition.holds (.attributes context.attributes) context.savedGroups
    | none => true

/-- The rollout of a rule with a forced value. -/
def FeatureRule.rollout (rule : FeatureRule) (featureKey : String) : Rollout :=
  { seed := rule.seed.getD featureKey
    hashAttribute := rule.hashAttribute
    fallbackAttribute := rule.fallbackAttribute
    hashVersion := rule.hashVersion
    range := rule.range
    coverage := rule.coverage }

/-- The result of a rule that serves a forced value. -/
def FeatureRule.forcedResult (rule : FeatureRule) (value : Value) : FeatureResult :=
  { FeatureResult.ofValue value .force with ruleId := rule.id }

/-- The result of a rule whose experiment has assigned the user. -/
def FeatureRule.experimentResult (rule : FeatureRule) (experiment : Experiment)
    (result : ExperimentResult) : FeatureResult :=
  { FeatureResult.ofValue result.value .experiment with
    ruleId := rule.id
    experiment := some experiment
    experimentResult := some result }

/-- Tries one rule; it has no result if it does not apply. -/
def evaluateRule (context : Context) (featureKey : String) (rule : FeatureRule)
    (store : Persistence) : Evaluation (Option FeatureResult) :=
  if !rule.admits context then ⟨none, [], store⟩
  else
    match rule.force with
    | some value =>
      if (rule.rollout featureKey).includes context.arithmetic context.attributes then
        ⟨some (rule.forcedResult value), [], store⟩
      else ⟨none, [], store⟩
    | none =>
      match rule.toExperiment? featureKey with
      | none => ⟨none, [], store⟩
      | some experiment =>
        let run := runExperiment context experiment (some featureKey) store
        let applies := run.result.inExperiment && !run.result.passthrough
        ⟨if applies then some (rule.experimentResult experiment run.result) else none,
          run.exclusions, run.store⟩

/-- Tries rules in order until one applies. -/
def evaluateRules (context : Context) (featureKey : String) :
    List FeatureRule → Persistence → Evaluation (Option FeatureResult)
  | [], store => ⟨none, [], store⟩
  | rule :: rest, store =>
    let first := evaluateRule context featureKey rule store
    match first.result with
    | some _ => first
    | none =>
      let later := evaluateRules context featureKey rest first.store
      ⟨later.result, first.exclusions ++ later.exclusions, later.store⟩

/-- Evaluates a feature that is defined. -/
def Feature.evaluate (feature : Feature) (context : Context) (key : String)
    (store : Persistence) : Evaluation FeatureResult :=
  let run := evaluateRules context key feature.rules store
  ⟨run.result.getD (FeatureResult.ofValue feature.defaultValue .defaultValue), run.exclusions,
    run.store⟩

/-- Evaluates the feature with the given key for the user of a context. -/
def evaluateFeature (context : Context) (key : String) (store : Persistence) :
    Evaluation FeatureResult :=
  match Dictionary.get? context.features key with
  | some feature => feature.evaluate context key store
  | none => ⟨FeatureResult.unknownFeature, [], store⟩

end FeatureFlags
