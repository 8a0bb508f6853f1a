import FeatureFlags.Proofs.Assignment.Exclusion
import FeatureFlags.Proofs.Condition.Clauses
import FeatureFlags.Proofs.Evaluation.Rules

/-!
# Experiments of rules and experiments on their own

A rule with variations runs an experiment that carries everything but the condition of the rule,
which has been asked about before.  The host may run the same experiment on its own, and then the
condition is part of it.  Where nothing is remembered it does not matter that filters and
condition come first on one way: they keep out the same users.

It does matter that the host may replace the condition of an experiment.  An experiment on its own
goes by the condition of the host alone; for the experiment of a rule the condition of the rule
has been asked about by then, and goes on counting.  `reports_iff_serves` says that this is the
only difference, and `served_but_not_reported` that it is one.
-/

namespace FeatureFlags

/-- The experiment with another condition. -/
def Experiment.under (experiment : Experiment) (condition : Option Condition) : Experiment :=
  { experiment with condition }

/-- The host puts a condition of its own in the place of that of an experiment. -/
def Context.ReplacesCondition (context : Context) (experiment : Experiment) : Prop :=
  ∃ override condition, Dictionary.get? context.overrides experiment.trackingKey = some override ∧
    override.condition = some condition

/-! ## Conditions that hold -/

section Conditions

variable {context : Context} {experiment : Experiment} {first second : Option Condition}

/-- Two conditions that hold come to the same decision. -/
theorem Experiment.decide_under_congr
    (hfirst : (experiment.under first).conditionHolds context = true)
    (hsecond : (experiment.under second).conditionHolds context = true) (store : Persistence) :
    (experiment.under first).decide context store =
      (experiment.under second).decide context store := by
  have hafresh (hashValue : String) :
      (experiment.under first).decideAfresh context hashValue =
        (experiment.under second).decideAfresh context hashValue := by
    unfold decideAfresh
    rw [hfirst, hsecond]
    rfl
  unfold decide
  simp only [hafresh]
  rfl

/-- A condition of the host stands for whatever the experiment had. -/
theorem Context.overridden_under_of_replaces (h : context.ReplacesCondition experiment)
    (first second : Option Condition) :
    context.overridden (experiment.under first) =
      context.overridden (experiment.under second) := by
  obtain ⟨override, condition, hoverride, hcondition⟩ := h
  have hkey (condition : Option Condition) :
      (experiment.under condition).trackingKey = experiment.trackingKey := rfl
  simp only [overridden, hkey, hoverride, Experiment.applyOverride, hcondition, Option.some_or]
  rfl

/-- Without a condition of the host the experiment keeps its own. -/
theorem Context.overridden_under (h : ¬ context.ReplacesCondition experiment)
    (condition : Option Condition) :
    context.overridden (experiment.under condition) =
      (context.overridden experiment).under condition := by
  have hkey : (experiment.under condition).trackingKey = experiment.trackingKey := rfl
  unfold overridden
  rw [hkey]
  cases hoverride : Dictionary.get? context.overrides experiment.trackingKey with
  | none => rfl
  | some override =>
      cases hcondition : override.condition with
      | none =>
          simp only [Experiment.applyOverride, hcondition, Option.none_or]
          rfl
      | some other => exact absurd ⟨override, other, hoverride, hcondition⟩ h

/-- An experiment runs alike under two conditions that hold, whatever the host replaces. -/
theorem runExperiment_under_congr
    (hfirst : (experiment.under first).conditionHolds context = true)
    (hsecond : (experiment.under second).conditionHolds context = true)
    (featureId : Option String) (store : Persistence) :
    (runExperiment context (experiment.under first) featureId store).result =
      (runExperiment context (experiment.under second) featureId store).result := by
  by_cases hreplaces : context.ReplacesCondition experiment
  · simp only [runExperiment, Context.overridden_under_of_replaces hreplaces first second]
  · simp only [runExperiment, Context.overridden_under hreplaces]
    have hdecide : ((context.overridden experiment).under first).decide context store =
        ((context.overridden experiment).under second).decide context store :=
      @Experiment.decide_under_congr context (context.overridden experiment) first second hfirst
        hsecond store
    rw [hdecide]
    cases ((context.overridden experiment).under second).decide context store <;> rfl

end Conditions

/-! ## The two ways to run an experiment -/

/-- An experiment on its own has the given result for the user of a context, and the result counts
for the feature that it is run for. -/
structure Experiment.Serves (experiment : Experiment) (context : Context) (featureKey : String)
    (store : Persistence) (assignment : ExperimentResult) : Prop where
  result_eq : (runExperiment context experiment (some featureKey) store).result = assignment
  takesPart : assignment.inExperiment = true
  isServed : assignment.passthrough = false

/-- A feature reports the result of an experiment as the source of its value. -/
structure FeatureResult.Reports (result : FeatureResult) (assignment : ExperimentResult) :
    Prop where
  source_eq : result.source = .experiment
  experimentResult_eq : result.experimentResult = some assignment

variable {context : Context} {key : String} {feature : Feature} {rule : FeatureRule}
  {experiment : Experiment} {store : Persistence} {assignment : ExperimentResult}

/-- Where nothing is remembered, an experiment serves those alone who pass its filters and meet its
condition, which may be that of the host. -/
theorem Experiment.Serves.isOpen (hforgetful : context.sticky = none)
    (h : experiment.Serves context key store assignment) :
    (∀ filter ∈ experiment.filters,
        filter.admits context.arithmetic context.attributes = true) ∧
      (context.overridden experiment).conditionHolds context = true := by
  obtain ⟨rfl, htakesPart, -⟩ := h
  obtain ⟨-, -, -, bucket, hadmits⟩ :=
    @ExperimentRun.isAssigned_of_forgetful ⟨context, experiment, some key⟩ store hforgetful
      htakesPart
  obtain ⟨hpasses, -⟩ := Experiment.outOfReach_eq_none_iff.mp hadmits.isReached
  rw [ExperimentRun.effective, context.overridden_filters] at hpasses
  exact ⟨hpasses, hadmits.conditionHolds⟩

/-- A feature with a single rule reports the experiment that the rule runs for those whom it is
open to. -/
theorem reports_iff_isOpenTo (hfeature : Dictionary.get? context.features key = some feature)
    (hrules : feature.rules = [rule]) (hforce : rule.force = none)
    (hexperiment : rule.toExperiment? key = some experiment) :
    (evaluateFeature context key store).result.Reports assignment ↔
      rule.IsOpenTo context ∧ experiment.Serves context key store assignment := by
  have hevaluates : (evaluateFeature context key store).result =
      (evaluateRule context key rule store).result.getD
        (.ofValue feature.defaultValue .defaultValue) := by
    simp only [evaluateFeature, hfeature, Feature.evaluate, hrules, evaluateRules]
    cases hresult : (evaluateRule context key rule store).result with
    | none => rfl
    | some result => rw [hresult]
  -- the only rule has the last word, unless it is passed over
  rw [hevaluates]
  constructor
  · intro hreports
    cases hresult : (evaluateRule context key rule store).result with
    | none =>
        -- a default value is no report of an experiment
        rw [hresult] at hreports
        cases hreports.source_eq
    | some result =>
        rw [hresult, Option.getD_some] at hreports
        cases evaluateRule_eq_some_iff.mp hresult with
        | forces => cases hreports.source_eq
        | assigns hopen _ hexperiment' hassignment htakesPart hserved =>
            cases hexperiment.symm.trans hexperiment'
            cases hreports.experimentResult_eq
            exact ⟨hopen, hassignment, htakesPart, hserved⟩
  · rintro ⟨hopen, hassignment, htakesPart, hserved⟩
    have happlies : rule.Applies context key store (rule.experimentResult experiment assignment) :=
      .assigns hopen hforce hexperiment hassignment htakesPart hserved
    rw [happlies.result_eq]
    exact ⟨rfl, rfl⟩

/-- The experiment of a rule has the filters of the rule and no condition. -/
theorem FeatureRule.toExperiment?_spec (hexperiment : rule.toExperiment? key = some experiment) :
    experiment.filters = rule.filters ∧ experiment.under none = experiment := by
  obtain ⟨variations, -, rfl⟩ := Option.map_eq_some_iff.mp hexperiment
  exact ⟨rfl, rfl⟩

/-- The condition of an experiment on its own is that of the rule. -/
theorem Experiment.conditionHolds_under_iff :
    (experiment.under rule.condition).conditionHolds context = true ↔
      ∀ condition, rule.condition = some condition →
        condition.holds (.attributes context.attributes) context.savedGroups = true := by
  unfold conditionHolds under
  cases rule.condition with
  | none => exact iff_of_true rfl nofun
  | some condition => simp

/-- A condition of the rule that holds makes no difference to what its experiment serves. -/
theorem FeatureRule.serves_under_iff (hexperiment : rule.toExperiment? key = some experiment)
    (hholds : (experiment.under rule.condition).conditionHolds context = true) :
    experiment.Serves context key store assignment ↔
      (experiment.under rule.condition).Serves context key store assignment := by
  have hresult : (runExperiment context experiment (some key) store).result =
      (runExperiment context (experiment.under rule.condition) (some key) store).result := by
    obtain ⟨-, hunder⟩ := FeatureRule.toExperiment?_spec hexperiment
    -- No condition at all is one that holds.
    nth_rewrite 1 [← hunder]
    exact runExperiment_under_congr rfl hholds (some key) store
  constructor
  · rintro ⟨hassignment, htakesPart, hserved⟩
    exact ⟨hresult.symm.trans hassignment, htakesPart, hserved⟩
  · rintro ⟨hassignment, htakesPart, hserved⟩
    exact ⟨hresult.trans hassignment, htakesPart, hserved⟩

/-- **Features report what their experiments serve.**  Where nothing is remembered, a feature with
a single rule reports an assignment exactly if the experiment of the rule serves it on its own and
the condition of the rule holds.  The latter goes without saying unless the host puts a condition
in its place. -/
theorem reports_iff_serves (hforgetful : context.sticky = none)
    (hfeature : Dictionary.get? context.features key = some feature)
    (hrules : feature.rules = [rule]) (hforce : rule.force = none)
    (hexperiment : rule.toExperiment? key = some experiment) (store : Persistence)
    (assignment : ExperimentResult) :
    let standalone := experiment.under rule.condition
    ((evaluateFeature context key store).result.Reports assignment ↔
        standalone.conditionHolds context = true ∧
          standalone.Serves context key store assignment) ∧
      (¬ context.ReplacesCondition experiment →
        ((evaluateFeature context key store).result.Reports assignment ↔
          standalone.Serves context key store assignment)) := by
  intro standalone
  have hreports : (evaluateFeature context key store).result.Reports assignment ↔
      standalone.conditionHolds context = true ∧
        standalone.Serves context key store assignment := by
    rw [reports_iff_isOpenTo hfeature hrules hforce hexperiment]
    constructor
    · rintro ⟨hopen, hserves⟩
      have hholds : standalone.conditionHolds context = true :=
        Experiment.conditionHolds_under_iff.mpr hopen.meetsCondition
      exact ⟨hholds, (FeatureRule.serves_under_iff hexperiment hholds).mp hserves⟩
    · rintro ⟨hholds, hserves⟩
      -- On its own the experiment comes to its filters late, but it does come to them.
      obtain ⟨hpasses, -⟩ := hserves.isOpen hforgetful
      refine ⟨⟨?_, Experiment.conditionHolds_under_iff.mp hholds⟩,
        (FeatureRule.serves_under_iff hexperiment hholds).mpr hserves⟩
      rw [← (FeatureRule.toExperiment?_spec hexperiment).1]
      exact hpasses
  refine ⟨hreports, fun hkeeps => hreports.trans (and_iff_right_of_imp fun hserves => ?_)⟩
  obtain ⟨-, hholds⟩ := hserves.isOpen hforgetful
  rw [context.overridden_under hkeeps] at hholds
  exact hholds

/-! ## A host that replaces the condition -/

/-- A rule that has an experiment for users from the US. -/
def FeatureRule.forCountry : FeatureRule :=
  { FeatureRule.blank with
    key := some "t1", variations := some [.string "A", .string "B"]
    condition := some (.ofClause "country" (.string "US")) }

/-- The context of a user on the plan whose users the host lets into that experiment. -/
def Context.ofPlanUser (country : String) : Context :=
  { apiKey := "", hostUrl := ""
    attributes := [("country", .string country), ("id", .string "user1"), ("plan", .string "pro")]
    features := [("f", { defaultValue := .null, rules := [.forCountry] })]
    overrides := [("t1", { weights := none, coverage := none, force := none, active := none
                           condition := some (.ofClause "plan" (.string "pro")) })] }

/-- A user from the US on that plan takes part, and the feature reports it. -/
theorem reported_under_both_conditions :
    let context := Context.ofPlanUser "US"
    let experiment : Experiment := { key := "t1", variations := [.string "A", .string "B"] }
    let standalone := experiment.under FeatureRule.forCountry.condition
    context.ReplacesCondition experiment ∧
      (evaluateFeature context "f" {}).result.Reports
        (runExperiment context standalone (some "f") {}).result := by
  intro context experiment standalone
  obtain ⟨hreports, -⟩ := @reports_iff_serves context "f" _ .forCountry experiment rfl rfl rfl rfl
    rfl {} (runExperiment context standalone (some "f") {}).result
  refine ⟨⟨_, _, rfl, rfl⟩, hreports.mpr ⟨?_, rfl, ?_, ?_⟩⟩
  all_goals
    simp only [context, standalone, Context.ofPlanUser, FeatureRule.forCountry,
      Condition.ofClause_string "country" rfl,
      Condition.ofClause_string "plan" rfl]
    decide +kernel

/-- A user from France on that plan takes part in the experiment on its own, because the condition
of the host has replaced that of the rule; but the feature does not report it. -/
theorem served_but_not_reported :
    let context := Context.ofPlanUser "FR"
    let experiment : Experiment := { key := "t1", variations := [.string "A", .string "B"] }
    let standalone := experiment.under FeatureRule.forCountry.condition
    let assignment := (runExperiment context standalone (some "f") {}).result
    FeatureRule.forCountry.toExperiment? "f" = some experiment ∧
      ¬ ((evaluateFeature context "f" {}).result.Reports assignment ↔
        standalone.Serves context "f" {} assignment) := by
  intro context experiment standalone assignment
  have hserves : assignment.inExperiment = true ∧ assignment.passthrough = false := by
    simp only [assignment, context, standalone, Context.ofPlanUser, FeatureRule.forCountry,
      Condition.ofClause_string "country" rfl,
      Condition.ofClause_string "plan" rfl]
    decide +kernel
  have hsource : (evaluateFeature context "f" {}).result.source = .defaultValue := by
    simp only [context, Context.ofPlanUser, FeatureRule.forCountry,
      Condition.ofClause_string "country" rfl,
      Condition.ofClause_string "plan" rfl]
    decide +kernel
  refine ⟨rfl, fun hagree => ?_⟩
  have hreports := hagree.mpr ⟨rfl, hserves.1, hserves.2⟩
  cases hsource.symm.trans hreports.source_eq

end FeatureFlags
