import FeatureFlags.Proofs.Assignment.Coherence
import FeatureFlags.Proofs.Evaluation.Rules

/-!
# Where the value of a feature comes from

A result names the source of its value.  `FeatureResult.Origin` is what the definitions have to
say about it: the feature is not defined, or one of its rules applies after all rules before it
have been passed over, or all of them have been passed over.  Every evaluation has such an origin
(`origin_evaluateFeature`), and what the source of a result stands for can be read off it
(`explained_evaluateFeature`).

Rules that are passed over do not only keep somebody out: a rule with neither a forced value nor
variations is passed over for everybody (`default_behind_blank_rule`).
-/

namespace FeatureFlags

/-- Evaluating a feature gets as far as one of its rules, on the store that the rules before it
leave. -/
def Context.Reaches (context : Context) (key : String) (store : Persistence) (rule : FeatureRule)
    (between : Persistence) : Prop :=
  ∃ feature earlier later, Dictionary.get? context.features key = some feature ∧
    feature.rules = earlier ++ rule :: later ∧ PassedOver context key earlier store between

namespace FeatureResult

/-! ## Sources -/

/-- A rule serves the value to everyone whom it is open to and its rollout includes. -/
structure IsForcedBy (result : FeatureResult) (context : Context) (key : String)
    (rule : FeatureRule) : Prop where
  force_eq : rule.force = some result.value
  ruleId_eq : result.ruleId = rule.id
  isOpen : rule.IsOpenTo context
  includes : (rule.rollout key).includes context.arithmetic context.attributes = true

/-- The value is that of the variation which the user is assigned in the experiment of a rule. -/
structure IsAssignedBy (result : FeatureResult) (context : Context) (key : String)
    (rule : FeatureRule) (store : Persistence) (experiment : Experiment)
    (assignment : ExperimentResult) : Prop where
  forcesNothing : rule.force = none
  toExperiment?_eq : rule.toExperiment? key = some experiment
  ruleId_eq : result.ruleId = rule.id
  isOpen : rule.IsOpenTo context
  experiment_eq : result.experiment = some experiment
  experimentResult_eq : result.experimentResult = some assignment
  assignment_eq : (runExperiment context experiment (some key) store).result = assignment
  takesPart : assignment.inExperiment = true
  isServed : assignment.passthrough = false
  value_eq : result.value = assignment.value
  variation_eq : experiment.variations[assignment.variationId]? = some assignment.value

/-- The value is the default, and no rule of the feature applies. -/
structure IsDefaultOf (result : FeatureResult) (context : Context) (key : String)
    (feature : Feature) (store : Persistence) : Prop where
  value_eq : result.value = feature.defaultValue
  passesOver : ∃ final, PassedOver context key feature.rules store final

/-! ## Origins -/

/-- How a feature comes to its result. -/
inductive Origin (context : Context) (key : String) (store : Persistence) : FeatureResult → Prop
  | unknown (habsent : Dictionary.get? context.features key = none) :
      Origin context key store unknownFeature
  | rule {rule : FeatureRule} {between : Persistence} {result : FeatureResult}
      (hreaches : context.Reaches key store rule between)
      (happlies : rule.Applies context key between result) : Origin context key store result
  | default {feature : Feature} {final : Persistence}
      (hfeature : Dictionary.get? context.features key = some feature)
      (hpassed : PassedOver context key feature.rules store final) :
      Origin context key store (ofValue feature.defaultValue .defaultValue)

namespace Origin

variable {context : Context} {key : String} {store : Persistence} {result : FeatureResult}

theorem on_eq (h : Origin context key store result) :
    result.on = result.value.isTruthy ∧ result.off = !result.on := by
  cases h with
  | unknown habsent => exact ⟨rfl, rfl⟩
  | rule hreaches happlies => cases happlies <;> exact ⟨rfl, rfl⟩
  | default hfeature hpassed => exact ⟨rfl, rfl⟩

theorem unknownFeature_iff (h : Origin context key store result) :
    result.source = .unknownFeature ↔ Dictionary.get? context.features key = none := by
  cases h with
  | unknown habsent => exact iff_of_true rfl habsent
  | rule hreaches happlies =>
      obtain ⟨feature, -, -, hfeature, -⟩ := hreaches
      refine iff_of_false ?_ (hfeature ▸ nofun)
      cases happlies <;> exact nofun
  | default hfeature hpassed => exact iff_of_false nofun (hfeature ▸ nofun)

theorem value_of_unknownFeature (h : Origin context key store result)
    (hsource : result.source = .unknownFeature) : result.value = .null := by
  cases h with
  | unknown habsent => rfl
  | rule hreaches happlies => cases happlies <;> cases hsource
  | default hfeature hpassed => cases hsource

theorem isForcedBy (h : Origin context key store result) (hsource : result.source = .force) :
    ∃ rule between, context.Reaches key store rule between ∧
      result.IsForcedBy context key rule := by
  cases h with
  | unknown habsent => cases hsource
  | rule hreaches happlies =>
      cases happlies with
      | forces hopen hforce hincludes => exact ⟨_, _, hreaches, hforce, rfl, hopen, hincludes⟩
      | assigns => cases hsource
  | default hfeature hpassed => cases hsource

theorem isAssignedBy (h : Origin context key store result)
    (hsource : result.source = .experiment) :
    ∃ rule between experiment assignment, context.Reaches key store rule between ∧
      result.IsAssignedBy context key rule between experiment assignment := by
  cases h with
  | unknown habsent => cases hsource
  | rule hreaches happlies =>
      cases happlies with
      | forces => cases hsource
      | @assigns experiment assignment hopen hforce hexperiment hassignment htakesPart hserved =>
          refine ⟨_, _, experiment, assignment, hreaches, hforce, hexperiment, rfl, hopen, rfl, rfl,
            hassignment, htakesPart, hserved, rfl, ?_⟩
          -- Whoever takes part has the index of a variation, so the experiment has variations.
          subst hassignment
          let run : ExperimentRun := ⟨context, experiment, some key⟩
          obtain ⟨-, hknown, -⟩ := @ExperimentRun.takesPart_cases run _ htakesPart
          exact (run.describes_on (List.ne_nil_of_length_pos (Nat.zero_lt_of_lt hknown))).value_eq
  | default hfeature hpassed => cases hsource

theorem isDefaultOf (h : Origin context key store result)
    (hsource : result.source = .defaultValue) :
    ∃ feature, Dictionary.get? context.features key = some feature ∧
      result.IsDefaultOf context key feature store := by
  cases h with
  | unknown habsent => cases hsource
  | rule hreaches happlies => cases happlies <;> cases hsource
  | default hfeature hpassed => exact ⟨_, hfeature, rfl, _, hpassed⟩

theorem experiment_eq_none (h : Origin context key store result)
    (hsource : result.source ≠ .experiment) :
    result.experiment = none ∧ result.experimentResult = none := by
  cases h with
  | unknown habsent => exact ⟨rfl, rfl⟩
  | rule hreaches happlies =>
      cases happlies with
      | forces => exact ⟨rfl, rfl⟩
      | assigns => exact absurd rfl hsource
  | default hfeature hpassed => exact ⟨rfl, rfl⟩

end Origin

end FeatureResult

/-! ## Evaluating -/

theorem origin_evaluateFeature (context : Context) (key : String) (store : Persistence) :
    FeatureResult.Origin context key store (evaluateFeature context key store).result := by
  unfold evaluateFeature
  cases hfeature : Dictionary.get? context.features key with
  | none => exact .unknown hfeature
  | some feature =>
      simp only [Feature.evaluate]
      cases hresult : (evaluateRules context key feature.rules store).result with
      | none =>
          obtain ⟨final, hpassed⟩ := evaluateRules_eq_none_iff.mp hresult
          exact .default hfeature hpassed
      | some result =>
          obtain ⟨earlier, rule, later, between, hrules, hearlier, happlies⟩ :=
            evaluateRules_eq_some_iff.mp hresult
          exact .rule ⟨feature, earlier, later, hfeature, hrules, hearlier⟩ happlies

/-- **Every result is explained by the definitions.** -/
theorem explained_evaluateFeature (context : Context) (key : String) (store : Persistence) :
    let result := (evaluateFeature context key store).result
    (result.on = result.value.isTruthy ∧ result.off = !result.on) ∧
      (result.source = .unknownFeature ↔ Dictionary.get? context.features key = none) ∧
      (result.source = .unknownFeature → result.value = .null) ∧
      (result.source = .force → ∃ rule between, context.Reaches key store rule between ∧
        result.IsForcedBy context key rule) ∧
      (result.source = .experiment → ∃ rule between experiment assignment,
        context.Reaches key store rule between ∧
          result.IsAssignedBy context key rule between experiment assignment) ∧
      (result.source = .defaultValue → ∃ feature,
        Dictionary.get? context.features key = some feature ∧
          result.IsDefaultOf context key feature store) ∧
      (result.source ≠ .experiment →
        result.experiment = none ∧ result.experimentResult = none) := by
  intro result
  have horigin : FeatureResult.Origin context key store result :=
    origin_evaluateFeature context key store
  exact ⟨horigin.on_eq, horigin.unknownFeature_iff, horigin.value_of_unknownFeature,
    horigin.isForcedBy, horigin.isAssignedBy, horigin.isDefaultOf, horigin.experiment_eq_none⟩

/-- A default value is served although the only rule has no filter, no condition and no rollout
that keeps the user out, and describes no experiment. -/
theorem default_behind_blank_rule :
    let feature : Feature := { defaultValue := .number (.ofNat 0), rules := [.blank] }
    let context : Context :=
      { apiKey := "", hostUrl := "", attributes := [("id", .string "user1")]
        features := [("f", feature)] }
    let result := (evaluateFeature context "f" {}).result
    ¬ (result.source = .defaultValue → ∀ rule ∈ feature.rules,
        (∃ filter ∈ rule.filters,
            filter.admits context.arithmetic context.attributes = false) ∨
          (∃ condition, rule.condition = some condition ∧
            condition.holds (.attributes context.attributes) context.savedGroups = false) ∨
          (rule.rollout "f").includes context.arithmetic context.attributes = false ∨
          ∃ experiment store, rule.toExperiment? "f" = some experiment ∧
            ((runExperiment context experiment (some "f") store).result.inExperiment = false ∨
              (runExperiment context experiment (some "f") store).result.passthrough =
                true)) := by
  intro feature context result hexplained
  rcases hexplained rfl .blank (List.mem_singleton_self _) with
    ⟨_, hfilter, -⟩ | ⟨_, hcondition, -⟩ | hrollout | ⟨_, _, hexperiment, -⟩
  · cases hfilter
  · cases hcondition
  · cases hrollout
  · cases hexperiment

end FeatureFlags
