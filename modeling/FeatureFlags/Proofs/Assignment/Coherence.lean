import FeatureFlags.Proofs.Assignment.Gates

/-!
# Coherent results

A run has many ways to end, and the index it ends with may come from the host, from the
experiment, from the store or from a list of ranges; none of them has to be the index of a
variation.  Whatever it is, the result is made in one place, `Experiment.resultOf`, and there
index, value, key and details are brought into line (`ExperimentResult.Describes`).

What a result says about taking part is read off the gates: whoever takes part has got as far as
the store (`ExperimentResult.TakesPartIn`), and whoever takes part without being remembered is
where the hash says (`ExperimentResult.FollowsHash`).  `coherent_runExperiment` puts all of it
together.
-/

namespace FeatureFlags

/-! ## What a result says -/

namespace ExperimentResult

/-- The result is about one variation of the experiment in everything it says. -/
structure Describes (result : ExperimentResult) (experiment : Experiment) : Prop where
  isKnown : result.variationId < experiment.variations.length
  value_eq : experiment.variations[result.variationId]? = some result.value
  key_eq : result.key = experiment.variationKey result.variationId
  name_eq : result.name = experiment.details[result.variationId]?.bind (·.name)
  passthrough_eq : result.passthrough =
    experiment.details[result.variationId]?.any (·.passthrough)

/-- Nothing keeps the user of the result from taking part: the experiment is one, nobody has
switched it off or decided it, and the user can be hashed. -/
structure TakesPartIn (result : ExperimentResult) (context : Context) (experiment : Experiment) :
    Prop where
  hasVariations : 2 ≤ experiment.variations.length
  isEnabled : context.enabled = true
  isActive : (context.overridden experiment).active = true
  notForced : Dictionary.get? context.forcedVariations experiment.trackingKey = none
  hashValue_eq : result.hashValue = context.attributes.hashText result.hashAttribute
  hashValue_ne : result.hashValue ≠ ""

/-- The bucket of the result is the hash of its user, and its variation the one that owns it. -/
def FollowsHash (result : ExperimentResult) (context : Context) (experiment : Experiment) : Prop :=
  ∃ bucket, result.bucket = some bucket ∧
    bucketHash context.arithmetic (experiment.seed.getD experiment.trackingKey) result.hashValue
      (experiment.hashVersion.getD 1) = some bucket ∧
    chooseVariation bucket ((context.overridden experiment).effectiveRanges context.arithmetic) =
      some result.variationId

/-- What a result says about its variation does not depend on what a host replaces. -/
theorem Describes.of_shares {result : ExperimentResult} {first second : Experiment}
    (hshares : first.SharesAssignments second) (h : result.Describes first) :
    result.Describes second where
  isKnown := hshares.variations_eq ▸ h.isKnown
  value_eq := hshares.variations_eq ▸ h.value_eq
  key_eq := hshares.variationKey_eq ▸ h.key_eq
  name_eq := hshares.details_eq ▸ h.name_eq
  passthrough_eq := hshares.details_eq ▸ h.passthrough_eq

end ExperimentResult

/-! ## Making a result -/

theorem Experiment.describes_resultOf {experiment : Experiment}
    (hsome : experiment.variations ≠ []) (identity : HashIdentity) (featureId : Option String)
    (variation : Nat) (takesPart : Bool) (bucket : Option Number) (stickyBucketUsed : Bool) :
    (experiment.resultOf identity featureId variation takesPart bucket
      stickyBucketUsed).Describes experiment := by
  have hknown : (if variation < experiment.variations.length then variation else 0) <
      experiment.variations.length := by
    split
    · assumption
    · exact List.length_pos_iff.mpr hsome
  refine ⟨hknown, ?_, rfl, rfl, ?_⟩
  · simp [resultOf, List.getElem?_eq_getElem hknown]
  · simp only [resultOf]
    cases experiment.details[if variation < experiment.variations.length then variation else 0]?
      <;> rfl

/-! ## The identity of a result -/

/-- The text of an identity is that of the attribute it names. -/
theorem HashIdentity.value_resolve (attributes : Attributes) (preferred fallback : Option String) :
    (resolve attributes preferred fallback).value =
      attributes.hashText (resolve attributes preferred fallback).name := by
  unfold resolve
  split
  · dsimp only
    split <;> rfl
  · rfl

namespace ExperimentRun

/-- However a run ends, its result is made in the same way. -/
theorem exists_resultOf (run : ExperimentRun) (store : Persistence) :
    ∃ variation takesPart bucket stickyBucketUsed,
      (run.on store).result =
        run.effective.resultOf (run.effective.identity run.context) run.featureId variation
          takesPart bucket stickyBucketUsed := by
  rw [on_eq]
  cases run.effective.decide run.context store <;> exact ⟨_, _, _, _, rfl⟩

variable {run : ExperimentRun} {store : Persistence}

/-- However a run ends, its result is about one variation. -/
theorem describes_on (hsome : run.experiment.variations ≠ []) :
    (run.on store).result.Describes run.experiment := by
  have hshares := run.context.overridden_sharesAssignments run.experiment
  obtain ⟨variation, takesPart, bucket, isSticky, hresult⟩ := run.exists_resultOf store
  rw [hresult]
  exact (Experiment.describes_resultOf (hshares.variations_eq ▸ hsome) ..).of_shares hshares

/-! ## Taking part -/

theorem takesPartIn_of_takesPart (htakesPart : (run.on store).result.inExperiment = true) :
    (run.on store).result.TakesPartIn run.context run.experiment := by
  obtain ⟨hasks, -⟩ := takesPart_cases htakesPart
  have hshares := run.context.overridden_sharesAssignments run.experiment
  obtain ⟨hattribute, hvalue⟩ := run.hashed_on store
  refine ⟨?_, hasks.isEnabled, hasks.isActive, ?_, ?_, ?_⟩
  · exact hshares.variations_eq ▸ hasks.hasVariations
  · exact hshares.trackingKey_eq ▸ hasks.notForced
  · rw [hattribute, hvalue]
    exact HashIdentity.value_resolve ..
  · rw [hvalue]
    exact of_decide_eq_false hasks.hasIdentity

/-- Whoever takes part without being remembered is where the hash says. -/
theorem followsHash_of_takesPart (htakesPart : (run.on store).result.inExperiment = true)
    (hfresh : (run.on store).result.stickyBucketUsed = false) :
    (run.on store).result.FollowsHash run.context run.experiment := by
  obtain ⟨-, -, ⟨hsticky, -⟩ | ⟨-, bucket, hdecision⟩⟩ := takesPart_cases htakesPart
  · exact absurd (hfresh.symm.trans hsticky) nofun
  obtain ⟨-, -, hadmits⟩ := Experiment.decide_eq_assigned_iff.mp hdecision
  refine ⟨bucket, ?_, ?_, hadmits.chooses⟩
  · rw [on_eq, effective, hdecision]
    rfl
  · rw [(run.hashed_on store).2]
    exact (run.context.bucketOf_overridden run.experiment _).symm.trans hadmits.hashes

end ExperimentRun

/-- **Every result is coherent.** -/
theorem coherent_runExperiment (context : Context) {experiment : Experiment}
    (hsome : experiment.variations ≠ []) (featureId : Option String) (store : Persistence) :
    let result := (runExperiment context experiment featureId store).result
    result.Describes experiment ∧ result.featureId = featureId ∧
      (result.inExperiment = true → result.TakesPartIn context experiment) ∧
      (result.inExperiment = true → result.stickyBucketUsed = false →
        result.FollowsHash context experiment) ∧
      (result.hashUsed = true ↔ result.inExperiment = true ∧ result.bucket.isSome = true) := by
  intro result
  let run : ExperimentRun := ⟨context, experiment, featureId⟩
  obtain ⟨variation, takesPart, bucket, isSticky, hresult⟩ := run.exists_resultOf store
  change result = _ at hresult
  refine ⟨run.describes_on hsome, ?_, run.takesPartIn_of_takesPart,
    run.followsHash_of_takesPart, ?_⟩
  · rw [hresult]
    rfl
  · rw [hresult, ← Bool.and_eq_true]
    rfl

/-- A user is assigned the second of two variations, of which only the first one has a key and a
name; the host has replaced the weights. -/
theorem coherent_second_variation :
    let override : ExperimentOverride :=
      { weights := some [.finite (1 / 10), .finite (9 / 10)], coverage := none, condition := none
        force := none, active := none }
    let context : Context :=
      { apiKey := "", hostUrl := "", attributes := [("id", .string "user1")]
        overrides := [("t1", override)] }
    let experiment : Experiment :=
      { key := "t1", variations := [.string "A", .string "B"]
        details := [⟨some "control", some "Control", true⟩] }
    let result := (runExperiment context experiment (some "button") {}).result
    experiment.variations ≠ [] ∧ result.variationId = 1 ∧ result.Describes experiment ∧
      result.TakesPartIn context experiment ∧ result.FollowsHash context experiment := by
  intro override context experiment result
  have hsome : experiment.variations ≠ [] := List.cons_ne_nil _ _
  obtain ⟨hdescribes, -, htakesPart, hfollows, -⟩ :=
    coherent_runExperiment context hsome (some "button") {}
  have hin : result.inExperiment = true := by decide +kernel
  exact ⟨hsome, by decide +kernel, hdescribes, htakesPart hin, hfollows hin (by decide +kernel)⟩

end FeatureFlags
