import FeatureFlags.Proofs.Assignment.Gates
import FeatureFlags.Proofs.Bucketing.Coverage

/-!
# Ramping up

An experiment is ramped up by raising its coverage.  Of all that an assignment goes by only the
computed ranges depend on the coverage, and these grow without overlapping; so nobody who takes
part is moved or loses anything (`takesPart_after_ramp_up`), and lowering the coverage only takes
users out.

This is about exact arithmetic and about experiments that have no explicit ranges, and whose
weights, those of the host included, are not negative.  It is also about users who are not
remembered: those who are keep their variation for that reason already.
-/

namespace FeatureFlags

/-- The experiment with another coverage. -/
def Experiment.covering (experiment : Experiment) (coverage : Number) : Experiment :=
  { experiment with coverage := some coverage }

/-- An override without a coverage has no part in ramping up. -/
theorem Context.overridden_covering {context : Context} {experiment : Experiment}
    (hoverride : ∀ override,
      Dictionary.get? context.overrides experiment.trackingKey = some override →
        override.coverage = none) (coverage : Number) :
    context.overridden (experiment.covering coverage) =
      (context.overridden experiment).covering coverage := by
  have hkey : (experiment.covering coverage).trackingKey = experiment.trackingKey := rfl
  unfold overridden
  rw [hkey]
  cases hfound : Dictionary.get? context.overrides experiment.trackingKey with
  | none => rfl
  | some override =>
      simp only [Experiment.applyOverride, hoverride override hfound, Option.none_or]
      rfl

/-- Whoever is admitted to a variation is admitted to it with a greater coverage. -/
theorem Experiment.Admits.of_coverage_le {experiment : Experiment} {context : Context}
    (hexact : context.arithmetic = .exact) (hranges : experiment.ranges = none)
    (hweights : ∀ weights, experiment.weights = some weights →
      ∀ weight ∈ weights, Number.lt weight (.ofNat 0) = false)
    {coverage greater : Number} (hle : Number.le coverage greater = true) {hashValue : String}
    {variation : Nat} {bucket : Number}
    (h : (experiment.covering coverage).Admits context hashValue variation bucket) :
    (experiment.covering greater).Admits context hashValue variation bucket where
  isReached := h.isReached
  conditionHolds := h.conditionHolds
  hashes := h.hashes
  chooses := by
    have hcomputed (coverage : Number) :
        (experiment.covering coverage).effectiveRanges context.arithmetic =
          bucketRanges .exact experiment.variations.length coverage experiment.weights := by
      simp only [effectiveRanges, covering, hranges, hexact, Option.getD_some]
    rw [hcomputed]
    exact chooseVariation_of_coverage_le hweights hle (hcomputed coverage ▸ h.chooses)
  forcesNothing := h.forcesNothing
  notQaMode := h.notQaMode

/-- **Ramping up never moves anybody.**  Whoever takes part in an experiment gets the very same
result with a greater coverage: the same variation by the same hash. -/
theorem takesPart_after_ramp_up {context : Context} (hexact : context.arithmetic = .exact)
    (hforgetful : context.sticky = none) {experiment : Experiment}
    (hranges : experiment.ranges = none)
    (hoverride : ∀ override,
      Dictionary.get? context.overrides experiment.trackingKey = some override →
        override.coverage = none)
    (hweights : ∀ weights, (context.overridden experiment).weights = some weights →
      ∀ weight ∈ weights, Number.lt weight (.ofNat 0) = false)
    {coverage greater : Number} (hle : Number.le coverage greater = true)
    (featureId : Option String) (store other : Persistence)
    (htakesPart : (runExperiment context (experiment.covering coverage) featureId
      store).result.inExperiment = true) :
    (runExperiment context (experiment.covering greater) featureId other).result =
      (runExperiment context (experiment.covering coverage) featureId store).result := by
  let run (coverage : Number) : ExperimentRun :=
    ⟨context, experiment.covering coverage, featureId⟩
  change ((run greater).on other).result = ((run coverage).on store).result
  have heffective (coverage : Number) :
      (run coverage).effective = (context.overridden experiment).covering coverage :=
    Context.overridden_covering hoverride coverage
  -- with nothing remembered, taking part means that the bucket was admitted
  obtain ⟨hasks, -, hnothing, bucket, hadmits⟩ :=
    @ExperimentRun.isAssigned_of_forgetful (run coverage) store hforgetful htakesPart
  generalize ((run coverage).on store).result.variationId = variation at hadmits
  rw [ExperimentRun.result_of_admits hasks hnothing hadmits]
  rw [heffective] at hasks hadmits ⊢
  -- no gate in front of the buckets reads the coverage
  have hasks' : (run greater).effective.AsksMemory context := by
    rw [heffective]
    exact ⟨hasks.hasVariations, hasks.isEnabled, hasks.notForced, hasks.isActive,
      hasks.hasIdentity⟩
  have hadmits' : (run greater).effective.Admits context
      ((run greater).effective.identity context).value variation bucket := by
    rw [heffective]
    exact hadmits.of_coverage_le hexact
      ((context.overridden_ranges experiment).trans hranges) hweights hle
  rw [ExperimentRun.result_of_admits hasks' (Experiment.memory_of_forgetful hforgetful other)
    hadmits', heffective]
  rfl

/-- With the weights of the host and four fifths covered a user takes part in the first variation,
and so the user does with a coverage of two, which counts as one. -/
theorem takesPart_after_full_ramp_up :
    let override : ExperimentOverride :=
      { weights := some [.finite (3 / 10), .finite (7 / 10)], coverage := none, condition := none
        force := none, active := none }
    let context : Context :=
      { apiKey := "", hostUrl := "", attributes := [("id", .string "user1")]
        overrides := [("t1", override)], arithmetic := .exact }
    let experiment : Experiment := { key := "t1", variations := [.string "A", .string "B"] }
    let run (coverage : ℚ) :=
      (runExperiment context (experiment.covering (.finite coverage)) none {}).result
    (run (3 / 4)).inExperiment = false ∧ (run (4 / 5)).inExperiment = true ∧
      run 2 = run (4 / 5) := by
  intro override context experiment run
  have htakesPart : (run (4 / 5)).inExperiment = true := by decide +kernel
  refine ⟨by decide +kernel, htakesPart, ?_⟩
  -- the host replaces the weights only, and none of them is negative
  have hoverride : ∀ other,
      Dictionary.get? context.overrides experiment.trackingKey = some other →
        other.coverage = none := by
    rintro other hother
    cases hother
    rfl
  have hweights : ∀ weights, (context.overridden experiment).weights = some weights →
      ∀ weight ∈ weights, Number.lt weight (.ofNat 0) = false := by
    rintro weights hweights
    cases hweights
    decide +kernel
  exact takesPart_after_ramp_up rfl rfl rfl hoverride hweights (by decide +kernel) none {} {}
    htakesPart

end FeatureFlags
