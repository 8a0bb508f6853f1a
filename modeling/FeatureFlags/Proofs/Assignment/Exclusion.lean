import FeatureFlags.Proofs.Assignment.Gates
import FeatureFlags.Proofs.Bucketing.Ranges

/-!
# Experiments that never meet

Two experiments can be kept apart in two ways: by slices of one namespace that do not
overlap, or by filters that hash users alike into ranges that do not overlap.  Either way
the two look at one and the same hash of the user, which lies in the ranges of one of them
at most.  Filters take the place of a namespace, and a namespace goes by the identity that
the experiment hashes while a filter has an attribute of its own; so slices separate only
experiments without filters that hash users by the same attributes.

Where nothing is remembered nobody takes part without passing the gate, and so nobody takes
part in both experiments (`takesPart_in_one`), whatever else they are like.
-/

namespace FeatureFlags

open Number (Arithmetic)

/-! ## Namespaces and filters -/

/-- Two slices of one namespace that do not overlap. -/
structure Namespace.Excludes (first second : Namespace) : Prop where
  id_eq : first.id = second.id
  disjoint : first.range.Disjoint second.range

theorem Namespace.Excludes.not_includes {first second : Namespace} (h : first.Excludes second)
    {arithmetic : Arithmetic} {hashValue : String}
    (hfirst : first.includes arithmetic hashValue = true) :
    second.includes arithmetic hashValue = false := by
  rw [Bool.eq_false_iff]
  intro hsecond
  rw [includes] at hfirst hsecond
  rw [← h.id_eq] at hsecond
  cases hhash : bucketHash arithmetic ("__" ++ first.id) hashValue 1 with
  | none =>
      rw [hhash] at hfirst
      cases hfirst
  | some n =>
      rw [hhash] at hfirst hsecond
      exact h.disjoint n ⟨hfirst, hsecond⟩

/-- Two filters that hash users alike and have no range in which a number of a range of the other
lies. -/
structure Filter.Excludes (first second : Filter) : Prop where
  seed_eq : first.seed = second.seed
  hashAttribute_eq : first.hashAttribute.getD Experiment.defaultHashAttribute =
    second.hashAttribute.getD Experiment.defaultHashAttribute
  hashVersion_eq : first.hashVersion.getD defaultFilterHashVersion =
    second.hashVersion.getD defaultFilterHashVersion
  disjoint : ∀ range ∈ first.ranges, ∀ other ∈ second.ranges, range.Disjoint other

theorem Filter.Excludes.not_admits {first second : Filter} (h : first.Excludes second)
    {arithmetic : Arithmetic} {attributes : Attributes}
    (hfirst : first.admits arithmetic attributes = true) :
    second.admits arithmetic attributes = false := by
  rw [Bool.eq_false_iff]
  intro hsecond
  have hidentity : HashIdentity.resolve attributes first.hashAttribute none =
      HashIdentity.resolve attributes second.hashAttribute none := by
    simp only [HashIdentity.resolve, h.hashAttribute_eq]
  simp only [admits, hidentity, h.seed_eq, h.hashVersion_eq] at hfirst hsecond
  split at hfirst
  · cases hfirst
  rename_i hidentified
  rw [if_neg hidentified] at hsecond
  split at hfirst
  · rename_i n hhash
    rw [hhash] at hsecond
    obtain ⟨range, hrange, hcontains⟩ := List.any_eq_true.mp hfirst
    obtain ⟨other, hother, hcontains'⟩ := List.any_eq_true.mp hsecond
    exact h.disjoint range hrange other hother n ⟨hcontains, hcontains'⟩
  · cases hfirst

/-! ## Experiments -/

namespace Experiment

/-- Two experiments are kept apart. -/
inductive Excludes (first second : Experiment) : Prop
  /-- They hash users by the same attributes and go by separate slices of one namespace. -/
  | bySlices {slice other : Namespace}
      (hattribute : first.hashAttributeName = second.hashAttributeName)
      (hfallback : first.fallbackAttribute = second.fallbackAttribute)
      (hfilters : first.filters = []) (hfilters' : second.filters = [])
      (hslice : first.slice = some slice) (hslice' : second.slice = some other)
      (hexcludes : slice.Excludes other)
  /-- They have filters that keep users apart. -/
  | byFilters {filter other : Filter} (hfilter : filter ∈ first.filters)
      (hfilter' : other ∈ second.filters) (hexcludes : filter.Excludes other)

theorem identity_eq_of_attributes {first second : Experiment}
    (hattribute : first.hashAttributeName = second.hashAttributeName)
    (hfallback : first.fallbackAttribute = second.fallbackAttribute) (context : Context) :
    first.identity context = second.identity context := by
  unfold hashAttributeName at hattribute
  simp only [identity, HashIdentity.resolve, hattribute, hfallback]

/-- A user is reached who passes all filters, or the namespace where there are no filters. -/
theorem outOfReach_eq_none_iff {experiment : Experiment} {context : Context}
    {hashValue : String} :
    experiment.outOfReach context hashValue = none ↔
      (∀ filter ∈ experiment.filters,
          filter.admits context.arithmetic context.attributes = true) ∧
        (experiment.filters = [] → ∀ slice, experiment.slice = some slice →
          slice.includes context.arithmetic hashValue = true) := by
  unfold outOfReach isFilteredOut
  cases hfilters : experiment.filters with
  | nil => cases hslice : experiment.slice <;> simp
  | cons filter rest => simp

/-- Nobody is reached by two experiments that are kept apart. -/
theorem Excludes.not_both_reached {first second : Experiment} (h : first.Excludes second)
    {context : Context}
    (hfirst : first.outOfReach context (first.identity context).value = none) :
    second.outOfReach context (second.identity context).value ≠ none := by
  intro hsecond
  obtain ⟨hadmits, hincludes⟩ := outOfReach_eq_none_iff.mp hfirst
  obtain ⟨hadmits', hincludes'⟩ := outOfReach_eq_none_iff.mp hsecond
  cases h with
  | bySlices hattribute hfallback hfilters hfilters' hslice hslice' hexcludes =>
      have hin := hincludes hfilters _ hslice
      have hin' := hincludes' hfilters' _ hslice'
      rw [← identity_eq_of_attributes hattribute hfallback, hexcludes.not_includes hin] at hin'
      cases hin'
  | byFilters hfilter hfilter' hexcludes =>
      have hin' := hadmits' _ hfilter'
      rw [hexcludes.not_admits (hadmits _ hfilter)] at hin'
      cases hin'

/-- What keeps two experiments apart is nothing that a host replaces. -/
theorem Excludes.overridden {first second : Experiment} (h : first.Excludes second)
    (context : Context) : (context.overridden first).Excludes (context.overridden second) := by
  have hfilters_eq := context.overridden_filters
  have hslice_eq := context.overridden_slice
  have hshares := context.overridden_sharesAssignments
  cases h with
  | bySlices hattribute hfallback hfilters hfilters' hslice hslice' hexcludes =>
      refine .bySlices ?_ ?_ ((hfilters_eq first).trans hfilters)
        ((hfilters_eq second).trans hfilters') ((hslice_eq first).trans hslice)
        ((hslice_eq second).trans hslice') hexcludes
      · rw [hashAttributeName, hashAttributeName, (hshares first).hashAttribute_eq,
          (hshares second).hashAttribute_eq]
        exact hattribute
      · rw [(hshares first).fallbackAttribute_eq, (hshares second).fallbackAttribute_eq]
        exact hfallback
  | byFilters hfilter hfilter' hexcludes =>
      refine .byFilters ?_ ?_ hexcludes
      · rw [hfilters_eq]
        exact hfilter
      · rw [hfilters_eq]
        exact hfilter'

end Experiment

/-! ## Taking part in one of them -/

/-- **Mutual exclusion.**  Where nothing is remembered, nobody takes part in both of two experiments
that are kept apart: whatever their keys, seeds, hash versions, weights, ranges, conditions and
forced variations are, and whatever the host replaces in them. -/
theorem takesPart_in_one {context : Context} (hforgetful : context.sticky = none)
    {first second : Experiment} (hexcludes : first.Excludes second)
    (firstFeature secondFeature : Option String) (store other : Persistence) :
    ¬ ((runExperiment context first firstFeature store).result.inExperiment = true ∧
        (runExperiment context second secondFeature other).result.inExperiment = true) := by
  rintro ⟨hfirst, hsecond⟩
  obtain ⟨-, -, -, bucket, hadmits⟩ :=
    @ExperimentRun.isAssigned_of_forgetful ⟨context, first, firstFeature⟩ store hforgetful hfirst
  obtain ⟨-, -, -, bucket', hadmits'⟩ :=
    @ExperimentRun.isAssigned_of_forgetful ⟨context, second, secondFeature⟩ other hforgetful hsecond
  exact (hexcludes.overridden context).not_both_reached hadmits.isReached hadmits'.isReached

/-- A user takes part in the experiment on the upper half of a namespace, or of the numbers that a
filter lets through, and therefore in no experiment on the lower half. -/
theorem takesPart_in_upper_half :
    let context : Context :=
      { apiKey := "", hostUrl := "", attributes := [("id", .string "user1")] }
    let lower : BucketRange := ⟨.ofNat 0, .finite (1 / 2)⟩
    let upper : BucketRange := ⟨.finite (1 / 2), .ofNat 1⟩
    let colours : Experiment := { key := "colours", variations := [.string "red", .string "blue"] }
    let sizes : Experiment :=
      { key := "sizes", variations := [.boolean true, .boolean false], seed := some "again" }
    let run := fun experiment => (runExperiment context experiment none {}).result.inExperiment
    (run { colours with slice := some ⟨"pricing", lower⟩ } = false ∧
        run { sizes with slice := some ⟨"pricing", upper⟩ } = true) ∧
      (run { colours with filters := [⟨"feature", [lower], none, none⟩] } = false ∧
        run { sizes with filters := [⟨"feature", [upper], some "id", some 2⟩] } = true) := by
  intro context lower upper colours sizes run
  have hhalves : lower.Disjoint upper := by decide +kernel
  -- the second run is evaluated; the first is ruled out by the theorem
  have hslices : run { sizes with slice := some ⟨"pricing", upper⟩ } = true := by decide +kernel
  have hfilters : run { sizes with filters := [⟨"feature", [upper], some "id", some 2⟩] } = true :=
    by decide +kernel
  refine ⟨⟨Bool.eq_false_iff.mpr fun h => ?_, hslices⟩, Bool.eq_false_iff.mpr fun h => ?_, hfilters⟩
  · refine @takesPart_in_one context rfl _ _ ?_ none none {} {} ⟨h, hslices⟩
    exact .bySlices rfl rfl rfl rfl rfl rfl ⟨rfl, hhalves⟩
  · refine @takesPart_in_one context rfl _ _ ?_ none none {} {} ⟨h, hfilters⟩
    refine .byFilters (List.mem_singleton_self _) (List.mem_singleton_self _) ⟨rfl, rfl, rfl, ?_⟩
    intro range hrange other hother
    rw [List.mem_singleton.mp hrange, List.mem_singleton.mp hother]
    exact hhalves

end FeatureFlags
