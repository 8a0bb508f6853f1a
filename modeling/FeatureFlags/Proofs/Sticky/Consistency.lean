import FeatureFlags.Proofs.Sticky.Run

/-!
# A remembered assignment stays

A user who was assigned to a variation keeps it, however the experiment is
reweighted, narrowed or reseeded afterwards and whoever else is assigned in the
meantime.

The first run finds nothing under the experiment's own version and nothing of a
version that is too old, since otherwise it would not assign afresh.  It sets one
entry: the one of the hashed identity under the experiment's key.  Assignment keys
of different experiments, and of different versions, are different texts
(`StickyDocument.experimentKey_inj`), so runs of other experiments change neither
that entry nor any that could block it.  The later run hashes the same identity and
the entry of the hashed identity is the one that counts
(`Experiment.recorded?_of_identity`).
-/

namespace FeatureFlags

open StickyDocument (experimentKey experimentKey_inj)

/-- A run that can go by what another one has left: it is for the same user and
asks the same service, about an experiment that shares its assignments with the
other one and is open in its context. -/
structure ExperimentRun.Resumes (later first : ExperimentRun) : Prop where
  shares : later.experiment.SharesAssignments first.experiment
  attributes_eq : later.context.attributes = first.context.attributes
  sticky_eq : later.context.sticky = first.context.sticky
  isSticky : later.experiment.disableStickyBucketing = false
  isEnabled : later.context.enabled = true
  isActive : (later.context.overridden later.experiment).active = true
  notForced :
    Dictionary.get? later.context.forcedVariations later.experiment.trackingKey = none

namespace Experiment

/-- Old entries come and go with the entries under other versions than the
experiment's own. -/
theorem hasOldEntry_congr {experiment : Experiment} {store other : Persistence}
    (hversion : experiment.minBucketVersion.getD 0 ≤ experiment.effectiveBucketVersion)
    (hframe : ∀ storageKey version, version ≠ experiment.effectiveBucketVersion →
      other.assignment? storageKey (experimentKey experiment.trackingKey version) =
        store.assignment? storageKey (experimentKey experiment.trackingKey version))
    (service : StickyService) (attributes : Attributes) :
    experiment.HasOldEntry (experiment.recorded? service other attributes) ↔
      experiment.HasOldEntry (experiment.recorded? service store attributes) := by
  have hrecorded : ∀ version < experiment.minBucketVersion.getD 0,
      experiment.recorded? service other attributes
          (experimentKey experiment.trackingKey version) =
        experiment.recorded? service store attributes
          (experimentKey experiment.trackingKey version) := by
    intro version hlt
    refine recorded?_congr (fun storageKey => hframe storageKey version ?_) experiment service
      attributes
    exact Nat.ne_of_lt (Nat.lt_of_lt_of_le hlt hversion)
  constructor
  · rintro ⟨version, hlt, hsome⟩
    exact ⟨version, hlt, hrecorded version hlt ▸ hsome⟩
  · rintro ⟨version, hlt, hsome⟩
    exact ⟨version, hlt, (hrecorded version hlt).symm ▸ hsome⟩

end Experiment

section Runs

variable {store : Persistence} {service : StickyService} {first later : ExperimentRun}
  {between : List ExperimentRun} {variation : Nat}

/-- Runs of other experiments leave every version of an experiment's entries. -/
theorem assignment?_after_of_trackingKey_ne
    (hothers : ∀ run ∈ between, run.experiment.trackingKey ≠ first.experiment.trackingKey)
    (current : Persistence) (storageKey : String) (version : Nat) :
    (current.after between).assignment? storageKey
        (experimentKey first.experiment.trackingKey version) =
      current.assignment? storageKey (experimentKey first.experiment.trackingKey version) := by
  refine assignment?_after_of_ne (fun run hrun hkey => ?_) current storageKey
  exact hothers run hrun (experimentKey_inj.mp hkey).1

/-- A run that resumes another one finds its variation on any store where the
entry of the hashed identity names it and nothing is too old. -/
theorem ExperimentRun.Resumes.result_of_entry (hresumes : later.Resumes first)
    (hservice : first.context.sticky = some service)
    (hidentity : (first.experiment.identity first.context).isEmpty = false)
    (hvariations : 2 ≤ first.experiment.variations.length)
    (hknown : variation < first.experiment.variations.length)
    (hreads : first.experiment.variationIndex? (first.experiment.variationKey variation) =
      some variation)
    (hnotOld : ¬ first.experiment.HasOldEntry
      (first.experiment.recorded? service store first.context.attributes))
    (hentry : store.assignment?
        (service.documentKey (first.experiment.identity first.context))
        first.experiment.entryKey =
      some (first.experiment.variationKey variation)) :
    (later.on store).result.inExperiment = true ∧
      (later.on store).result.variationId = variation ∧
      (later.on store).result.stickyBucketUsed = true := by
  have hshares := (later.context.overridden_sharesAssignments later.experiment).trans
    hresumes.shares
  have hasks : (later.context.overridden later.experiment).AsksMemory later.context := by
    refine ⟨?_, hresumes.isEnabled, ?_, hresumes.isActive, ?_⟩
    · rw [hshares.variations_eq]
      exact hvariations
    · rw [hshares.trackingKey_eq, ← hresumes.shares.trackingKey_eq]
      exact hresumes.notForced
    · rw [hshares.identity_eq hresumes.attributes_eq]
      exact hidentity
  have hstickyService := later.context.stickyService?_overridden
    (hresumes.sticky_eq.trans hservice) hresumes.isSticky
  -- Whichever identity is hashed, its entry overrides that of the other one.
  have hrecorded : first.experiment.recorded? service store first.context.attributes
      first.experiment.entryKey = some (first.experiment.variationKey variation) := by
    apply Experiment.recorded?_of_identity
    rw [StickyService.entryOf?, hidentity]
    exact hentry
  have hfound : (later.context.overridden later.experiment).memory later.context store =
      .found variation := by
    rw [hshares.memory_eq_found_iff hstickyService, hresumes.attributes_eq, hrecorded]
    exact ⟨hnotOld, hreads⟩
  have hdecision := hasks.decide_eq store
  rw [hfound] at hdecision
  have hlt : variation < (later.context.overridden later.experiment).variations.length := by
    rw [hshares.variations_eq]
    exact hknown
  rw [ExperimentRun.on, runExperiment, hdecision]
  simp [Decision.result, Experiment.resultOf, hlt]

/-- **A remembered assignment stays.**  A run that assigns its user afresh to a
variation that can be read back is followed by any runs of other experiments.
Then the user still gets that variation, from the store, in every run that resumes
the first one: weights, coverage, ranges, condition, namespace, filters, seed and
hash version of the experiment may all have changed. -/
theorem remembered_after_runs (hwritable : store.saveFailure = none)
    (hservice : first.context.sticky = some service)
    (hsticky : first.experiment.disableStickyBucketing = false)
    (hversion : first.experiment.minBucketVersion.getD 0 ≤ first.experiment.effectiveBucketVersion)
    (htakesPart : (first.on store).result.inExperiment = true)
    (hfresh : (first.on store).result.stickyBucketUsed = false)
    (hvariation : (first.on store).result.variationId = variation)
    (hreads : first.experiment.variationIndex? (first.experiment.variationKey variation) =
      some variation)
    (hothers : ∀ run ∈ between, run.experiment.trackingKey ≠ first.experiment.trackingKey)
    (hresumes : later.Resumes first) :
    (later.on ((first.on store).store.after between)).result.inExperiment = true ∧
      (later.on ((first.on store).store.after between)).result.variationId = variation ∧
      (later.on ((first.on store).store.after between)).result.stickyBucketUsed = true := by
  obtain ⟨hidentity, hvariations, hknown, hnotOld, hupdate⟩ :=
    freshRun_spec hwritable hservice hsticky htakesPart hfresh hvariation hreads
  have hkept : ∀ storageKey version,
      ((first.on store).store.after between).assignment? storageKey
          (experimentKey first.experiment.trackingKey version) =
        (first.on store).store.assignment? storageKey
          (experimentKey first.experiment.trackingKey version) :=
    assignment?_after_of_trackingKey_ne hothers (first.on store).store
  refine hresumes.result_of_entry hservice hidentity hvariations hknown hreads ?_ ?_
  · -- Old entries have versions of their own, and the first run has set none of those.
    rw [Experiment.hasOldEntry_congr hversion (fun storageKey version hne => ?_) service
      first.context.attributes]
    · exact hnotOld
    · rw [hkept]
      refine hupdate.get_of_entryKey_ne (fun hkey => hne ?_) storageKey
      exact (experimentKey_inj.mp hkey).2.symm
  · rw [Experiment.entryKey, hkept]
    exact hupdate.get_self

end Runs

/-- A user of "colours" keeps the first variation while someone else is assigned in
"sizes" and "colours" moves everyone else to the second one. -/
theorem remembered_while_reweighted :
    let colours : Experiment := { key := "colours", variations := [.string "red", .string "blue"] }
    let sizes : Experiment := { key := "sizes", variations := [.boolean true, .boolean false] }
    let moved := { colours with weights := some [.ofNat 0, .ofNat 1], seed := some "again" }
    let first := ExperimentRun.ofUser [("id", .string "user1")] colours
    let between := [ExperimentRun.ofUser [("id", .string "user2")] sizes]
    let later := ExperimentRun.ofUser [("id", .string "user1")] moved
    (later.on {}).result.variationId = 1 ∧
      (later.on ((first.on {}).store.after between)).result.inExperiment = true ∧
      (later.on ((first.on {}).store.after between)).result.variationId = 0 ∧
      (later.on ((first.on {}).store.after between)).result.stickyBucketUsed = true := by
  intro colours sizes moved first between later
  refine ⟨by decide +kernel, ?_⟩
  refine @remembered_after_runs {} {} first later between 0 rfl rfl rfl (by decide)
    (by decide +kernel) (by decide +kernel) (by decide +kernel) (by decide +kernel)
    (by decide +kernel) ?_
  exact ⟨⟨rfl, rfl, rfl, rfl, rfl, rfl, rfl⟩, rfl, rfl, rfl, rfl, rfl, rfl⟩

end FeatureFlags
