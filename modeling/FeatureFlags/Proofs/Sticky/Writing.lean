import FeatureFlags.Proofs.Assignment.Gates
import FeatureFlags.Proofs.Bucketing.Ranges

/-!
# What a run writes

A run of an experiment writes to the store only after assigning its user afresh, and then
it adds one entry to the document of the hashed identity (`Persistence.AddsEntry`): every
other document stays as it is, and so do the entries that the document had.

The entry names the variation that the hash has chosen among the ranges.  The result names
that variation as well, unless there is no such variation: explicit ranges may be more than
the variations, and where the hash falls into one of those that are left over, the result
says that the user takes no part, but the entry is written all the same.  That is the only
way in which a run writes anything else than the assignment it returns
(`writesOnlyResult_iff`), and it takes more ranges than variations
(`writesOnlyResult_of_length_le`).
-/

namespace FeatureFlags

/-- The assignments in the document under a storage key; none if the document is missing or
cannot be read. -/
def Persistence.assignmentsAt (store : Persistence) (storageKey : String) : Dictionary String :=
  ((StickyService.read store storageKey).map (·.assignments)).getD []

/-- One document has got an entry, and nothing else has changed. -/
structure Persistence.AddsEntry (before after : Persistence) (storageKey entryKey value : String) :
    Prop where
  others : ∀ other, other ≠ storageKey → after.load other = before.load other
  document : (StickyService.read after storageKey).map (·.assignments) =
    some (Dictionary.insert entryKey value (before.assignmentsAt storageKey))

namespace StickyService

/-- Merging one entry into the stored document inserts it among the stored assignments. -/
theorem assignments_merged (service : StickyService) (store : Persistence)
    (name value entryKey variationKey : String) :
    (service.merged store ⟨name, value, [(entryKey, variationKey)]⟩).assignments =
      Dictionary.insert entryKey variationKey
        (store.assignmentsAt (service.storageKey name value)) := by
  unfold merged Persistence.assignmentsAt
  change Dictionary.insert entryKey variationKey
    ((read store (service.storageKey name value)).getD _).assignments = _
  cases read store (service.storageKey name value) <;> rfl

theorem addsEntry_of_save {service : StickyService} {store saved : Persistence}
    {name value entryKey variationKey : String}
    (hsaved : service.save store ⟨name, value, [(entryKey, variationKey)]⟩ = .ok saved) :
    store.AddsEntry saved (service.storageKey name value) entryKey variationKey := by
  rw [save] at hsaved
  rcases store.save_cases (service.storageKey name value)
    (service.merged store ⟨name, value, [(entryKey, variationKey)]⟩).toJson with
    ⟨detail, -, herror⟩ | ⟨-, other, hother, -, hload⟩
  · cases hsaved.symm.trans herror
  · cases hother.symm.trans hsaved
    refine ⟨fun storageKey hne => ?_, ?_⟩
    · rw [hload, if_neg (Ne.symm hne)]
    · have hread : read saved (service.storageKey name value) =
          some (service.merged store ⟨name, value, [(entryKey, variationKey)]⟩) := by
        rw [read, hload, if_pos rfl, Option.bind_some]
        exact StickyDocument.decode_toJson (service.sorted_merged store _)
      rw [hread, Option.map_some, assignments_merged]

end StickyService

namespace ExperimentRun

variable {run : ExperimentRun} {store : Persistence}

/-! ## One entry -/

/-- The key under which a run's assignment is stored depends on nothing that a host replaces. -/
theorem entryKey_effective (run : ExperimentRun) :
    run.effective.entryKey = run.experiment.entryKey :=
  (run.context.overridden_sharesAssignments run.experiment).entryKey_eq

/-- **What a run writes.**  A run leaves the store as it is, or it assigns its user afresh and adds
the chosen variation to the document of the identity that its result names. -/
theorem writes_cases (run : ExperimentRun) (store : Persistence) :
    (run.on store).store = store ∨
      ∃ service variation bucket, run.context.sticky = some service ∧
        run.effective.decide run.context store = .assigned variation bucket ∧
        store.AddsEntry (run.on store).store
          (service.storageKey (run.on store).result.hashAttribute (run.on store).result.hashValue)
          run.experiment.entryKey (run.effective.variationKey variation) := by
  rcases Decision.commit_cases (run.effective.decide run.context store) run.context run.effective
    store with hsame | ⟨variation, bucket, service, hdecision, hservice, hremember⟩
  · exact Or.inl hsame
  have hstore : (run.on store).store = service.remember store run.context.attributes run.effective
      (run.effective.identity run.context) variation := hremember
  rw [StickyService.remember_eq] at hstore
  split at hstore
  · -- the same variation is on record already, and nothing is saved
    exact Or.inl hstore
  · cases hsave : service.save store ⟨(run.effective.identity run.context).name,
      (run.effective.identity run.context).value,
      [(run.effective.entryKey, run.effective.variationKey variation)]⟩ with
    | error error =>
        rw [hsave] at hstore
        exact Or.inl hstore
    | ok saved =>
        rw [hsave, Except.toOption, Option.getD_some] at hstore
        have hsticky : run.context.sticky = some service := by
          unfold Experiment.stickyService? at hservice
          split at hservice
          · cases hservice
          · exact hservice
        refine Or.inr ⟨service, variation, bucket, hsticky, hdecision, ?_⟩
        rw [hstore, (run.hashed_on store).1, (run.hashed_on store).2, ← run.entryKey_effective]
        exact StickyService.addsEntry_of_save hsave

/-! ## Writing what is returned -/

/-- If the run changes the store at all, its user takes part by a fresh assignment, and what is
added is that assignment. -/
def WritesOnlyResult (run : ExperimentRun) (store : Persistence) : Prop :=
  (run.on store).store ≠ store →
    (run.on store).result.inExperiment = true ∧
      (run.on store).result.stickyBucketUsed = false ∧
      ∃ service, run.context.sticky = some service ∧
        store.AddsEntry (run.on store).store
          (service.storageKey (run.on store).result.hashAttribute (run.on store).result.hashValue)
          run.experiment.entryKey (run.on store).result.key

/-- The hash of the run's user chooses the range of a variation. -/
def Chooses (run : ExperimentRun) (variation : Nat) : Prop :=
  ∃ bucket, run.effective.bucketOf run.context (run.effective.identity run.context).value =
      some bucket ∧
    chooseVariation bucket (run.effective.effectiveRanges run.context.arithmetic) =
      some variation

theorem Chooses.eq {variation other : Nat} (h : run.Chooses variation) (h' : run.Chooses other) :
    variation = other := by
  obtain ⟨bucket, hbucket, hchosen⟩ := h
  obtain ⟨bucket', hbucket', hchosen'⟩ := h'
  cases hbucket.symm.trans hbucket'
  exact Option.some.inj (hchosen.symm.trans hchosen')

theorem chooses_of_decide {variation : Nat} {bucket : Number}
    (h : run.effective.decide run.context store = .assigned variation bucket) :
    run.Chooses variation := by
  obtain ⟨-, -, hadmits⟩ := Experiment.decide_eq_assigned_iff.mp h
  exact ⟨bucket, hadmits.hashes, hadmits.chooses⟩

/-- The result of a fresh assignment to a variation that the experiment has. -/
theorem result_of_known {variation : Nat} {bucket : Number}
    (h : run.effective.decide run.context store = .assigned variation bucket)
    (hknown : variation < run.effective.variations.length) :
    (run.on store).result.inExperiment = true ∧
      (run.on store).result.stickyBucketUsed = false ∧
      (run.on store).result.key = run.effective.variationKey variation := by
  rw [on_eq, h]
  simp [Decision.result, Experiment.resultOf, hknown]

theorem writesOnlyResult_of_chooses {variation : Nat} (hchooses : run.Chooses variation)
    (hknown : variation < run.effective.variations.length) : run.WritesOnlyResult store := by
  intro hchanged
  rcases run.writes_cases store with
    hsame | ⟨service, assigned, bucket, hsticky, hdecision, hadds⟩
  · exact absurd hsame hchanged
  · rw [hchooses.eq (chooses_of_decide hdecision)] at hknown
    obtain ⟨htakesPart, hfresh, hkey⟩ := result_of_known hdecision hknown
    exact ⟨htakesPart, hfresh, service, hsticky, hkey ▸ hadds⟩

/-- **When a run writes only what it returns.**  If a run changes the store, it has used nothing
that was remembered, and adds the variation that the hash has chosen to the document of the
identity that its result names.  It writes only what it returns exactly if that variation is one
of the experiment's. -/
theorem writesOnlyResult_iff (run : ExperimentRun) (store : Persistence) :
    ((run.on store).store = store ∨
      (run.on store).result.stickyBucketUsed = false ∧
        ∃ service variation, run.context.sticky = some service ∧ run.Chooses variation ∧
          store.AddsEntry (run.on store).store
            (service.storageKey (run.on store).result.hashAttribute
              (run.on store).result.hashValue)
            run.experiment.entryKey (run.effective.variationKey variation)) ∧
    (run.WritesOnlyResult store ↔
      (run.on store).store = store ∨
        ∃ variation, run.Chooses variation ∧ variation < run.effective.variations.length) := by
  rcases run.writes_cases store with
    hsame | ⟨service, variation, bucket, hsticky, hdecision, hadds⟩
  · exact ⟨Or.inl hsame, iff_of_true (fun hchanged => absurd hsame hchanged) (Or.inl hsame)⟩
  have hchooses := chooses_of_decide hdecision
  refine ⟨Or.inr ⟨?_, service, variation, hsticky, hchooses, hadds⟩, ?_, ?_⟩
  · rw [on_eq, hdecision]
    rfl
  · intro hwrites
    by_cases hsame : (run.on store).store = store
    · exact Or.inl hsame
    · -- The user takes part in a variation that the hash has chosen.
      obtain ⟨htakesPart, -⟩ := hwrites hsame
      rw [on_eq, hdecision, Decision.result, Experiment.inExperiment_resultOf] at htakesPart
      exact Or.inr ⟨variation, hchooses, by simpa using htakesPart⟩
  · rintro (hsame | ⟨other, hother, hknown⟩)
    · exact fun hchanged => absurd hsame hchanged
    · exact writesOnlyResult_of_chooses hother hknown

/-- Three ranges for two variations.  A user whose hash falls into the third range takes no part,
but is remembered for a third variation; and once the ranges are in order again, the user is kept
out by that memory. -/
theorem writes_for_nobody :
    let letters := ["a", "b", "c"].map fun key => (⟨some key, none, false⟩ : VariationMeta)
    let thirds : List BucketRange :=
      [⟨.ofNat 0, .finite (1 / 10)⟩, ⟨.finite (1 / 10), .finite (2 / 10)⟩,
        ⟨.finite (2 / 10), .ofNat 1⟩]
    let experiment : Experiment :=
      { key := "t1", variations := [.string "A", .string "B"], details := letters }
    let run := ofUser [("id", .string "user1")] { experiment with ranges := some thirds }
    let mended := ofUser [("id", .string "user1")] experiment
    ((run.on {}).result.inExperiment = false ∧
        (run.on {}).store.assignment? "gbStickyBuckets__id||user1" "t1__0" = some "c" ∧
        ¬ run.WritesOnlyResult {}) ∧
      (mended.on {}).result.inExperiment = true ∧
      (mended.on (run.on {}).store).result.inExperiment = false := by
  intro letters thirds experiment run mended
  have hout : (run.on {}).result.inExperiment = false := by decide +kernel
  have hentry : (run.on {}).store.assignment? "gbStickyBuckets__id||user1" "t1__0" = some "c" := by
    decide +kernel
  refine ⟨⟨hout, hentry, fun hwrites => ?_⟩, by decide +kernel, by decide +kernel⟩
  have hchanged : (run.on {}).store ≠ {} := by
    intro hsame
    rw [hsame] at hentry
    cases hentry
  obtain ⟨htakesPart, -⟩ := hwrites hchanged
  exact absurd (hout.symm.trans htakesPart) nofun

end ExperimentRun

/-! ## Experiments without explicit ranges -/

/-- A run writes only what it returns unless its experiment is given more ranges than it has
variations. -/
theorem ExperimentRun.writesOnlyResult_of_length_le {run : ExperimentRun} {store : Persistence}
    (hranges : ∀ ranges, run.experiment.ranges = some ranges →
      ranges.length ≤ run.experiment.variations.length) :
    run.WritesOnlyResult store := by
  rcases run.writes_cases store with hsame | ⟨service, variation, bucket, -, hdecision, -⟩
  · exact fun hchanged => absurd hsame hchanged
  have hchooses := chooses_of_decide hdecision
  refine writesOnlyResult_of_chooses hchooses ?_
  obtain ⟨chosen, -, hchosen⟩ := hchooses
  refine Nat.lt_of_lt_of_le (lt_length_of_chooseVariation hchosen) ?_
  unfold Experiment.effectiveRanges
  split
  · rename_i ranges hgiven
    rw [effective, (run.context.overridden_sharesAssignments run.experiment).variations_eq]
    exact hranges ranges ((run.context.overridden_ranges run.experiment).symm.trans hgiven)
  · exact Nat.le_of_eq (length_bucketRanges ..)

end FeatureFlags
