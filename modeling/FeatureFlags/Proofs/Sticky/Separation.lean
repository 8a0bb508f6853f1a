import FeatureFlags.Proofs.Sticky.Consistency

/-!
# Experiments keep apart

The assignments of a user to all experiments are remembered in one document, and only the keys of
its entries tell them apart: the key of the experiment, the separator, the bucket version.  The
separator may be part of an experiment's key as well, but a version is all digits, so that the last
separator of a key is the one that was put there (`StickyDocument.experimentKey_inj`).

This has two sides.  A run writes under the key of its own experiment and version, and it reads
under keys of its own experiment alone: the entry that counts, and those of versions that are too
old (`Experiment.memory_eq_of_entries`).  So what happens in other experiments is nothing to a run.
-/

namespace FeatureFlags

open StickyDocument (experimentKey experimentKey_inj)

section Reading

variable {store other : Persistence}

/-- What is remembered about an experiment depends on the entries under its own keys alone. -/
theorem Experiment.memory_eq_of_entries {experiment : Experiment}
    (hentries : ∀ storageKey version,
      store.assignment? storageKey (experimentKey experiment.trackingKey version) =
        other.assignment? storageKey (experimentKey experiment.trackingKey version))
    (context : Context) : experiment.memory context store = experiment.memory context other := by
  cases hservice : experiment.stickyService? context with
  | none => simp only [memory, hservice]
  | some service =>
      have hrecorded (version : Nat) :
          experiment.recorded? service store context.attributes
              (experimentKey experiment.trackingKey version) =
            experiment.recorded? service other context.attributes
              (experimentKey experiment.trackingKey version) :=
        recorded?_congr (hentries · version) experiment service context.attributes
      -- blocking asks for entries of older versions, all of them keys of this experiment
      have hold : experiment.HasOldEntry
            (experiment.recorded? service store context.attributes) ↔
          experiment.HasOldEntry (experiment.recorded? service other context.attributes) := by
        simp only [HasOldEntry, hrecorded]
      rcases memory_cases hservice store with ⟨hblocked, hmemory⟩ | ⟨hopen, hmemory⟩ <;>
        rcases memory_cases hservice other with ⟨hblocked', hmemory'⟩ | ⟨hopen', hmemory'⟩
      · rw [hmemory, hmemory']
      · exact absurd (hold.mp hblocked) hopen'
      · exact absurd (hold.mpr hblocked') hopen
      · rw [hmemory, hmemory', entryKey, hrecorded]

/-- The result of a run depends on the entries of its own experiment alone. -/
theorem ExperimentRun.result_eq_of_entries {run : ExperimentRun}
    (hentries : ∀ storageKey version,
      store.assignment? storageKey (experimentKey run.experiment.trackingKey version) =
        other.assignment? storageKey (experimentKey run.experiment.trackingKey version)) :
    (run.on store).result = (run.on other).result := by
  have hshares := run.context.overridden_sharesAssignments run.experiment
  rw [← hshares.trackingKey_eq] at hentries
  simp only [on, runExperiment, Experiment.decide, Experiment.memory_eq_of_entries hentries]

end Reading

/-- **Assignments of different experiments never share an entry.**  A key determines the experiment
and the bucket version that it was made of.  A run leaves every entry of another experiment, or of
another version of its own one, as it was.  And runs of other experiments, for whichever users,
make no difference to the result of a run. -/
theorem experiments_keep_apart :
    (∀ (first second : String) (m n : Nat),
      experimentKey first m = experimentKey second n ↔ first = second ∧ m = n) ∧
    (∀ (run : ExperimentRun) (store : Persistence) (storageKey key : String) (version : Nat),
      (key, version) ≠ (run.experiment.trackingKey, run.experiment.effectiveBucketVersion) →
        (run.on store).store.assignment? storageKey (experimentKey key version) =
          store.assignment? storageKey (experimentKey key version)) ∧
    ∀ (run : ExperimentRun) (others : List ExperimentRun) (store : Persistence),
      (∀ other ∈ others, other.experiment.trackingKey ≠ run.experiment.trackingKey) →
        (run.on (store.after others)).result = (run.on store).result := by
  refine ⟨fun _ _ _ _ => experimentKey_inj, fun run store storageKey key version hne => ?_,
    fun run others store hothers => ?_⟩
  · refine run.assignment?_of_ne (fun hkey => hne ?_) store storageKey
    obtain ⟨htrackingKey, hversion⟩ := experimentKey_inj.mp hkey
    rw [htrackingKey, hversion]
  · exact ExperimentRun.result_eq_of_entries (assignment?_after_of_trackingKey_ne hothers store)

/-- The key of the second version of "a" is what the keys of "a__1" begin with.  A user who is
remembered in "a__1" is assigned in that version of "a" as if nothing were remembered. -/
theorem nested_keys_kept_apart :
    let inner : Experiment :=
      { key := "a", bucketVersion := some 1, variations := [.string "red", .string "blue"] }
    let outer : Experiment := { key := "a__1", variations := [.boolean true, .boolean false] }
    let user := [("id", .string "user1")]
    let run := ExperimentRun.ofUser user inner
    let other := ExperimentRun.ofUser user outer
    ((other.on {}).store.assignment? "gbStickyBuckets__id||user1" "a__1__0").isSome ∧
      experimentKey "a" 1 ≠ experimentKey "a__1" 0 ∧
      (other.on {}).store.assignment? "gbStickyBuckets__id||user1" (experimentKey "a" 1) =
        Persistence.assignment? {} "gbStickyBuckets__id||user1" (experimentKey "a" 1) ∧
      (run.on (Persistence.after {} [other])).result = (run.on {}).result := by
  intro inner outer user run other
  obtain ⟨hkeys, hframe, hresult⟩ := experiments_keep_apart
  refine ⟨by decide +kernel, fun hkey => ?_, hframe other {} _ "a" 1 (by decide +kernel),
    hresult run [other] {} ?_⟩
  · exact absurd ((hkeys _ _ _ _).mp hkey).1 (by decide)
  · exact List.forall_mem_singleton.mpr (by decide +kernel)

end FeatureFlags
