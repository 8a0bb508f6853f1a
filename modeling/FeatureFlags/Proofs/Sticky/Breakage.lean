import FeatureFlags.Proofs.Sticky.Run

/-!
# Sticky stores that do not work

A store can fail in two ways: it refuses what is to be saved, or it holds something that cannot be
read.  Neither has a part in the result of a run.

A run looks at a store only by reading documents, and whether saves fail is not written in any of
them.  So two stores from which the same documents can be read (`Persistence.ReadsLike`) give the
same results.  If they also accept saves alike (`Persistence.Mirrors`), they are alike again after
the run, because merging reads before it writes and what it writes is readable in both; that is the
step, and `Persistence.Mirrors.results_eq` the induction over a sequence of runs.

A document that cannot be read is read like one that is not there, so a store mirrors itself
without such documents.  And where saves fail nothing changes from one run to the next, so that a
sequence of runs is nothing but its runs, each on the content that was there at first
(`results_of_broken_persistence`).
-/

namespace FeatureFlags

/-! ## Sequences of runs -/

/-- The results of runs on a store, one after another. -/
def Persistence.results (store : Persistence) : List ExperimentRun → List ExperimentResult
  | [] => []
  | run :: rest => (run.on store).result :: (run.on store).store.results rest

/-! ## What a run reads -/

/-- The same documents can be read from two stores. -/
def Persistence.ReadsLike (first second : Persistence) : Prop :=
  ∀ storageKey, StickyService.read first storageKey = StickyService.read second storageKey

namespace Persistence.ReadsLike

variable {first second : Persistence} (h : first.ReadsLike second)
include h

theorem assignments_eq (service : StickyService) (attributes : Attributes)
    (experiment : Experiment) :
    service.assignments first attributes experiment =
      service.assignments second attributes experiment := by
  have hidentity : service.assignmentsOf first = service.assignmentsOf second := by
    funext identity
    simp only [StickyService.assignmentsOf, StickyService.get, h _]
  simp only [StickyService.assignments, hidentity]

theorem merged_eq (service : StickyService) (document : StickyDocument) :
    service.merged first document = service.merged second document := by
  simp only [StickyService.merged, StickyService.get, h _]

theorem decide_eq (context : Context) (experiment : Experiment) :
    experiment.decide context first = experiment.decide context second := by
  simp only [Experiment.decide, Experiment.memory, h.assignments_eq]

/-- The result of a run depends on nothing but the documents that can be read. -/
theorem result_eq (run : ExperimentRun) : (run.on first).result = (run.on second).result := by
  simp only [ExperimentRun.on, runExperiment, h.decide_eq]

end Persistence.ReadsLike

/-- Whether saves fail cannot be read. -/
theorem Persistence.readsLike_of_documents {first second : Persistence}
    (h : first.documents = second.documents) : first.ReadsLike second := by
  intro storageKey
  simp only [StickyService.read, load, h]

/-! ## What a run writes -/

/-- The same documents can be read from two stores, and they accept saves alike. -/
structure Persistence.Mirrors (first second : Persistence) : Prop where
  readsLike : first.ReadsLike second
  saveFailure_eq : first.saveFailure = second.saveFailure

namespace Persistence.Mirrors

variable {first second : Persistence}

/-- Saving the same document keeps two stores alike. -/
theorem save (h : first.Mirrors second) (service : StickyService) (document : StickyDocument) :
    ((service.save first document).toOption.getD first).Mirrors
      ((service.save second document).toOption.getD second) := by
  unfold StickyService.save
  rw [h.readsLike.merged_eq]
  generalize service.storageKey document.attributeName document.attributeValue = key
  generalize (service.merged second document).toJson = json
  -- both stores fail alike, so the mixed cases do not arise
  rcases first.save_cases key json with
    ⟨detail, hfailure, herror⟩ | ⟨hwritable, saved, hsaved, hstill, hload⟩
  · rcases second.save_cases key json with ⟨_, -, herror'⟩ | ⟨hwritable', -⟩
    · rw [herror, herror']
      exact h
    · cases hfailure.symm.trans (h.saveFailure_eq.trans hwritable')
  · rcases second.save_cases key json with
      ⟨_, hfailure', -⟩ | ⟨-, saved', hsaved', hstill', hload'⟩
    · cases hwritable.symm.trans (h.saveFailure_eq.trans hfailure')
    · rw [hsaved, hsaved']
      refine ⟨fun storageKey => ?_, hstill.trans hstill'.symm⟩
      change StickyService.read saved storageKey = StickyService.read saved' storageKey
      rw [StickyService.read, StickyService.read, hload, hload']
      split
      · rfl
      · exact h.readsLike storageKey

/-- What a run writes keeps two stores alike. -/
theorem on (h : first.Mirrors second) (run : ExperimentRun) :
    (run.on first).store.Mirrors (run.on second).store := by
  simp only [ExperimentRun.on, runExperiment, h.readsLike.decide_eq]
  cases (run.context.overridden run.experiment).decide run.context second with
  | excluded reason => exact h
  | forced variation => exact h
  | remembered variation bucket => exact h
  | assigned variation bucket =>
      unfold Decision.commit
      cases (run.context.overridden run.experiment).stickyService? run.context with
      | none => exact h
      | some service =>
          simp only [StickyService.remember_eq, ← service.get?_assignments,
            h.readsLike.assignments_eq]
          split
          · exact h
          · exact h.save service _

/-- **Alike in every result.** -/
theorem results_eq (h : first.Mirrors second) (runs : List ExperimentRun) :
    first.results runs = second.results runs := by
  induction runs generalizing first second with
  | nil => rfl
  | cons run rest ih =>
      rw [Persistence.results, Persistence.results, h.readsLike.result_eq, ih (h.on run)]

end Persistence.Mirrors

/-! ## Content that cannot be read -/

theorem Dictionary.get?_foldr_erase {α : Type} (entries : Dictionary α) (keys : List String)
    (key : String) :
    get? (keys.foldr erase entries) key = if key ∈ keys then none else get? entries key := by
  induction keys with
  | nil => simp
  | cons first rest ih =>
      rw [List.foldr_cons, get?_erase, ih]
      by_cases hfirst : first = key
      · simp [hfirst]
      · simp [hfirst, Ne.symm hfirst]

/-- A store mirrors itself without documents that cannot be read. -/
theorem Persistence.mirrors_erase {content : Dictionary Json} {failure? : Option String}
    {keys : List String} (hkeys : ∀ key ∈ keys, StickyService.read ⟨content, failure?⟩ key = none) :
    Persistence.Mirrors ⟨content, failure?⟩ ⟨keys.foldr Dictionary.erase content, failure?⟩ := by
  refine ⟨fun storageKey => ?_, rfl⟩
  have hload : load ⟨keys.foldr Dictionary.erase content, failure?⟩ storageKey =
      if storageKey ∈ keys then none else load ⟨content, failure?⟩ storageKey :=
    Dictionary.get?_foldr_erase content keys storageKey
  by_cases hkey : storageKey ∈ keys
  · rw [hkeys storageKey hkey, StickyService.read, hload, if_pos hkey]
    rfl
  · rw [StickyService.read, StickyService.read, hload, if_neg hkey]

/-! ## Saves that fail -/

section Failing

variable {store : Persistence} (hfailing : store.saveFailure ≠ none)
include hfailing

theorem ExperimentRun.store_of_failing (run : ExperimentRun) : (run.on store).store = store := by
  rcases Decision.commit_cases ((run.context.overridden run.experiment).decide run.context store)
    run.context (run.context.overridden run.experiment) store with
    hsame | ⟨variation, bucket, service, -, -, hremember⟩
  · exact hsame
  · rcases service.remember_cases store run.context.attributes
      (run.context.overridden run.experiment)
      ((run.context.overridden run.experiment).identity run.context) variation with
      ⟨hsame, -⟩ | ⟨hwritable, -⟩
    · exact hremember.trans hsame
    · exact absurd hwritable hfailing

/-- Where saves fail, runs one after another are runs on their own. -/
theorem Persistence.after_of_failing (runs : List ExperimentRun) :
    store.after runs = store ∧ store.results runs = runs.map fun run => (run.on store).result := by
  induction runs with
  | nil => exact ⟨rfl, rfl⟩
  | cons run rest ih =>
      rw [after_cons, results, run.store_of_failing hfailing, List.map_cons, ih.2]
      exact ⟨ih.1, rfl⟩

end Failing

/-! ## Broken persistence -/

/-- **A broken persistence does not affect assignment.**  A run has the same result whether or not
saves fail.  Where they fail, runs leave the content as it is, and each has the result that it has
alone on that content.  And content that cannot be read under some keys gives in all runs the same
results as no content there. -/
theorem results_of_broken_persistence (content : Dictionary Json) :
    (∀ (run : ExperimentRun) (failure : String),
      (run.on ⟨content, some failure⟩).result = (run.on ⟨content, none⟩).result) ∧
    (∀ (runs : List ExperimentRun) (failure : String),
      Persistence.after ⟨content, some failure⟩ runs = ⟨content, some failure⟩ ∧
        Persistence.results ⟨content, some failure⟩ runs =
          runs.map fun run => (run.on ⟨content, none⟩).result) ∧
    ∀ (runs : List ExperimentRun) (failure? : Option String) (keys : List String),
      (∀ key ∈ keys, StickyService.read ⟨content, failure?⟩ key = none) →
        Persistence.results ⟨content, failure?⟩ runs =
          Persistence.results ⟨keys.foldr Dictionary.erase content, failure?⟩ runs := by
  have hresult (run : ExperimentRun) (failure : String) :
      (run.on ⟨content, some failure⟩).result = (run.on ⟨content, none⟩).result :=
    (Persistence.readsLike_of_documents rfl).result_eq run
  refine ⟨hresult, fun runs failure => ?_, fun runs failure? keys hkeys => ?_⟩
  · obtain ⟨hstore, hresults⟩ :=
      @Persistence.after_of_failing ⟨content, some failure⟩ (Option.some_ne_none failure) runs
    refine ⟨hstore, hresults.trans ?_⟩
    exact List.map_congr_left fun run _ => hresult run failure
  · exact (Persistence.mirrors_erase hkeys).results_eq runs

/-- Neither of the two documents of a user can be read, and saves fail: the user takes part again
and again as if nothing were stored. -/
theorem results_on_corrupt_documents :
    let content : Dictionary Json :=
      [("gbStickyBuckets__deviceId||d1", .bool true),
        ("gbStickyBuckets__id||user1", .object [("assignments", .integer 42)])]
    let keys := ["gbStickyBuckets__deviceId||d1", "gbStickyBuckets__id||user1"]
    let experiment : Experiment :=
      { key := "t1", variations := [.string "A", .string "B"]
        fallbackAttribute := some "deviceId" }
    let run := ExperimentRun.ofUser [("deviceId", .string "d1"), ("id", .string "user1")] experiment
    let broken : Persistence := ⟨content, some "disk full"⟩
    (∀ key ∈ keys, StickyService.read broken key = none) ∧
      broken.results [run, run] = Persistence.results ⟨[], some "disk full"⟩ [run, run] ∧
      broken.after [run, run] = broken ∧
      (broken.results [run, run]).map (·.inExperiment) = [true, true] := by
  intro content keys experiment run broken
  have hunreadable : ∀ key ∈ keys, StickyService.read broken key = none := by decide +kernel
  obtain ⟨-, hfailing, hcorrupt⟩ := results_of_broken_persistence content
  exact ⟨hunreadable, hcorrupt [run, run] (some "disk full") keys hunreadable,
    (hfailing [run, run] "disk full").1, by decide +kernel⟩

end FeatureFlags
