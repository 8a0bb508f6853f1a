import FeatureFlags.Proofs.Sticky.Memory

/-!
# Running experiments on a sticky store

This file says once what a run of an experiment can do.

* `takesPart_cases`: a user takes part in an experiment by a remembered
  assignment or by a fresh one, and in no other way.
* `AsksMemory` collects the conditions under which a run gets as far as the
  store; `decide_eq` is the decision once they hold, and `decide_cases` the
  decision otherwise.
* `Admits` collects the conditions under which someone who is not remembered is
  assigned; `decideAfresh_cases` says what else can happen.
* `store_cases`: a run leaves the store alone, or finds nothing remembered and
  updates the one entry of the hashed identity under the experiment's key.

A list of runs is an `ExperimentRun` after another on the same store, and the
frame condition `assignment?_after_of_ne` follows by induction: runs of other
experiments never touch an entry.  `freshRun_spec` sums up a run that assigns its
user to a variation which can be read back.
-/

namespace FeatureFlags

open Dictionary (Sorted)

/-! ## Experiments that share their assignments -/

/-- Two experiments that remember their assignments in the same entries and mean
the same variations by them. -/
structure Experiment.SharesAssignments (first second : Experiment) : Prop where
  key_eq : first.key = second.key
  variations_eq : first.variations = second.variations
  details_eq : first.details = second.details
  hashAttribute_eq : first.hashAttribute = second.hashAttribute
  fallbackAttribute_eq : first.fallbackAttribute = second.fallbackAttribute
  bucketVersion_eq : first.bucketVersion = second.bucketVersion
  minBucketVersion_eq : first.minBucketVersion = second.minBucketVersion

namespace Experiment.SharesAssignments

variable {first second third : Experiment}

theorem trans (h : first.SharesAssignments second) (h' : second.SharesAssignments third) :
    first.SharesAssignments third where
  key_eq := h.key_eq.trans h'.key_eq
  variations_eq := h.variations_eq.trans h'.variations_eq
  details_eq := h.details_eq.trans h'.details_eq
  hashAttribute_eq := h.hashAttribute_eq.trans h'.hashAttribute_eq
  fallbackAttribute_eq := h.fallbackAttribute_eq.trans h'.fallbackAttribute_eq
  bucketVersion_eq := h.bucketVersion_eq.trans h'.bucketVersion_eq
  minBucketVersion_eq := h.minBucketVersion_eq.trans h'.minBucketVersion_eq

theorem trackingKey_eq (h : first.SharesAssignments second) :
    first.trackingKey = second.trackingKey := by
  simp only [trackingKey, variationsText, h.key_eq, h.variations_eq]

theorem entryKey_eq (h : first.SharesAssignments second) : first.entryKey = second.entryKey := by
  simp only [entryKey, h.trackingKey_eq, effectiveBucketVersion, h.bucketVersion_eq]

theorem variationKey_eq (h : first.SharesAssignments second) :
    first.variationKey = second.variationKey := by
  funext index
  simp only [variationKey, ownKey?, h.details_eq]

theorem variationIndex?_eq (h : first.SharesAssignments second) :
    first.variationIndex? = second.variationIndex? := by
  funext key
  simp only [variationIndex?, ownKey?, h.details_eq, h.variations_eq]

theorem primaryIdentity_eq (h : first.SharesAssignments second) :
    first.primaryIdentity = second.primaryIdentity := by
  funext attributes
  simp only [primaryIdentity, h.hashAttribute_eq]

theorem identity_eq (h : first.SharesAssignments second) {context other : Context}
    (hattributes : context.attributes = other.attributes) :
    first.identity context = second.identity other := by
  simp only [identity, h.hashAttribute_eq, h.fallbackAttribute_eq, hattributes]

theorem recorded?_eq (h : first.SharesAssignments second) :
    first.recorded? = second.recorded? := by
  funext service store attributes entryKey
  simp only [recorded?, h.primaryIdentity_eq, fallbackIdentity?, h.fallbackAttribute_eq]

theorem hasOldEntry_iff (h : first.SharesAssignments second)
    (recorded? : String → Option String) :
    first.HasOldEntry recorded? ↔ second.HasOldEntry recorded? := by
  simp only [HasOldEntry, h.minBucketVersion_eq, h.trackingKey_eq]

section Memory

variable {context : Context} {service : StickyService} {store : Persistence}

theorem memory_eq_found_iff (h : first.SharesAssignments second)
    (hservice : first.stickyService? context = some service) {variation : Nat} :
    first.memory context store = .found variation ↔
      ¬ second.HasOldEntry (second.recorded? service store context.attributes) ∧
        (second.recorded? service store context.attributes second.entryKey).bind
          second.variationIndex? = some variation := by
  rw [Experiment.memory_eq_found_iff hservice, h.hasOldEntry_iff, h.recorded?_eq, h.entryKey_eq,
    h.variationIndex?_eq]

theorem memory_eq_nothing_iff (h : first.SharesAssignments second)
    (hservice : first.stickyService? context = some service) :
    first.memory context store = .nothing ↔
      ¬ second.HasOldEntry (second.recorded? service store context.attributes) ∧
        (second.recorded? service store context.attributes second.entryKey).bind
          second.variationIndex? = none := by
  rw [Experiment.memory_eq_nothing_iff hservice, h.hasOldEntry_iff, h.recorded?_eq,
    h.entryKey_eq, h.variationIndex?_eq]

end Memory

end Experiment.SharesAssignments

/-- What a host replaces in an experiment has no part in remembering. -/
theorem Context.overridden_sharesAssignments (context : Context) (experiment : Experiment) :
    (context.overridden experiment).SharesAssignments experiment := by
  unfold overridden
  cases Dictionary.get? context.overrides experiment.trackingKey <;>
    exact ⟨rfl, rfl, rfl, rfl, rfl, rfl, rfl⟩

theorem Context.overridden_disableStickyBucketing (context : Context) (experiment : Experiment) :
    (context.overridden experiment).disableStickyBucketing =
      experiment.disableStickyBucketing := by
  unfold overridden
  cases Dictionary.get? context.overrides experiment.trackingKey <;> rfl

theorem Context.overridden_ranges (context : Context) (experiment : Experiment) :
    (context.overridden experiment).ranges = experiment.ranges := by
  unfold overridden
  cases Dictionary.get? context.overrides experiment.trackingKey <;> rfl

theorem Context.overridden_filters (context : Context) (experiment : Experiment) :
    (context.overridden experiment).filters = experiment.filters := by
  unfold overridden
  cases Dictionary.get? context.overrides experiment.trackingKey <;> rfl

theorem Context.overridden_slice (context : Context) (experiment : Experiment) :
    (context.overridden experiment).slice = experiment.slice := by
  unfold overridden
  cases Dictionary.get? context.overrides experiment.trackingKey <;> rfl

theorem Context.bucketOf_overridden (context : Context) (experiment : Experiment)
    (hashValue : String) :
    (context.overridden experiment).bucketOf context hashValue =
      experiment.bucketOf context hashValue := by
  unfold overridden
  cases Dictionary.get? context.overrides experiment.trackingKey <;> rfl

theorem Context.stickyService?_overridden (context : Context) {experiment : Experiment}
    {service : StickyService} (hservice : context.sticky = some service)
    (hsticky : experiment.disableStickyBucketing = false) :
    (context.overridden experiment).stickyService? context = some service :=
  Experiment.stickyService?_eq hservice
    ((context.overridden_disableStickyBucketing experiment).trans hsticky)

/-! ## Decisions -/

/-- Whether a decision gives the user a variation of the experiment. -/
def Decision.isAssignment : Decision → Bool
  | remembered _ _ => true
  | assigned _ _ => true
  | _ => false

/-- A user takes part by a remembered or by a fresh assignment. -/
theorem Decision.takesPart_cases {decision : Decision} {experiment : Experiment}
    {identity : HashIdentity} {featureId : Option String} {result : ExperimentResult}
    (hresult : decision.result experiment identity featureId = result)
    (htakesPart : result.inExperiment = true) :
    result.variationId < experiment.variations.length ∧
      ((∃ bucket, decision = .remembered result.variationId bucket ∧
          result.stickyBucketUsed = true) ∨
        ∃ bucket, decision = .assigned result.variationId bucket ∧
          result.stickyBucketUsed = false) := by
  subst hresult
  cases decision with
  | excluded reason => simp [Decision.result, Experiment.resultOf] at htakesPart
  | forced variation => simp [Decision.result, Experiment.resultOf] at htakesPart
  | remembered variation bucket =>
      have hknown : variation < experiment.variations.length := by
        simpa [Decision.result, Experiment.resultOf] using htakesPart
      simp [Decision.result, Experiment.resultOf, hknown]
  | assigned variation bucket =>
      have hknown : variation < experiment.variations.length := by
        simpa [Decision.result, Experiment.resultOf] using htakesPart
      simp [Decision.result, Experiment.resultOf, hknown]

namespace Experiment

/-- A run of the experiment gets as far as asking what is remembered. -/
structure AsksMemory (experiment : Experiment) (context : Context) : Prop where
  hasVariations : 2 ≤ experiment.variations.length
  isEnabled : context.enabled = true
  notForced : Dictionary.get? context.forcedVariations experiment.trackingKey = none
  isActive : experiment.active = true
  hasIdentity : (experiment.identity context).isEmpty = false

/-- The decision of a run that asks what is remembered. -/
theorem AsksMemory.decide_eq {experiment : Experiment} {context : Context}
    (hasks : experiment.AsksMemory context) (store : Persistence) :
    experiment.decide context store =
      match experiment.memory context store with
      | .found variation =>
          .remembered variation
            (experiment.bucketOf context (experiment.identity context).value)
      | .blocked => .excluded .bucketVersionBlocked
      | .nothing => experiment.decideAfresh context (experiment.identity context).value := by
  rw [decide, if_neg (Nat.not_lt.mpr hasks.hasVariations)]
  simp only [hasks.isEnabled, hasks.notForced, hasks.isActive, hasks.hasIdentity]
  rfl

/-- A user with this hash value passes every gate and falls into the range of a variation. -/
structure Admits (experiment : Experiment) (context : Context) (hashValue : String)
    (variation : Nat) (bucket : Number) : Prop where
  isReached : experiment.outOfReach context hashValue = none
  conditionHolds : experiment.conditionHolds context = true
  hashes : experiment.bucketOf context hashValue = some bucket
  chooses : chooseVariation bucket (experiment.effectiveRanges context.arithmetic) = some variation
  forcesNothing : experiment.force = none
  notQaMode : context.qaMode = false

/-- A decision made afresh keeps the user out, obeys the experiment, or follows the hash and the
ranges behind every gate. -/
theorem decideAfresh_cases (experiment : Experiment) (context : Context) (hashValue : String) :
    (∃ reason, experiment.decideAfresh context hashValue = .excluded reason) ∨
      (∃ variation, experiment.force = some variation ∧
        experiment.decideAfresh context hashValue = .forced variation) ∨
      ∃ variation bucket, experiment.Admits context hashValue variation bucket ∧
        experiment.decideAfresh context hashValue = .assigned variation bucket := by
  unfold decideAfresh
  split
  · exact Or.inl ⟨_, rfl⟩
  rename_i hreached
  split
  · exact Or.inl ⟨_, rfl⟩
  rename_i hcondition
  unfold decideByHash
  split
  · exact Or.inl ⟨_, rfl⟩
  rename_i bucket hbucket
  split
  · exact Or.inl ⟨_, rfl⟩
  rename_i variation hchosen
  split
  · rename_i forced hforce
    exact Or.inr (Or.inl ⟨forced, hforce, rfl⟩)
  rename_i hforce
  split
  · exact Or.inl ⟨_, rfl⟩
  rename_i hqa
  refine Or.inr (Or.inr ⟨variation, bucket, ?_, rfl⟩)
  exact ⟨hreached, by simpa using hcondition, hbucket, hchosen, hforce, by simpa using hqa⟩

/-- A run that does not ask what is remembered keeps the user out or obeys the host. -/
theorem decide_cases (experiment : Experiment) (context : Context) (store : Persistence) :
    (∃ reason, experiment.decide context store = .excluded reason) ∨
      (∃ variation,
        Dictionary.get? context.forcedVariations experiment.trackingKey = some variation ∧
          experiment.decide context store = .forced variation) ∨
      experiment.AsksMemory context := by
  unfold decide
  split
  · exact Or.inl ⟨_, rfl⟩
  rename_i hvariations
  split
  · exact Or.inl ⟨_, rfl⟩
  rename_i henabled
  split
  · rename_i forced hforced
    exact Or.inr (Or.inl ⟨forced, hforced, rfl⟩)
  rename_i hforced
  dsimp only
  split
  · exact Or.inl ⟨_, rfl⟩
  rename_i hactive
  split
  · exact Or.inl ⟨_, rfl⟩
  rename_i hidentity
  exact Or.inr (Or.inr ⟨Nat.not_lt.mp hvariations, by simpa using henabled, hforced,
    by simpa using hactive, by simpa using hidentity⟩)

/-- Only a run that asks what is remembered ends in an assignment. -/
theorem asksMemory_of_isAssignment {experiment : Experiment} {context : Context}
    {store : Persistence} (h : (experiment.decide context store).isAssignment = true) :
    experiment.AsksMemory context := by
  rcases experiment.decide_cases context store with ⟨_, hout⟩ | ⟨_, -, hforced⟩ | hasks
  · rw [hout] at h
    cases h
  · rw [hforced] at h
    cases h
  · exact hasks

theorem decide_eq_remembered {experiment : Experiment} {context : Context} {store : Persistence}
    {variation : Nat} {bucket : Option Number}
    (h : experiment.decide context store = .remembered variation bucket) :
    experiment.AsksMemory context ∧ experiment.memory context store = .found variation := by
  have hasks : experiment.AsksMemory context := asksMemory_of_isAssignment (by rw [h]; rfl)
  refine ⟨hasks, ?_⟩
  rw [hasks.decide_eq] at h
  split at h
  · rename_i hfound
    cases h
    exact hfound
  · cases h
  · rcases experiment.decideAfresh_cases context (experiment.identity context).value with
      ⟨_, hafresh⟩ | ⟨_, -, hafresh⟩ | ⟨_, _, -, hafresh⟩ <;>
      cases h.symm.trans hafresh

theorem decide_eq_assigned {experiment : Experiment} {context : Context} {store : Persistence}
    {variation : Nat} {bucket : Number}
    (h : experiment.decide context store = .assigned variation bucket) :
    experiment.AsksMemory context ∧ experiment.memory context store = .nothing ∧
      experiment.bucketOf context (experiment.identity context).value = some bucket ∧
      chooseVariation bucket (experiment.effectiveRanges context.arithmetic) =
        some variation := by
  have hasks : experiment.AsksMemory context := asksMemory_of_isAssignment (by rw [h]; rfl)
  rw [hasks.decide_eq] at h
  split at h
  · cases h
  · cases h
  · rename_i hnothing
    refine ⟨hasks, hnothing, ?_⟩
    rcases experiment.decideAfresh_cases context (experiment.identity context).value with
      ⟨_, hafresh⟩ | ⟨_, -, hafresh⟩ | ⟨_, _, hadmits, hafresh⟩
    · cases h.symm.trans hafresh
    · cases h.symm.trans hafresh
    · cases h.symm.trans hafresh
      exact ⟨hadmits.hashes, hadmits.chooses⟩

end Experiment

/-! ## A run -/

/-- A run of an experiment for the user of a context. -/
structure ExperimentRun where
  context : Context
  experiment : Experiment
  featureId : Option String := none

/-- A run for a user with the given attributes, where nothing but a sticky service
is set up. -/
def ExperimentRun.ofUser (attributes : Attributes) (experiment : Experiment) : ExperimentRun where
  context := { apiKey := "", hostUrl := "", attributes, sticky := some {} }
  experiment

/-- What a run leaves behind on a store. -/
def ExperimentRun.on (run : ExperimentRun) (store : Persistence) : Evaluation ExperimentResult :=
  runExperiment run.context run.experiment run.featureId store

/-! ## What a run leaves in the store -/

/-- One assignment of a store has been set, and nothing else has changed. -/
def Persistence.IsUpdate (before after : Persistence) (storageKey entryKey value : String) :
    Prop :=
  ∀ otherStorage otherEntry, after.assignment? otherStorage otherEntry =
    if storageKey = otherStorage ∧ entryKey = otherEntry then some value
    else before.assignment? otherStorage otherEntry

namespace Persistence.IsUpdate

variable {before after : Persistence} {storageKey entryKey value : String}

theorem get_self (h : before.IsUpdate after storageKey entryKey value) :
    after.assignment? storageKey entryKey = some value := by
  rw [h storageKey entryKey, if_pos ⟨rfl, rfl⟩]

theorem get_of_storageKey_ne (h : before.IsUpdate after storageKey entryKey value)
    {other : String} (hother : storageKey ≠ other) (otherEntry : String) :
    after.assignment? other otherEntry = before.assignment? other otherEntry := by
  rw [h other otherEntry]
  exact if_neg fun hboth => hother hboth.1

theorem get_of_entryKey_ne (h : before.IsUpdate after storageKey entryKey value)
    {other : String} (hother : entryKey ≠ other) (otherStorage : String) :
    after.assignment? otherStorage other = before.assignment? otherStorage other := by
  rw [h otherStorage other]
  exact if_neg fun hboth => hother hboth.2

end Persistence.IsUpdate

theorem StickyService.remember_eq (service : StickyService) (store : Persistence)
    (attributes : Attributes) (experiment : Experiment) (identity : HashIdentity)
    (variation : Nat) :
    service.remember store attributes experiment identity variation =
      if experiment.recorded? service store attributes experiment.entryKey =
          some (experiment.variationKey variation) then store
      else (service.save store ⟨identity.name, identity.value,
        [(experiment.entryKey, experiment.variationKey variation)]⟩).toOption.getD store := by
  rw [← service.get?_assignments]
  unfold remember Experiment.entryKey
  dsimp only
  cases service.save store ⟨identity.name, identity.value, [(StickyDocument.experimentKey
    experiment.trackingKey experiment.effectiveBucketVersion, experiment.variationKey variation)]⟩
    <;> rfl

/-- Remembering leaves the store alone if the entry is there already or saving
fails; otherwise it sets the entry of the identity and nothing else. -/
theorem StickyService.remember_cases (service : StickyService) (store : Persistence)
    (attributes : Attributes) (experiment : Experiment) (identity : HashIdentity)
    (variation : Nat) :
    (service.remember store attributes experiment identity variation = store ∧
        (experiment.recorded? service store attributes experiment.entryKey =
            some (experiment.variationKey variation) ∨
          store.saveFailure ≠ none)) ∨
      (store.saveFailure = none ∧
        store.IsUpdate (service.remember store attributes experiment identity variation)
          (service.documentKey identity) experiment.entryKey
          (experiment.variationKey variation)) := by
  let document : StickyDocument := ⟨identity.name, identity.value,
    [(experiment.entryKey, experiment.variationKey variation)]⟩
  have hsorted : Sorted document.assignments := List.pairwise_singleton _ _
  rw [service.remember_eq]
  split
  · rename_i hknown
    exact Or.inl ⟨rfl, Or.inl hknown⟩
  · rcases service.save_document_cases store hsorted with
      ⟨hfailure, error, herror⟩ | ⟨hwritable, saved, hsaved, -, hentry⟩
    · rw [herror]
      exact Or.inl ⟨rfl, Or.inr hfailure⟩
    · rw [hsaved]
      refine Or.inr ⟨hwritable, fun storageKey entryKey => ?_⟩
      rw [Except.toOption, Option.getD_some, hentry, Dictionary.get?_cons]
      by_cases hkey : experiment.entryKey = entryKey <;>
        simp [document, documentKey, hkey]

/-- Only a fresh assignment is remembered, and only where a service does so. -/
theorem Decision.commit_cases (decision : Decision) (context : Context) (experiment : Experiment)
    (store : Persistence) :
    decision.commit context experiment store = store ∨
      ∃ variation bucket service, decision = .assigned variation bucket ∧
        experiment.stickyService? context = some service ∧
        decision.commit context experiment store =
          service.remember store context.attributes experiment (experiment.identity context)
            variation := by
  cases decision with
  | excluded reason => exact Or.inl rfl
  | forced variation => exact Or.inl rfl
  | remembered variation bucket => exact Or.inl rfl
  | assigned variation bucket =>
      unfold commit
      cases hservice : experiment.stickyService? context with
      | none => exact Or.inl rfl
      | some service => exact Or.inr ⟨variation, bucket, service, rfl, rfl, rfl⟩

/-- A run in which the user takes part: either the run finds an assignment and
leaves the store as it is, or it finds nothing and assigns the user afresh. -/
theorem ExperimentRun.takesPart_cases {run : ExperimentRun} {store : Persistence}
    (htakesPart : (run.on store).result.inExperiment = true) :
    (run.context.overridden run.experiment).AsksMemory run.context ∧
      (run.on store).result.variationId < run.experiment.variations.length ∧
      (((run.on store).result.stickyBucketUsed = true ∧
          (run.context.overridden run.experiment).memory run.context store =
            .found (run.on store).result.variationId ∧
          (run.on store).store = store) ∨
        ((run.on store).result.stickyBucketUsed = false ∧
          ∃ bucket, (run.context.overridden run.experiment).decide run.context store =
            .assigned (run.on store).result.variationId bucket)) := by
  obtain ⟨hknown, ⟨bucket, hdecision, hused⟩ | ⟨bucket, hdecision, hused⟩⟩ :=
    Decision.takesPart_cases rfl htakesPart
  all_goals rw [(run.context.overridden_sharesAssignments run.experiment).variations_eq] at hknown
  · obtain ⟨hasks, hfound⟩ := Experiment.decide_eq_remembered hdecision
    refine ⟨hasks, hknown, Or.inl ⟨hused, hfound, ?_⟩⟩
    show Decision.commit _ _ _ _ = store
    rw [hdecision]
    rfl
  · obtain ⟨hasks, -⟩ := Experiment.decide_eq_assigned hdecision
    exact ⟨hasks, hknown, Or.inr ⟨hused, bucket, hdecision⟩⟩

/-- A run leaves the store alone, or has found nothing remembered and sets the entry
of the hashed identity under the experiment's key. -/
theorem ExperimentRun.store_cases (run : ExperimentRun) (store : Persistence) :
    (run.on store).store = store ∨
      ∃ service variation bucket,
        (run.context.overridden run.experiment).stickyService? run.context = some service ∧
        (run.context.overridden run.experiment).decide run.context store =
          .assigned variation bucket ∧
        store.IsUpdate (run.on store).store
          (service.documentKey (run.experiment.identity run.context)) run.experiment.entryKey
          (run.experiment.variationKey variation) := by
  have hshares := run.context.overridden_sharesAssignments run.experiment
  rcases Decision.commit_cases ((run.context.overridden run.experiment).decide run.context store)
    run.context (run.context.overridden run.experiment) store with
    hsame | ⟨variation, bucket, service, hdecision, hservice, hremember⟩
  · exact Or.inl hsame
  rcases service.remember_cases store run.context.attributes
    (run.context.overridden run.experiment)
    ((run.context.overridden run.experiment).identity run.context) variation with
    ⟨hsame, -⟩ | ⟨-, hupdate⟩
  · exact Or.inl (hremember.trans hsame)
  · refine Or.inr ⟨service, variation, bucket, hservice, hdecision, ?_⟩
    rw [← hremember, hshares.entryKey_eq, hshares.variationKey_eq, hshares.identity_eq rfl]
      at hupdate
    exact hupdate

/-- After a fresh assignment the hashed identity's entry names the variation,
unless the entry that counted before did so already. -/
theorem ExperimentRun.isUpdate_of_assigned {run : ExperimentRun} {store : Persistence}
    {service : StickyService} {variation : Nat} {bucket : Number}
    (hwritable : store.saveFailure = none) (hservice : run.context.sticky = some service)
    (hsticky : run.experiment.disableStickyBucketing = false)
    (hdecision : (run.context.overridden run.experiment).decide run.context store =
      .assigned variation bucket)
    (hunknown : run.experiment.recorded? service store run.context.attributes
      run.experiment.entryKey ≠ some (run.experiment.variationKey variation)) :
    store.IsUpdate (run.on store).store
      (service.documentKey (run.experiment.identity run.context)) run.experiment.entryKey
      (run.experiment.variationKey variation) := by
  have hshares := run.context.overridden_sharesAssignments run.experiment
  have hstickyService := run.context.stickyService?_overridden hservice hsticky
  -- an assigned user's variation is remembered under the overridden experiment
  have hstore : (run.on store).store =
      service.remember store run.context.attributes (run.context.overridden run.experiment)
        ((run.context.overridden run.experiment).identity run.context) variation := by
    show Decision.commit _ _ _ _ = _
    rw [hdecision]
    simp only [Decision.commit, hstickyService]
  rw [hstore]
  rcases service.remember_cases store run.context.attributes
    (run.context.overridden run.experiment)
    ((run.context.overridden run.experiment).identity run.context) variation with
    ⟨-, hknown | hfailure⟩ | ⟨-, hupdate⟩
  · -- the override shares the keys, so what it finds known is known to the experiment
    rw [hshares.recorded?_eq, hshares.entryKey_eq, hshares.variationKey_eq] at hknown
    exact absurd hknown hunknown
  · exact absurd hwritable hfailure
  · rw [hshares.entryKey_eq, hshares.variationKey_eq, hshares.identity_eq rfl] at hupdate
    rw [hshares.identity_eq rfl]
    exact hupdate

/-- **The frame of a run.**  A run of an experiment leaves every entry under
another key than the experiment's as it was, whatever document it is in. -/
theorem ExperimentRun.assignment?_of_ne {run : ExperimentRun} {entryKey : String}
    (hother : run.experiment.entryKey ≠ entryKey) (store : Persistence) (storageKey : String) :
    (run.on store).store.assignment? storageKey entryKey =
      store.assignment? storageKey entryKey := by
  rcases run.store_cases store with hsame | ⟨_, _, _, -, -, hupdate⟩
  · rw [hsame]
  · exact hupdate.get_of_entryKey_ne hother storageKey

/-! ## Runs one after another -/

/-- The store after runs on it, one after another. -/
def Persistence.after (store : Persistence) (runs : List ExperimentRun) : Persistence :=
  runs.foldl (fun current run => (run.on current).store) store

theorem Persistence.after_cons (store : Persistence) (run : ExperimentRun)
    (rest : List ExperimentRun) :
    store.after (run :: rest) = (run.on store).store.after rest := rfl

/-- Runs of experiments with other keys never touch an entry. -/
theorem assignment?_after_of_ne {runs : List ExperimentRun} {entryKey : String}
    (hother : ∀ run ∈ runs, run.experiment.entryKey ≠ entryKey) (store : Persistence)
    (storageKey : String) :
    (store.after runs).assignment? storageKey entryKey = store.assignment? storageKey entryKey := by
  induction runs generalizing store with
  | nil => rfl
  | cons run rest ih =>
      rw [Persistence.after_cons, ih fun other h => hother other (List.mem_cons_of_mem _ h)]
      exact run.assignment?_of_ne (hother run (List.mem_cons_self ..)) store storageKey

/-! ## A run that assigns its user afresh -/

section Fresh

variable {store : Persistence} {service : StickyService} {run : ExperimentRun} {variation : Nat}

/-- A run that assigns its user afresh has found no entry that would block the
experiment, and leaves the assignment in the entry of the hashed identity. -/
theorem freshRun_spec (hwritable : store.saveFailure = none)
    (hservice : run.context.sticky = some service)
    (hsticky : run.experiment.disableStickyBucketing = false)
    (htakesPart : (run.on store).result.inExperiment = true)
    (hfresh : (run.on store).result.stickyBucketUsed = false)
    (hvariation : (run.on store).result.variationId = variation)
    (hreads : run.experiment.variationIndex? (run.experiment.variationKey variation) =
      some variation) :
    (run.experiment.identity run.context).isEmpty = false ∧
      2 ≤ run.experiment.variations.length ∧
      variation < run.experiment.variations.length ∧
      ¬ run.experiment.HasOldEntry
        (run.experiment.recorded? service store run.context.attributes) ∧
      store.IsUpdate (run.on store).store
        (service.documentKey (run.experiment.identity run.context)) run.experiment.entryKey
        (run.experiment.variationKey variation) := by
  subst hvariation
  have hshares := run.context.overridden_sharesAssignments run.experiment
  obtain ⟨hasks, hknown, ⟨hused, -, -⟩ | ⟨-, bucket, hdecision⟩⟩ :=
    ExperimentRun.takesPart_cases htakesPart
  · exact absurd (hused.symm.trans hfresh) nofun
  obtain ⟨-, hnothing, -, -⟩ := Experiment.decide_eq_assigned hdecision
  have hstickyService := run.context.stickyService?_overridden hservice hsticky
  obtain ⟨hnotOld, hunread⟩ := (hshares.memory_eq_nothing_iff hstickyService).mp hnothing
  refine ⟨?_, ?_, hknown, hnotOld, ?_⟩
  · rw [← hshares.identity_eq rfl]
    exact hasks.hasIdentity
  · rw [← hshares.variations_eq]
    exact hasks.hasVariations
  · refine ExperimentRun.isUpdate_of_assigned hwritable hservice hsticky hdecision ?_
    -- The entry that counted cannot name the variation: it could have been read back.
    intro hrecorded
    rw [hrecorded, Option.bind_some] at hunread
    exact absurd (hunread.symm.trans hreads) nofun

end Fresh

end FeatureFlags
