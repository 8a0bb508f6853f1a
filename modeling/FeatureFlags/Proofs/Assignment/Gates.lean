import FeatureFlags.Proofs.Sticky.Run

/-!
# The gates before an assignment

A user who is not remembered has to pass one gate after another before being assigned:
filters or namespace, condition, hash, ranges, a variation forced by the experiment, and
the host's QA mode.  `Experiment.Admits` names what lies behind all of them, and
`decide_eq_assigned_iff` says that a run assigns its user afresh exactly if it gets as far
as the store, finds nothing there, and admits the user.  The other way to take part is to
be remembered (`decide_eq_remembered_iff`), and `ExperimentRun.takesPart_iff` puts the two
together.

The order of the gates shows in QA mode, which is asked about last: it keeps out everyone
who would be assigned afresh, but somebody who is remembered has long been let in
(`served_in_qaMode`).
-/

namespace FeatureFlags

namespace Experiment

variable {experiment : Experiment} {context : Context} {hashValue : String} {variation : Nat}
  {bucket : Number}

theorem decideByHash_of_admits (h : experiment.Admits context hashValue variation bucket) :
    experiment.decideByHash context hashValue = .assigned variation bucket := by
  rw [decideByHash, h.hashes]
  simp only [h.chooses, h.forcesNothing, h.notQaMode, Bool.false_eq_true, if_false]

/-- **Nobody is assigned afresh without passing every gate.** -/
theorem decideAfresh_eq_assigned_iff :
    experiment.decideAfresh context hashValue = .assigned variation bucket ↔
      experiment.Admits context hashValue variation bucket := by
  constructor
  · intro h
    rcases experiment.decideAfresh_cases context hashValue with
      ⟨_, hafresh⟩ | ⟨_, -, hafresh⟩ | ⟨_, _, hadmits, hafresh⟩
    · cases h.symm.trans hafresh
    · cases h.symm.trans hafresh
    · cases h.symm.trans hafresh
      exact hadmits
  · intro h
    rw [decideAfresh, h.isReached]
    simp only [h.conditionHolds, Bool.not_true, Bool.false_eq_true, if_false]
    exact decideByHash_of_admits h

/-- The experiment itself forces a variation only by saying so. -/
theorem forced_of_decideAfresh (h : experiment.decideAfresh context hashValue = .forced variation) :
    experiment.force = some variation := by
  rcases experiment.decideAfresh_cases context hashValue with
    ⟨_, hafresh⟩ | ⟨_, hforce, hafresh⟩ | ⟨_, _, -, hafresh⟩
  · cases h.symm.trans hafresh
  · cases h.symm.trans hafresh
    exact hforce
  · cases h.symm.trans hafresh

/-- Without a service that remembers, nothing is remembered. -/
theorem memory_of_forgetful (hforgetful : context.sticky = none) (store : Persistence) :
    experiment.memory context store = .nothing := by
  have hnobody : experiment.stickyService? context = none := by
    rw [stickyService?, hforgetful, ite_self]
  rw [memory, hnobody]

/-! ## Decisions -/

section Decide

variable {store : Persistence}

theorem decide_eq_remembered_iff {remembered : Option Number} :
    experiment.decide context store = .remembered variation remembered ↔
      experiment.AsksMemory context ∧ experiment.memory context store = .found variation ∧
        experiment.bucketOf context (experiment.identity context).value = remembered := by
  constructor
  · intro h
    obtain ⟨hasks, hfound⟩ := decide_eq_remembered h
    rw [hasks.decide_eq, hfound] at h
    cases h
    exact ⟨hasks, hfound, rfl⟩
  · rintro ⟨hasks, hfound, rfl⟩
    rw [hasks.decide_eq, hfound]

theorem decide_eq_assigned_iff :
    experiment.decide context store = .assigned variation bucket ↔
      experiment.AsksMemory context ∧ experiment.memory context store = .nothing ∧
        experiment.Admits context (experiment.identity context).value variation bucket := by
  constructor
  · intro h
    obtain ⟨hasks, hnothing, -⟩ := decide_eq_assigned h
    rw [hasks.decide_eq, hnothing] at h
    exact ⟨hasks, hnothing, decideAfresh_eq_assigned_iff.mp h⟩
  · rintro ⟨hasks, hnothing, hadmits⟩
    rw [hasks.decide_eq, hnothing]
    exact decideAfresh_eq_assigned_iff.mpr hadmits

/-- A variation is forced by the host or by the experiment. -/
theorem forced_of_decide (h : experiment.decide context store = .forced variation) :
    Dictionary.get? context.forcedVariations experiment.trackingKey = some variation ∨
      experiment.force = some variation := by
  rcases experiment.decide_cases context store with ⟨_, hout⟩ | ⟨_, hhost, hforced⟩ | hasks
  · cases h.symm.trans hout
  · cases h.symm.trans hforced
    exact Or.inl hhost
  · rw [hasks.decide_eq] at h
    split at h
    · cases h
    · cases h
    · exact Or.inr (forced_of_decideAfresh h)

end Decide

/-! ## Results -/

section Result

variable (experiment) (identity : HashIdentity) (featureId : Option String) (variation : Nat)
  (takesPart : Bool) (bucket : Option Number) (stickyBucketUsed : Bool)

theorem inExperiment_resultOf :
    (experiment.resultOf identity featureId variation takesPart bucket
      stickyBucketUsed).inExperiment =
      (variation < experiment.variations.length && takesPart) := rfl

theorem variationId_resultOf :
    (experiment.resultOf identity featureId variation takesPart bucket
      stickyBucketUsed).variationId =
      if variation < experiment.variations.length then variation else 0 := rfl

end Result

end Experiment

/-! ## Taking part -/

namespace ExperimentRun

/-- The experiment that a run is about, with what the host replaces in it. -/
def effective (run : ExperimentRun) : Experiment := run.context.overridden run.experiment

/-- The run finds an assignment of its user to a variation that the experiment has. -/
def IsRemembered (run : ExperimentRun) (store : Persistence) (variation : Nat) : Prop :=
  run.effective.AsksMemory run.context ∧ variation < run.effective.variations.length ∧
    run.effective.memory run.context store = .found variation

/-- The run finds nothing about its user, and the user passes every gate to a variation that the
experiment has. -/
def IsAssigned (run : ExperimentRun) (store : Persistence) (variation : Nat) : Prop :=
  run.effective.AsksMemory run.context ∧ variation < run.effective.variations.length ∧
    run.effective.memory run.context store = .nothing ∧
    ∃ bucket, run.effective.Admits run.context (run.effective.identity run.context).value
      variation bucket

variable {run : ExperimentRun} {store : Persistence}

theorem on_eq (run : ExperimentRun) (store : Persistence) :
    (run.on store).result =
      (run.effective.decide run.context store).result run.effective
        (run.effective.identity run.context) run.featureId := rfl

/-- The identity that a result names is the one that was hashed. -/
theorem hashed_on (run : ExperimentRun) (store : Persistence) :
    (run.on store).result.hashAttribute = (run.effective.identity run.context).name ∧
      (run.on store).result.hashValue = (run.effective.identity run.context).value := by
  rw [on_eq]
  cases run.effective.decide run.context store <;> exact ⟨rfl, rfl⟩

/-- The result of a user who is assigned afresh. -/
theorem result_of_admits {variation : Nat} {bucket : Number}
    (hasks : run.effective.AsksMemory run.context)
    (hnothing : run.effective.memory run.context store = .nothing)
    (hadmits : run.effective.Admits run.context (run.effective.identity run.context).value
      variation bucket) :
    (run.on store).result =
      run.effective.resultOf (run.effective.identity run.context) run.featureId variation true
        (some bucket) false := by
  rw [on_eq, Experiment.decide_eq_assigned_iff.mpr ⟨hasks, hnothing, hadmits⟩]
  rfl

/-- **The two ways to take part.**  A user takes part in a variation exactly if the user is
remembered in it or is assigned to it. -/
theorem takesPart_iff {variation : Nat} :
    ((run.on store).result.inExperiment = true ∧ (run.on store).result.variationId = variation) ↔
      run.IsRemembered store variation ∨ run.IsAssigned store variation := by
  constructor
  · rintro ⟨htakesPart, rfl⟩
    obtain ⟨hknown, ⟨bucket, hdecision, -⟩ | ⟨bucket, hdecision, -⟩⟩ :=
      Decision.takesPart_cases (run.on_eq store).symm htakesPart
    · obtain ⟨hasks, hfound, -⟩ := Experiment.decide_eq_remembered_iff.mp hdecision
      exact Or.inl ⟨hasks, hknown, hfound⟩
    · obtain ⟨hasks, hnothing, hadmits⟩ := Experiment.decide_eq_assigned_iff.mp hdecision
      exact Or.inr ⟨hasks, hknown, hnothing, bucket, hadmits⟩
  · rintro (⟨hasks, hknown, hfound⟩ | ⟨hasks, hknown, hnothing, bucket, hadmits⟩)
    · rw [on_eq, Experiment.decide_eq_remembered_iff.mpr ⟨hasks, hfound, rfl⟩]
      simp [Decision.result, Experiment.resultOf, hknown]
    · rw [on_eq, Experiment.decide_eq_assigned_iff.mpr ⟨hasks, hnothing, hadmits⟩]
      simp [Decision.result, Experiment.resultOf, hknown]

/-- An index that the experiment has no variation for means the first one. -/
theorem variationId_of_unknown {experiment : Experiment} {identity : HashIdentity}
    {featureId : Option String} {variation : Nat} {bucket : Option Number} {isSticky : Bool}
    (hout : (experiment.resultOf identity featureId variation true bucket isSticky).inExperiment =
      false) :
    (experiment.resultOf identity featureId variation true bucket isSticky).variationId = 0 := by
  rw [Experiment.inExperiment_resultOf, Bool.and_true] at hout
  rw [Experiment.variationId_resultOf, if_neg (of_decide_eq_false hout)]

/-- Someone who takes no part gets the first variation, or one that the host or the experiment
forces. -/
theorem variationId_of_not_takesPart (hout : (run.on store).result.inExperiment = false) :
    (run.on store).result.variationId = 0 ∨
      Dictionary.get? run.context.forcedVariations run.effective.trackingKey =
        some (run.on store).result.variationId ∨
      run.effective.force = some (run.on store).result.variationId := by
  rw [on_eq] at hout ⊢
  cases hdecision : run.effective.decide run.context store with
  | excluded reason => exact Or.inl (ite_self 0)
  | forced variation =>
      rw [Decision.result, Experiment.variationId_resultOf]
      split
      · exact Or.inr (Experiment.forced_of_decide hdecision)
      · exact Or.inl rfl
  | remembered variation bucket =>
      rw [hdecision] at hout
      exact Or.inl (variationId_of_unknown hout)
  | assigned variation bucket =>
      rw [hdecision] at hout
      exact Or.inl (variationId_of_unknown hout)

/-- Without a service that remembers, whoever takes part has been assigned. -/
theorem isAssigned_of_forgetful (hforgetful : run.context.sticky = none)
    (htakesPart : (run.on store).result.inExperiment = true) :
    run.IsAssigned store (run.on store).result.variationId := by
  rcases takesPart_iff.mp ⟨htakesPart, rfl⟩ with ⟨-, -, hfound⟩ | hassigned
  · cases (Experiment.memory_of_forgetful hforgetful store).symm.trans hfound
  · exact hassigned

/-! ## QA mode -/

/-- Nobody is assigned in QA mode. -/
theorem not_isAssigned_of_qaMode (hqa : run.context.qaMode = true) (variation : Nat) :
    ¬ run.IsAssigned store variation := by
  rintro ⟨-, -, -, bucket, hadmits⟩
  exact absurd (hadmits.notQaMode.symm.trans hqa) nofun

/-- Nothing is written in QA mode. -/
theorem store_of_qaMode (hqa : run.context.qaMode = true) : (run.on store).store = store := by
  rcases Decision.commit_cases (run.effective.decide run.context store) run.context run.effective
    store with hsame | ⟨variation, bucket, service, hdecision, -, -⟩
  · exact hsame
  · obtain ⟨-, -, hadmits⟩ := Experiment.decide_eq_assigned_iff.mp hdecision
    exact absurd (hadmits.notQaMode.symm.trans hqa) nofun

/-- **Who is served what in QA mode.**  Nothing is written.  A user takes part exactly if a
variation is remembered for the user; everyone else gets the first variation, or one that the
host or the experiment forces. -/
theorem served_in_qaMode (hqa : run.context.qaMode = true) :
    (run.on store).store = store ∧
      ((run.on store).result.inExperiment = false ↔
        ∀ variation, ¬ run.IsRemembered store variation) ∧
      ((run.on store).result.inExperiment = false →
        (run.on store).result.variationId = 0 ∨
          Dictionary.get? run.context.forcedVariations run.effective.trackingKey =
            some (run.on store).result.variationId ∨
          run.effective.force = some (run.on store).result.variationId) := by
  refine ⟨store_of_qaMode hqa, ⟨?_, ?_⟩, variationId_of_not_takesPart⟩
  · intro hout variation hremembered
    obtain ⟨htakesPart, -⟩ := takesPart_iff.mpr (Or.inl hremembered)
    exact absurd (hout.symm.trans htakesPart) nofun
  · intro hnobody
    rw [Bool.eq_false_iff]
    intro htakesPart
    rcases takesPart_iff.mp ⟨htakesPart, rfl⟩ with hremembered | hassigned
    · exact hnobody _ hremembered
    · exact not_isAssigned_of_qaMode hqa _ hassigned

/-- The run in QA mode. -/
def inQaMode (run : ExperimentRun) : ExperimentRun :=
  { run with context := { run.context with qaMode := true } }

/-- A user who would be given the second variation is served the first one in QA mode, and is not
remembered. -/
theorem served_first_in_qaMode :
    let run := ofUser [("id", .string "user123")]
      { key := "t1", variations := [.string "A", .string "B"] }
    (run.on {}).result.variationId = 1 ∧ run.inQaMode.context.qaMode = true ∧
      (run.inQaMode.on {}).store = {} ∧
      (run.inQaMode.on {}).result.inExperiment = false ∧
      (run.inQaMode.on {}).result.variationId = 0 ∧
      ∀ variation, ¬ run.inQaMode.IsRemembered {} variation := by
  intro run
  have hout : (run.inQaMode.on {}).result.inExperiment = false := by decide +kernel
  obtain ⟨hstore, hserved, -⟩ := @served_in_qaMode run.inQaMode {} rfl
  exact ⟨by decide +kernel, rfl, hstore, hout, by decide +kernel, hserved.mp hout⟩

/-- A user who was given the second variation before goes on taking part in QA mode, although
nobody forces that variation. -/
theorem remembered_in_qaMode :
    let run := ofUser [("id", .string "user123")]
      { key := "t1", variations := [.string "A", .string "B"] }
    run.inQaMode.context.qaMode = true ∧ run.inQaMode.context.forcedVariations = [] ∧
      run.inQaMode.effective.force = none ∧
      (run.inQaMode.on (run.on {}).store).result.inExperiment = true ∧
      (run.inQaMode.on (run.on {}).store).result.variationId = 1 := by
  decide +kernel

end ExperimentRun

end FeatureFlags
