import FeatureFlags.Condition.Evaluation
import FeatureFlags.Context
import FeatureFlags.Targeting

/-!
# Assigning users to experiments

Assignment always has a result.  `Experiment.decide` goes through the reasons for keeping a user
out in a fixed order and ends in a `Decision`; `Decision.result` turns that into what the host
sees, and only a fresh assignment is written to the sticky store.

A host that forces a variation comes before everything but the two plainest reasons, a remembered
assignment before filters, namespace and condition.
-/

namespace FeatureFlags

/-- Why a user takes no part in an experiment. -/
inductive Exclusion
  | tooFewVariations
  | contextDisabled
  | experimentInactive
  | missingHashAttribute
  | bucketVersionBlocked
  | filteredOut
  | notInNamespace
  | conditionFailed
  | unsupportedHashVersion
  | notInRange
  | qaMode
deriving DecidableEq, Repr

def Exclusion.message : Exclusion → String
  | tooFewVariations => "fewer than 2 variations"
  | contextDisabled => "context disabled"
  | experimentInactive => "experiment inactive"
  | missingHashAttribute => "missing hash attribute"
  | bucketVersionBlocked => "sticky bucket version blocked"
  | filteredOut => "filtered out"
  | notInNamespace => "not in namespace"
  | conditionFailed => "condition failed"
  | unsupportedHashVersion => "unsupported hash version"
  | notInRange => "not in any bucket range"
  | qaMode => "qa mode"

/-- How an experiment is decided for a user. -/
inductive Decision
  | excluded (reason : Exclusion)
  /-- The host or the experiment forces a variation. -/
  | forced (variation : Nat)
  /-- An earlier assignment is still good. -/
  | remembered (variation : Nat) (bucket : Option Number)
  /-- The user's hash falls into the range of a variation. -/
  | assigned (variation : Nat) (bucket : Number)
deriving DecidableEq, Repr

/-! ## Remembered assignments -/

/-- What is remembered about a user and an experiment. -/
inductive Memory
  | found (variation : Nat)
  /-- The user was assigned under a bucket version that is too old. -/
  | blocked
  | nothing
deriving DecidableEq, Repr

/-- The assignments remembered for an identity; nobody is remembered without a hash text. -/
def StickyService.assignmentsOf (service : StickyService) (store : Persistence)
    (identity : HashIdentity) : Dictionary String :=
  if identity.isEmpty then []
  else ((service.get store identity.name identity.value).map (·.assignments)).getD []

/-- The assignments remembered for the user of an experiment: those of the fallback attribute
overlaid with those of the hash attribute. -/
def StickyService.assignments (service : StickyService) (store : Persistence)
    (attributes : Attributes) (experiment : Experiment) : Dictionary String :=
  let primary := HashIdentity.resolve attributes experiment.hashAttribute none
  let ofFallback := match experiment.fallbackAttribute with
    | some name =>
      service.assignmentsOf store (HashIdentity.resolve attributes (some name) none)
    | none => []
  Dictionary.extend (Dictionary.extend [] ofFallback) (service.assignmentsOf store primary)

/-- Looks an experiment up among remembered assignments. -/
def Experiment.recall (experiment : Experiment) (assignments : Dictionary String) : Memory :=
  let key := experiment.trackingKey
  let isTooOld := fun (entry : String × String) =>
    match StickyDocument.versionOf? key entry.1 with
    | some version => version < experiment.minBucketVersion.getD 0
    | none => false
  if assignments.any isTooOld then .blocked
  else
    match (Dictionary.get? assignments
        (StickyDocument.experimentKey key experiment.effectiveBucketVersion)).bind
        experiment.variationIndex? with
    | some variation => .found variation
    | none => .nothing

/-! ## The decision -/

/-- Whether filters, or in their absence the namespace, keep the user out. -/
def Experiment.outOfReach (context : Context) (experiment : Experiment) (hashValue : String) :
    Option Exclusion :=
  if !experiment.filters.isEmpty then
    if isFilteredOut context.arithmetic experiment.filters context.attributes then
      some .filteredOut
    else none
  else
    match experiment.slice with
    | some ns => if ns.includes context.arithmetic hashValue then none else some .notInNamespace
    | none => none

/-- Whether the condition of an experiment, if it has one, matches the user. -/
def Experiment.conditionHolds (context : Context) (experiment : Experiment) : Bool :=
  match experiment.condition with
  | some condition => condition.holds (.attributes context.attributes) context.savedGroups
  | none => true

/-- The hash of a user of an experiment. -/
def Experiment.bucketOf (context : Context) (experiment : Experiment) (hashValue : String) :
    Option Number :=
  bucketHash context.arithmetic experiment.effectiveSeed hashValue experiment.effectiveHashVersion

/-- The ranges of the variations, explicit or computed. -/
def Experiment.effectiveRanges (arithmetic : Number.Arithmetic) (experiment : Experiment) :
    List BucketRange :=
  match experiment.ranges with
  | some ranges => ranges
  | none =>
    bucketRanges arithmetic experiment.variations.length
      (experiment.coverage.getD (.ofNat 1)) experiment.weights

/-- The decision for a user who is not remembered and is reached by the experiment: by hashing. -/
def Experiment.decideByHash (context : Context) (experiment : Experiment) (hashValue : String) :
    Decision :=
  match experiment.bucketOf context hashValue with
  | none => .excluded .unsupportedHashVersion
  | some bucket =>
    match chooseVariation bucket (experiment.effectiveRanges context.arithmetic) with
    | none => .excluded .notInRange
    | some variation =>
      match experiment.force with
      | some forced => .forced forced
      | none => if context.qaMode then .excluded .qaMode else .assigned variation bucket

/-- The decision for a user who is not remembered. -/
def Experiment.decideAfresh (context : Context) (experiment : Experiment) (hashValue : String) :
    Decision :=
  match experiment.outOfReach context hashValue with
  | some reason => .excluded reason
  | none =>
    if !experiment.conditionHolds context then .excluded .conditionFailed
    else experiment.decideByHash context hashValue

/-- The service that remembers assignments to an experiment, if any does. -/
def Experiment.stickyService? (context : Context) (experiment : Experiment) :
    Option StickyService :=
  if experiment.disableStickyBucketing then none else context.sticky

/-- What is remembered about the user of a context. -/
def Experiment.memory (context : Context) (experiment : Experiment) (store : Persistence) :
    Memory :=
  match experiment.stickyService? context with
  | some service =>
    experiment.recall (service.assignments store context.attributes experiment)
  | none => .nothing

/-- The identity a user is hashed by. -/
def Experiment.identity (context : Context) (experiment : Experiment) : HashIdentity :=
  HashIdentity.resolve context.attributes experiment.hashAttribute experiment.fallbackAttribute

/-- The decision about the user of a context. -/
def Experiment.decide (context : Context) (experiment : Experiment) (store : Persistence) :
    Decision :=
  if experiment.variations.length < 2 then .excluded .tooFewVariations
  else if !context.enabled then .excluded .contextDisabled
  else
    match Dictionary.get? context.forcedVariations experiment.trackingKey with
    | some forced => .forced forced
    | none =>
      let identity := experiment.identity context
      if !experiment.active then .excluded .experimentInactive
      else if identity.isEmpty then .excluded .missingHashAttribute
      else
        match experiment.memory context store with
        | .found variation => .remembered variation (experiment.bucketOf context identity.value)
        | .blocked => .excluded .bucketVersionBlocked
        | .nothing => experiment.decideAfresh context identity.value

/-! ## The result -/

/-- The result of a variation. An index beyond the variations means the first one, outside the
experiment. -/
def Experiment.resultOf (experiment : Experiment) (identity : HashIdentity)
    (featureId : Option String) (variation : Nat) (inExperiment : Bool) (bucket : Option Number)
    (stickyBucketUsed : Bool) : ExperimentResult :=
  let known := variation < experiment.variations.length
  let index := if known then variation else 0
  let takesPart := known && inExperiment
  let details := experiment.details[index]?
  { inExperiment := takesPart
    variationId := index
    value := experiment.variations[index]?.getD .null
    key := experiment.variationKey index
    name := details.bind (·.name)
    hashAttribute := identity.name
    hashValue := identity.value
    bucket
    passthrough := (details.map (·.passthrough)).getD false
    hashUsed := takesPart && bucket.isSome
    featureId
    stickyBucketUsed }

/-- What the host sees of a decision. -/
def Decision.result (decision : Decision) (experiment : Experiment) (identity : HashIdentity)
    (featureId : Option String) : ExperimentResult :=
  match decision with
  | excluded reason =>
    experiment.resultOf identity featureId 0 false none (reason = .bucketVersionBlocked)
  | forced variation => experiment.resultOf identity featureId variation false none false
  | remembered variation bucket =>
    experiment.resultOf identity featureId variation true bucket true
  | assigned variation bucket =>
    experiment.resultOf identity featureId variation true (some bucket) false

/-- The reason of a decision that keeps the user out. -/
def Decision.exclusion? : Decision → Option Exclusion
  | excluded reason => some reason
  | _ => none

/-! ## Remembering -/

/-- The store after an assignment has been remembered. It stays as it is if the assignment is
already there or saving fails. -/
def StickyService.remember (service : StickyService) (store : Persistence)
    (attributes : Attributes) (experiment : Experiment) (identity : HashIdentity)
    (variation : Nat) : Persistence :=
  let assignmentKey :=
    StickyDocument.experimentKey experiment.trackingKey experiment.effectiveBucketVersion
  let variationKey := experiment.variationKey variation
  let known := Dictionary.get? (service.assignments store attributes experiment) assignmentKey
  if known = some variationKey then store
  else
    match service.save store
        ⟨identity.name, identity.value, [(assignmentKey, variationKey)]⟩ with
    | .ok saved => saved
    | .error _ => store

/-- The store after a decision: only a fresh assignment is remembered. -/
def Decision.commit (decision : Decision) (context : Context) (experiment : Experiment)
    (store : Persistence) : Persistence :=
  match decision, experiment.stickyService? context with
  | assigned variation _, some service =>
    service.remember store context.attributes experiment (experiment.identity context) variation
  | _, _ => store

/-! ## Running an experiment -/

/-- The experiment with what the host replaces in it. -/
def Context.overridden (context : Context) (experiment : Experiment) : Experiment :=
  match Dictionary.get? context.overrides experiment.trackingKey with
  | some override => experiment.applyOverride override
  | none => experiment

/-- What running something leaves behind: a result, the exclusions met on the way with the tracking
keys of their experiments, and the sticky store. -/
structure Evaluation (α : Type) where
  result : α
  exclusions : List (String × Exclusion)
  store : Persistence

/-- Assigns the user of a context to a variation of an experiment. -/
def runExperiment (context : Context) (experiment : Experiment) (featureId : Option String)
    (store : Persistence) : Evaluation ExperimentResult :=
  let effective := context.overridden experiment
  let decision := effective.decide context store
  { result := decision.result effective (effective.identity context) featureId
    exclusions := decision.exclusion?.toList.map (experiment.trackingKey, ·)
    store := decision.commit context effective store }

end FeatureFlags
