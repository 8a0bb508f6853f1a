import FeatureFlags.Evaluation

/-!
# Exposures

An exposure is a user's being in a variation of an experiment.  Each is reported once: a tracker
remembers what it has reported, and forgets everything when it is full before it remembers one
more, after which exposures may be reported again.
-/

namespace FeatureFlags

/-- A user, by attribute and text, in a variation of an experiment. -/
structure Exposure where
  hashAttribute : String
  hashValue : String
  experimentKey : String
  variation : Nat
deriving DecidableEq, Repr

namespace Exposure

/-- The exposure of a result, if it places the user in the experiment. -/
def of? (experiment : Experiment) (result : ExperimentResult) : Option Exposure :=
  if result.inExperiment then
    some ⟨result.hashAttribute, result.hashValue, experiment.trackingKey, result.variationId⟩
  else none

end Exposure

structure ExposureTracker where
  maxTracked : Nat := 10000
  tracked : List Exposure := []
deriving Repr

namespace ExposureTracker

/-- Remembers an exposure and tells whether it is new. -/
def track (tracker : ExposureTracker) (exposure : Exposure) : Bool × ExposureTracker :=
  if tracker.tracked.contains exposure then (false, tracker)
  else
    let kept := if tracker.maxTracked ≤ tracker.tracked.length then [] else tracker.tracked
    (true, { tracker with tracked := exposure :: kept })

/-- Tracks the exposure of a result, if there is one, and returns it if it is to be reported. -/
def observe (tracker : ExposureTracker) (experiment : Experiment) (result : ExperimentResult) :
    Option Exposure × ExposureTracker :=
  match Exposure.of? experiment result with
  | none => (none, tracker)
  | some exposure =>
    let (isNew, next) := tracker.track exposure
    (if isNew then some exposure else none, next)

/-- Tracks the exposure of a feature's result, if an experiment determined it. -/
def observeFeature (tracker : ExposureTracker) (result : FeatureResult) :
    Option Exposure × ExposureTracker :=
  match result.experiment, result.experimentResult with
  | some experiment, some experimentResult => tracker.observe experiment experimentResult
  | _, _ => (none, tracker)

end ExposureTracker

/-! ## Tracked evaluation -/

/-- An evaluation together with the exposure it reports, and the tracker afterwards. -/
structure TrackedEvaluation (α : Type) extends Evaluation α where
  viewed : Option Exposure
  tracker : ExposureTracker

/-- Evaluates a feature and tracks the exposure. -/
def ExposureTracker.evaluateFeature (tracker : ExposureTracker) (context : Context) (key : String)
    (store : Persistence) : TrackedEvaluation FeatureResult :=
  let run := FeatureFlags.evaluateFeature context key store
  let (viewed, next) := tracker.observeFeature run.result
  { run with viewed, tracker := next }

/-- Runs an experiment on its own and tracks the exposure. -/
def ExposureTracker.runExperiment (tracker : ExposureTracker) (context : Context)
    (experiment : Experiment) (store : Persistence) : TrackedEvaluation ExperimentResult :=
  let run := FeatureFlags.runExperiment context experiment none store
  let (viewed, next) := tracker.observe experiment run.result
  { run with viewed, tracker := next }

end FeatureFlags
