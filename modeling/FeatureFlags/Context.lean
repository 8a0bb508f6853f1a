import FeatureFlags.Attribute
import FeatureFlags.Feature
import FeatureFlags.Sticky

/-!
# Contexts

A context is everything that evaluation needs to know: who the user is, which features exist, and
how the host wants to steer experiments.  It is replaced as a whole and never changed in place.
-/

namespace FeatureFlags

structure Context where
  apiKey : String
  hostUrl : String
  attributes : Attributes := []
  /-- Switches all experiments off. -/
  enabled : Bool := true
  /-- Only forced variations are served. -/
  qaMode : Bool := false
  /-- The variations that the host forces, by tracking key. -/
  forcedVariations : Dictionary Nat := []
  /-- The parts of experiments that the host replaces, by tracking key. -/
  overrides : Dictionary ExperimentOverride := []
  features : Dictionary Feature := []
  savedGroups : SavedGroups := []
  /-- Remembers assignments, if sticky bucketing is in use. -/
  sticky : Option StickyService := none
  /-- How buckets and ranges are computed. -/
  arithmetic : Number.Arithmetic := .binary64

/-- Replaces features and saved groups, and nothing else. -/
def Context.withDefinitions (context : Context) (features : Dictionary Feature)
    (savedGroups : SavedGroups) : Context :=
  { context with features, savedGroups }

end FeatureFlags
