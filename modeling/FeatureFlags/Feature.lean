import FeatureFlags.Experiment

/-!
# Features

A feature is a named value with rules.  The rules are tried in order and the first one that applies
determines the value: a rule with a forced value serves it, a rule with variations runs an
experiment.
-/

namespace FeatureFlags

open Json (Decoder Schema Record optionalMember)

structure FeatureRule where
  id : Option String
  condition : Option Condition
  /-- The forced value; a rule that forces null differs from one that forces nothing. -/
  force : Option Value
  variations : Option (List Value)
  weights : Option (List Number)
  coverage : Option Number
  /-- The range of a gradual rollout, which takes precedence over `coverage`. -/
  range : Option BucketRange
  ranges : Option (List BucketRange)
  /-- The tracking key of the experiment; the key of the feature if absent. -/
  key : Option String
  hashAttribute : Option String
  fallbackAttribute : Option String
  hashVersion : Option Nat
  slice : Option Namespace
  filters : List Filter
  seed : Option String
  details : List VariationMeta
  name : Option String
  phase : Option String
  disableStickyBucketing : Bool
  bucketVersion : Option Nat
  minBucketVersion : Option Nat

namespace FeatureRule

def schema : Schema :=
  [fieldNamed "id", fieldNamed "condition", fieldNamed "force", fieldNamed "variations",
    fieldNamed "weights", fieldNamed "coverage", fieldNamed "range", fieldNamed "ranges",
    ⟨"key", ["trackingKey"]⟩, fieldNamed "hashAttribute", fieldNamed "fallbackAttribute",
    fieldNamed "hashVersion", fieldNamed "namespace", fieldNamed "filters", fieldNamed "seed",
    fieldNamed "meta", fieldNamed "name", fieldNamed "phase",
    fieldNamed "disableStickyBucketing", fieldNamed "bucketVersion",
    fieldNamed "minBucketVersion"]

/-- A value that is present, be it null. -/
def decodePresent : Decoder (Option Value) := fun draft => (Value.decode draft).map some

def decode : Decoder FeatureRule := fun draft => do
  let record ← Record.ofDraft? schema draft
  let id ← record.optional "id" Decoder.string
  let condition ← record.optional "condition" Condition.decode
  let force ← record.withDefault "force" decodePresent none
  let variations ← record.optional "variations" (Decoder.list Value.decode)
  let weights ← record.optional "weights" (Decoder.list Decoder.number)
  let coverage ← record.optional "coverage" Decoder.number
  let range ← record.optional "range" BucketRange.decode
  let ranges ← record.optional "ranges" (Decoder.list BucketRange.decode)
  let key ← record.optional "key" Decoder.string
  let hashAttribute ← record.optional "hashAttribute" Decoder.string
  let fallbackAttribute ← record.optional "fallbackAttribute" Decoder.string
  let hashVersion ← record.optional "hashVersion" Decoder.word32
  let slice ← record.optional "namespace" Namespace.decode
  let filters ← record.withDefault "filters" (Decoder.list Filter.decode) []
  let seed ← record.optional "seed" Decoder.string
  let details ← record.withDefault "meta" (Decoder.list VariationMeta.decode) []
  let name ← record.optional "name" Decoder.string
  let phase ← record.optional "phase" Decoder.string
  let disableStickyBucketing ← record.withDefault "disableStickyBucketing" Decoder.bool false
  let bucketVersion ← record.optional "bucketVersion" Decoder.word32
  let minBucketVersion ← record.optional "minBucketVersion" Decoder.word32
  some { id, condition, force, variations, weights, coverage, range, ranges, key, hashAttribute,
         fallbackAttribute, hashVersion, slice, filters, seed, details, name, phase,
         disableStickyBucketing, bucketVersion, minBucketVersion }

open Experiment (numbersToJson rangesToJson nonEmptyMember)

def toJson (r : FeatureRule) : Json :=
  Json.ofMembers <|
    optionalMember "id" (r.id.map .string)
      ++ optionalMember "condition" (r.condition.map Condition.toJson)
      ++ optionalMember "force" (r.force.map Value.toJson)
      ++ optionalMember "variations"
        (r.variations.map fun items => .array (Value.itemsToJson items))
      ++ optionalMember "weights" (r.weights.map numbersToJson)
      ++ optionalMember "coverage" (r.coverage.map Json.ofNumber)
      ++ optionalMember "range" (r.range.map BucketRange.toJson)
      ++ optionalMember "ranges" (r.ranges.map rangesToJson)
      ++ optionalMember "key" (r.key.map .string)
      ++ optionalMember "hashAttribute" (r.hashAttribute.map .string)
      ++ optionalMember "fallbackAttribute" (r.fallbackAttribute.map .string)
      ++ optionalMember "hashVersion" (r.hashVersion.map .ofNat)
      ++ optionalMember "namespace" (r.slice.map Namespace.toJson)
      ++ nonEmptyMember "filters" Filter.toJson r.filters
      ++ optionalMember "seed" (r.seed.map .string)
      ++ nonEmptyMember "meta" VariationMeta.toJson r.details
      ++ optionalMember "name" (r.name.map .string)
      ++ optionalMember "phase" (r.phase.map .string)
      ++ [("disableStickyBucketing", .bool r.disableStickyBucketing)]
      ++ optionalMember "bucketVersion" (r.bucketVersion.map .ofNat)
      ++ optionalMember "minBucketVersion" (r.minBucketVersion.map .ofNat)

/-- Equality of rules; values and numbers are compared as such. -/
def same (a b : FeatureRule) : Bool :=
  a.id = b.id && sameOption Condition.same a.condition b.condition &&
    sameOption Value.equals a.force b.force &&
    sameOption Value.equalItems a.variations b.variations &&
    sameOption (fun x y => x.isEqv y Number.equals) a.weights b.weights &&
    sameOption Number.equals a.coverage b.coverage &&
    sameOption BucketRange.same a.range b.range &&
    sameOption (fun x y => x.isEqv y BucketRange.same) a.ranges b.ranges &&
    a.key = b.key && a.hashAttribute = b.hashAttribute &&
    a.fallbackAttribute = b.fallbackAttribute && a.hashVersion = b.hashVersion &&
    sameOption Namespace.same a.slice b.slice && a.filters.isEqv b.filters Filter.same &&
    a.seed = b.seed && a.details = b.details && a.name = b.name && a.phase = b.phase &&
    a.disableStickyBucketing = b.disableStickyBucketing &&
    a.bucketVersion = b.bucketVersion && a.minBucketVersion = b.minBucketVersion

/-- The experiment that a rule with variations describes. The rule's condition and force are not
part of it. -/
def toExperiment? (rule : FeatureRule) (featureKey : String) : Option Experiment :=
  rule.variations.map fun variations =>
    { key := rule.key.getD featureKey
      variations
      weights := rule.weights
      coverage := rule.coverage
      ranges := rule.ranges
      slice := rule.slice
      hashAttribute := rule.hashAttribute
      fallbackAttribute := rule.fallbackAttribute
      hashVersion := rule.hashVersion
      filters := rule.filters
      seed := rule.seed
      details := rule.details
      name := rule.name
      phase := rule.phase
      disableStickyBucketing := rule.disableStickyBucketing
      bucketVersion := rule.bucketVersion
      minBucketVersion := rule.minBucketVersion }

end FeatureRule

structure Feature where
  defaultValue : Value
  rules : List FeatureRule

namespace Feature

def schema : Schema := [fieldNamed "defaultValue", fieldNamed "rules"]

def decode : Decoder Feature := fun draft => do
  let record ← Record.ofDraft? schema draft
  let defaultValue ← record.withDefault "defaultValue" Value.decode .null
  let rules ← record.withDefault "rules" (Decoder.list FeatureRule.decode) []
  some { defaultValue, rules }

def toJson (feature : Feature) : Json :=
  Json.ofMembers
    [("defaultValue", feature.defaultValue.toJson),
     ("rules", .array (feature.rules.map FeatureRule.toJson))]

def same (a b : Feature) : Bool :=
  a.defaultValue.equals b.defaultValue && a.rules.isEqv b.rules FeatureRule.same

end Feature

/-! ## Results -/

/-- Where the value of a feature came from. -/
inductive FeatureSource
  | unknownFeature
  | defaultValue
  | force
  | experiment
deriving DecidableEq, Repr

def FeatureSource.text : FeatureSource → String
  | unknownFeature => "unknownFeature"
  | defaultValue => "defaultValue"
  | force => "force"
  | experiment => "experiment"

/-- What a feature evaluates to for a user. -/
structure FeatureResult where
  value : Value
  on : Bool
  off : Bool
  source : FeatureSource
  ruleId : Option String := none
  experiment : Option Experiment := none
  experimentResult : Option ExperimentResult := none

namespace FeatureResult

/-- A result with the given value, which is on exactly if the value is truthy. -/
def ofValue (value : Value) (source : FeatureSource) : FeatureResult :=
  { value, on := value.isTruthy, off := !value.isTruthy, source }

def unknownFeature : FeatureResult := ofValue .null .unknownFeature

def toJson (r : FeatureResult) : Json :=
  Json.ofMembers <|
    [("value", r.value.toJson), ("on", .bool r.on), ("off", .bool r.off),
      ("source", .string r.source.text)]
      ++ optionalMember "ruleId" (r.ruleId.map .string)
      ++ optionalMember "experiment" (r.experiment.map Experiment.toJson)
      ++ optionalMember "experimentResult" (r.experimentResult.map ExperimentResult.toJson)

end FeatureResult

end FeatureFlags
