import FeatureFlags.Bucketing
import FeatureFlags.Condition

/-!
# Experiments

An experiment divides the users it reaches among its variations.  It is usually described by a rule
of a feature but can also be run on its own.

An experiment without a key has a tracking key derived from its variations.  A variation is known
to the outside by a key of its own if it has one, and by its index otherwise; `variationIndex?`
finds it again.
-/

namespace FeatureFlags

open Json (Decoder FieldName Schema Record optionalMember)

/-- Equality of two optional things. -/
def sameOption {α : Type} (same : α → α → Bool) : Option α → Option α → Bool
  | none, none => true
  | some a, some b => same a b
  | _, _ => false

/-- A field that is read under one name only. -/
def fieldNamed (name : String) : FieldName := ⟨name, []⟩

/-! ## Parts of experiments -/

/-- Ranges of a hash of their own that users must fall into. -/
structure Filter where
  seed : String
  ranges : List BucketRange
  hashAttribute : Option String
  hashVersion : Option Nat
deriving DecidableEq, Repr

namespace Filter

def schema : Schema :=
  [fieldNamed "seed", fieldNamed "ranges", ⟨"attribute", ["hashAttribute"]⟩,
    fieldNamed "hashVersion"]

def decode : Decoder Filter := fun draft => do
  let record ← Record.ofDraft? schema draft
  let seed ← record.withDefault "seed" Decoder.string ""
  let ranges ← record.required "ranges" (Decoder.list BucketRange.decode)
  let hashAttribute ← record.optional "attribute" Decoder.string
  let hashVersion ← record.optional "hashVersion" Decoder.word32
  some { seed, ranges, hashAttribute, hashVersion }

def toJson (filter : Filter) : Json :=
  Json.ofMembers <|
    [("seed", .string filter.seed), ("ranges", .array (filter.ranges.map BucketRange.toJson))]
      ++ optionalMember "attribute" (filter.hashAttribute.map .string)
      ++ optionalMember "hashVersion" (filter.hashVersion.map .ofNat)

def same (a b : Filter) : Bool :=
  a.seed = b.seed && a.ranges.isEqv b.ranges BucketRange.same &&
    a.hashAttribute = b.hashAttribute && a.hashVersion = b.hashVersion

end Filter

/-- What is known about a variation besides its value. -/
structure VariationMeta where
  key : Option String
  name : Option String
  /-- The variation is served but does not count, and later rules still apply. -/
  passthrough : Bool
deriving DecidableEq, Repr

namespace VariationMeta

def schema : Schema := [fieldNamed "key", fieldNamed "name", fieldNamed "passthrough"]

def decode : Decoder VariationMeta := fun draft => do
  let record ← Record.ofDraft? schema draft
  let key ← record.optional "key" Decoder.string
  let name ← record.optional "name" Decoder.string
  let passthrough ← record.withDefault "passthrough" Decoder.bool false
  some { key, name, passthrough }

def toJson (details : VariationMeta) : Json :=
  Json.ofMembers <|
    optionalMember "key" (details.key.map .string)
      ++ optionalMember "name" (details.name.map .string)
      ++ [("passthrough", .bool details.passthrough)]

end VariationMeta

/-! ## Experiments -/

structure Experiment where
  /-- The tracking key; an empty one is replaced by one derived from the variations. -/
  key : String
  variations : List Value
  weights : Option (List Number) := none
  coverage : Option Number := none
  /-- Ranges given explicitly take the place of weights and coverage. -/
  ranges : Option (List BucketRange) := none
  condition : Option Condition := none
  /-- The slice of the hash interval that is shared with other experiments. -/
  slice : Option Namespace := none
  hashAttribute : Option String := none
  fallbackAttribute : Option String := none
  hashVersion : Option Nat := none
  filters : List Filter := []
  seed : Option String := none
  details : List VariationMeta := []
  name : Option String := none
  phase : Option String := none
  /-- The variation that everyone who is reached gets. -/
  force : Option Nat := none
  active : Bool := true
  disableStickyBucketing : Bool := false
  bucketVersion : Option Nat := none
  minBucketVersion : Option Nat := none

namespace Experiment

/-- The JSON text that a derived tracking key is the hash of. -/
def variationsText (experiment : Experiment) : List Char :=
  (Json.array (Value.itemsToJson experiment.variations)).write

def trackingKey (experiment : Experiment) : String :=
  if experiment.key = "" then
    let hash := fnv1a32 experiment.variationsText
    "exp_" ++ String.ofList (Text.Digits.writeHex 8 hash.toNat)
  else experiment.key

def defaultHashAttribute : String := "id"

def hashAttributeName (experiment : Experiment) : String :=
  experiment.hashAttribute.getD defaultHashAttribute

def effectiveHashVersion (experiment : Experiment) : Nat := experiment.hashVersion.getD 1

def effectiveBucketVersion (experiment : Experiment) : Nat := experiment.bucketVersion.getD 0

/-- The seed of the hash that chooses the variation. -/
def effectiveSeed (experiment : Experiment) : String :=
  experiment.seed.getD experiment.trackingKey

/-- The key of its own that a variation has. -/
def ownKey? (experiment : Experiment) (index : Nat) : Option String :=
  experiment.details[index]?.bind (·.key)

/-- The key under which an assignment to a variation is remembered. -/
def variationKey (experiment : Experiment) (index : Nat) : String :=
  (experiment.ownKey? index).getD (String.ofList (Text.Digits.write index))

/-- Bounds the indices that keys are read as. -/
def indexBound : Nat := Nat.pow 2 64

/-- The variation that a key stands for. An index stands only for a variation without a key of its
own. -/
def variationIndex? (experiment : Experiment) (key : String) : Option Nat :=
  match experiment.details.findIdx? (·.key = some key) with
  | some index => some index
  | none =>
    (Text.Digits.readSigned? indexBound key.toList).filter fun index =>
      index < experiment.variations.length && (experiment.ownKey? index).isNone

def schema : Schema :=
  [⟨"key", ["trackingKey"]⟩, fieldNamed "variations", fieldNamed "weights", fieldNamed "coverage",
    fieldNamed "ranges", fieldNamed "condition", fieldNamed "namespace",
    fieldNamed "hashAttribute", fieldNamed "fallbackAttribute", fieldNamed "hashVersion",
    fieldNamed "filters", fieldNamed "seed", fieldNamed "meta", fieldNamed "name",
    fieldNamed "phase", fieldNamed "force", fieldNamed "active",
    fieldNamed "disableStickyBucketing", fieldNamed "bucketVersion",
    fieldNamed "minBucketVersion"]

def decode : Decoder Experiment := fun draft => do
  let record ← Record.ofDraft? schema draft
  let key ← record.withDefault "key" Decoder.string ""
  let variations ← record.required "variations" (Decoder.list Value.decode)
  let weights ← record.optional "weights" (Decoder.list Decoder.number)
  let coverage ← record.optional "coverage" Decoder.number
  let ranges ← record.optional "ranges" (Decoder.list BucketRange.decode)
  let condition ← record.optional "condition" Condition.decode
  let slice ← record.optional "namespace" Namespace.decode
  let hashAttribute ← record.optional "hashAttribute" Decoder.string
  let fallbackAttribute ← record.optional "fallbackAttribute" Decoder.string
  let hashVersion ← record.optional "hashVersion" Decoder.word32
  let filters ← record.withDefault "filters" (Decoder.list Filter.decode) []
  let seed ← record.optional "seed" Decoder.string
  let details ← record.withDefault "meta" (Decoder.list VariationMeta.decode) []
  let name ← record.optional "name" Decoder.string
  let phase ← record.optional "phase" Decoder.string
  let force ← record.optional "force" Decoder.word64
  let active ← record.withDefault "active" Decoder.bool true
  let disableStickyBucketing ← record.withDefault "disableStickyBucketing" Decoder.bool false
  let bucketVersion ← record.optional "bucketVersion" Decoder.word32
  let minBucketVersion ← record.optional "minBucketVersion" Decoder.word32
  some { key, variations, weights, coverage, ranges, condition, slice, hashAttribute,
         fallbackAttribute, hashVersion, filters, seed, details, name, phase, force, active,
         disableStickyBucketing, bucketVersion, minBucketVersion }

/-- The JSON of a list of numbers. -/
def numbersToJson (xs : List Number) : Json := .array (xs.map Json.ofNumber)

/-- The JSON of a list of ranges. -/
def rangesToJson (ranges : List BucketRange) : Json := .array (ranges.map BucketRange.toJson)

/-- A list that is written only if it has items. -/
def nonEmptyMember {α : Type} (name : String) (toJson : α → Json) (items : List α) :
    List (String × Json) :=
  if items.isEmpty then [] else [(name, .array (items.map toJson))]

def toJson (e : Experiment) : Json :=
  Json.ofMembers <|
    [("key", .string e.key), ("variations", .array (Value.itemsToJson e.variations))]
      ++ optionalMember "weights" (e.weights.map numbersToJson)
      ++ optionalMember "coverage" (e.coverage.map Json.ofNumber)
      ++ optionalMember "ranges" (e.ranges.map rangesToJson)
      ++ optionalMember "condition" (e.condition.map Condition.toJson)
      ++ optionalMember "namespace" (e.slice.map Namespace.toJson)
      ++ optionalMember "hashAttribute" (e.hashAttribute.map .string)
      ++ optionalMember "fallbackAttribute" (e.fallbackAttribute.map .string)
      ++ optionalMember "hashVersion" (e.hashVersion.map .ofNat)
      ++ nonEmptyMember "filters" Filter.toJson e.filters
      ++ optionalMember "seed" (e.seed.map .string)
      ++ nonEmptyMember "meta" VariationMeta.toJson e.details
      ++ optionalMember "name" (e.name.map .string)
      ++ optionalMember "phase" (e.phase.map .string)
      ++ optionalMember "force" (e.force.map .ofNat)
      ++ [("active", .bool e.active), ("disableStickyBucketing", .bool e.disableStickyBucketing)]
      ++ optionalMember "bucketVersion" (e.bucketVersion.map .ofNat)
      ++ optionalMember "minBucketVersion" (e.minBucketVersion.map .ofNat)

/-- Equality of experiments; values and numbers are compared as such. -/
def same (a b : Experiment) : Bool :=
  a.key = b.key && Value.equalItems a.variations b.variations &&
    sameOption (fun x y => x.isEqv y Number.equals) a.weights b.weights &&
    sameOption Number.equals a.coverage b.coverage &&
    sameOption (fun x y => x.isEqv y BucketRange.same) a.ranges b.ranges &&
    sameOption Condition.same a.condition b.condition &&
    sameOption Namespace.same a.slice b.slice &&
    a.hashAttribute = b.hashAttribute && a.fallbackAttribute = b.fallbackAttribute &&
    a.hashVersion = b.hashVersion && a.filters.isEqv b.filters Filter.same &&
    a.seed = b.seed && a.details = b.details && a.name = b.name && a.phase = b.phase &&
    a.force = b.force && a.active = b.active &&
    a.disableStickyBucketing = b.disableStickyBucketing &&
    a.bucketVersion = b.bucketVersion && a.minBucketVersion = b.minBucketVersion

end Experiment

/-! ## Overrides -/

/-- The parts of an experiment that a host replaces. -/
structure ExperimentOverride where
  weights : Option (List Number)
  coverage : Option Number
  condition : Option Condition
  force : Option Nat
  active : Option Bool

namespace ExperimentOverride

def schema : Schema :=
  [fieldNamed "weights", fieldNamed "coverage", fieldNamed "condition", fieldNamed "force",
    fieldNamed "active"]

def decode : Decoder ExperimentOverride := fun draft => do
  let record ← Record.ofDraft? schema draft
  let weights ← record.optional "weights" (Decoder.list Decoder.number)
  let coverage ← record.optional "coverage" Decoder.number
  let condition ← record.optional "condition" Condition.decode
  let force ← record.optional "force" Decoder.word64
  let active ← record.optional "active" Decoder.bool
  some { weights, coverage, condition, force, active }

/-- All parts are written, missing ones as `null`. -/
def toJson (override : ExperimentOverride) : Json :=
  Json.ofMembers
    [("weights", (override.weights.map Experiment.numbersToJson).getD .null),
     ("coverage", (override.coverage.map Json.ofNumber).getD .null),
     ("condition", (override.condition.map Condition.toJson).getD .null),
     ("force", (override.force.map Json.ofNat).getD .null),
     ("active", (override.active.map Json.bool).getD .null)]

end ExperimentOverride

/-- Replaces the parts of an experiment that the override has. -/
def Experiment.applyOverride (experiment : Experiment) (override : ExperimentOverride) :
    Experiment :=
  { experiment with
    weights := override.weights.or experiment.weights
    coverage := override.coverage.or experiment.coverage
    condition := override.condition.or experiment.condition
    force := override.force.or experiment.force
    active := override.active.getD experiment.active }

/-! ## Results -/

/-- How a user was assigned to an experiment. -/
structure ExperimentResult where
  inExperiment : Bool
  variationId : Nat
  value : Value
  key : String
  name : Option String
  hashAttribute : String
  hashValue : String
  /-- The hash that was compared with the bucket ranges. -/
  bucket : Option Number
  passthrough : Bool
  /-- Whether the variation was chosen by hashing the user. -/
  hashUsed : Bool
  featureId : Option String
  stickyBucketUsed : Bool

namespace ExperimentResult

def toJson (r : ExperimentResult) : Json :=
  Json.ofMembers <|
    [("inExperiment", .bool r.inExperiment), ("variationId", .ofNat r.variationId),
      ("value", r.value.toJson), ("key", .string r.key)]
      ++ optionalMember "name" (r.name.map .string)
      ++ [("hashAttribute", .string r.hashAttribute), ("hashValue", .string r.hashValue)]
      ++ optionalMember "bucket" (r.bucket.map Json.ofNumber)
      ++ [("passthrough", .bool r.passthrough), ("hashUsed", .bool r.hashUsed)]
      ++ optionalMember "featureId" (r.featureId.map .string)
      ++ [("stickyBucketUsed", .bool r.stickyBucketUsed)]

end ExperimentResult

end FeatureFlags
