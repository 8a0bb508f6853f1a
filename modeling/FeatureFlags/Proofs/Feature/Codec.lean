import FeatureFlags.Feature
import FeatureFlags.Proofs.Experiment.Codec
import FeatureFlags.Proofs.Value.Group

/-!
# Features survive being written and read again

A rule that forces `null` is written with a member `force` that is `null`, and a rule that
forces nothing is written without this member.  This is why the forced value is a field of
its own kind (`Fields.present`): every other optional field takes `null` for absence.
-/

namespace FeatureFlags

open Json (Codec Draft Fields)

namespace FeatureRule

/-- A rule whose values have lost the signs of zeros. -/
def unsignedZeros (r : FeatureRule) : FeatureRule :=
  { r with
    force := r.force.map Value.unsignedZeros
    variations := r.variations.map (List.map Value.unsignedZeros) }

abbrev Parts := Option String × Option Condition × Option Value × Option (List Value) ×
  Option (List Number) × Option Number × Option BucketRange × Option (List BucketRange) ×
  Option String × Option String × Option String × Option Nat × Option Namespace × List Filter ×
  Option String × List VariationMeta × Option String × Option String × Bool × Option Nat ×
  Option Nat

def ofParts : Parts → FeatureRule
  | (id, condition, force, variations, weights, coverage, range, ranges, key, hashAttribute,
      fallbackAttribute, hashVersion, slice, filters, seed, details, name, phase,
      disableStickyBucketing, bucketVersion, minBucketVersion) =>
    { id, condition, force, variations, weights, coverage, range, ranges, key, hashAttribute,
      fallbackAttribute, hashVersion, slice, filters, seed, details, name, phase,
      disableStickyBucketing, bucketVersion, minBucketVersion }

def parts (r : FeatureRule) : Parts :=
  (r.id, r.condition, r.force, r.variations, r.weights, r.coverage, r.range, r.ranges, r.key,
    r.hashAttribute, r.fallbackAttribute, r.hashVersion, r.slice, r.filters, r.seed, r.details,
    r.name, r.phase, r.disableStickyBucketing, r.bucketVersion, r.minBucketVersion)

def fields : Fields Parts :=
  .and (.optional "id" .string) <|
  .and (.optional "condition" Condition.codec) <|
  .and (.present "force" Value.codec) <|
  .and (.optional "variations" Value.codec.list) <|
  .and (.optional "weights" (.list .number)) <|
  .and (.optional "coverage" .number) <|
  .and (.optional "range" BucketRange.codec) <|
  .and (.optional "ranges" BucketRange.codec.list) <|
  .and (.optional "key" .string) <|
  .and (.optional "hashAttribute" .string) <|
  .and (.optional "fallbackAttribute" .string) <|
  .and (.optional "hashVersion" .word32) <|
  .and (.optional "namespace" Namespace.codec) <|
  .and (.nonEmpty "filters" Filter.codec) <|
  .and (.optional "seed" .string) <|
  .and (.nonEmpty "meta" VariationMeta.codec) <|
  .and (.optional "name" .string) <|
  .and (.optional "phase" .string) <|
  .and (.withDefault "disableStickyBucketing" .bool false (Codec.readable_bool false)) <|
  .and (.optional "bucketVersion" .word32)
    (.optional "minBucketVersion" .word32)

def recordCodec : Codec Parts := fields.codec schema (by decide) (by decide)

theorem decode_eq (draft : Draft) : decode draft = (recordCodec.decode draft).map ofParts := by
  refine fields.map_decode_codec fun record => ?_
  repeat refine Fields.bind_read_and rfl fun _ => ?_
  rfl

theorem toJson_eq (r : FeatureRule) : toJson r = recordCodec.toJson r.parts := by
  have hitems : (fun items => Json.array (Value.itemsToJson items)) = Value.codec.list.toJson :=
    funext fun items => congrArg Json.array (Value.itemsToJson_eq_map items)
  simp [toJson, recordCodec, Fields.toJson_codec, fields, parts, Experiment.nonEmptyMember_eq,
    hitems]
  rfl

theorem same_of_parts (r s : FeatureRule) (h : recordCodec.same r.parts s.parts = true) :
    r.same s = true := by
  have hitems : Value.equalItems = fun as bs => as.isEqv bs Value.equals :=
    funext fun as => funext fun bs => Value.equalItems_eq_isEqv as bs
  simpa [recordCodec, fields, parts, same, hitems, and_assoc] using h

def codec : Codec FeatureRule :=
  recordCodec.through decode toJson same ofParts parts (fun _ => rfl) decode_eq toJson_eq
    same_of_parts

@[simp]
theorem reread_codec : codec.reread = unsignedZeros := by
  funext r
  simp [codec, Codec.through, recordCodec, fields, parts, ofParts, unsignedZeros]

@[simp]
theorem same_codec : codec.same = same := by
  simp only [codec, Codec.through]

/-- Signs of zeros do not count for the equality of rules. -/
theorem same_unsignedZeros_right (r s : FeatureRule) : r.same s.unsignedZeros = r.same s := by
  have hitems (as bs : List Value) :
      Value.equalItems as (bs.map Value.unsignedZeros) = Value.equalItems as bs := by
    rw [Value.equalItems_eq_isEqv, Value.equalItems_eq_isEqv]
    exact List.isEqv_map_right Value.equals_unsignedZeros_right as bs
  have hforce := Json.sameOption_map_right Value.equals_unsignedZeros_right r.force s.force
  have hvariations := Json.sameOption_map_right hitems r.variations s.variations
  unfold same
  rw [unsignedZeros, hforce, hvariations]

end FeatureRule

namespace Feature

/-- A feature whose values have lost the signs of zeros. -/
def unsignedZeros (feature : Feature) : Feature :=
  ⟨feature.defaultValue.unsignedZeros, feature.rules.map FeatureRule.unsignedZeros⟩

abbrev Parts := Value × List FeatureRule

def ofParts : Parts → Feature
  | (defaultValue, rules) => { defaultValue, rules }

def parts (feature : Feature) : Parts := (feature.defaultValue, feature.rules)

def fields : Fields Parts :=
  .and (.withDefault "defaultValue" Value.codec .null Value.readable_null)
    (.withDefault "rules" FeatureRule.codec.list [] FeatureRule.codec.readable_nil)

def recordCodec : Codec Parts := fields.codec schema (by decide) (by decide)

theorem decode_eq (draft : Draft) : decode draft = (recordCodec.decode draft).map ofParts := by
  refine fields.map_decode_codec fun record => ?_
  repeat refine Fields.bind_read_and rfl fun _ => ?_
  rfl

theorem toJson_eq (feature : Feature) : toJson feature = recordCodec.toJson feature.parts := by
  simp [toJson, recordCodec, Fields.toJson_codec, fields, parts]
  rfl

theorem same_of_parts (a b : Feature) (h : recordCodec.same a.parts b.parts = true) :
    a.same b = true := by
  simpa [recordCodec, fields, parts, same] using h

def codec : Codec Feature :=
  recordCodec.through decode toJson same ofParts parts (fun _ => rfl) decode_eq toJson_eq
    same_of_parts

@[simp]
theorem reread_codec : codec.reread = unsignedZeros := by
  funext feature
  simp [codec, Codec.through, recordCodec, fields, parts, ofParts, unsignedZeros]

@[simp]
theorem same_codec : codec.same = same := by
  simp only [codec, Codec.through]

theorem same_unsignedZeros_right (a b : Feature) : a.same b.unsignedZeros = a.same b := by
  rw [same, same, unsignedZeros, Value.equals_unsignedZeros_right,
    List.isEqv_map_right FeatureRule.same_unsignedZeros_right]

end Feature

end FeatureFlags
