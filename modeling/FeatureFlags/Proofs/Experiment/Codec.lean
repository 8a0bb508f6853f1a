import FeatureFlags.Proofs.Json.Fields
import FeatureFlags.Proofs.Value.Rereading

/-!
# Experiments survive being written and read again

Everything in an experiment that is not a value comes back identical: numbers that are read
as numbers, texts, ranges, and conditions, whose trees are written as they were read.  Values
lose the signs of zeros.  So it is said exactly what an experiment becomes by being written
and read again (`Experiment.unsignedZeros`), and that it is equal to what was written.
-/

namespace FeatureFlags

open Json (Codec Decoder Draft Fields)

/-! ## Values and conditions -/

/-- A value loses the signs of zeros. -/
def Value.codec : Codec Value where
  decode := decode
  toJson := toJson
  reread := unsignedZeros
  same := equals
  room := 0
  survives draft value hsound h := by
    obtain ⟨json, hjson, rfl⟩ := Option.map_eq_some_iff.mp h
    have hregular := Draft.regular_of_toJson? hsound hjson
    refine ⟨?_, toJson_unsignedZeros _, equals_unsignedZeros hregular, regular_toJson hregular,
      fun hnull => ?_, fun depth _ hfits => fits_toJson (Draft.fits_of_toJson? hfits hjson)⟩
    · dsimp only
      rw [decode, Json.toJson?_ofJson_of_regular (regular_toJson hregular), Option.map_some,
        ofJson_toJson hregular]
    · rw [toJson_ofJson_eq_null hregular hnull] at hjson
      exact Draft.eq_null_of_toJson? hjson

@[simp]
theorem Value.reread_codec : codec.reread = unsignedZeros := rfl

@[simp]
theorem Value.same_codec : codec.same = equals := rfl

theorem Value.readable_null : codec.Readable .null := ⟨.null, trivial, rfl, fun _ _ => trivial⟩

/-- A condition is written as the tree that it was read from. -/
def Condition.codec : Codec Condition :=
  Codec.exact decode toJson same 0 fun draft condition hsound h => by
    obtain ⟨json, hjson, rfl⟩ := Option.map_eq_some_iff.mp h
    have hsurvives := Codec.json.survives hsound hjson
    exact ⟨congrArg (Option.map ofJson) hsurvives.decode_toJson, rfl, hsurvives.same_reread,
      hsurvives.regular, hsurvives.null, hsurvives.fits⟩

@[simp]
theorem Condition.reread_codec : codec.reread = id := rfl

@[simp]
theorem Condition.same_codec : codec.same = same := rfl

/-! ## Ranges -/

/-- Two numbers of an array. -/
theorem BucketRange.exists_of_decode {draft : Draft} {range : BucketRange} (hsound : draft.Sound)
    (h : decode draft = some range) :
    ∃ items, draft = .array items ∧ range.start.IsDouble ∧ range.stop.IsDouble := by
  obtain ⟨⟨start, stop⟩, hpair, rfl⟩ := Option.map_eq_some_iff.mp h
  unfold Decoder.pair at hpair
  split at hpair
  · rename_i first second
    have hitems := Draft.sound_array_iff.mp hsound
    simp only [Option.bind_eq_bind, Option.bind_eq_some_iff, Option.some.injEq,
      Prod.mk.injEq] at hpair
    obtain ⟨a, ha, b, hb, rfl, rfl⟩ := hpair
    exact ⟨_, rfl, Codec.isDouble_of_number (hitems first (by simp)) ha,
      Codec.isDouble_of_number (hitems second (by simp)) hb⟩
  · cases hpair

def BucketRange.codec : Codec BucketRange :=
  Codec.exact decode toJson same 1 fun draft range hsound h => by
    obtain ⟨items, rfl, hstart, hstop⟩ := exists_of_decode hsound h
    have hjson : range.toJson = .array [.float range.start, .float range.stop] := by
      rw [toJson, Codec.ofNumber_eq hstart, Codec.ofNumber_eq hstop]
    refine ⟨?_, rfl, ?_, ?_, ?_, fun depth _ hfits => ?_⟩
    · dsimp only
      rw [hjson]
      rfl
    · simp [same, Json.equals_self hstart.isFinite, Json.equals_self hstop.isFinite]
    · dsimp only
      rw [hjson]
      exact ⟨hstart, hstop, trivial⟩
    · simp [hjson]
    · dsimp only
      rw [hjson]
      exact ⟨hfits.1, trivial, trivial, trivial⟩

@[simp]
theorem BucketRange.reread_codec : codec.reread = id := rfl

@[simp]
theorem BucketRange.same_codec : codec.same = same := rfl

def Namespace.codec : Codec Namespace :=
  Codec.exact decode toJson same 1 fun draft slice hsound h => by
    unfold decode at h
    split at h
    · rename_i first second third
      have hitems := Draft.sound_array_iff.mp hsound
      simp only [Option.bind_eq_bind, Option.bind_eq_some_iff] at h
      obtain ⟨id, -, start, hstart, stop, hstop, heq⟩ := h
      have hstart := Codec.isDouble_of_number (hitems second (by simp)) hstart
      have hstop := Codec.isDouble_of_number (hitems third (by simp)) hstop
      cases heq
      have hjson : toJson ⟨id, ⟨start, stop⟩⟩ = .array [.string id, .float start, .float stop] := by
        simp only [toJson, Codec.ofNumber_eq hstart, Codec.ofNumber_eq hstop]
      refine ⟨?_, rfl, ?_, ?_, ?_, fun depth _ hfits => ?_⟩
      · dsimp only
        rw [hjson]
        rfl
      · simp [same, BucketRange.same, Json.equals_self hstart.isFinite,
          Json.equals_self hstop.isFinite]
      · dsimp only
        rw [hjson]
        exact ⟨trivial, hstart, hstop, trivial⟩
      · simp [hjson]
      · dsimp only
        rw [hjson]
        exact ⟨hfits.1, trivial, trivial, trivial, trivial⟩
    · cases h

@[simp]
theorem Namespace.reread_codec : codec.reread = fun slice => slice := rfl

@[simp]
theorem Namespace.same_codec : codec.same = same := rfl

/-! ## Parts of experiments -/

namespace Filter

abbrev Parts := String × List BucketRange × Option String × Option Nat

def ofParts : Parts → Filter
  | (seed, ranges, hashAttribute, hashVersion) => { seed, ranges, hashAttribute, hashVersion }

def parts (f : Filter) : Parts := (f.seed, f.ranges, f.hashAttribute, f.hashVersion)

def fields : Fields Parts :=
  .and (.withDefault "seed" .string "" (Codec.readable_string "")) <|
  .and (.required "ranges" BucketRange.codec.list) <|
  .and (.optional "attribute" .string)
    (.optional "hashVersion" .word32)

def recordCodec : Codec Parts := fields.codec schema (by decide) (by decide)

theorem decode_eq (draft : Draft) : decode draft = (recordCodec.decode draft).map ofParts := by
  refine fields.map_decode_codec fun record => ?_
  repeat refine Fields.bind_read_and rfl fun _ => ?_
  rfl

theorem toJson_eq (f : Filter) : toJson f = recordCodec.toJson f.parts := by
  simp [toJson, recordCodec, Fields.toJson_codec, fields, parts]
  rfl

theorem same_of_parts (f g : Filter) (h : recordCodec.same f.parts g.parts = true) :
    f.same g = true := by
  simpa [recordCodec, fields, parts, same, and_assoc] using h

def codec : Codec Filter :=
  recordCodec.through decode toJson same ofParts parts (fun _ => rfl) decode_eq toJson_eq
    same_of_parts

@[simp]
theorem reread_codec : codec.reread = id := by
  funext f
  simp [codec, Codec.through, recordCodec, fields, parts, ofParts]

@[simp]
theorem same_codec : codec.same = same := rfl

end Filter

namespace VariationMeta

abbrev Parts := Option String × Option String × Bool

def ofParts : Parts → VariationMeta
  | (key, name, passthrough) => { key, name, passthrough }

def parts (details : VariationMeta) : Parts := (details.key, details.name, details.passthrough)

def fields : Fields Parts :=
  .and (.optional "key" .string) <|
  .and (.optional "name" .string)
    (.withDefault "passthrough" .bool false (Codec.readable_bool false))

def recordCodec : Codec Parts := fields.codec schema (by decide) (by decide)

theorem decode_eq (draft : Draft) : decode draft = (recordCodec.decode draft).map ofParts := by
  refine fields.map_decode_codec fun record => ?_
  repeat refine Fields.bind_read_and rfl fun _ => ?_
  rfl

theorem toJson_eq (details : VariationMeta) :
    toJson details = recordCodec.toJson details.parts := by
  simp [toJson, recordCodec, Fields.toJson_codec, fields, parts]
  rfl

theorem eq_of_parts (a b : VariationMeta) (h : recordCodec.same a.parts b.parts = true) :
    decide (a = b) = true := by
  cases a
  cases b
  simpa [recordCodec, fields, parts] using h

def codec : Codec VariationMeta :=
  recordCodec.through decode toJson (fun a b => a = b) ofParts parts (fun _ => rfl) decode_eq
    toJson_eq eq_of_parts

@[simp]
theorem reread_codec : codec.reread = id := by
  funext details
  simp [codec, Codec.through, recordCodec, fields, parts, ofParts]

@[simp]
theorem same_codec : codec.same = fun a b => decide (a = b) := rfl

end VariationMeta

/-! ## Experiments -/

namespace Experiment

/-- An experiment whose variations have lost the signs of zeros. -/
def unsignedZeros (e : Experiment) : Experiment :=
  { e with variations := e.variations.map Value.unsignedZeros }

/-- A list that is left out if it is empty. -/
theorem nonEmptyMember_eq {α : Type} (name : String) (toJson : α → Json) (items : List α) :
    nonEmptyMember name toJson items = Json.optionalMember name
      (if items.isEmpty then none else some (.array (items.map toJson))) := by
  cases items <;> rfl

abbrev Parts := String × List Value × Option (List Number) × Option Number ×
  Option (List BucketRange) × Option Condition × Option Namespace × Option String × Option String ×
  Option Nat × List Filter × Option String × List VariationMeta × Option String × Option String ×
  Option Nat × Bool × Bool × Option Nat × Option Nat

def ofParts : Parts → Experiment
  | (key, variations, weights, coverage, ranges, condition, slice, hashAttribute,
      fallbackAttribute, hashVersion, filters, seed, details, name, phase, force, active,
      disableStickyBucketing, bucketVersion, minBucketVersion) =>
    { key, variations, weights, coverage, ranges, condition, slice, hashAttribute,
      fallbackAttribute, hashVersion, filters, seed, details, name, phase, force, active,
      disableStickyBucketing, bucketVersion, minBucketVersion }

def parts (e : Experiment) : Parts :=
  (e.key, e.variations, e.weights, e.coverage, e.ranges, e.condition, e.slice, e.hashAttribute,
    e.fallbackAttribute, e.hashVersion, e.filters, e.seed, e.details, e.name, e.phase, e.force,
    e.active, e.disableStickyBucketing, e.bucketVersion, e.minBucketVersion)

def fields : Fields Parts :=
  .and (.withDefault "key" .string "" (Codec.readable_string "")) <|
  .and (.required "variations" Value.codec.list) <|
  .and (.optional "weights" (.list .number)) <|
  .and (.optional "coverage" .number) <|
  .and (.optional "ranges" BucketRange.codec.list) <|
  .and (.optional "condition" Condition.codec) <|
  .and (.optional "namespace" Namespace.codec) <|
  .and (.optional "hashAttribute" .string) <|
  .and (.optional "fallbackAttribute" .string) <|
  .and (.optional "hashVersion" .word32) <|
  .and (.nonEmpty "filters" Filter.codec) <|
  .and (.optional "seed" .string) <|
  .and (.nonEmpty "meta" VariationMeta.codec) <|
  .and (.optional "name" .string) <|
  .and (.optional "phase" .string) <|
  .and (.optional "force" .word64) <|
  .and (.withDefault "active" .bool true (Codec.readable_bool true)) <|
  .and (.withDefault "disableStickyBucketing" .bool false (Codec.readable_bool false)) <|
  .and (.optional "bucketVersion" .word32)
    (.optional "minBucketVersion" .word32)

def recordCodec : Codec Parts := fields.codec schema (by decide) (by decide)

theorem decode_eq (draft : Draft) : decode draft = (recordCodec.decode draft).map ofParts := by
  refine fields.map_decode_codec fun record => ?_
  repeat refine Fields.bind_read_and rfl fun _ => ?_
  rfl

theorem toJson_eq (e : Experiment) : toJson e = recordCodec.toJson e.parts := by
  simp [toJson, recordCodec, Fields.toJson_codec, fields, parts, nonEmptyMember_eq,
    Value.itemsToJson_eq_map]
  rfl

theorem same_of_parts (e f : Experiment) (h : recordCodec.same e.parts f.parts = true) :
    e.same f = true := by
  simpa [recordCodec, fields, parts, same, Value.equalItems_eq_isEqv, and_assoc] using h

def codec : Codec Experiment :=
  recordCodec.through decode toJson same ofParts parts (fun _ => rfl) decode_eq toJson_eq
    same_of_parts

@[simp]
theorem reread_codec : codec.reread = unsignedZeros := by
  funext e
  simp [codec, Codec.through, recordCodec, fields, parts, ofParts, unsignedZeros]

@[simp]
theorem same_codec : codec.same = same := by
  simp only [codec, Codec.through]

end Experiment

/-! ## Overrides -/

namespace ExperimentOverride

/-- Equality of overrides; numbers and conditions are compared as such. -/
def same (a b : ExperimentOverride) : Bool :=
  sameOption (fun x y => x.isEqv y Number.equals) a.weights b.weights &&
    sameOption Number.equals a.coverage b.coverage &&
    sameOption Condition.same a.condition b.condition && a.force = b.force && a.active = b.active

abbrev Parts := Option (List Number) × Option Number × Option Condition × Option Nat × Option Bool

def ofParts : Parts → ExperimentOverride
  | (weights, coverage, condition, force, active) => { weights, coverage, condition, force, active }

def parts (o : ExperimentOverride) : Parts :=
  (o.weights, o.coverage, o.condition, o.force, o.active)

def fields : Fields Parts :=
  .and (.nullable "weights" (.list .number)) <|
  .and (.nullable "coverage" .number) <|
  .and (.nullable "condition" Condition.codec) <|
  .and (.nullable "force" .word64)
    (.nullable "active" .bool)

def recordCodec : Codec Parts := fields.codec schema (by decide) (by decide)

theorem decode_eq (draft : Draft) : decode draft = (recordCodec.decode draft).map ofParts := by
  refine fields.map_decode_codec fun record => ?_
  repeat refine Fields.bind_read_and rfl fun _ => ?_
  rfl

theorem toJson_eq (o : ExperimentOverride) : toJson o = recordCodec.toJson o.parts := by
  simp [toJson, recordCodec, Fields.toJson_codec, fields, parts]
  rfl

theorem same_of_parts (a b : ExperimentOverride) (h : recordCodec.same a.parts b.parts = true) :
    a.same b = true := by
  simpa [recordCodec, fields, parts, same, and_assoc] using h

def codec : Codec ExperimentOverride :=
  recordCodec.through decode toJson same ofParts parts (fun _ => rfl) decode_eq toJson_eq
    same_of_parts

@[simp]
theorem reread_codec : codec.reread = id := by
  funext o
  simp [codec, Codec.through, recordCodec, fields, parts, ofParts]

end ExperimentOverride

end FeatureFlags
