import FeatureFlags.Payload
import FeatureFlags.Proofs.Feature.Codec
import FeatureFlags.Proofs.Timestamp.Reading
import FeatureFlags.Proofs.Value.Group

/-!
# Payloads survive being written and read again

A feature that could not be decoded is kept as JSON and written as it is.  It need not be
kept when it is read again: a draft in which a member is repeated is no feature, but the
tree that it settles into has the member only once and may be one.  So a payload survives
provided that what it keeps as JSON is no feature (`ServedFeature.Stays`).

Its other parts always survive.  Groups come back as equal sets, in the order in which they
were written, and the time of the last change is read off its text.
-/

namespace FeatureFlags

open Json (Codec Decoder Draft Fields Format Record)

/-! ## Groups -/

/-- What has been read as a set has been read off the items of an array. -/
theorem ValueSet.exists_of_decode {draft : Draft} {set : ValueSet} (hsound : draft.Sound)
    (h : decode draft = some set) :
    set.IsRead ∧ ∃ items, draft = .array items ∧
      ∀ member ∈ set.members, ∃ item ∈ items, Value.codec.Survives item member := by
  obtain ⟨values, hvalues, rfl⟩ := Option.map_eq_some_iff.mp h
  obtain ⟨items, rfl, hitems⟩ := Codec.survives_items Value.codec hsound hvalues
  refine ⟨⟨distinct_ofList values, fun member hmember => ?_⟩, items, rfl, fun member hmember =>
    hitems member (mem_of_mem_ofList hmember)⟩
  obtain ⟨item, hitem, hread⟩ := List.exists_of_mem_mapM hvalues (mem_of_mem_ofList hmember)
  obtain ⟨json, hjson, rfl⟩ := Option.map_eq_some_iff.mp hread
  exact ⟨json, Draft.regular_of_toJson? (Draft.sound_array_iff.mp hsound item hitem) hjson, rfl⟩

def ValueSet.codec : Codec ValueSet where
  decode := decode
  toJson := toJson
  reread := reread
  same := same
  room := 1
  survives draft set hsound h := by
    obtain ⟨hread, items, rfl, hmembers⟩ := exists_of_decode hsound h
    refine ⟨hread.decode_toJson, toJson_reread set, hread.same_reread, hread.regular_toJson,
      fun hnull => ?_, fun depth hroom hfits => ?_⟩
    · cases (toJson_eq set).symm.trans hnull
    · dsimp only
      rw [toJson_eq]
      refine ⟨hfits.1, Draft.itemsFit_iff.mpr ?_⟩
      rw [Draft.ofItems_eq_map, List.map_map, List.forall_mem_map]
      intro member hmember
      have hset := (List.mergeSort_perm set.members writtenBefore).mem_iff.mp hmember
      obtain ⟨item, hitem, hsurvives⟩ := hmembers member hset
      have hroom : depth + 1 + 0 ≤ Json.depthLimit := hroom
      exact hsurvives.fits (depth + 1) hroom (Draft.itemsFit_iff.mp hfits.2 item hitem)

def SavedGroups.codec : Codec SavedGroups := ValueSet.codec.dictionary

/-! ## Times -/

def Timestamp.codec : Codec Timestamp :=
  Codec.exact Payload.decodeTimestamp (fun t => .string t.write) (fun a b => a = b) 0
    fun draft t _ h => by
      cases draft with
      | string s =>
          have hread := ofText?_write (isRead_of_ofText? h)
          exact ⟨hread, rfl, by simp, trivial, by simp, fun _ _ _ => trivial⟩
      | _ => cases h

/-! ## Features -/

namespace ServedFeature

/-- JSON that is kept because it is no feature remains so. -/
def Stays : ServedFeature → Prop
  | parsed _ => True
  | unparsed json => Feature.decode (.ofJson json) = none

def unsignedZeros : ServedFeature → ServedFeature
  | parsed feature => parsed feature.unsignedZeros
  | unparsed json => unparsed json

def same : ServedFeature → ServedFeature → Bool
  | parsed a, parsed b => a.same b
  | unparsed a, unparsed b => a.same b
  | _, _ => false

def format : Format ServedFeature where
  decode := decode
  toJson := toJson
  reread := unsignedZeros
  same := same
  room := Feature.codec.room

theorem stays_unsignedZeros {served : ServedFeature} (h : served.Stays) :
    served.unsignedZeros.Stays := by
  cases served with
  | parsed feature => exact trivial
  | unparsed json => exact h

theorem cases_of_decode {draft : Draft} {served : ServedFeature} (h : decode draft = some served) :
    ∃ json, draft.toJson? = some json ∧
      ((∃ feature, Feature.decode draft = some feature ∧ served = parsed feature) ∨
        Feature.decode draft = none ∧ served = unparsed json) := by
  obtain ⟨json, hjson, heq⟩ := Option.map_eq_some_iff.mp h
  refine ⟨json, hjson, ?_⟩
  cases hfeature : Feature.decode draft with
  | some feature =>
      rw [hfeature] at heq
      exact Or.inl ⟨feature, rfl, heq.symm⟩
  | none =>
      rw [hfeature] at heq
      exact Or.inr ⟨rfl, heq.symm⟩

/-- **A feature of a payload survives unless it is kept as JSON that is a feature.** -/
theorem survives {draft : Draft} {served : ServedFeature} (hsound : draft.Sound)
    (h : decode draft = some served) (hstays : served.Stays) : format.Survives draft served := by
  obtain ⟨json, hjson, ⟨feature, hfeature, rfl⟩ | ⟨-, rfl⟩⟩ := cases_of_decode h
  · have hsurvives := Feature.codec.survives hsound hfeature
    have hreread : Feature.decode (.ofJson feature.toJson) = some feature.unsignedZeros := by
      rw [← Feature.reread_codec]
      exact hsurvives.decode_toJson
    have hrewritten : feature.unsignedZeros.toJson = feature.toJson := by
      rw [← Feature.reread_codec]
      exact hsurvives.toJson_reread
    have hsame : feature.same feature.unsignedZeros = true := by
      rw [← Feature.reread_codec, ← Feature.same_codec]
      exact hsurvives.same_reread
    have hregular : feature.toJson.Regular := hsurvives.regular
    have hagain : decode (.ofJson feature.toJson) = some (parsed feature.unsignedZeros) := by
      rw [decode, Json.toJson?_ofJson_of_regular hregular, Option.map_some, hreread]
    refine ⟨hagain, hrewritten, hsame, hsurvives.regular, hsurvives.null, hsurvives.fits⟩
  · have hsurvives := Codec.json.survives hsound hjson
    have hnone : Feature.decode (.ofJson json) = none := hstays
    have hsettled : (Draft.ofJson json).toJson? = some json := hsurvives.decode_toJson
    have hagain : decode (.ofJson json) = some (unparsed json) := by
      rw [decode, hsettled, Option.map_some, hnone]
    -- a tree needs no room around it, so it fits wherever a feature does
    exact ⟨hagain, rfl, hsurvives.same_reread, hsurvives.regular, hsurvives.null,
      fun depth hroom => hsurvives.fits depth (Nat.le_trans (Nat.le_add_right ..) hroom)⟩

end ServedFeature

namespace ServedFeatures

/-- Nothing that is kept as JSON is a feature. -/
def Stay (served : ServedFeatures) : Prop := ∀ entry ∈ served, entry.2.Stays

instance (served : ServedFeature) : Decidable served.Stays :=
  match served with
  | .parsed _ => isTrue trivial
  | .unparsed json =>
    match h : Feature.decode (.ofJson json) with
    | none => isTrue h
    | some _ => isFalse fun hnone => by
        have hcontra := hnone.symm.trans h
        cases hcontra

instance (served : ServedFeatures) : Decidable served.Stay :=
  inferInstanceAs (Decidable (∀ entry ∈ served, entry.2.Stays))

def unsignedZeros (served : ServedFeatures) : ServedFeatures :=
  Dictionary.mapValues ServedFeature.unsignedZeros served

/-- A codec for the features of a payload that stay as they are. -/
def codec : Codec ServedFeatures where
  toFormat := { ServedFeature.format.dictionary with
    decode := fun draft => (decode draft).filter fun served => served.Stay }
  survives draft served hsound h := by
    obtain ⟨hread, hstay⟩ := Option.filter_eq_some_iff.mp h
    have hstay : served.Stay := of_decide_eq_true hstay
    have hsurvives := ServedFeature.format.survives_dictionary hsound hread
      fun entry hentry member hmember hvalue =>
        ServedFeature.survives hmember hvalue (hstay entry hentry)
    refine ⟨?_, hsurvives.toJson_reread, hsurvives.same_reread, hsurvives.regular,
      hsurvives.null, hsurvives.fits⟩
    -- what is read the second time has to pass the filter as well
    have hagain : (unsignedZeros served).Stay := by
      unfold unsignedZeros Stay Dictionary.mapValues
      rw [List.forall_mem_map]
      exact fun entry hentry => ServedFeature.stays_unsignedZeros (hstay entry hentry)
    exact Option.filter_eq_some_iff.mpr ⟨hsurvives.decode_toJson, decide_eq_true hagain⟩

theorem readable_nil : codec.Readable [] := by
  refine ⟨.object [], trivial, rfl, fun depth hroom => ⟨?_, trivial⟩⟩
  have hroom : depth + (ServedFeature.format.room + 1) ≤ Json.depthLimit := hroom
  omega

end ServedFeatures

/-! ## Payloads -/

namespace Payload

/-- A payload that has been written and read again. -/
def reread (payload : Payload) : Payload :=
  { payload with
    features := payload.features.unsignedZeros
    savedGroups := payload.savedGroups.map (Dictionary.mapValues ValueSet.reread) }

abbrev Parts := ServedFeatures × Option String × Option SavedGroups × Option String ×
  Option Timestamp

def ofParts : Parts → Payload
  | (features, encryptedFeatures, savedGroups, encryptedSavedGroups, dateUpdated) =>
    { features, encryptedFeatures, savedGroups, encryptedSavedGroups, dateUpdated }

def parts (p : Payload) : Parts :=
  (p.features, p.encryptedFeatures, p.savedGroups, p.encryptedSavedGroups, p.dateUpdated)

/-- The features that stay, and whether they do is decided as they are read. -/
def featuresField : Fields ServedFeatures :=
  .withDefault "features" ServedFeatures.codec [] ServedFeatures.readable_nil

def otherFields :
    Fields (Option String × Option SavedGroups × Option String × Option Timestamp) :=
  .and (.optional "encryptedFeatures" .string) <|
  .and (.optional "savedGroups" SavedGroups.codec) <|
  .and (.optional "encryptedSavedGroups" .string)
    (.optional "dateUpdated" Timestamp.codec)

def fields : Fields Parts := featuresField.and otherFields

def recordCodec : Codec Parts := fields.codec schema (by decide) (by decide)

theorem toJson_eq (p : Payload) : toJson p = recordCodec.toJson p.parts := by
  simp [toJson, recordCodec, Fields.toJson_codec, fields, featuresField, otherFields, parts]
  rfl

theorem reread_recordCodec (p : Payload) : recordCodec.reread p.parts = p.reread.parts := by
  simp only [recordCodec, Fields.reread_codec, fields, Fields.reread_and, parts]
  refine Prod.ext rfl (Prod.ext ?_ (Prod.ext rfl (Prod.ext ?_ ?_)))
  all_goals exact congrFun Option.map_id _

theorem decode_eq (draft : Draft) :
    decode draft = (Record.ofDraft? schema draft).bind fun record =>
      (record.withDefault "features" ServedFeatures.decode []).bind fun features =>
        (otherFields.read record).bind fun others => some (ofParts (features, others)) := by
  refine congrArg (Option.bind _) (funext fun record => ?_)
  refine congrArg (Option.bind _) (funext fun features => ?_)
  refine Eq.symm ?_
  repeat refine Fields.bind_read_and rfl fun _ => ?_
  rfl

theorem read_featuresField_eq_some_iff {record : Record} {served : ServedFeatures} :
    featuresField.read record = some served ↔
      record.withDefault "features" ServedFeatures.decode [] = some served ∧ served.Stay := by
  change record.withDefault "features" ServedFeatures.codec.decode [] = some served ↔ _
  unfold Record.withDefault
  split
  · exact Option.filter_eq_some_iff.trans (and_congr_right fun _ => decide_eq_true_iff)
  · refine ⟨fun h => ⟨h, ?_⟩, And.left⟩
    cases h
    intro entry hentry
    cases hentry

/-- The codec reads those payloads whose features stay. -/
theorem decode_codec_eq_some_iff {draft : Draft} {p : Payload} :
    recordCodec.decode draft = some p.parts ↔ decode draft = some p ∧ p.features.Stay := by
  rw [decode_eq]
  constructor
  · intro h
    obtain ⟨record, hrecord, h⟩ := Option.bind_eq_some_iff.mp h
    obtain ⟨features, hfeatures, h⟩ := Option.bind_eq_some_iff.mp h
    obtain ⟨others, hothers, h⟩ := Option.map_eq_some_iff.mp h
    obtain ⟨hfeatures, hstay⟩ := read_featuresField_eq_some_iff.mp hfeatures
    cases h
    rw [hrecord, Option.bind_some, hfeatures, Option.bind_some, hothers]
    exact ⟨rfl, hstay⟩
  · rintro ⟨h, hstay⟩
    obtain ⟨record, hrecord, h⟩ := Option.bind_eq_some_iff.mp h
    obtain ⟨features, hfeatures, h⟩ := Option.bind_eq_some_iff.mp h
    obtain ⟨others, hothers, h⟩ := Option.bind_eq_some_iff.mp h
    cases h
    have hread := read_featuresField_eq_some_iff.mpr ⟨hfeatures, hstay⟩
    change (Record.ofDraft? schema draft).bind (featuresField.and otherFields).read = _
    rw [hrecord, Option.bind_some, Fields.and]
    dsimp only
    rw [hread, Option.bind_some, hothers]
    rfl

end Payload

end FeatureFlags
