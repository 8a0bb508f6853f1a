import FeatureFlags.Payload
import FeatureFlags.Proofs.Json.Decoding

/-!
# Payloads do not depend on the order of members

None of the decoders that a payload is read with sees the order in which the members of
an object are written.  So the text of the tree of a plain payload is read as the same
payload (`Payload.ofBytes_bytes`).
-/

namespace FeatureFlags

open Json (Decoder Draft Record)
open Json.Decoder

theorem Value.ignoresOrder_decode : IgnoresOrder Value.decode := ignoresOrder_json.map _

theorem Condition.ignoresOrder_decode : IgnoresOrder Condition.decode := ignoresOrder_json.map _

theorem BucketRange.ignoresOrder_decode : IgnoresOrder BucketRange.decode :=
  (ignoresOrder_number.pair ignoresOrder_number).map _

theorem Namespace.ignoresOrder_decode : IgnoresOrder Namespace.decode := by
  refine ignoresOrder_of (fun items others hitems _ => ?_) fun _ _ _ => rfl
  rcases hitems with _ | ⟨ha, _ | ⟨hb, _ | ⟨hc, _ | ⟨hd, hrest⟩⟩⟩⟩
  · rfl
  · rfl
  · rfl
  · simp only [Namespace.decode, ignoresOrder_string ha, ignoresOrder_number hb,
      ignoresOrder_number hc]
  · rfl

theorem Filter.ignoresOrder_decode : IgnoresOrder Filter.decode :=
  Record.ignoresOrder fun h => by
    simp only [h.withDefault ignoresOrder_string, h.required BucketRange.ignoresOrder_decode.list,
      h.optional ignoresOrder_string, h.optional (ignoresOrder_natBelow _), word32]

theorem VariationMeta.ignoresOrder_decode : IgnoresOrder VariationMeta.decode :=
  Record.ignoresOrder fun h => by
    simp only [h.optional ignoresOrder_string, h.withDefault ignoresOrder_bool]

theorem FeatureRule.ignoresOrder_decodePresent : IgnoresOrder FeatureRule.decodePresent :=
  Value.ignoresOrder_decode.map some

theorem FeatureRule.ignoresOrder_decode : IgnoresOrder FeatureRule.decode :=
  Record.ignoresOrder fun h => by
    simp only [h.optional ignoresOrder_string, h.optional Condition.ignoresOrder_decode,
      h.withDefault FeatureRule.ignoresOrder_decodePresent,
      h.optional Value.ignoresOrder_decode.list, h.optional ignoresOrder_number.list,
      h.optional ignoresOrder_number, h.optional BucketRange.ignoresOrder_decode,
      h.optional BucketRange.ignoresOrder_decode.list, h.optional (ignoresOrder_natBelow _), word32,
      h.optional Namespace.ignoresOrder_decode, h.withDefault Filter.ignoresOrder_decode.list,
      h.withDefault VariationMeta.ignoresOrder_decode.list, h.withDefault ignoresOrder_bool]

theorem Feature.ignoresOrder_decode : IgnoresOrder Feature.decode :=
  Record.ignoresOrder fun h => by
    simp only [h.withDefault Value.ignoresOrder_decode,
      h.withDefault FeatureRule.ignoresOrder_decode.list]

theorem ServedFeature.ignoresOrder_decode : IgnoresOrder ServedFeature.decode := fun _ _ h => by
  simp only [ServedFeature.decode, h.toJson?_eq, Feature.ignoresOrder_decode h]

theorem ServedFeatures.ignoresOrder_decode : IgnoresOrder ServedFeatures.decode :=
  ServedFeature.ignoresOrder_decode.dictionary

theorem ValueSet.ignoresOrder_decode : IgnoresOrder ValueSet.decode :=
  Value.ignoresOrder_decode.list.map _

theorem SavedGroups.ignoresOrder_decode : IgnoresOrder SavedGroups.decode :=
  ValueSet.ignoresOrder_decode.dictionary

theorem Payload.ignoresOrder_decode : IgnoresOrder Payload.decode :=
  Record.ignoresOrder fun h => by
    have htimestamp : IgnoresOrder decodeTimestamp :=
      ignoresOrder_of (fun _ _ _ _ => rfl) fun _ _ _ => rfl
    simp only [h.withDefault ServedFeatures.ignoresOrder_decode, h.optional ignoresOrder_string,
      h.optional SavedGroups.ignoresOrder_decode, h.optional htimestamp]

/-- **The text of the tree of a plain payload is read as the same payload.** -/
theorem Payload.ofBytes_bytes {body : Text.Utf8.Bytes} {draft : Draft}
    (hdraft : Draft.ofBytes? body = some draft) (hplain : draft.Plain) :
    ∃ json, Json.ofBytes? body = some json ∧ Payload.ofBytes json.bytes = Payload.ofBytes body := by
  obtain ⟨json, tidy, hjson, htidy, htidied⟩ := Draft.tidied_of_reading hdraft hplain
  refine ⟨json, hjson, ?_⟩
  simp only [Payload.ofBytes, decodeBytes, hdraft, htidy, Option.bind_some,
    Payload.ignoresOrder_decode htidied]

end FeatureFlags
