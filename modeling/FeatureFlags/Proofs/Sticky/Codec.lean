import FeatureFlags.Proofs.Json.Fields
import FeatureFlags.Sticky

/-!
# Sticky documents survive being written and read again

A document consists of texts only, so what is read again is the document itself.
-/

namespace FeatureFlags.StickyDocument

open Json (Codec Draft Fields)

abbrev Parts := String × String × Dictionary String

def ofParts : Parts → StickyDocument
  | (attributeName, attributeValue, assignments) => { attributeName, attributeValue, assignments }

def parts (document : StickyDocument) : Parts :=
  (document.attributeName, document.attributeValue, document.assignments)

def fields : Fields Parts :=
  .and (.required "attributeName" .string) <|
  .and (.required "attributeValue" .string)
    (.withDefault "assignments" (.dictionary .string) [] (Codec.readable_empty _))

def recordCodec : Codec Parts := fields.codec schema (by decide) (by decide)

theorem decode_eq (draft : Draft) : decode draft = (recordCodec.decode draft).map ofParts := by
  refine fields.map_decode_codec fun record => ?_
  repeat refine Fields.bind_read_and rfl fun _ => ?_
  rfl

theorem toJson_codec_eq (document : StickyDocument) :
    toJson document = recordCodec.toJson document.parts := by
  simp [toJson, recordCodec, Fields.toJson_codec, fields, parts]
  rfl

theorem eq_of_parts (a b : StickyDocument) (h : recordCodec.same a.parts b.parts = true) :
    decide (a = b) = true := by
  obtain ⟨name, value, assignments⟩ := a
  obtain ⟨otherName, otherValue, others⟩ := b
  simpa [recordCodec, fields, parts] using h

def codec : Codec StickyDocument :=
  recordCodec.through decode toJson (fun a b => a = b) ofParts parts (fun _ => rfl) decode_eq
    toJson_codec_eq eq_of_parts

@[simp]
theorem reread_codec : codec.reread = id := by
  funext document
  simp [codec, Codec.through, recordCodec, fields, parts, ofParts, Dictionary.mapValues_id]

end FeatureFlags.StickyDocument
