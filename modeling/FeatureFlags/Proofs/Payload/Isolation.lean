import FeatureFlags.Payload
import FeatureFlags.Proofs.Json.Decoding
import FeatureFlags.Proofs.Json.Nesting

/-!
# A feature does not spoil the others

A payload whose features are an object is read whatever stands in this object, as long as
its other members have their types.  What it then defines is said key by key: under a key
stands what the JSON at this key decodes to, and nothing if it does not decode
(`definitions_of_form`).  The other features, their number and their order do not occur in
this.

The only thing that could make a served feature fail is a malformed part of it.  A text
within the limit on nesting, whose strings and numbers are acceptable, has no such part
(`settles_of_ofBytes?`).
-/

namespace FeatureFlags

open Dictionary (Sorted)
open Json (Decoder Draft Nests Proper Record depthLimit)

/-! ## Fields that settle -/

/-- What a draft without malformed parts has in a field has none either. -/
theorem Json.Record.settles_of_lookup {schema : Json.Schema} {draft field : Draft} {record : Record}
    {name : String} (hdraft : draft.Settles) (hrecord : ofDraft? schema draft = some record)
    (hlookup : record.lookup name = some field) : field.Settles := by
  rcases exists_of_lookup hrecord hlookup with
    ⟨members, rfl, member, hmember, rfl⟩ | ⟨items, rfl, hitem⟩
  · exact Draft.settles_object_iff.mp hdraft member hmember
  · exact Draft.settles_array_iff.mp hdraft field hitem

/-! ## Served features -/

/-- JSON without malformed parts is a served feature, decoded if it can be. -/
theorem ServedFeature.decode_of_settles {draft : Draft} (hdraft : draft.Settles) :
    ∃ served, decode draft = some served ∧ served.feature? = Feature.decode draft := by
  obtain ⟨json, hjson⟩ := hdraft
  rw [decode, hjson, Option.map_some]
  cases hfeature : Feature.decode draft with
  | none => exact ⟨unparsed json, rfl, rfl⟩
  | some feature => exact ⟨parsed feature, rfl, rfl⟩

namespace ServedFeatures

theorem mapM_of_settles {entries : List (String × Draft)}
    (hentries : ∀ entry ∈ entries, entry.2.Settles) :
    ∃ read, entries.mapM (Decoder.decodeMember ServedFeature.decode) = some read ∧
      List.Forall₂ (fun entry member => entry.1 = member.1 ∧
        member.2.feature? = Feature.decode entry.2) entries read := by
  induction entries with
  | nil => exact ⟨[], rfl, .nil⟩
  | cons entry rest ih =>
      obtain ⟨hentry, hrest⟩ := List.forall_mem_cons.mp hentries
      obtain ⟨served, hserved, hfeature⟩ := ServedFeature.decode_of_settles hentry
      obtain ⟨read, hread, hall⟩ := ih hrest
      refine ⟨(entry.1, served) :: read, ?_, .cons ⟨rfl, hfeature⟩ hall⟩
      rw [List.mapM_option_cons, hread, Decoder.decodeMember, hserved]
      rfl

theorem get?_of_forall₂ {entries : List (String × Draft)} {read : ServedFeatures}
    (hall : List.Forall₂ (fun entry member => entry.1 = member.1 ∧
      member.2.feature? = Feature.decode entry.2) entries read) (key : String) :
    (Dictionary.get? read key).bind ServedFeature.feature? =
      (Dictionary.get? entries key).bind Feature.decode := by
  induction hall with
  | nil => rfl
  | cons hhead hrest ih =>
      rw [Dictionary.get?_cons, Dictionary.get?_cons, hhead.1]
      split
      · exact hhead.2
      · exact ih

/-- **Every object is read as features, and those that decode are found under their keys.** -/
theorem decode_of_settles {entries : List (String × Draft)}
    (hentries : ∀ entry ∈ entries, entry.2.Settles) :
    ∃ served, decode (.object entries) = some served ∧ Sorted served.features ∧
      ∀ key, Dictionary.get? served.features key =
        (Dictionary.get? entries.reverse key).bind Feature.decode := by
  obtain ⟨read, hread, hall⟩ := mapM_of_settles hentries
  have hsorted := Dictionary.sorted_ofList read
  refine ⟨Dictionary.ofList read, ?_, hsorted.filterMap _, ?_⟩
  · exact congrArg (Option.map Dictionary.ofList) hread
  · intro key
    have hreverse := get?_of_forall₂ (List.forall₂_reverse_iff.mpr hall) key
    calc Dictionary.get? (features (Dictionary.ofList read)) key
        = (Dictionary.get? (Dictionary.ofList read) key).bind ServedFeature.feature? :=
          Dictionary.get?_filterMap _ hsorted.nodup_keys key
      _ = (Dictionary.get? read.reverse key).bind ServedFeature.feature? := by
          rw [Dictionary.get?_ofList]
      _ = (Dictionary.get? entries.reverse key).bind Feature.decode := hreverse

end ServedFeatures

/-! ## Payloads -/

namespace Payload

/-- A draft has the form of a payload: the features are an object, of whatever content, and the
other members have their types. -/
structure Form (draft : Draft) where
  record : Record
  entries : List (String × Draft)
  encryptedFeatures : Option String
  savedGroups : Option SavedGroups
  encryptedSavedGroups : Option String
  dateUpdated : Option Timestamp
  isRecord : Record.ofDraft? schema draft = some record
  features_eq : record.lookup "features" = some (.object entries)
  encryptedFeatures_eq :
    record.optional "encryptedFeatures" Decoder.string = some encryptedFeatures
  savedGroups_eq : record.optional "savedGroups" SavedGroups.decode = some savedGroups
  encryptedSavedGroups_eq :
    record.optional "encryptedSavedGroups" Decoder.string = some encryptedSavedGroups
  dateUpdated_eq : record.optional "dateUpdated" decodeTimestamp = some dateUpdated

variable {draft : Draft}

/-- The members other than the features are those of the form. -/
structure Fills (payload : Payload) (form : Form draft) : Prop where
  encryptedFeatures : payload.encryptedFeatures = form.encryptedFeatures
  savedGroups : payload.savedGroups = form.savedGroups
  encryptedSavedGroups : payload.encryptedSavedGroups = form.encryptedSavedGroups
  dateUpdated : payload.dateUpdated = form.dateUpdated

/-- The definitions have under each key what the JSON at this key decodes to; of several members
of one name the last counts. -/
structure Form.Defines (form : Form draft) (definitions : Definitions) : Prop where
  sorted : Sorted definitions.features
  features (key : String) : Dictionary.get? definitions.features key =
    (Dictionary.get? form.entries.reverse key).bind Feature.decode
  savedGroups : definitions.savedGroups = form.savedGroups.getD []
  dateUpdated : definitions.dateUpdated = form.dateUpdated

theorem decode_of_form (form : Form draft) {served : ServedFeatures}
    (hserved : ServedFeatures.decode (.object form.entries) = some served) :
    decode draft = some ⟨served, form.encryptedFeatures, form.savedGroups,
      form.encryptedSavedGroups, form.dateUpdated⟩ := by
  have hfeatures : form.record.withDefault "features" ServedFeatures.decode [] = some served := by
    rw [Record.withDefault, form.features_eq]
    exact hserved
  simp only [decode, form.isRecord, hfeatures, form.encryptedFeatures_eq, form.savedGroups_eq,
    form.encryptedSavedGroups_eq, form.dateUpdated_eq, Option.bind_eq_bind, Option.bind_some]

/-- **Every payload is read whatever its features are, and defines those that decode.** -/
theorem definitions_of_form {text : Text.Utf8.Bytes} (hdraft : Draft.ofBytes? text = some draft)
    (hnests : Nests depthLimit text) (hproper : Proper text) (form : Form draft) :
    ∃ payload, ofBytes text = .ok payload ∧ payload.Fills form ∧
      (form.encryptedFeatures = none → form.encryptedSavedGroups = none →
        ∀ decryptor, ∃ definitions, payload.definitions decryptor = .ok definitions ∧
          form.Defines definitions) := by
  have hsettles : draft.Settles := Json.settles_of_ofBytes? hnests hproper hdraft
  have hentries : ∀ entry ∈ form.entries, entry.2.Settles :=
    Draft.settles_object_iff.mp (Record.settles_of_lookup hsettles form.isRecord form.features_eq)
  obtain ⟨served, hserved, hsorted, hfeatures⟩ := ServedFeatures.decode_of_settles hentries
  refine ⟨⟨served, form.encryptedFeatures, form.savedGroups, form.encryptedSavedGroups,
    form.dateUpdated⟩, ?_, ⟨rfl, rfl, rfl, rfl⟩, ?_⟩
  · rw [ofBytes, decodeBytes, hdraft, Option.bind_some, decode_of_form form hserved]
  · intro hplainFeatures hplainGroups decryptor
    refine ⟨⟨served.features, form.savedGroups.getD [], form.dateUpdated⟩, ?_, hsorted, hfeatures,
      rfl, rfl⟩
    rw [definitions, effectiveFeatures, effectiveGroups, hplainFeatures, hplainGroups]

/-- Two features, of which one has something else than rules. -/
def misshapen : Json :=
  .object [("features", .object
    [("bad", .object [("rules", .string "not a list")]),
     ("good", .object [("defaultValue", .integer 1)])])]

/-- The form of a payload with these features and nothing else. -/
def misshapenForm : Form (.ofJson misshapen) where
  record := [("features", .object
    [("bad", .object [("rules", .string "not a list")]),
     ("good", .object [("defaultValue", .integer 1)])])]
  entries :=
    [("bad", .object [("rules", .string "not a list")]),
     ("good", .object [("defaultValue", .integer 1)])]
  encryptedFeatures := none
  savedGroups := none
  encryptedSavedGroups := none
  dateUpdated := none
  isRecord := rfl
  features_eq := rfl
  encryptedFeatures_eq := rfl
  savedGroups_eq := rfl
  encryptedSavedGroups_eq := rfl
  dateUpdated_eq := rfl

theorem misshapen_feature_left_out :
    Nests depthLimit misshapen.bytes ∧ Proper misshapen.bytes ∧
      ∃ payload definitions, ofBytes misshapen.bytes = .ok payload ∧
        payload.definitions none = .ok definitions ∧
        Dictionary.get? definitions.features "bad" = none ∧
        (Dictionary.get? definitions.features "good").isSome = true := by
  have hlegible : misshapen.Legible 0 := by
    simp [misshapen, Json.Legible, Json.LegibleMembers, Json.IsWord64, depthLimit]
  have hnests : Nests depthLimit misshapen.bytes := by decide +kernel
  have hproper : Proper misshapen.bytes := by decide +kernel
  obtain ⟨payload, hpayload, -, hdefined⟩ :=
    definitions_of_form (Json.ofBytes?_bytes hlegible) hnests hproper misshapenForm
  obtain ⟨definitions, hdefinitions, hdefines⟩ := hdefined rfl rfl none
  refine ⟨hnests, hproper, payload, definitions, hpayload, hdefinitions, ?_, ?_⟩
  · rw [hdefines.features]
    decide +kernel
  · rw [hdefines.features]
    decide +kernel

end Payload

end FeatureFlags
