import FeatureFlags.Context
import FeatureFlags.Json.Reader
import FeatureFlags.Timestamp

/-!
# Feature payloads

What the server sends: features, saved groups, and the time of their last change.  A feature that
cannot be decoded is kept as the JSON it is and does not spoil the others.  Features and groups may
be encrypted; their encrypted form counts only where the plain one is absent or empty.
-/

namespace FeatureFlags

open Json (Decoder Draft Schema Record optionalMember)

/-- A feature of a payload: decoded, or the JSON that could not be. -/
inductive ServedFeature
  | parsed (feature : Feature)
  | unparsed (json : Json)

namespace ServedFeature

/-- Any JSON is a served feature. -/
def decode : Decoder ServedFeature := fun draft =>
  draft.toJson?.map fun json =>
    match Feature.decode draft with
    | some feature => parsed feature
    | none => unparsed json

def feature? : ServedFeature → Option Feature
  | parsed feature => some feature
  | unparsed _ => none

def toJson : ServedFeature → Json
  | parsed feature => feature.toJson
  | unparsed json => json

end ServedFeature

/-- The features of a payload by key. -/
abbrev ServedFeatures := Dictionary ServedFeature

namespace ServedFeatures

def decode : Decoder ServedFeatures := Decoder.dictionary ServedFeature.decode

/-- The features that could be decoded. -/
def features (served : ServedFeatures) : Dictionary Feature :=
  served.filterMap fun (key, feature) => feature.feature?.map (key, ·)

end ServedFeatures

structure Payload where
  features : ServedFeatures
  encryptedFeatures : Option String
  savedGroups : Option SavedGroups
  encryptedSavedGroups : Option String
  dateUpdated : Option Timestamp

/-- What a payload defines. -/
structure Definitions where
  features : Dictionary Feature
  savedGroups : SavedGroups
  dateUpdated : Option Timestamp

/-- Turns a ciphertext into the JSON text it stands for. -/
abbrev Decryptor := String → Except Error String

namespace Payload

def schema : Schema :=
  [fieldNamed "features", fieldNamed "encryptedFeatures", fieldNamed "savedGroups",
    fieldNamed "encryptedSavedGroups", fieldNamed "dateUpdated"]

def decodeTimestamp : Decoder Timestamp
  | .string s => Timestamp.ofText? s.toList
  | _ => none

def decode : Decoder Payload := fun draft => do
  let record ← Record.ofDraft? schema draft
  let features ← record.withDefault "features" ServedFeatures.decode []
  let encryptedFeatures ← record.optional "encryptedFeatures" Decoder.string
  let savedGroups ← record.optional "savedGroups" SavedGroups.decode
  let encryptedSavedGroups ← record.optional "encryptedSavedGroups" Decoder.string
  let dateUpdated ← record.optional "dateUpdated" decodeTimestamp
  some { features, encryptedFeatures, savedGroups, encryptedSavedGroups, dateUpdated }

def toJson (payload : Payload) : Json :=
  Json.ofMembers <|
    [("features", .object (Dictionary.mapValues ServedFeature.toJson payload.features))]
      ++ optionalMember "encryptedFeatures" (payload.encryptedFeatures.map .string)
      ++ optionalMember "savedGroups" (payload.savedGroups.map SavedGroups.toJson)
      ++ optionalMember "encryptedSavedGroups" (payload.encryptedSavedGroups.map .string)
      ++ optionalMember "dateUpdated" (payload.dateUpdated.map fun t => .string t.write)

/-- Decodes JSON text. -/
def decodeBytes {α : Type} (decoder : Decoder α) (bytes : Text.Utf8.Bytes) : Except Error α :=
  match (Draft.ofBytes? bytes).bind decoder with
  | some value => .ok value
  | none => .error .decode

/-- The payload of a JSON text. -/
def ofBytes (bytes : Text.Utf8.Bytes) : Except Error Payload := decodeBytes decode bytes

/-- Decrypts a text and decodes what it stands for. -/
def decrypt {α : Type} (decryptor : Option Decryptor) (decoder : Decoder α) (ciphertext : String) :
    Except Error α :=
  match decryptor with
  | none => .error .missingDecryptor
  | some decryptor =>
    match decryptor ciphertext with
    | .error error => .error error
    | .ok plaintext => decodeBytes decoder (Text.Utf8.encode plaintext.toList)

/-- The features that count: the encrypted ones only if there is no plain one. -/
def effectiveFeatures (payload : Payload) (decryptor : Option Decryptor) :
    Except Error ServedFeatures :=
  match payload.encryptedFeatures with
  | some ciphertext =>
    if payload.features.isEmpty then decrypt decryptor ServedFeatures.decode ciphertext
    else .ok payload.features
  | none => .ok payload.features

/-- The groups that count: the encrypted ones only if there is no plain one. -/
def effectiveGroups (payload : Payload) (decryptor : Option Decryptor) :
    Except Error SavedGroups :=
  let plain := payload.savedGroups.getD []
  match payload.encryptedSavedGroups with
  | some ciphertext =>
    if plain.isEmpty then decrypt decryptor SavedGroups.decode ciphertext else .ok plain
  | none => .ok plain

/-- What the payload defines. Features that could not be decoded are left out. -/
def definitions (payload : Payload) (decryptor : Option Decryptor) : Except Error Definitions :=
  match payload.effectiveFeatures decryptor with
  | .error error => .error error
  | .ok served =>
    match payload.effectiveGroups decryptor with
    | .error error => .error error
    | .ok savedGroups =>
      .ok { features := served.features, savedGroups, dateUpdated := payload.dateUpdated }

end Payload

end FeatureFlags
