import FeatureFlags.Json.Record
import FeatureFlags.Persistence
import FeatureFlags.Text.Digits

/-!
# Sticky assignments

Users keep their variation while the weights of an experiment change: each assignment is remembered
in a document of the identity that was hashed, an attribute together with its value.  A document
maps the key of an experiment and its bucket version to the key of a variation.

Saving a document merges it into the one already stored, later assignments replacing earlier ones
of the same experiment.  A stored document that cannot be read counts as absent.
-/

namespace FeatureFlags

open Json (Decoder Schema Record FieldName)

/-- The assignments of one identity. -/
structure StickyDocument where
  attributeName : String
  attributeValue : String
  assignments : Dictionary String
deriving DecidableEq, Repr

namespace StickyDocument

/-- The key of the document of an identity. -/
def keyOf (attributeName attributeValue : String) : String :=
  attributeName ++ "||" ++ attributeValue

def key (document : StickyDocument) : String :=
  keyOf document.attributeName document.attributeValue

/-- The key of an experiment inside a document. -/
def experimentKey (experiment : String) (bucketVersion : Nat) : String :=
  experiment ++ "__" ++ String.ofList (Text.Digits.write bucketVersion)

/-- The bucket version of an entry that belongs to the given experiment. -/
def versionOf? (experiment entry : String) : Option Nat :=
  let version := Text.Digits.read? (entry.toList.drop (experiment.toList.length + 2))
  version.filter fun n => experimentKey experiment n = entry

def schema : Schema :=
  [⟨"attributeName", []⟩, ⟨"attributeValue", []⟩, ⟨"assignments", []⟩]

def decode : Decoder StickyDocument := fun draft => do
  let record ← Record.ofDraft? schema draft
  let attributeName ← record.required "attributeName" Decoder.string
  let attributeValue ← record.required "attributeValue" Decoder.string
  let assignments ← record.withDefault "assignments" (Decoder.dictionary Decoder.string) []
  some { attributeName, attributeValue, assignments }

def toJson (document : StickyDocument) : Json :=
  Json.ofMembers
    [("attributeName", .string document.attributeName),
     ("attributeValue", .string document.attributeValue),
     ("assignments", .object (Dictionary.mapValues .string document.assignments))]

end StickyDocument

/-- Keeps sticky documents in a store, under keys that begin with a common text. -/
structure StickyService where
  keyPrefix : String := "gbStickyBuckets__"
deriving DecidableEq, Repr

namespace StickyService

def storageKey (service : StickyService) (attributeName attributeValue : String) : String :=
  service.keyPrefix ++ StickyDocument.keyOf attributeName attributeValue

/-- The document under a storage key, if there is one that can be read. -/
def read (store : Persistence) (storageKey : String) : Option StickyDocument :=
  (store.load storageKey).bind fun json => StickyDocument.decode (.ofJson json)

/-- The document of an identity. -/
def get (service : StickyService) (store : Persistence) (attributeName attributeValue : String) :
    Option StickyDocument :=
  read store (service.storageKey attributeName attributeValue)

/-- The stored document with new assignments merged in. -/
def merged (service : StickyService) (store : Persistence) (document : StickyDocument) :
    StickyDocument :=
  let stored := (service.get store document.attributeName document.attributeValue).getD
    ⟨document.attributeName, document.attributeValue, []⟩
  { stored with assignments := Dictionary.extend stored.assignments document.assignments }

/-- Adds the assignments of a document to those stored for its identity. -/
def save (service : StickyService) (store : Persistence) (document : StickyDocument) :
    Except Error Persistence :=
  store.save (service.storageKey document.attributeName document.attributeValue)
    (service.merged store document).toJson

/-- The documents of several identities, by their keys. -/
def getAll (service : StickyService) (store : Persistence) (attributes : Dictionary String) :
    Dictionary StickyDocument :=
  Dictionary.ofList <| attributes.filterMap fun (name, value) =>
    (service.get store name value).map fun document => (document.key, document)

end StickyService

end FeatureFlags
