import FeatureFlags.Proofs.Sticky.Document

/-!
# The entries of a sticky store

A store of sticky documents is a table with two keys: the storage key of a
document and, inside it, the key of an entry.  `Persistence.assignment?` reads the
table; a document that cannot be read has no entries, just as one that is not
there.

`save_cases` is all that saving does: it fails and gives no store, or it sets the
entries of the saved document and leaves every other entry of the table as it
was.  In particular a save never removes an entry, not even when it replaces a
document that cannot be read.
-/

namespace FeatureFlags

/-- The variation key under an entry of a document; none if the document is
missing, cannot be read, or has no such entry. -/
def Persistence.assignment? (store : Persistence) (storageKey entryKey : String) : Option String :=
  (StickyService.read store storageKey).bind fun document =>
    Dictionary.get? document.assignments entryKey

namespace Persistence

theorem load_insert (store : Persistence) (key other : String) (json : Json) :
    load { store with documents := Dictionary.insert key json store.documents } other =
      if key = other then some json else store.load other :=
  Dictionary.get?_insert store.documents key other json

/-- Saving fails, or replaces one document and keeps the store writable. -/
theorem save_cases (store : Persistence) (key : String) (json : Json) :
    (∃ detail, store.saveFailure = some detail ∧
        store.save key json = .error (.persistence detail)) ∨
      (store.saveFailure = none ∧
        ∃ saved, store.save key json = .ok saved ∧ saved.saveFailure = none ∧
          ∀ other, saved.load other = if key = other then some json else store.load other) := by
  unfold save
  cases hfailure : store.saveFailure with
  | some detail => exact Or.inl ⟨detail, rfl, rfl⟩
  | none => exact Or.inr ⟨rfl, _, rfl, rfl, fun other => load_insert store key other json⟩

end Persistence

namespace StickyService

open Dictionary (Sorted)

theorem sorted_of_read {store : Persistence} {storageKey : String} {document : StickyDocument}
    (h : read store storageKey = some document) : Sorted document.assignments := by
  obtain ⟨json, -, hdecode⟩ := Option.bind_eq_some_iff.mp h
  exact StickyDocument.sorted_of_decode hdecode

theorem sorted_merged (service : StickyService) (store : Persistence) (document : StickyDocument) :
    Sorted (service.merged store document).assignments := by
  unfold merged
  refine Sorted.extend ?_ _
  cases hstored : service.get store document.attributeName document.attributeValue with
  | none => exact Dictionary.sorted_nil
  | some stored => exact sorted_of_read hstored

/-- The merged document has the new entries and otherwise those that were stored. -/
theorem get?_merged (service : StickyService) (store : Persistence) {document : StickyDocument}
    (hsorted : Sorted document.assignments) (entryKey : String) :
    Dictionary.get? (service.merged store document).assignments entryKey =
      (Dictionary.get? document.assignments entryKey).or
        (store.assignment? (service.storageKey document.attributeName document.attributeValue)
          entryKey) := by
  unfold merged Persistence.assignment?
  rw [Dictionary.get?_extend _ hsorted]
  congr 1
  change Dictionary.get? ((read store _).getD _).assignments entryKey = _
  cases read store (service.storageKey document.attributeName document.attributeValue) <;> rfl

/-- Everything that saving a document does to the table of entries. -/
theorem save_document_cases (service : StickyService) (store : Persistence)
    {document : StickyDocument} (hsorted : Sorted document.assignments) :
    (store.saveFailure ≠ none ∧ ∃ error, service.save store document = .error error) ∨
      (store.saveFailure = none ∧
        ∃ saved, service.save store document = .ok saved ∧ saved.saveFailure = none ∧
          ∀ storageKey entryKey, saved.assignment? storageKey entryKey =
            if service.storageKey document.attributeName document.attributeValue = storageKey then
              (Dictionary.get? document.assignments entryKey).or
                (store.assignment? storageKey entryKey)
            else store.assignment? storageKey entryKey) := by
  rcases store.save_cases (service.storageKey document.attributeName document.attributeValue)
    (service.merged store document).toJson with
    ⟨detail, hfailure, herror⟩ | ⟨hwritable, saved, hsaved, hstill, hload⟩
  · exact Or.inl ⟨by simp [hfailure], _, herror⟩
  · refine Or.inr ⟨hwritable, saved, hsaved, hstill, fun storageKey entryKey => ?_⟩
    split
    · rename_i hkey
      subst hkey
      -- the document under the storage key is now the merged one
      have hread : read saved (service.storageKey document.attributeName document.attributeValue) =
          some (service.merged store document) := by
        rw [read, hload, if_pos rfl, Option.bind_some]
        exact StickyDocument.decode_toJson (service.sorted_merged store document)
      rw [Persistence.assignment?, hread, Option.bind_some, service.get?_merged store hsorted]
    · rename_i hkey
      rw [Persistence.assignment?, read, hload, if_neg hkey]
      rfl

end StickyService

end FeatureFlags
