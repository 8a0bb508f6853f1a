import FeatureFlags.Proofs.Dictionary.Sorted
import FeatureFlags.Proofs.Text.Digits
import FeatureFlags.Sticky

/-!
# Sticky documents

Two facts about a document of remembered assignments carry everything that is
said about the store.

* `experimentKey_inj`: the key of an entry determines the experiment and its
  bucket version.  The version is the only part without an underscore, so the
  last two underscores of a key are the separator, whatever the experiment is
  called.
* `decode_toJson`: a document with sorted assignments is read back from the tree
  it is written as, and `sorted_of_decode` says that nothing else is ever read.
-/

namespace FeatureFlags.StickyDocument

open Dictionary (Sorted)
open Json (Decoder Draft Record)

/-! ## The keys of entries -/

theorem toList_experimentKey (experiment : String) (version : Nat) :
    (experimentKey experiment version).toList =
      experiment.toList ++ '_' :: '_' :: Text.Digits.write version := by
  simp [experimentKey]

theorem underscore_not_mem_write (n : Nat) : '_' ∉ Text.Digits.write n := fun hmem =>
  absurd (Text.Digits.isDigit_of_mem_write hmem) (by decide)

/-- What follows the separator is shorter than any other way to split the text,
because the separator does not occur in it. -/
theorem eq_nil_of_separated {between : List Char} {m n : Nat}
    (h : '_' :: '_' :: Text.Digits.write m = between ++ '_' :: '_' :: Text.Digits.write n) :
    between = [] := by
  rcases between with _ | ⟨first, _ | ⟨second, rest⟩⟩
  · rfl
  · have hwrite : Text.Digits.write m = '_' :: Text.Digits.write n := by
      simpa using congrArg (List.drop 2) h
    exact absurd (hwrite ▸ List.mem_cons_self ..) (underscore_not_mem_write m)
  · have hwrite : Text.Digits.write m = rest ++ '_' :: '_' :: Text.Digits.write n := by
      simpa using congrArg (List.drop 2) h
    refine absurd ?_ (underscore_not_mem_write m)
    rw [hwrite]
    simp

theorem experimentKey_inj {first second : String} {m n : Nat} :
    experimentKey first m = experimentKey second n ↔ first = second ∧ m = n := by
  constructor
  · intro h
    have hlist := congrArg String.toList h
    rw [toList_experimentKey, toList_experimentKey] at hlist
    have hname : first.toList = second.toList := by
      rcases List.append_eq_append_iff.mp hlist with
        ⟨between, hsecond, hrest⟩ | ⟨between, hfirst, hrest⟩
      · rw [hsecond, eq_nil_of_separated hrest, List.append_nil]
      · rw [hfirst, eq_nil_of_separated hrest, List.append_nil]
    rw [hname] at hlist
    have hdigits := List.append_cancel_left hlist
    exact ⟨String.toList_inj.mp hname, Text.Digits.write_injective (by simpa using hdigits)⟩
  · rintro ⟨rfl, rfl⟩
    rfl

/-- An entry belongs to an experiment exactly if its key is one of the
experiment's keys. -/
theorem versionOf?_eq_some_iff {experiment entry : String} {version : Nat} :
    versionOf? experiment entry = some version ↔ entry = experimentKey experiment version := by
  simp only [versionOf?, Option.filter_eq_some_iff, decide_eq_true_eq]
  constructor
  · rintro ⟨-, hkey⟩
    exact hkey.symm
  · rintro rfl
    refine ⟨?_, rfl⟩
    rw [toList_experimentKey, ← List.drop_drop, List.drop_left]
    exact Text.Digits.read?_write version

/-! ## Reading a document back -/

theorem mapM_string_ofMembers (entries : Dictionary String) :
    (Draft.ofMembers (Dictionary.mapValues Json.string entries)).mapM
      (fun member => (Decoder.string member.2).map (member.1, ·)) = some entries := by
  induction entries with
  | nil => rfl
  | cons entry rest ih =>
      rw [Dictionary.mapValues, List.map_cons, Draft.ofMembers, List.mapM_cons]
      exact congrArg (Option.bind · _) ih

/-- The members of a document in the order in which they are written. -/
theorem toJson_eq (document : StickyDocument) :
    document.toJson = .object
      [("assignments", .object (Dictionary.mapValues .string document.assignments)),
       ("attributeName", .string document.attributeName),
       ("attributeValue", .string document.attributeValue)] := by
  have hname : "attributeName" < "attributeValue" := by decide
  have hassignments : "assignments" < "attributeName" := by decide
  simp [toJson, Json.ofMembers, Dictionary.ofList, Dictionary.insert, hassignments,
    String.lt_asymm hname]

theorem ofDraft?_schema (assignments name value : Draft) :
    Record.ofDraft? schema (.object
      [("assignments", assignments), ("attributeName", name), ("attributeValue", value)]) =
      some [("attributeValue", value), ("attributeName", name), ("assignments", assignments)] := by
  simp [Record.ofDraft?, Json.addMember?, schema, Json.FieldName.answersTo, List.lookup_cons]

theorem decode_toJson {document : StickyDocument} (hsorted : Sorted document.assignments) :
    decode (.ofJson document.toJson) = some document := by
  have hassignments : Decoder.dictionary Decoder.string
      (.object (Draft.ofMembers (Dictionary.mapValues Json.string document.assignments))) =
        some document.assignments := by
    rw [Decoder.dictionary, mapM_string_ofMembers, Option.map_some,
      Dictionary.ofList_of_sorted hsorted]
  rw [toJson_eq]
  simp [decode, Draft.ofJson, Draft.ofMembers, ofDraft?_schema, Record.required,
    Record.withDefault, Decoder.string, List.lookup_cons, hassignments]

theorem sorted_of_dictionary {α : Type} {value : Decoder α} {draft : Draft}
    {entries : Dictionary α} (h : Decoder.dictionary value draft = some entries) :
    Sorted entries := by
  unfold Decoder.dictionary at h
  split at h
  · obtain ⟨members, -, rfl⟩ := Option.map_eq_some_iff.mp h
    exact Dictionary.sorted_ofList members
  · cases h

theorem sorted_of_decode {draft : Draft} {document : StickyDocument}
    (h : decode draft = some document) : Sorted document.assignments := by
  simp only [decode, Option.bind_eq_bind, Option.bind_eq_some_iff] at h
  obtain ⟨record, -, name, -, value, -, assignments, hassignments, heq⟩ := h
  cases heq
  rw [Record.withDefault] at hassignments
  split at hassignments
  · exact sorted_of_dictionary hassignments
  · cases hassignments
    exact Dictionary.sorted_nil

end FeatureFlags.StickyDocument
