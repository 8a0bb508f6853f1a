import FeatureFlags.Payload
import FeatureFlags.Proofs.Json.Decoding
import FeatureFlags.Proofs.Json.Nesting

/-!
# Encrypted payloads

Whether features and groups come encrypted or plain makes no difference to what they
define, nor to how they fail (`encrypted_like_plain`).  A decrypted text is read by
itself, and a plain one inside the text of the payload.  Both give the same draft, since
the text is within the limit on nesting when it stands inside the payload
(`Progress.run_member`).  From this draft the same decoders read the features and the
groups, and they fail with the same error.

Where a payload has features and groups that are not encrypted, the encrypted ones are not
looked at, be there a decryptor or not.
-/

namespace FeatureFlags

open Json (Decoder Draft Nests Record depthLimit writeString)
open Json.Token (endsNumeral_nil)
open Text.Utf8

namespace Payload

/-- What the payload of a text defines. -/
def outcome (text : Bytes) (decryptor : Option Decryptor) : Except Error Definitions :=
  match ofBytes text with
  | .ok payload => payload.definitions decryptor
  | .error error => .error error

/-! ## Plain texts -/

/-- The text of a payload around the texts of its features and of its groups. -/
def plainText (features groups : String) : List Char :=
  '\x7b' :: (writeString "features" ++ ':' :: (features.toList ++
    ',' :: (writeString "savedGroups" ++ ':' :: (groups.toList ++ ['\x7d']))))

section Plain

variable {features groups : String} {served saved : Draft}

/-- **Texts inside the text of a payload are read as they are read alone.** -/
theorem ofBytes?_plainText (hserved : Draft.ofBytes? (encode features.toList) = some served)
    (hsaved : Draft.ofBytes? (encode groups.toList) = some saved)
    (hfeatures : Nests (depthLimit - 1) (encode features.toList))
    (hgroups : Nests (depthLimit - 1) (encode groups.toList)) :
    Draft.ofBytes? (encode (plainText features groups)) =
      some (.object [("features", served), ("savedGroups", saved)]) := by
  obtain ⟨featureTokens, hfeatureTokens, hfeatureRun⟩ := Draft.ofBytes?_eq_some_iff.mp hserved
  obtain ⟨groupTokens, hgroupTokens, hgroupRun⟩ := Draft.ofBytes?_eq_some_iff.mp hsaved
  obtain ⟨tokens, htokens, hfeatureDepth⟩ := hfeatures
  cases hfeatureTokens.symm.trans htokens
  obtain ⟨tokens, htokens, hgroupDepth⟩ := hgroups
  cases hgroupTokens.symm.trans htokens
  refine Draft.ofBytes?_eq_some_iff.mpr ⟨.openObject :: .string (some "features") :: .colon ::
    (featureTokens ++ .comma :: .string (some "savedGroups") :: .colon ::
      (groupTokens ++ [.closeObject])), ?_, ?_⟩
  · -- the text is cut into the tokens, from its end to its front
    have hclose := Json.Token.ofBytes?_mark '\x7d' (fun _ => rfl) (by decide)
      (show Json.Token.ofBytes? [] = some [] from rfl)
    have hgroupMember := Json.Token.ofBytes?_member "savedGroups" hgroupTokens
      (Json.endsNumeral_encode (by decide) rfl [] []) hclose
    have hcomma := Json.Token.ofBytes?_mark ',' (fun _ => rfl) (by decide) hgroupMember
    have hfeatureMember := Json.Token.ofBytes?_member "features" hfeatureTokens
      (Json.endsNumeral_encode (by decide) rfl [] _) hcomma
    have hopen := Json.Token.ofBytes?_mark '\x7b' (fun _ => rfl) (by decide) hfeatureMember
    simpa [plainText, encode_cons, encode_nil, encode_append] using hopen
  · -- the reader puts the drafts of the texts where the members are
    have hroom : ([] : List Json.Frame).length < depthLimit := by decide
    have hfeature := Json.Progress.run_member hfeatureRun (Or.inr rfl) [] [] hfeatureDepth hroom
      "features"
    have hgroup := Json.Progress.run_member hgroupRun (Or.inl rfl) [(some "features", served)] []
      hgroupDepth hroom "savedGroups"
    have hopen : Json.Progress.start.step .openObject =
      some (.reading [.object []] .nameOrEnd) := rfl
    have hcomma (read : List (Option String × Draft)) :
      (Json.Progress.reading [.object read] .separator).step .comma =
        some (.reading [.object read] .name) := rfl
    rw [Json.Progress.run_cons, hopen, Option.bind_some, hfeature, Json.Progress.run_cons, hcomma,
      Option.bind_some, hgroup]
    rfl

/-- A payload of features and groups that are not `null`. -/
theorem decode_plain (hsaved : saved ≠ .null) :
    decode (.object [("features", served), ("savedGroups", saved)]) =
      (ServedFeatures.decode served).bind fun features =>
        (SavedGroups.decode saved).map fun groups => ⟨features, none, some groups, none, none⟩ := by
  have hgroups : Decoder.nullable SavedGroups.decode saved =
      (SavedGroups.decode saved).map some := by
    cases saved with
    | null => exact absurd rfl hsaved
    | _ => rfl
  have hfields : decode (.object [("features", served), ("savedGroups", saved)]) =
      (ServedFeatures.decode served).bind fun features =>
        (Decoder.nullable SavedGroups.decode saved).bind fun groups =>
          some ⟨features, none, groups, none, none⟩ := rfl
  rw [hfields, hgroups]
  cases ServedFeatures.decode served with
  | none => rfl
  | some features => cases SavedGroups.decode saved <;> rfl

theorem outcome_plainText (hserved : Draft.ofBytes? (encode features.toList) = some served)
    (hsaved : Draft.ofBytes? (encode groups.toList) = some saved)
    (hfeatures : Nests (depthLimit - 1) (encode features.toList))
    (hgroups : Nests (depthLimit - 1) (encode groups.toList)) (hnull : saved ≠ .null) :
    outcome (encode (plainText features groups)) none =
      match ServedFeatures.decode served, SavedGroups.decode saved with
      | some features, some groups => .ok ⟨features.features, groups, none⟩
      | _, _ => .error .decode := by
  rw [outcome, ofBytes, decodeBytes, ofBytes?_plainText hserved hsaved hfeatures hgroups,
    Option.bind_some, decode_plain hnull]
  cases ServedFeatures.decode served with
  | none => rfl
  | some features => cases SavedGroups.decode saved <;> rfl

end Plain

/-! ## Encrypted texts -/

/-- A payload whose features and groups are encrypted. -/
def cipherTree (features groups : String) : Json :=
  .object [("encryptedFeatures", .string features), ("encryptedSavedGroups", .string groups)]

theorem ofBytes_cipherTree (features groups : String) :
    ofBytes (cipherTree features groups).bytes =
      .ok ⟨[], some features, none, some groups, none⟩ := by
  have hlegible : (cipherTree features groups).Legible 0 := by
    simp [cipherTree, Json.Legible, Json.LegibleMembers, depthLimit]
  rw [ofBytes, decodeBytes, Json.ofBytes?_bytes hlegible]
  rfl

/-- A decrypted text is decoded like any text, and there is no other way to fail. -/
theorem decrypt_eq {α : Type} {decryptor : Decryptor} {ciphertext plaintext : String}
    {draft : Draft} (hplaintext : decryptor ciphertext = .ok plaintext)
    (hdraft : Draft.ofBytes? (encode plaintext.toList) = some draft) (decoder : Decoder α) :
    decrypt (some decryptor) decoder ciphertext = (decoder draft).elim (.error .decode) .ok := by
  simp only [decrypt, hplaintext, decodeBytes, hdraft, Option.bind_some]
  cases decoder draft <;> rfl

theorem outcome_cipherTree {decryptor : Decryptor} {features groups cipherFeatures : String}
    {cipherGroups : String} {served saved : Draft}
    (hfeatures : decryptor cipherFeatures = .ok features)
    (hgroups : decryptor cipherGroups = .ok groups)
    (hserved : Draft.ofBytes? (encode features.toList) = some served)
    (hsaved : Draft.ofBytes? (encode groups.toList) = some saved) :
    outcome (cipherTree cipherFeatures cipherGroups).bytes (some decryptor) =
      match ServedFeatures.decode served, SavedGroups.decode saved with
      | some features, some groups => .ok ⟨features.features, groups, none⟩
      | _, _ => .error .decode := by
  rw [outcome, ofBytes_cipherTree]
  simp only [definitions, effectiveFeatures, effectiveGroups, List.isEmpty_nil, if_true,
    Option.getD_none, decrypt_eq hfeatures hserved, decrypt_eq hgroups hsaved]
  cases ServedFeatures.decode served with
  | none => rfl
  | some features => cases SavedGroups.decode saved <;> rfl

/-! ## Encrypted fields beside plain ones -/

/-- Plain features and groups count whatever is encrypted beside them. -/
theorem definitions_of_plain {payload : Payload} {groups : SavedGroups}
    (hfeatures : payload.features ≠ []) (hsaved : payload.savedGroups = some groups)
    (hgroups : groups ≠ []) (decryptor : Option Decryptor) :
    payload.definitions decryptor =
      .ok ⟨payload.features.features, groups, payload.dateUpdated⟩ := by
  have hserved : payload.effectiveFeatures decryptor = .ok payload.features := by
    have hempty : payload.features.isEmpty = false := List.isEmpty_eq_false_iff.mpr hfeatures
    rw [effectiveFeatures]
    cases payload.encryptedFeatures with
    | none => rfl
    | some ciphertext => simp only [hempty, Bool.false_eq_true, if_false]
  have hplain : payload.effectiveGroups decryptor = .ok groups := by
    have hempty : groups.isEmpty = false := List.isEmpty_eq_false_iff.mpr hgroups
    rw [effectiveGroups, hsaved, Option.getD_some]
    cases payload.encryptedSavedGroups with
    | none => rfl
    | some ciphertext => simp only [hempty, Bool.false_eq_true, if_false]
  rw [definitions, hserved, hplain]

/-- The members that hold encrypted features and groups. -/
def encryptedMembers (features groups : Option String) : List (String × Draft) :=
  features.toList.map (fun ciphertext => ("encryptedFeatures", .string ciphertext)) ++
    groups.toList.map (fun ciphertext => ("encryptedSavedGroups", .string ciphertext))

theorem recognized_encryptedMembers (features groups : Option String) :
    Record.recognized schema (encryptedMembers features groups) =
      encryptedMembers features groups := by
  cases features <;> cases groups <;> rfl

theorem get?_encryptedMembers (features groups : Option String) (name : String) :
    Dictionary.get? (encryptedMembers features groups) name =
      if name = "encryptedFeatures" then features.map .string
      else if name = "encryptedSavedGroups" then groups.map .string else none := by
  by_cases hfeatures : name = "encryptedFeatures"
  · subst hfeatures
    cases features <;> cases groups <;> rfl
  · by_cases hgroups : name = "encryptedSavedGroups"
    · subst hgroups
      cases features <;> cases groups <;> rfl
    · have hne := Ne.symm hfeatures
      have hne' := Ne.symm hgroups
      cases features <;> cases groups <;>
        simp [encryptedMembers, Dictionary.get?_cons, hfeatures, hgroups, hne, hne']

/-- The fields of a payload have one name each. -/
theorem mem_of_recognized {members : List (String × Draft)} {entry : String × Draft}
    (hentry : entry ∈ Record.recognized schema members) : entry ∈ members := by
  obtain ⟨member, hmember, hfield⟩ := List.mem_filterMap.mp hentry
  obtain ⟨field, hfound, rfl⟩ := Option.map_eq_some_iff.mp hfield
  have hanswers := List.find?_some hfound
  have haliases : ∀ field ∈ schema, field.aliases = [] := by
    simp [schema, fieldNamed]
  have hname : field.main = member.1 := by
    simpa [Json.FieldName.answersTo, haliases field (List.mem_of_find?_eq_some hfound)]
      using hanswers
  rw [hname]
  exact hmember

theorem not_mem_recognized {members : List (String × Draft)} {name : String}
    (hname : name ∉ members.map (·.1)) :
    name ∉ (Record.recognized schema members).map (·.1) := by
  intro hmem
  obtain ⟨entry, hentry, rfl⟩ := List.mem_map.mp hmem
  exact hname (List.mem_map_of_mem (mem_of_recognized hentry))

section EncryptedMembers

variable {members more : List (String × Draft)} {features groups : Option String}
  (hmore : more.Perm (encryptedMembers features groups ++ members))
include hmore

/-- The fields of the larger object are those of the smaller one and the encrypted ones. -/
theorem recognized_perm : (Record.recognized schema more).Perm
    (encryptedMembers features groups ++ Record.recognized schema members) := by
  have hrecognized := hmore.filterMap fun member =>
    (schema.find? (·.answersTo member.1)).map fun field => (field.main, member.2)
  rw [List.filterMap_append] at hrecognized
  change (Record.recognized schema more).Perm
    (Record.recognized schema (encryptedMembers features groups) ++
      Record.recognized schema members) at hrecognized
  rwa [recognized_encryptedMembers] at hrecognized

variable (hnodup : ((Record.recognized schema members).map (·.1)).Nodup)
  (hfeatures : "encryptedFeatures" ∉ members.map (·.1))
  (hgroups : "encryptedSavedGroups" ∉ members.map (·.1))
include hnodup hfeatures hgroups

theorem nodup_recognized : ((Record.recognized schema more).map (·.1)).Nodup := by
  rw [((recognized_perm hmore).map _).nodup_iff, List.map_append]
  have hfeatures := not_mem_recognized hfeatures
  have hgroups := not_mem_recognized hgroups
  cases features <;> cases groups <;>
    simp_all [encryptedMembers]

theorem lookup_recognized (name : String) :
    (Record.recognized schema more).reverse.lookup name =
      (Dictionary.get? (encryptedMembers features groups) name).or
        ((Record.recognized schema members).reverse.lookup name) := by
  have hmoreNodup := nodup_recognized hmore hnodup hfeatures hgroups
  rw [Record.lookup_of_recognized hmoreNodup, Record.lookup_of_recognized hnodup,
    Dictionary.get?_perm hmoreNodup (recognized_perm hmore), Dictionary.get?_append]

/-- An encrypted field has what is there for it. -/
theorem optional_encrypted {name : String} {value : Option String}
    (hname : name ∉ members.map (·.1))
    (hvalue : Dictionary.get? (encryptedMembers features groups) name = value.map .string) :
    Record.optional (Record.recognized schema more).reverse name Decoder.string = some value := by
  have hnothing : (Record.recognized schema members).reverse.lookup name = none := by
    rw [Record.lookup_of_recognized hnodup]
    refine Dictionary.get?_eq_none_of_forall_ne fun entry hentry heq =>
      not_mem_recognized hname ?_
    exact heq ▸ List.mem_map_of_mem hentry
  rw [Record.optional, Record.withDefault, lookup_recognized hmore hnodup hfeatures hgroups,
    hvalue, hnothing]
  cases value <;> rfl

/-- Another field has what it has in the smaller object. -/
theorem lookup_plain {name : String} (hname : name ≠ "encryptedFeatures")
    (hname' : name ≠ "encryptedSavedGroups") :
    (Record.recognized schema more).reverse.lookup name =
      (Record.recognized schema members).reverse.lookup name := by
  rw [lookup_recognized hmore hnodup hfeatures hgroups, get?_encryptedMembers, if_neg hname,
    if_neg hname', Option.none_or]

end EncryptedMembers

/-- **Encrypted members, at whatever place of the object, fill the encrypted fields and change
no other.** -/
theorem decode_of_encryptedMembers {members more : List (String × Draft)} {payload : Payload}
    {features groups : Option String} (hpayload : decode (.object members) = some payload)
    (hfeatures : "encryptedFeatures" ∉ members.map (·.1))
    (hgroups : "encryptedSavedGroups" ∉ members.map (·.1))
    (hmore : more.Perm (encryptedMembers features groups ++ members)) :
    decode (.object more) =
      some { payload with encryptedFeatures := features, encryptedSavedGroups := groups } := by
  simp only [decode, Option.bind_eq_bind, Option.bind_eq_some_iff] at hpayload
  obtain ⟨record, hrecord, served, hserved, _, _, saved, hsaved, _, _, date, hdate, heq⟩ :=
    hpayload
  cases heq
  rw [Record.ofDraft?_object] at hrecord
  split at hrecord
  case isFalse => cases hrecord
  case isTrue hnodup =>
    cases hrecord
    -- the added names are new, so no lookup of another name sees them
    have hmoreNodup := nodup_recognized hmore hnodup hfeatures hgroups
    have hcipherFeatures := optional_encrypted hmore hnodup hfeatures hgroups hfeatures
      (by rw [get?_encryptedMembers, if_pos rfl])
    have hcipherGroups := optional_encrypted hmore hnodup hfeatures hgroups hgroups
      (by rw [get?_encryptedMembers, if_neg (by decide), if_pos rfl])
    have hplain {name : String} := @lookup_plain _ _ _ _ hmore hnodup hfeatures hgroups name
    rw [Record.withDefault, ← hplain (by decide) (by decide)] at hserved
    rw [Record.optional, Record.withDefault, ← hplain (by decide) (by decide)] at hsaved hdate
    simp only [decode, Record.ofDraft?_object, if_pos hmoreNodup, Option.bind_eq_bind,
      Option.bind_some, Record.withDefault, hserved, hcipherFeatures, hcipherGroups]
    simp only [Record.optional, Record.withDefault, hsaved, hdate, Option.bind_some]

/-- A text and another one whose payload has the same members and, anywhere among them, encrypted
features and groups, which the first has not. -/
structure AddsEncrypted (text more : Bytes) where
  members : List (String × Draft)
  others : List (String × Draft)
  features : Option String
  groups : Option String
  text_eq : Draft.ofBytes? text = some (.object members)
  more_eq : Draft.ofBytes? more = some (.object others)
  features_new : "encryptedFeatures" ∉ members.map (·.1)
  groups_new : "encryptedSavedGroups" ∉ members.map (·.1)
  perm : others.Perm (encryptedMembers features groups ++ members)

theorem AddsEncrypted.ofBytes_eq {text more : Bytes} (added : AddsEncrypted text more)
    {payload : Payload} (hpayload : ofBytes text = .ok payload) :
    ofBytes more = .ok { payload with
      encryptedFeatures := added.features, encryptedSavedGroups := added.groups } := by
  rw [ofBytes, decodeBytes, added.text_eq, Option.bind_some] at hpayload
  rw [ofBytes, decodeBytes, added.more_eq, Option.bind_some]
  cases hdecode : decode (.object added.members) with
  | none => simp [hdecode] at hpayload
  | some decoded =>
      have heq : decoded = payload := by simpa [hdecode] using hpayload
      subst heq
      rw [decode_of_encryptedMembers hdecode added.features_new added.groups_new added.perm]

/-! ## Both ways -/

/-- A text with a draft that may stand inside the text of a payload. -/
structure Embeds (text : String) (draft : Draft) : Prop where
  draft_eq : Draft.ofBytes? (encode text.toList) = some draft
  nests : Nests (depthLimit - 1) (encode text.toList)

/-- **Encrypted features and groups are as good as plain ones, and do not count beside them.** -/
theorem encrypted_like_plain :
    (∀ (decryptor : Decryptor) (features groups cipherFeatures cipherGroups : String)
        (served saved : Draft), Embeds features served → Embeds groups saved → saved ≠ .null →
      decryptor cipherFeatures = .ok features → decryptor cipherGroups = .ok groups →
        outcome (cipherTree cipherFeatures cipherGroups).bytes (some decryptor) =
          outcome (encode (plainText features groups)) none ∧
        ∀ error, outcome (encode (plainText features groups)) none = .error error →
          error = .decode) ∧
    (∀ (payload : Payload) (groups : SavedGroups) (cipherFeatures cipherGroups : Option String),
      payload.features ≠ [] → payload.savedGroups = some groups → groups ≠ [] →
        ∀ (decryptor : Option Decryptor),
          { payload with encryptedFeatures := cipherFeatures,
                         encryptedSavedGroups := cipherGroups }.definitions decryptor =
            payload.definitions none) ∧
    (∀ (text : Bytes) (payload : Payload) (groups : SavedGroups),
      ofBytes text = .ok payload → payload.features ≠ [] →
      payload.savedGroups = some groups → groups ≠ [] →
        ∀ (more : Bytes), AddsEncrypted text more → ∀ (decryptor : Option Decryptor),
          outcome more decryptor = outcome text none) := by
  -- features and groups that are there in plain text are never decrypted
  have hbeside (payload : Payload) (groups : SavedGroups) (cipherFeatures : Option String)
      (cipherGroups : Option String) (hfeatures : payload.features ≠ [])
      (hsaved : payload.savedGroups = some groups) (hgroups : groups ≠ [])
      (decryptor : Option Decryptor) :
      { payload with encryptedFeatures := cipherFeatures,
                     encryptedSavedGroups := cipherGroups }.definitions decryptor =
        payload.definitions none := by
    rw [definitions_of_plain hfeatures hsaved hgroups none]
    exact @definitions_of_plain { payload with
      encryptedFeatures := cipherFeatures, encryptedSavedGroups := cipherGroups } groups hfeatures
        hsaved hgroups decryptor
  refine ⟨?_, hbeside, ?_⟩
  · intro decryptor features groups cipherFeatures cipherGroups served saved hfeatures hgroups
      hnull hdecryptFeatures hdecryptGroups
    have hplain := outcome_plainText hfeatures.draft_eq hgroups.draft_eq hfeatures.nests
      hgroups.nests hnull
    have hcipher := outcome_cipherTree hdecryptFeatures hdecryptGroups hfeatures.draft_eq
      hgroups.draft_eq
    refine ⟨hcipher.trans hplain.symm, ?_⟩
    intro error herror
    rw [hplain] at herror
    split at herror <;> cases herror
    rfl
  · intro text payload groups hpayload hfeatures hsaved hgroups more hadded decryptor
    have hmore := hadded.ofBytes_eq hpayload
    simp only [outcome, hpayload, hmore]
    exact hbeside payload groups _ _ hfeatures hsaved hgroups decryptor

/-- One feature. -/
def oneFeature : Json := .object [("dark-mode", .object [("defaultValue", .bool true)])]

/-- One saved group of one value. -/
def oneGroup : Json := .object [("beta", .array [.string "ada"])]

/-- Reads a letter as the feature and anything else as the group. -/
def letterDecryptor : Decryptor := fun ciphertext =>
  if ciphertext = "f" then .ok oneFeature.text else .ok oneGroup.text

/-- The payload of the feature and the group. -/
def onePayload : Json := .object [("features", oneFeature), ("savedGroups", oneGroup)]

/-- The same payload with a ciphertext beside the feature. -/
def onePayloadEncrypted : Json :=
  .object [("encryptedFeatures", .string "?"), ("features", oneFeature), ("savedGroups", oneGroup)]

theorem legible_onePayload : onePayload.Legible 0 := by
  simp [onePayload, oneFeature, oneGroup, Json.Legible, Json.LegibleMembers, Json.LegibleItems,
    depthLimit]

theorem legible_onePayloadEncrypted : onePayloadEncrypted.Legible 0 := by
  simp [onePayloadEncrypted, oneFeature, oneGroup, Json.Legible, Json.LegibleMembers,
    Json.LegibleItems, depthLimit]

def oneAdded : AddsEncrypted onePayload.bytes onePayloadEncrypted.bytes where
  members := [("features", .ofJson oneFeature), ("savedGroups", .ofJson oneGroup)]
  others := [("encryptedFeatures", .string "?"), ("features", .ofJson oneFeature),
    ("savedGroups", .ofJson oneGroup)]
  features := some "?"
  groups := none
  text_eq := Json.ofBytes?_bytes legible_onePayload
  more_eq := Json.ofBytes?_bytes legible_onePayloadEncrypted
  features_new := by decide
  groups_new := by decide
  perm := .refl _

theorem embeds_of_legible {json : Json} (hlegible : json.Legible 0)
    (hnests : Nests (depthLimit - 1) json.bytes) : Embeds json.text (.ofJson json) := by
  have hbytes : encode json.text.toList = json.bytes := by
    rw [Json.text, String.toList_ofList]
    rfl
  rw [← hbytes] at hnests
  refine ⟨?_, hnests⟩
  rw [hbytes]
  exact Json.ofBytes?_bytes hlegible

theorem one_feature_like_encrypted :
    outcome (cipherTree "f" "g").bytes (some letterDecryptor) =
        outcome (encode (plainText oneFeature.text oneGroup.text)) none ∧
      outcome onePayloadEncrypted.bytes none = outcome onePayload.bytes none := by
  have hfeature : Embeds oneFeature.text (.ofJson oneFeature) :=
    embeds_of_legible (by simp [oneFeature, Json.Legible, Json.LegibleMembers, depthLimit])
      (by decide +kernel)
  have hgroup : Embeds oneGroup.text (.ofJson oneGroup) :=
    embeds_of_legible
      (by simp [oneGroup, Json.Legible, Json.LegibleMembers, Json.LegibleItems, depthLimit])
      (by decide +kernel)
  have hpayload : ofBytes onePayload.bytes = .ok
      ⟨[("dark-mode", .parsed ⟨.boolean true, []⟩)], none, some [("beta", ⟨[.string "ada"]⟩)], none,
        none⟩ := by
    rw [ofBytes, decodeBytes, oneAdded.text_eq]
    rfl
  have hnull : Draft.ofJson oneGroup ≠ .null := by
    intro h
    cases h
  exact ⟨(encrypted_like_plain.1 letterDecryptor _ _ "f" "g" _ _ hfeature hgroup hnull rfl rfl).1,
    encrypted_like_plain.2.2 _ _ _ hpayload (List.cons_ne_nil _ _) rfl (List.cons_ne_nil _ _) _
      oneAdded none⟩

end Payload

end FeatureFlags
